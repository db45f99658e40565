import LittleDawn.Model.MessageData
import LittleDawn.Model.Port
import LittleDawn.Model.Terminal

set_option autoImplicit false

namespace LittleDawn

inductive StateMachineState where
  | disconnected
  | waitForPartnerVTStatusMessage
  | sendWorkingSetMasterMessage
  | readyForObjectPool
  | sendGetMemory
  | waitForGetMemoryResponse
  | sendGetNumberSoftkeys
  | waitForGetNumberSoftKeysResponse
  | sendGetTextFontData
  | waitForGetTextFontDataResponse
  | sendGetHardware
  | waitForGetHardwareResponse
  | sendGetVersions
  | waitForGetVersionsResponse
  | sendStoreVersion
  | waitForStoreVersionResponse
  | sendLoadVersion
  | waitForLoadVersionResponse
  | uploadObjectPool
  | sendEndOfObjectPool
  | waitForEndOfObjectPoolResponse
  | connected
  | failed
  deriving DecidableEq, Repr

inductive UploadState where
  | uninitialized
  | inProgress
  | success
  | failed
  deriving DecidableEq, Repr

structure ObjectPool where
  -- What is behind the data pointer or comes from the callback, if one of them is there.
  objectPoolData : Option (List UInt8)
  objectPoolSize : UInt32
  complete : ∀ data ∈ objectPoolData, objectPoolSize.toNat ≤ data.length
  versionLabel : List UInt8
  uploaded : Bool
  deriving DecidableEq, Repr

def ObjectPool.hasData (pool : ObjectPool) : Bool :=
  pool.objectPoolData.isSome

-- Every command of the client fills a CAN frame at least.
structure Command where
  bytes : List UInt8
  full : 8 ≤ bytes.length

inductive VtMessage where
  | workingSetMaster
  | message (data : List UInt8)
  | command (data : Command)
  | objectPool (dataLength : UInt32)

abbrev VtPort := Port VtMessage

structure VtClient where
  state : StateMachineState
  stateMachineTimestamp : UInt32
  lastVTStatusTimestamp : UInt32
  lastWorkingSetMaintenanceTimestamp : UInt32
  sendWorkingSetMaintenance : Bool
  maintenanceFlag : Bool
  connectedVTVersion : UInt8
  objectPools : List ObjectPool
  currentObjectPoolState : UploadState
  unsupportedFunctions : List UInt8
  commandQueue : List Command
  commandAwaitingResponse : Bool
  lastCommandTimestamp : UInt32

def VtClient.boot (objectPools : List ObjectPool) : VtClient :=
  { state := .disconnected, stateMachineTimestamp := 0, lastVTStatusTimestamp := 0,
    lastWorkingSetMaintenanceTimestamp := 0, sendWorkingSetMaintenance := false,
    maintenanceFlag := false, connectedVTVersion := 0, objectPools,
    currentObjectPoolState := .uninitialized, unsupportedFunctions := [], commandQueue := [],
    commandAwaitingResponse := false, lastCommandTimestamp := 0 }

def VtClient.getIsConnected (client : VtClient) : Bool :=
  client.state = .connected

def VtClient.setState (client : VtClient) (now : UInt32) (value : StateMachineState) : VtClient :=
  let client := { client with stateMachineTimestamp := now, state := value }
  if value = .disconnected then
    { client with
      lastVTStatusTimestamp := 0
      objectPools := client.objectPools.map fun pool => { pool with uploaded := false } }
  else client

def changeNumericValueCommand : UInt8 := 0xA8
def changeActiveMaskCommand : UInt8 := 0xAD

def Command.byte (command : Command) (index : Nat) : UInt8 :=
  command.bytes.getD index 0

def Command.function (command : Command) : UInt8 :=
  command.byte 0

-- The bytes that `are_commands_similar` compares besides the function code.
def comparedBytes (function : UInt8) : List Nat :=
  if function ∈ [0xA0, 0xA1, 0xA6, 0xA7, 0xA8, 0xB3, 0xA9, 0xAA, 0xAB, 0xAC, 0xAD, 0xB0, 0xB7] then
    [1, 2]
  else if function ∈ [0xA5, 0xB4] then [1, 2, 3, 4]
  else if function ∈ [0xAE, 0xAF, 0xB1, 0xBD, 0xB6, 0xB8, 0xB9] then [1, 2, 3]
  else if function = 0xBE then [1]
  else []

def areCommandsSimilar (first second : Command) : Bool :=
  if first.bytes.length ≠ second.bytes.length then false
  else if first.function ≠ second.function then false
  else (comparedBytes first.function).all fun index => first.byte index = second.byte index

def sendChangeNumericValue (objectID : UInt16) (value : UInt32) : Command :=
  { bytes := [changeNumericValueCommand, objectID.toUInt8, (objectID >>> 8).toUInt8, 0xFF,
      byteOf value 0, byteOf value 1, byteOf value 2, byteOf value 3]
    full := le_refl 8 }

def sendChangeActiveMask (workingSetObjectID newActiveMaskObjectID : UInt16) : Command :=
  { bytes := [changeActiveMaskCommand, workingSetObjectID.toUInt8,
      (workingSetObjectID >>> 8).toUInt8, newActiveMaskObjectID.toUInt8,
      (newActiveMaskObjectID >>> 8).toUInt8, 0xFF, 0xFF, 0xFF]
    full := le_refl 8 }

def VtCommand.command : VtCommand → Command
  | changeActiveMask workingSet mask => sendChangeActiveMask workingSet mask
  | changeNumericValue object value => sendChangeNumericValue object value

abbrev commandTimeoutMs : UInt32 := 1500

def VtClient.sendCommand (client : VtClient) (port : VtPort) (data : Command) :
    Bool × VtClient × VtPort :=
  if client.commandAwaitingResponse ∧
      ¬ port.timeExpired client.lastCommandTimestamp commandTimeoutMs then
    (false, client, port)
  else
    let client := { client with commandAwaitingResponse := false }
    if client.getIsConnected then
      match port.transmit (.command data) with
      | (true, port) =>
        (true, { client with commandAwaitingResponse := true, lastCommandTimestamp := port.now },
          port)
      | (false, port) => (false, client, port)
    else (false, client, port)

def replaceCommand (data : Command) : Bool → List Command → List Command × Bool
  | alreadyReplaced, [] => ([], alreadyReplaced)
  | alreadyReplaced, head :: rest =>
    if areCommandsSimilar head data then
      if alreadyReplaced then replaceCommand data true rest
      else
        let (rest, replaced) := replaceCommand data true rest
        (data :: rest, replaced)
    else
      let (rest, replaced) := replaceCommand data alreadyReplaced rest
      (head :: rest, replaced)

def VtClient.queueCommand (client : VtClient) (port : VtPort) (data : Command) (replace : Bool) :
    Bool × VtClient × VtPort :=
  if data.function ∈ client.unsupportedFunctions then (false, client, port)
  else
    let (sent, client, port) :=
      if client.getIsConnected then client.sendCommand port data else (false, client, port)
    if sent then (true, client, port)
    else
      let (queue, replaced) := replaceCommand data false client.commandQueue
      if replace ∧ replaced then (true, { client with commandQueue := queue }, port)
      else (true, { client with commandQueue := client.commandQueue ++ [data] }, port)

-- The loop of `process_command_queue`, with the commands that stay in the queue.
def VtClient.sendQueued : List Command → VtClient → VtPort → List Command × VtClient × VtPort
  | [], client, port => ([], client, port)
  | data :: rest, client, port =>
    let (sent, client, port) := client.sendCommand port data
    let (left, client, port) := sendQueued rest client port
    (if sent then left else data :: left, client, port)

def VtClient.processCommandQueue (client : VtClient) (port : VtPort) : VtClient × VtPort :=
  if client.getIsConnected then
    let (left, client, port) := VtClient.sendQueued client.commandQueue client port
    ({ client with commandQueue := left }, port)
  else (client, port)

abbrev vtStatusTimeoutMs : UInt32 := 3000
abbrev workingSetMaintenanceTimeoutMs : UInt32 := 1000
abbrev vtStateMachineRetryTimeoutMs : UInt32 := 5000

def vtMessage (function : UInt8) (data : List UInt8) : VtMessage :=
  .message ((function :: data ++ List.replicate 7 0xFF).take 8)

def workingSetMaintenance (initializing : Bool) : VtMessage :=
  vtMessage 0xFF [if initializing then 1 else 0, 6]

def getMemory (requiredMemory : UInt32) : VtMessage :=
  vtMessage 0xC0 [0xFF, byteOf requiredMemory 0, byteOf requiredMemory 1, byteOf requiredMemory 2,
    byteOf requiredMemory 3]

def getNumberOfSoftkeys : VtMessage := vtMessage 0xC2 []
def getTextFontData : VtMessage := vtMessage 0xC3 []
def getHardware : VtMessage := vtMessage 0xC7 []
def getVersions : VtMessage := vtMessage 0xDF []
def storeVersion (label : List UInt8) : VtMessage := vtMessage 0xD0 label
def loadVersion (label : List UInt8) : VtMessage := vtMessage 0xD1 label
def deleteVersion (label : List UInt8) : VtMessage := vtMessage 0xD2 label
def endOfObjectPool : VtMessage := vtMessage 0x12 []

def versionBuffer (label : List UInt8) : List UInt8 :=
  (label ++ List.replicate 7 0x20).take 7

def VtClient.firstLabel (client : VtClient) : List UInt8 :=
  (client.objectPools.head?.map ObjectPool.versionLabel).getD []

def VtClient.sendThen (client : VtClient) (port : VtPort) (message : VtMessage)
    (next : StateMachineState) : VtClient × VtPort :=
  match port.transmit message with
  | (true, port) => (client.setState port.now next, port)
  | (false, port) => (client, port)

def VtClient.failAfter (client : VtClient) (port : VtPort) : VtClient × VtPort :=
  if port.timeExpired client.stateMachineTimestamp vtStatusTimeoutMs then
    (client.setState port.now .failed, port)
  else (client, port)

def VtClient.failOrSend (client : VtClient) (port : VtPort) (message : VtMessage)
    (next : StateMachineState) : VtClient × VtPort :=
  if port.timeExpired client.stateMachineTimestamp vtStatusTimeoutMs then
    (client.setState port.now .failed, port)
  else client.sendThen port message next

-- The loop of `UploadObjectPool` from the given pools on, with `allPoolsProcessed`.
def VtClient.uploadPools : List Nat → Bool → VtClient → VtPort → Bool × VtClient × VtPort
  | [], allPoolsProcessed, client, port => (allPoolsProcessed, client, port)
  | index :: rest, allPoolsProcessed, client, port =>
    match client.objectPools[index]? with
    | none => (allPoolsProcessed, client, port)
    | some pool =>
      let uploaded := client.objectPools.set index { pool with uploaded := true }
      if pool.hasData ∧ 0 < pool.objectPoolSize then
        let allPoolsProcessed := allPoolsProcessed && pool.uploaded
        match client.currentObjectPoolState with
        | .uninitialized =>
          if pool.uploaded then uploadPools rest allPoolsProcessed client port
          else
            match port.transmit (.objectPool (pool.objectPoolSize + 1)) with
            | (true, port) =>
              uploadPools rest allPoolsProcessed
                { client with currentObjectPoolState := .inProgress } port
            | (false, port) => uploadPools rest allPoolsProcessed client port
        | .success =>
          if pool.uploaded then uploadPools rest allPoolsProcessed client port
          else
            uploadPools rest allPoolsProcessed
              { client with objectPools := uploaded, currentObjectPoolState := .uninitialized } port
        | .failed =>
          let client := { client with currentObjectPoolState := .uninitialized }
          uploadPools rest allPoolsProcessed (client.setState port.now .disconnected) port
        -- The transfer is in progress, and the loop ends here.
        | .inProgress => (false, client, port)
      else uploadPools rest allPoolsProcessed { client with objectPools := uploaded } port

def VtClient.updateState (client : VtClient) (port : VtPort) (partnerAddressValid : Bool) :
    VtClient × VtPort :=
  match client.state with
  | .disconnected =>
    let client := { client with sendWorkingSetMaintenance := false, unsupportedFunctions := [] }
    if partnerAddressValid then
      (client.setState port.now .waitForPartnerVTStatusMessage, port)
    else (client, port)
  | .waitForPartnerVTStatusMessage =>
    if client.lastVTStatusTimestamp ≠ 0 then
      (client.setState port.now .sendWorkingSetMasterMessage, port)
    else (client, port)
  | .sendWorkingSetMasterMessage => client.sendThen port .workingSetMaster .readyForObjectPool
  | .readyForObjectPool =>
    -- The state `disconnected` does not last if there is a pool.
    let client :=
      if port.timeExpired client.lastVTStatusTimestamp vtStatusTimeoutMs then
        client.setState port.now .disconnected
      else client
    if client.objectPools.isEmpty then (client, port)
    else
      let client := client.setState port.now .sendGetMemory
      let (_, port) := port.transmit (workingSetMaintenance true)
      ({ client with
        lastWorkingSetMaintenanceTimestamp := port.now, sendWorkingSetMaintenance := true }, port)
  | .sendGetMemory =>
    client.sendThen port (getMemory (client.objectPools.map ObjectPool.objectPoolSize).sum)
      .waitForGetMemoryResponse
  | .waitForGetMemoryResponse => client.failAfter port
  | .sendGetNumberSoftkeys =>
    client.sendThen port getNumberOfSoftkeys .waitForGetNumberSoftKeysResponse
  | .waitForGetNumberSoftKeysResponse => client.failAfter port
  | .sendGetTextFontData => client.sendThen port getTextFontData .waitForGetTextFontDataResponse
  | .waitForGetTextFontDataResponse => client.failAfter port
  | .sendGetHardware => client.sendThen port getHardware .waitForGetHardwareResponse
  | .waitForGetHardwareResponse => client.failAfter port
  | .sendGetVersions =>
    if port.timeExpired client.stateMachineTimestamp vtStatusTimeoutMs then
      (client.setState port.now .failed, port)
    else if client.firstLabel.isEmpty then (client, port)
    else client.sendThen port getVersions .waitForGetVersionsResponse
  | .waitForGetVersionsResponse => client.failAfter port
  | .sendLoadVersion =>
    client.failOrSend port (loadVersion (versionBuffer client.firstLabel))
      .waitForLoadVersionResponse
  | .waitForLoadVersionResponse => client.failAfter port
  | .sendStoreVersion =>
    client.failOrSend port (storeVersion (versionBuffer client.firstLabel))
      .waitForStoreVersionResponse
  | .waitForStoreVersionResponse => client.failAfter port
  | .uploadObjectPool =>
    let (allPoolsProcessed, client, port) :=
      VtClient.uploadPools (List.range client.objectPools.length) true client port
    if allPoolsProcessed then (client.setState port.now .sendEndOfObjectPool, port)
    else (client, port)
  | .sendEndOfObjectPool => client.sendThen port endOfObjectPool .waitForEndOfObjectPoolResponse
  | .waitForEndOfObjectPoolResponse => client.failAfter port
  | .connected =>
    if port.timeExpired client.lastVTStatusTimestamp vtStatusTimeoutMs then
      (client.setState port.now .disconnected, port)
    else (client, port)
  | .failed =>
    let client := { client with sendWorkingSetMaintenance := false }
    if port.timeExpired client.stateMachineTimestamp vtStateMachineRetryTimeoutMs then
      (client.setState port.now .disconnected, port)
    else (client, port)

def VtClient.updateMaintenance (client : VtClient) (port : VtPort) : VtClient × VtPort :=
  let flag := client.maintenanceFlag || (client.sendWorkingSetMaintenance &&
    port.timeExpired client.lastWorkingSetMaintenanceTimestamp workingSetMaintenanceTimeoutMs)
  if flag then
    if client.objectPools.isEmpty then ({ client with maintenanceFlag := true }, port)
    else
      match port.transmit (workingSetMaintenance false) with
      | (true, port) =>
        ({ client with maintenanceFlag := false, lastWorkingSetMaintenanceTimestamp := port.now },
          port)
      | (false, port) => ({ client with maintenanceFlag := true }, port)
  else (client, port)

def VtClient.update (client : VtClient) (port : VtPort) (partnerAddressValid : Bool) :
    VtClient × VtPort :=
  let (client, port) := client.updateState port partnerAddressValid
  let (client, port) := client.updateMaintenance port
  client.processCommandQueue port

def VtClient.processCallback (client : VtClient) (successful : Bool) : VtClient :=
  if client.state = .uploadObjectPool then
    { client with currentObjectPoolState := if successful then .success else .failed }
  else client

def objectPoolTransferMessage : UInt8 := 0x11

def VtClient.processInternalObjectPoolUploadCallback (client : VtClient)
    (bytesOffset numberOfBytesNeeded : UInt32) : Option (List UInt8) :=
  if numberOfBytesNeeded = 0 then none
  else
    match client.objectPools.find? fun pool => !pool.uploaded with
    | none => none
    | some pool =>
      let data := pool.objectPoolData.getD []
      if pool.objectPoolSize + 1 < bytesOffset + numberOfBytesNeeded then none
      else if bytesOffset = 0 then
        some (objectPoolTransferMessage :: data.take (numberOfBytesNeeded - 1).toNat)
      else some ((data.drop (bytesOffset - 1).toNat).take numberOfBytesNeeded.toNat)

def VtClient.dataChunkCallback (client : VtClient) : DataChunkCallback :=
  fun bytesOffset numberOfBytesNeeded => client.processInternalObjectPoolUploadCallback
    (UInt32.ofNat bytesOffset) (UInt32.ofNat numberOfBytesNeeded)

inductive KeyActivationCode where
  | buttonUnlatchedOrReleased
  | buttonPressedOrLatched
  | buttonStillHeld
  | buttonPressAborted
  deriving DecidableEq, Repr

def KeyActivationCode.ofByte (code : UInt8) : Option KeyActivationCode :=
  if code = 0 then some .buttonUnlatchedOrReleased
  else if code = 1 then some .buttonPressedOrLatched
  else if code = 2 then some .buttonStillHeld
  else if code = 3 then some .buttonPressAborted
  else none

structure VTKeyEvent where
  objectID : UInt16
  parentObjectID : UInt16
  keyNumber : UInt8
  keyEvent : KeyActivationCode
  deriving DecidableEq, Repr

structure KeyListeners where
  softKey : VTKeyEvent → List Command
  button : VTKeyEvent → List Command

inductive RxGroup where
  | acknowledge
  | virtualTerminalToECU
  deriving DecidableEq, Repr

structure RxMessage where
  group : RxGroup
  data : List UInt8
  broadcast : Bool
  toUs : Bool
  fromPartner : Bool
  deriving DecidableEq, Repr

def RxMessage.byte (message : RxMessage) (index : Nat) : UInt8 :=
  message.data.getD index 0

def RxMessage.Addressed (message : RxMessage) : Prop :=
  8 ≤ message.data.length ∧ (message.broadcast ∨ message.toUs)

instance (message : RxMessage) : Decidable message.Addressed :=
  inferInstanceAs (Decidable (_ ∧ _))

def RxMessage.keyEvent (message : RxMessage) : Option VTKeyEvent :=
  (KeyActivationCode.ofByte (message.byte 1)).map fun keyEvent =>
    { objectID := uint16At message.data 2, parentObjectID := uint16At message.data 4,
      keyNumber := message.byte 6, keyEvent }

def ecuToVirtualTerminal : UInt32 := 0xE700

def commandResponses : List UInt8 :=
  [0xA0, 0xA1, 0xA2, 0x92, 0xA3, 0xA4, 0xA5, 0xB4, 0xA6, 0xA7, 0xA8, 0xB3, 0xA9, 0xAA, 0xAB, 0xAC,
    0xAD, 0xAE, 0xAF, 0xB0, 0xB1, 0xB2, 0xBD, 0xBE, 0xB5, 0xB6, 0xB7, 0xB8, 0xB9, 0xBA, 0xBC, 0x90]

-- The codes that are understood, but are not part of this model.
def reportedFunctions : List UInt8 :=
  [0x02, 0x03, 0x04, 0x05, 0x06, 0x07, 0x08, 0x09, 0x0A, 0x22, 0x24, 0x26, 0x25, 0xD2]

def VtClient.reply (client : VtClient) (port : VtPort) (message : VtMessage) : VtClient × VtPort :=
  (client, (port.transmit message).2)

def VtClient.queueCommands (client : VtClient) (port : VtPort) : List Command → VtClient × VtPort
  | [] => (client, port)
  | command :: commands =>
    let (_, client, port) := client.queueCommand port command true
    client.queueCommands port commands

-- A soft key or button activation: the listener runs before the response is sent.
def VtClient.processKey (client : VtClient) (port : VtPort) (listener : VTKeyEvent → List Command)
    (message : RxMessage) : VtClient × VtPort :=
  match message.keyEvent with
  | none => (client, port)
  | some event =>
    let (client, port) := client.queueCommands port (listener event)
    let last := if client.connectedVTVersion = 6 then message.byte 7 ||| 0x0F else 0xFF
    client.reply port (.message (message.data.take 7 ++ [last]))

def VtClient.matchLabels (client : VtClient) (port : VtPort) (data : List UInt8) :
    List Nat → VtClient × VtPort
  | [] => (client.setState port.now .uploadObjectPool, port)
  | index :: rest =>
    let labelDecoded := ((data.drop (2 + 7 * index)).take 7).takeWhile (· ≠ 0)
    if versionBuffer client.firstLabel = labelDecoded then
      (client.setState port.now .sendLoadVersion, port)
    else
      let (_, port) := port.transmit (deleteVersion ((labelDecoded ++ List.replicate 7 0).take 7))
      client.matchLabels port data rest

def VtClient.processGetVersions (client : VtClient) (port : VtPort) (message : RxMessage) :
    VtClient × VtPort :=
  let numberOfLabels := (message.byte 1).toNat
  if numberOfLabels = 0 then (client.setState port.now .uploadObjectPool, port)
  else if 2 + 7 * numberOfLabels ≤ message.data.length then
    client.matchLabels port message.data (List.range numberOfLabels)
  else (client, port)

def VtClient.processResponse (client : VtClient) (port : VtPort) (message : RxMessage) :
    VtClient × VtPort :=
  let function := message.byte 0
  if function = 0xFE then ({ client with lastVTStatusTimestamp := port.now }, port)
  else if function = 0xC0 then
    if client.state = .waitForGetMemoryResponse then
      let client := { client with connectedVTVersion := message.byte 1 }
      if message.byte 2 = 0 then (client.setState port.now .sendGetNumberSoftkeys, port)
      else (client.setState port.now .failed, port)
    else (client, port)
  else if function = 0xC2 then
    if client.state = .waitForGetNumberSoftKeysResponse then
      (client.setState port.now .sendGetTextFontData, port)
    else (client, port)
  else if function = 0xC3 then
    if client.state = .waitForGetTextFontDataResponse then
      (client.setState port.now .sendGetHardware, port)
    else (client, port)
  else if function = 0xC7 then
    if client.state = .waitForGetHardwareResponse then
      if client.firstLabel.isEmpty then (client.setState port.now .uploadObjectPool, port)
      else (client.setState port.now .sendGetVersions, port)
    else (client, port)
  else if function = 0xE0 then
    if client.state = .waitForGetVersionsResponse then client.processGetVersions port message
    else (client, port)
  else if function = 0xD1 then
    if client.state = .waitForLoadVersionResponse then
      if message.byte 5 = 0 then (client.setState port.now .connected, port)
      else (client.setState port.now .uploadObjectPool, port)
    else (client, port)
  else if function = 0xD0 then
    -- An error leaves the client waiting, up to its timeout.
    if client.state = .waitForStoreVersionResponse ∧ message.byte 5 = 0 then
      (client.setState port.now .connected, port)
    else (client, port)
  else if function = 0x12 then
    if client.state = .waitForEndOfObjectPoolResponse then
      if message.byte 1 = 0 ∧ message.byte 6 = 0 then
        if client.firstLabel.isEmpty then (client.setState port.now .connected, port)
        else (client.setState port.now .sendStoreVersion, port)
      else (client.setState port.now .failed, port)
    else (client, port)
  else if function = 0xFD then
    if message.byte 1 ∈ client.unsupportedFunctions then (client, port)
    else
      ({ client with unsupportedFunctions := client.unsupportedFunctions ++ [message.byte 1] },
        port)
  else if function ∈ reportedFunctions then (client, port)
  else client.reply port (vtMessage 0xFD [function])

def VtClient.processAcknowledge (client : VtClient) (port : VtPort) (message : RxMessage) :
    VtClient × VtPort :=
  if message.byte 0 = 1 ∧ uint24At message.data 5 = ecuToVirtualTerminal then
    (client.setState port.now .disconnected, port)
  else (client, port)

def VtClient.processCommandResponse (client : VtClient) (port : VtPort) (message : RxMessage) :
    VtClient × VtPort :=
  if message.toUs ∧ message.fromPartner then
    { client with commandAwaitingResponse := false }.processCommandQueue port
  else (client, port)

def VtClient.processRxMessage (client : VtClient) (port : VtPort) (listeners : KeyListeners)
    (message : RxMessage) : VtClient × VtPort :=
  if message.Addressed then
    match message.group with
    | .acknowledge => client.processAcknowledge port message
    | .virtualTerminalToECU =>
      if message.byte 0 = 0x00 then client.processKey port listeners.softKey message
      else if message.byte 0 = 0x01 then client.processKey port listeners.button message
      else if message.byte 0 ∈ commandResponses then client.processCommandResponse port message
      else client.processResponse port message
  else (client, port)

end LittleDawn
