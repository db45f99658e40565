import LittleDawn.Model.Identifier
import LittleDawn.Model.Port

set_option autoImplicit false

namespace LittleDawn.ExtendedTransport

inductive StateMachineState where
  | none
  | sendRequestToSend
  | waitForClearToSend
  | sendClearToSend
  | waitForDataPacketOffset
  | sendDataPacketOffset
  | waitForDataTransferPacket
  | sendDataTransferPackets
  | waitForEndOfMessageAcknowledge
  deriving DecidableEq, Repr

inductive ConnectionAbortReason where
  | alreadyInCMSession
  | timeout
  | clearToSendReceivedWhileTransferInProgress
  | unexpectedDataTransferPacketReceived
  | badSequenceNumber
  | duplicateSequenceNumber
  | unexpectedDataPacketOffsetReceived
  | unexpectedDataPacketOffsetPGN
  | dataPacketOffsetExceedsClearToSend
  | badDataPacketOffset
  | numberOfClearToSendPacketsExceedsMessage
  deriving DecidableEq, Repr

def ConnectionAbortReason.code : ConnectionAbortReason → UInt8
  | alreadyInCMSession => 1
  | timeout => 3
  | clearToSendReceivedWhileTransferInProgress => 4
  | unexpectedDataTransferPacketReceived => 6
  | badSequenceNumber => 7
  | duplicateSequenceNumber => 8
  | unexpectedDataPacketOffsetReceived => 9
  | unexpectedDataPacketOffsetPGN => 10
  | dataPacketOffsetExceedsClearToSend => 11
  | badDataPacketOffset => 12
  | numberOfClearToSendPacketsExceedsMessage => 15

structure Configuration where
  maxNumberTransportProtocolSessions : Nat
  numberOfPacketsPerDPOMessage : UInt8
  networkManagerMaxFramesToSendPerUpdate : UInt8
  deriving DecidableEq, Repr

def Configuration.default : Configuration :=
  { maxNumberTransportProtocolSessions := 4
    numberOfPacketsPerDPOMessage := 16
    networkManagerMaxFramesToSendPerUpdate := 0xFF }

inductive Group where
  | connectionManagement
  | dataTransfer
  deriving DecidableEq, Repr

structure Frame (κ : Type) where
  source : κ
  destination : κ
  group : Group
  data : List UInt8
  deriving DecidableEq, Repr

inductive Direction where
  | transmit
  | receive
  deriving DecidableEq, Repr

structure Session (κ : Type) where
  direction : Direction
  parameterGroupNumber : UInt32
  data : List UInt8
  totalMessageSize : UInt32
  source : κ
  destination : κ
  notifies : Bool
  timestamp : UInt32
  state : StateMachineState
  lastAcknowledgedPacketNumber : UInt32
  sequenceNumberOffset : UInt32
  lastSequenceNumber : UInt8
  dataPacketOffsetPacketCount : UInt8
  clearToSendPacketCountLimit : UInt8
  deriving DecidableEq, Repr

structure Delivery (κ : Type) where
  source : κ
  destination : κ
  parameterGroupNumber : UInt32
  data : List UInt8
  deriving DecidableEq, Repr

structure Completion (κ : Type) where
  source : κ
  destination : κ
  parameterGroupNumber : UInt32
  successful : Bool
  deriving DecidableEq, Repr

structure Effects (κ : Type) where
  port : Port (Frame κ)
  delivered : List (Delivery κ)
  completed : List (Completion κ)

variable {κ : Type}

abbrev protocolBytesPerFrame : UInt32 := 7
abbrev maxProtocolDataLength : Nat := 117440505
abbrev t1TimeoutMs : UInt32 := 750
abbrev t2T3TimeoutMs : UInt32 := 1250

def requestToSendMultiplexor : UInt8 := 0x14
def clearToSendMultiplexor : UInt8 := 0x15
def dataPacketOffsetMultiplexor : UInt8 := 0x16
def endOfMessageAcknowledgeMultiplexor : UInt8 := 0x17
def connectionAbortMultiplexor : UInt8 := 0xFF

def Session.create (direction : Direction) (data : List UInt8)
    (parameterGroupNumber totalMessageSize : UInt32) (source destination : κ) (notifies : Bool) :
    Session κ :=
  { direction, parameterGroupNumber, data, totalMessageSize, source, destination, notifies,
    timestamp := 0, state := .none, lastAcknowledgedPacketNumber := 0, sequenceNumberOffset := 0,
    lastSequenceNumber := 0, dataPacketOffsetPacketCount := 0, clearToSendPacketCountLimit := 0xFF }

def Session.setState (session : Session κ) (now : UInt32) (state : StateMachineState) :
    Session κ :=
  { session with state, timestamp := now }

def Session.getLastPacketNumber (session : Session κ) : UInt32 :=
  session.lastSequenceNumber.toUInt32 + session.sequenceNumberOffset

def Session.getDpoNumberOfPacketsRemaining (session : Session κ) : UInt8 :=
  session.dataPacketOffsetPacketCount -
    (session.getLastPacketNumber - session.lastAcknowledgedPacketNumber).toUInt8

def Session.getTotalNumberOfPackets (session : Session κ) : UInt32 :=
  session.totalMessageSize / protocolBytesPerFrame +
    if 0 < session.totalMessageSize % protocolBytesPerFrame then 1 else 0

def Session.getNumberOfRemainingPackets (session : Session κ) : UInt32 :=
  session.getTotalNumberOfPackets - session.getLastPacketNumber

def Session.getTimeSinceLastUpdate (session : Session κ) (now : UInt32) : UInt32 :=
  now - session.timestamp

section Sessions

variable [DecidableEq κ]

def Session.matches (session : Session κ) (source destination : κ) : Bool :=
  session.source = source ∧ session.destination = destination

def getSession (sessions : List (Session κ)) (source destination : κ) : Option (Session κ) :=
  sessions.find? fun session => session.matches source destination

def hasSession (sessions : List (Session κ)) (source destination : κ) : Bool :=
  sessions.any fun session => session.matches source destination

-- The session that `getSession` finds is changed, or erased.
def putSession (source destination : κ) (changed : Option (Session κ)) :
    List (Session κ) → List (Session κ)
  | [] => []
  | session :: rest =>
    if session.matches source destination then changed.toList ++ rest
    else session :: putSession source destination changed rest

end Sessions

def connectionManagement (source destination : κ) (multiplexor : UInt8) (bytes : List UInt8)
    (parameterGroupNumber : UInt32) : Frame κ :=
  { source, destination, group := .connectionManagement
    data := multiplexor :: bytes ++ [byteOf parameterGroupNumber 0, byteOf parameterGroupNumber 1,
      byteOf parameterGroupNumber 2] }

def Effects.send (effects : Effects κ) (frame : Frame κ) : Bool × Effects κ :=
  let (sent, port) := effects.port.transmit frame
  (sent, { effects with port })

def sendAbort (effects : Effects κ) (sender receiver : κ) (parameterGroupNumber : UInt32)
    (reason : ConnectionAbortReason) : Effects κ :=
  (effects.send (connectionManagement sender receiver connectionAbortMultiplexor
    [reason.code, 0xFF, 0xFF, 0xFF] parameterGroupNumber)).2

-- `close_session`: the end of the session; the caller erases it.
def closeSession (effects : Effects κ) (session : Session κ) (successful : Bool) : Effects κ :=
  if session.notifies ∧ session.direction = .transmit then
    { effects with
      completed := effects.completed ++
        [{ source := session.source, destination := session.destination,
           parameterGroupNumber := session.parameterGroupNumber, successful }] }
  else effects

def abortSession (effects : Effects κ) (session : Session κ) (reason : ConnectionAbortReason) :
    Effects κ :=
  let (mine, partner) :=
    if session.direction = .transmit then (session.source, session.destination)
    else (session.destination, session.source)
  let effects := sendAbort effects mine partner session.parameterGroupNumber reason
  closeSession effects session false

def requestToSend (session : Session κ) : Frame κ :=
  connectionManagement session.source session.destination requestToSendMultiplexor
    [byteOf session.totalMessageSize 0, byteOf session.totalMessageSize 1,
      byteOf session.totalMessageSize 2, byteOf session.totalMessageSize 3]
    session.parameterGroupNumber

def sendRequestToSend (session : Session κ) (effects : Effects κ) : Bool × Effects κ :=
  effects.send (requestToSend session)

def sendClearToSend (session : Session κ) (effects : Effects κ) : Bool × Session κ × Effects κ :=
  let nextPacketNumber := session.getLastPacketNumber + 1
  let packetLimit :=
    if session.getNumberOfRemainingPackets < session.clearToSendPacketCountLimit.toUInt32 then
      session.getNumberOfRemainingPackets.toUInt8
    else session.clearToSendPacketCountLimit
  let (sent, effects) := effects.send (connectionManagement session.destination session.source
    clearToSendMultiplexor
    [packetLimit, byteOf nextPacketNumber 0, byteOf nextPacketNumber 1, byteOf nextPacketNumber 2]
    session.parameterGroupNumber)
  let session :=
    if sent then
      { session with
        lastAcknowledgedPacketNumber := session.getLastPacketNumber
        timestamp := effects.port.now }
    else session
  (sent, session, effects)

def dataPacketOffset (session : Session κ) (packetsThisSegment : UInt8) : Frame κ :=
  connectionManagement session.source session.destination dataPacketOffsetMultiplexor
    [packetsThisSegment, byteOf session.getLastPacketNumber 0,
      byteOf session.getLastPacketNumber 1, byteOf session.getLastPacketNumber 2]
    session.parameterGroupNumber

def sendDataPacketOffset (configuration : Configuration) (session : Session κ)
    (effects : Effects κ) : Bool × Session κ × Effects κ :=
  let packetsThisSegment : UInt8 :=
    if session.getNumberOfRemainingPackets < 0xFF then session.getNumberOfRemainingPackets.toUInt8
    else 0xFF
  let packetsThisSegment := min packetsThisSegment session.clearToSendPacketCountLimit
  let packetsThisSegment := min packetsThisSegment configuration.numberOfPacketsPerDPOMessage
  let (sent, effects) := effects.send (dataPacketOffset session packetsThisSegment)
  let session :=
    if sent then
      { session with
        dataPacketOffsetPacketCount := packetsThisSegment
        sequenceNumberOffset := session.getLastPacketNumber
        lastSequenceNumber := 0
        timestamp := effects.port.now }
    else session
  (sent, session, effects)

def endOfSessionAcknowledgement (session : Session κ) : Frame κ :=
  connectionManagement session.destination session.source endOfMessageAcknowledgeMultiplexor
    [byteOf session.totalMessageSize 0, byteOf session.totalMessageSize 1,
      byteOf session.totalMessageSize 2, byteOf session.totalMessageSize 3]
    session.parameterGroupNumber

def sendEndOfSessionAcknowledgement (session : Session κ) (effects : Effects κ) : Effects κ :=
  (effects.send (endOfSessionAcknowledgement session)).2

def dataTransfer (session : Session κ) : Frame κ :=
  let dataOffset := session.getLastPacketNumber * protocolBytesPerFrame
  let byte (j : Nat) : UInt8 :=
    let index := dataOffset + UInt32.ofNat j
    if index < session.totalMessageSize then session.data.getD index.toNat 0 else 0xFF
  { source := session.source, destination := session.destination, group := .dataTransfer
    data := (session.lastSequenceNumber + 1) :: (List.range 7).map byte }

def sendPackets : Nat → Session κ → Effects κ → Session κ × Effects κ
  | 0, session, effects => (session, effects)
  | framesToSend + 1, session, effects =>
    match effects.send (dataTransfer session) with
    | (true, effects) =>
      sendPackets framesToSend
        { session with
          lastSequenceNumber := session.lastSequenceNumber + 1, timestamp := effects.port.now }
        effects
    | (false, effects) => (session, effects)

def sendDataTransferPackets (configuration : Configuration) (session : Session κ)
    (effects : Effects κ) : Session κ × Effects κ :=
  let framesToSend := min session.getDpoNumberOfPacketsRemaining
    configuration.networkManagerMaxFramesToSendPerUpdate
  let (session, effects) := sendPackets framesToSend.toNat session effects
  if session.getNumberOfRemainingPackets = 0 then
    (session.setState effects.port.now .waitForEndOfMessageAcknowledge, effects)
  else if session.getDpoNumberOfPacketsRemaining = 0 then
    (session.setState effects.port.now .waitForClearToSend, effects)
  else (session, effects)

def updateStateMachine (configuration : Configuration) (session : Session κ)
    (effects : Effects κ) : Option (Session κ) × Effects κ :=
  let elapsed := session.getTimeSinceLastUpdate effects.port.now
  let expect (timeout : UInt32) : Option (Session κ) × Effects κ :=
    if timeout < elapsed then (none, abortSession effects session .timeout)
    else (some session, effects)
  match session.state with
  | .none => (some session, effects)
  | .sendRequestToSend =>
    match sendRequestToSend session effects with
    | (true, effects) => (some (session.setState effects.port.now .waitForClearToSend), effects)
    | (false, effects) => (some session, effects)
  | .waitForClearToSend =>
    if t2T3TimeoutMs < elapsed then
      if 0 < session.clearToSendPacketCountLimit then
        (none, abortSession effects session .timeout)
      else (none, closeSession effects session false)
    else (some session, effects)
  | .sendClearToSend =>
    match sendClearToSend session effects with
    | (true, session, effects) =>
      (some (session.setState effects.port.now .waitForDataPacketOffset), effects)
    | (false, session, effects) => (some session, effects)
  | .waitForDataPacketOffset => expect t2T3TimeoutMs
  | .sendDataPacketOffset =>
    match sendDataPacketOffset configuration session effects with
    | (true, session, effects) =>
      (some (session.setState effects.port.now .sendDataTransferPackets), effects)
    | (false, session, effects) => (some session, effects)
  | .sendDataTransferPackets =>
    let (session, effects) := sendDataTransferPackets configuration session effects
    (some session, effects)
  | .waitForDataTransferPacket => expect t1TimeoutMs
  | .waitForEndOfMessageAcknowledge => expect t2T3TimeoutMs

-- The loop of `update` runs from the last session to the first.
def update (configuration : Configuration) (addressValid : κ → Bool) :
    List (Session κ) → Effects κ → List (Session κ) × Effects κ
  | [], effects => ([], effects)
  | session :: rest, effects =>
    let (rest, effects) := update configuration addressValid rest effects
    if ¬ addressValid session.source then (rest, closeSession effects session false)
    else if ¬ addressValid session.destination then (rest, closeSession effects session false)
    else if session.state ≠ .none then
      let (session, effects) := updateStateMachine configuration session effects
      (session.toList ++ rest, effects)
    else (session :: rest, effects)

section Received

variable [DecidableEq κ] (configuration : Configuration)

def processRequestToSend (sessions : List (Session κ)) (effects : Effects κ)
    (source destination : κ) (parameterGroupNumber totalMessageSize : UInt32) :
    List (Session κ) × Effects κ :=
  if configuration.maxNumberTransportProtocolSessions ≤ sessions.length then
    (sessions, sendAbort effects destination source parameterGroupNumber .alreadyInCMSession)
  else
    let (sessions, effects) :=
      match getSession sessions source destination with
      | none => (sessions, effects)
      | some oldSession =>
        (putSession source destination none sessions,
          if oldSession.parameterGroupNumber ≠ parameterGroupNumber then
            abortSession effects oldSession .alreadyInCMSession
          else closeSession effects oldSession false)
    let newSession := Session.create .receive (List.replicate totalMessageSize.toNat 0)
      parameterGroupNumber totalMessageSize source destination false
    let newSession := { newSession with
      clearToSendPacketCountLimit := configuration.numberOfPacketsPerDPOMessage }
    let newSession := newSession.setState effects.port.now .sendClearToSend
    let (newSession, effects) := updateStateMachine configuration newSession effects
    (sessions ++ newSession.toList, effects)

def processClearToSend (sessions : List (Session κ)) (effects : Effects κ) (source destination : κ)
    (parameterGroupNumber : UInt32) (packetsToBeSent : UInt8) (nextPacketNumber : UInt32) :
    List (Session κ) × Effects κ :=
  match getSession sessions destination source with
  | none => (sessions, effects)
  | some session =>
    if session.parameterGroupNumber ≠ parameterGroupNumber then
      let effects := abortSession effects session .clearToSendReceivedWhileTransferInProgress
      (putSession destination source none sessions,
        sendAbort effects destination source parameterGroupNumber
          .clearToSendReceivedWhileTransferInProgress)
    else if session.getTotalNumberOfPackets < nextPacketNumber then
      (putSession destination source none sessions,
        abortSession effects session .numberOfClearToSendPacketsExceedsMessage)
    else if session.state ≠ .waitForClearToSend then
      (putSession destination source none sessions,
        abortSession effects session .clearToSendReceivedWhileTransferInProgress)
    else
      let session := { session with
        lastAcknowledgedPacketNumber := nextPacketNumber - 1
        clearToSendPacketCountLimit := packetsToBeSent
        timestamp := effects.port.now }
      -- With no packets the partner wants this one to wait.
      let session :=
        if packetsToBeSent ≠ 0 then session.setState effects.port.now .sendDataPacketOffset
        else session
      (putSession destination source (some session) sessions, effects)

def processDataPacketOffset (sessions : List (Session κ)) (effects : Effects κ)
    (source destination : κ) (parameterGroupNumber : UInt32) (numberOfPackets : UInt8)
    (packetOffset : UInt32) : List (Session κ) × Effects κ :=
  match getSession sessions source destination with
  | none => (sessions, effects)
  | some session =>
    if session.parameterGroupNumber ≠ parameterGroupNumber then
      let effects := abortSession effects session .unexpectedDataPacketOffsetPGN
      (putSession source destination none sessions,
        sendAbort effects destination source parameterGroupNumber .unexpectedDataPacketOffsetPGN)
    else if session.state ≠ .waitForDataPacketOffset then
      (putSession source destination none sessions,
        abortSession effects session .unexpectedDataPacketOffsetReceived)
    else if session.clearToSendPacketCountLimit < numberOfPackets then
      (putSession source destination none sessions,
        abortSession effects session .dataPacketOffsetExceedsClearToSend)
    else if packetOffset ≠ session.lastAcknowledgedPacketNumber then
      (putSession source destination none sessions,
        abortSession effects session .badDataPacketOffset)
    else
      let session := { session with
        dataPacketOffsetPacketCount := numberOfPackets
        sequenceNumberOffset := packetOffset
        lastSequenceNumber := 0
        timestamp := effects.port.now }
      let session :=
        if numberOfPackets ≠ 0 then session.setState effects.port.now .waitForDataTransferPacket
        else session
      (putSession source destination (some session) sessions, effects)

def processEndOfSessionAcknowledgement (sessions : List (Session κ)) (effects : Effects κ)
    (source destination : κ) (numberOfBytesTransferred : UInt32) :
    List (Session κ) × Effects κ :=
  match getSession sessions destination source with
  | none => (sessions, effects)
  | some session =>
    if session.state = .waitForEndOfMessageAcknowledge then
      (putSession destination source none sessions,
        closeSession effects session (numberOfBytesTransferred = session.totalMessageSize))
    else (sessions, effects)

def closeAborted (sessions : List (Session κ)) (effects : Effects κ) (source destination : κ)
    (parameterGroupNumber : UInt32) : List (Session κ) × Effects κ :=
  match getSession sessions source destination with
  | none => (sessions, effects)
  | some session =>
    if session.parameterGroupNumber = parameterGroupNumber then
      (putSession source destination none sessions, closeSession effects session false)
    else (sessions, effects)

def processAbort (sessions : List (Session κ)) (effects : Effects κ) (source destination : κ)
    (parameterGroupNumber : UInt32) : List (Session κ) × Effects κ :=
  let (sessions, effects) := closeAborted sessions effects source destination parameterGroupNumber
  closeAborted sessions effects destination source parameterGroupNumber

def processConnectionManagementMessage (sessions : List (Session κ)) (effects : Effects κ)
    (frame : Frame κ) : List (Session κ) × Effects κ :=
  if frame.data.length ≠ 8 then (sessions, effects)
  else
    let parameterGroupNumber := uint24At frame.data 5
    let multiplexor := frame.data.getD 0 0
    if multiplexor = requestToSendMultiplexor then
      processRequestToSend configuration sessions effects frame.source frame.destination
        parameterGroupNumber (uint32At frame.data 1)
    else if multiplexor = clearToSendMultiplexor then
      processClearToSend sessions effects frame.source frame.destination parameterGroupNumber
        (frame.data.getD 1 0) (uint24At frame.data 2)
    else if multiplexor = dataPacketOffsetMultiplexor then
      processDataPacketOffset sessions effects frame.source frame.destination parameterGroupNumber
        (frame.data.getD 1 0) (uint24At frame.data 2)
    else if multiplexor = endOfMessageAcknowledgeMultiplexor then
      processEndOfSessionAcknowledgement sessions effects frame.source frame.destination
        (uint32At frame.data 1)
    else if multiplexor = connectionAbortMultiplexor then
      processAbort sessions effects frame.source frame.destination parameterGroupNumber
    else (sessions, effects)

def setBytes (messageLength : UInt32) : UInt32 → List UInt8 → List UInt8 → List UInt8
  | _, [], data => data
  | index, byte :: rest, data =>
    if index < messageLength then
      setBytes messageLength (index + 1) rest (data.set index.toNat byte)
    else data

-- The group of a completed message as its identifier carries it; the addresses have no part in it.
def completedGroup (parameterGroupNumber : UInt32) : UInt32 :=
  (CANIdentifier.create .extended parameterGroupNumber .priorityDefault6 nullCanAddress
    nullCanAddress).getParameterGroupNumber

def processDataTransferMessage (sessions : List (Session κ)) (effects : Effects κ)
    (frame : Frame κ) : List (Session κ) × Effects κ :=
  if frame.data.length ≠ 8 then (sessions, effects)
  else
    let source := frame.source
    let destination := frame.destination
    let sequenceNumber := frame.data.getD 0 0
    match getSession sessions source destination with
    | none => (sessions, effects)
    | some session =>
      if session.state ≠ .waitForDataTransferPacket then
        (putSession source destination none sessions,
          abortSession effects session .unexpectedDataTransferPacketReceived)
      else if sequenceNumber = session.lastSequenceNumber then
        (putSession source destination none sessions,
          abortSession effects session .duplicateSequenceNumber)
      else if sequenceNumber.toNat = session.lastSequenceNumber.toNat + 1 then
        let session := { session with
          data := setBytes session.totalMessageSize
            (protocolBytesPerFrame * session.getLastPacketNumber) (frame.data.drop 1) session.data
          lastSequenceNumber := sequenceNumber
          timestamp := effects.port.now }
        if session.getNumberOfRemainingPackets = 0 then
          let effects := sendEndOfSessionAcknowledgement session effects
          let effects := { effects with
            delivered := effects.delivered ++
              [{ source, destination
                 parameterGroupNumber := completedGroup session.parameterGroupNumber
                 data := session.data }] }
          (putSession source destination none sessions, closeSession effects session true)
        else if session.getDpoNumberOfPacketsRemaining = 0 then
          let (session, effects) := updateStateMachine configuration
            (session.setState effects.port.now .sendClearToSend) effects
          (putSession source destination session sessions, effects)
        else (putSession source destination (some session) sessions, effects)
      else
        (putSession source destination none sessions,
          abortSession effects session .badSequenceNumber)

def processMessage (ours addressValid : κ → Bool) (sessions : List (Session κ))
    (effects : Effects κ) (frame : Frame κ) : List (Session κ) × Effects κ :=
  if addressValid frame.source ∧ addressValid frame.destination ∧ ours frame.destination then
    match frame.group with
    | .connectionManagement =>
      processConnectionManagementMessage configuration sessions effects frame
    | .dataTransfer => processDataTransferMessage configuration sessions effects frame
  else (sessions, effects)

def protocolTransmitMessage (addressValid : κ → Bool) (sessions : List (Session κ))
    (effects : Effects κ) (parameterGroupNumber : UInt32) (data : List UInt8)
    (source destination : κ) (notifies : Bool) : Bool × List (Session κ) × Effects κ :=
  if data.length ≤ 1785 ∨ maxProtocolDataLength < data.length then (false, sessions, effects)
  else if ¬ addressValid source ∨ ¬ addressValid destination ∨
      hasSession sessions source destination then
    (false, sessions, effects)
  else
    let session := Session.create .transmit data parameterGroupNumber (UInt32.ofNat data.length)
      source destination notifies
    let session := session.setState effects.port.now .sendRequestToSend
    let (session, effects) := updateStateMachine configuration session effects
    (true, sessions ++ session.toList, effects)

end Received

-- A message for another control function; only a control function of this device can send one.
structure Transmission {κ : Type} (ours : κ → Bool) where
  parameterGroupNumber : UInt32
  data : List UInt8
  source : κ
  destination : κ
  notifies : Bool
  internal : ours source = true

inductive Call {κ : Type} (ours : κ → Bool) where
  | receive (frame : Frame κ)
  | update
  | transmit (transmission : Transmission ours)

structure Input {κ : Type} (ours : κ → Bool) where
  call : Call ours
  now : UInt32
  accepts : List Bool
  addressValid : κ → Bool

structure Output (κ : Type) where
  accepted : Bool
  sessions : List (Session κ)
  effects : Effects κ

def Effects.fresh (now : UInt32) (accepts : List Bool) : Effects κ :=
  { port := .fresh now accepts, delivered := [], completed := [] }

def step [DecidableEq κ] (configuration : Configuration) {ours : κ → Bool}
    (sessions : List (Session κ)) (input : Input ours) : Output κ :=
  let effects := Effects.fresh input.now input.accepts
  match input.call with
  | .receive frame =>
    let (sessions, effects) :=
      processMessage configuration ours input.addressValid sessions effects frame
    { accepted := false, sessions, effects }
  | .update =>
    let (sessions, effects) := update configuration input.addressValid sessions effects
    { accepted := false, sessions, effects }
  | .transmit transmission =>
    let (accepted, sessions, effects) := protocolTransmitMessage configuration input.addressValid
      sessions effects transmission.parameterGroupNumber transmission.data transmission.source
      transmission.destination transmission.notifies
    { accepted, sessions, effects }

end LittleDawn.ExtendedTransport
