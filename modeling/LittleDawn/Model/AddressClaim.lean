import LittleDawn.Model.Identifier
import LittleDawn.Model.Port

set_option autoImplicit false

namespace LittleDawn

structure NAME where
  rawName : UInt64
  deriving DecidableEq, Repr

def NAME.getArbitraryAddressCapable (name : NAME) : Bool :=
  name.rawName >>> 63 ≠ 0

def NAME.getIndustryGroup (name : NAME) : UInt8 :=
  ((name.rawName >>> 60) &&& 0x07).toUInt8

def NAME.bytes (name : NAME) : List UInt8 :=
  [name.rawName.toUInt8, (name.rawName >>> 8).toUInt8, (name.rawName >>> 16).toUInt8,
    (name.rawName >>> 24).toUInt8, (name.rawName >>> 32).toUInt8, (name.rawName >>> 40).toUInt8,
    (name.rawName >>> 48).toUInt8, (name.rawName >>> 56).toUInt8]

namespace AddressClaim

inductive State where
  | none
  | waitForClaim
  | sendRequestForClaim
  | waitForRequestContentionPeriod
  | sendPreferredAddressClaim
  | contendForPreferredAddress
  | sendArbitraryAddressClaim
  | sendReclaimAddressOnRequest
  | unableToClaim
  | addressClaimingComplete
  deriving DecidableEq, Repr

structure InternalControlFunction where
  controlFunctionNAME : NAME
  address : UInt8
  preferredAddress : UInt8
  state : State
  stateChangeTimestamp : UInt32
  randomClaimDelay : UInt8
  deriving DecidableEq, Repr

abbrev addressContentionTimeMs : UInt32 := 250
abbrev parameterGroupNumberRequest : UInt32 := 0xEA00
abbrev addressClaim : UInt32 := 0xEE00
abbrev commandedAddress : UInt32 := 0xFED8
abbrev priorityDefault6 : UInt8 := 6

abbrev ClaimPort := Port CANMessageFrame

abbrev ControlFunctionTable := UInt8 → Option NAME

def InternalControlFunction.create (desiredName : NAME)
    (preferredAddress randomClaimDelay : UInt8) : InternalControlFunction :=
  { controlFunctionNAME := desiredName, address := nullCanAddress, preferredAddress
    state := .none, stateChangeTimestamp := 0, randomClaimDelay }

def InternalControlFunction.setCurrentState (ecu : InternalControlFunction) (now : UInt32)
    (value : State) : InternalControlFunction :=
  { ecu with stateChangeTimestamp := now, state := value }

def InternalControlFunction.getAddressValid (ecu : InternalControlFunction) : Bool :=
  ecu.address ≠ broadcastCanAddress ∧ ecu.address ≠ nullCanAddress

def sendCanMessageRaw (port : ClaimPort) (sourceAddress destAddress : UInt8)
    (parameterGroupNumber : UInt32) (priority : UInt8) (data : List UInt8) : Bool × ClaimPort :=
  match constructFrame sourceAddress destAddress parameterGroupNumber priority data with
  | none => (false, port)
  | some frame => port.transmit frame

def sendRequestToClaim (port : ClaimPort) : Bool × ClaimPort :=
  sendCanMessageRaw port nullCanAddress broadcastCanAddress parameterGroupNumberRequest
    priorityDefault6 [0x00, 0xEE, 0x00]

-- The source asserts that the address is below the one for broadcasts.
def sendAddressClaim (ecu : InternalControlFunction) (port : ClaimPort) (addressToClaim : UInt8) :
    Option (Bool × InternalControlFunction × ClaimPort) :=
  if addressToClaim < broadcastCanAddress then
    match sendCanMessageRaw port addressToClaim broadcastCanAddress addressClaim priorityDefault6
        ecu.controlFunctionNAME.bytes with
    | (true, port) => some (true, { ecu with address := addressToClaim }, port)
    | (false, port) => some (false, ecu, port)
  else none

def sendCannotClaimSourceAddress (ecu : InternalControlFunction) (port : ClaimPort) :
    Option (Bool × InternalControlFunction × ClaimPort) :=
  sendAddressClaim ecu port 0xFE

def unableToClaim (ecu : InternalControlFunction) (port : ClaimPort) :
    Option (Bool × InternalControlFunction × ClaimPort) :=
  (sendCannotClaimSourceAddress (ecu.setCurrentState port.now .unableToClaim) port).map
    fun (_, ecu, port) => (false, ecu, port)

def claimPreferredAddress (ecu : InternalControlFunction) (port : ClaimPort) :
    Option (Bool × InternalControlFunction × ClaimPort) :=
  (sendAddressClaim ecu port ecu.preferredAddress).map fun (sent, ecu, port) =>
    if sent then (true, ecu.setCurrentState port.now .addressClaimingComplete, port)
    else (false, ecu.setCurrentState port.now .none, port)

def endAddress (name : NAME) : UInt8 :=
  match name.getIndustryGroup with
  | 0 => 247
  | 1 => 158
  | 2 => 235
  | 3 | 4 | 5 => 207
  | _ => 128

def dynamicAddresses (name : NAME) : List UInt8 :=
  (List.range' 128 ((endAddress name).toNat - 127)).map UInt8.ofNat

def claimArbitraryAddress (table : ControlFunctionTable) (ecu : InternalControlFunction)
    (port : ClaimPort) : List UInt8 → Option (Bool × InternalControlFunction × ClaimPort)
  | [] => unableToClaim ecu port
  | i :: rest =>
    if getControlFunction table i = none then
      match sendAddressClaim ecu port i with
      | none => none
      | some (true, ecu, port) =>
        let ecu :=
          if ecu.preferredAddress = nullCanAddress then { ecu with preferredAddress := i } else ecu
        some (true, ecu.setCurrentState port.now .addressClaimingComplete, port)
      | some (false, ecu, port) => claimArbitraryAddress table ecu port rest
    else claimArbitraryAddress table ecu port rest

def contend (table : ControlFunctionTable) (ecu : InternalControlFunction) : Option State :=
  let deviceAtOurPreferredAddress :=
    if ecu.preferredAddress ≠ nullCanAddress then getControlFunction table ecu.preferredAddress
    else none
  if deviceAtOurPreferredAddress = none ∧ ecu.preferredAddress ≠ nullCanAddress then
    some .sendPreferredAddressClaim
  else if ecu.controlFunctionNAME.getArbitraryAddressCapable then some .sendArbitraryAddressClaim
  else
    match deviceAtOurPreferredAddress with
    | some device =>
      if ecu.controlFunctionNAME.rawName < device.rawName then some .contendForPreferredAddress
      else none
    | none => none

def updateAddressClaiming (table : ControlFunctionTable) (ecu : InternalControlFunction)
    (port : ClaimPort) : Option (Bool × InternalControlFunction × ClaimPort) :=
  match ecu.state with
  | .none => some (false, ecu.setCurrentState port.now .waitForClaim, port)
  | .waitForClaim =>
    if port.timeExpired ecu.stateChangeTimestamp ecu.randomClaimDelay.toUInt32 then
      some (false, ecu.setCurrentState port.now .sendRequestForClaim, port)
    else some (false, ecu, port)
  | .sendRequestForClaim =>
    match sendRequestToClaim port with
    | (true, port) =>
      some (false, ecu.setCurrentState port.now .waitForRequestContentionPeriod, port)
    | (false, port) => some (false, ecu, port)
  | .waitForRequestContentionPeriod =>
    if port.timeExpired ecu.stateChangeTimestamp addressContentionTimeMs then
      match contend table ecu with
      | some next => some (false, ecu.setCurrentState port.now next, port)
      | none => unableToClaim ecu port
    else some (false, ecu, port)
  | .sendPreferredAddressClaim | .contendForPreferredAddress => claimPreferredAddress ecu port
  | .sendArbitraryAddressClaim =>
    claimArbitraryAddress table ecu port (dynamicAddresses ecu.controlFunctionNAME)
  | .sendReclaimAddressOnRequest =>
    (sendAddressClaim ecu port ecu.address).map fun (sent, ecu, port) =>
      if sent then (true, ecu.setCurrentState port.now .addressClaimingComplete, port)
      else (false, ecu, port)
  | .unableToClaim | .addressClaimingComplete => some (false, ecu, port)

def uint64At (data : List UInt8) (index : Nat) : UInt64 :=
  (uint32At data index).toUInt64 ||| (uint32At data (index + 4)).toUInt64 <<< 32

structure CANMessage where
  identifier : CANIdentifier
  data : List UInt8
  hasDestinationControlFunction : Bool
  deriving DecidableEq, Repr

def processCommandedAddress (table : ControlFunctionTable) (ecu : InternalControlFunction)
    (now : UInt32) (commandedAddress : UInt8) : InternalControlFunction :=
  if ecu.state = .addressClaimingComplete ∧ ecu.controlFunctionNAME.getArbitraryAddressCapable then
    let deviceAtOurPreferredAddress := getControlFunction table commandedAddress
    let ecu := { ecu with preferredAddress := commandedAddress }
    match deviceAtOurPreferredAddress with
    | none => ecu.setCurrentState now .sendPreferredAddressClaim
    | some device =>
      if device.rawName < ecu.controlFunctionNAME.rawName then
        ecu.setCurrentState now .sendArbitraryAddressClaim
      else ecu
  else ecu

-- The bytes of a request have to be there: `at` throws otherwise.
def processRxMessageForAddressClaiming (table : ControlFunctionTable)
    (ecu : InternalControlFunction) (now : UInt32) (message : CANMessage) :
    Option InternalControlFunction :=
  if message.identifier.getParameterGroupNumber = parameterGroupNumberRequest then
    if message.data.length < 3 then none
    else if uint24At message.data 0 = addressClaim ∧
        (message.identifier.getDestinationAddress = globalAddress ∨
          ecu.getAddressValid ∧ ecu.address = message.identifier.getDestinationAddress) ∧
        ecu.state = .addressClaimingComplete then
      some (ecu.setCurrentState now .sendReclaimAddressOnRequest)
    else some ecu
  else if message.identifier.getParameterGroupNumber = commandedAddress then
    if message.hasDestinationControlFunction = false ∧ message.data.length = 9 ∧
        uint64At message.data 0 = ecu.controlFunctionNAME.rawName then
      some (processCommandedAddress table ecu now (message.data.getD 8 0))
    else some ecu
  else some ecu

def processRxMessageForAddressViolation (ecu : InternalControlFunction) (now : UInt32)
    (message : CANMessage) : InternalControlFunction :=
  let sourceAddress := message.identifier.getSourceAddress
  if sourceAddress ≠ broadcastCanAddress ∧ sourceAddress ≠ nullCanAddress ∧
      ecu.address = sourceAddress ∧ ecu.state = .addressClaimingComplete then
    ecu.setCurrentState now .sendReclaimAddressOnRequest
  else ecu

-- Where the network manager has this control function: in its table, in the list of inactive ones,
-- and first among those with the NAME.
structure Bookkeeping where
  listed : Bool
  inactive : Bool
  found : Bool
  deriving DecidableEq, Repr

def loseAddress (ecu : InternalControlFunction) (now : UInt32) (claimedNAME : UInt64) :
    InternalControlFunction :=
  if claimedNAME ≠ ecu.controlFunctionNAME.rawName then
    if ecu.controlFunctionNAME.rawName < claimedNAME ∧ ecu.state = .addressClaimingComplete then
      ecu.setCurrentState now .sendReclaimAddressOnRequest
    else
      let ecu :=
        if ecu.state = .addressClaimingComplete then
          ecu.setCurrentState now .waitForRequestContentionPeriod
        else ecu
      { ecu with address := nullCanAddress }
  else { ecu with address := nullCanAddress }

-- The part of `update_control_functions` that is about this control function.
def updateControlFunctions (ecu : InternalControlFunction) (now : UInt32) (kept : Bookkeeping)
    (rxFrame : CANMessageFrame) : InternalControlFunction :=
  if rxFrame.canIdentifier.getParameterGroupNumber = addressClaim ∧ rxFrame.data.length = 8 then
    let claimedAddress := rxFrame.canIdentifier.getSourceAddress
    let claimedNAME := uint64At rxFrame.data 0
    let found := kept.found && claimedNAME = ecu.controlFunctionNAME.rawName
    let ecu :=
      if kept.listed ∧ ¬ found ∧ ecu.address = claimedAddress then loseAddress ecu now claimedNAME
      else ecu
    let ecu :=
      if kept.inactive ∧ ¬ found ∧ ecu.address = claimedAddress then
        { ecu with address := nullCanAddress }
      else ecu
    if found ∧ ecu.address ≠ claimedAddress ∧ claimedAddress < nullCanAddress then
      { ecu with address := claimedAddress }
    else ecu
  else ecu

inductive Call where
  | update
  -- A frame comes in; its message is received later on.
  | hear (rxFrame : CANMessageFrame) (kept : Bookkeeping)
  | receive (message : CANMessage)
  | receiveFromProtocol (message : CANMessage)

structure Input where
  call : Call
  now : UInt32
  accepts : List Bool
  table : ControlFunctionTable

inductive Event where
  | sent (frame : CANMessageFrame)
  | heard (frame : CANMessageFrame)

-- Without a result an assertion has failed or an exception has been thrown.
def step (ecu : InternalControlFunction) (input : Input) :
    Option (InternalControlFunction × List Event) :=
  match input.call with
  | .update =>
    (updateAddressClaiming input.table ecu (.fresh input.now input.accepts)).map
      fun (_, ecu, port) => (ecu, port.sent.map .sent)
  | .hear rxFrame kept =>
    some (updateControlFunctions ecu input.now kept rxFrame, [.heard rxFrame])
  | .receive message =>
    (processRxMessageForAddressClaiming input.table
      (processRxMessageForAddressViolation ecu input.now message) input.now message).map
      fun ecu => (ecu, [])
  | .receiveFromProtocol message =>
    (processRxMessageForAddressClaiming input.table ecu input.now message).map
      fun ecu => (ecu, [])

def run (ecu : InternalControlFunction) :
    List Input → Option (InternalControlFunction × List Event)
  | [] => some (ecu, [])
  | input :: inputs =>
    match step ecu input with
    | none => none
    | some (next, events) => (run next inputs).map fun (last, rest) => (last, events ++ rest)

end AddressClaim

end LittleDawn
