import LittleDawn.Isobus.Endings
import LittleDawn.Isobus.Exchange
import LittleDawn.Isobus.Identifiers

set_option autoImplicit false

namespace LittleDawn.ExtendedTransport

variable {κ : Type} {ours : κ → Bool} {configuration : Configuration}

structure Addresses (κ : Type) where
  getAddress : κ → UInt8
  controlFunctionTable : UInt8 → Option κ

def Addresses.getControlFunction (addresses : Addresses κ) (address : UInt8) : Option κ :=
  LittleDawn.getControlFunction addresses.controlFunctionTable address

def Addresses.Knows (addresses : Addresses κ) (partner : κ) : Prop :=
  addresses.getControlFunction (addresses.getAddress partner) = some partner

instance [DecidableEq κ] (addresses : Addresses κ) (partner : κ) :
    Decidable (addresses.Knows partner) :=
  inferInstanceAs (Decidable (_ = _))

def Group.parameterGroupNumber : Group → UInt32
  | connectionManagement => 0xC800
  | dataTransfer => 0xC700

def Frame.canFrame (addresses : Addresses κ) (frame : Frame κ) : Option CANMessageFrame :=
  constructFrame (addresses.getAddress frame.source) (addresses.getAddress frame.destination)
    frame.group.parameterGroupNumber 7 frame.data

def readFrame (addresses : Addresses κ) (frame : CANMessageFrame) : Option (Frame κ) :=
  match addresses.getControlFunction frame.canIdentifier.getSourceAddress,
    addresses.getControlFunction frame.canIdentifier.getDestinationAddress with
  | some source, some destination =>
    if frame.canIdentifier.getParameterGroupNumber = 0xC800 then
      some { source, destination, group := .connectionManagement, data := frame.data }
    else if frame.canIdentifier.getParameterGroupNumber = 0xC700 then
      some { source, destination, group := .dataTransfer, data := frame.data }
    else none
  | _, _ => none

variable {addresses : Addresses κ}

theorem Addresses.Knows.valid {partner : κ} (knows : addresses.Knows partner) :
    addresses.getAddress partner ≠ nullCanAddress := by
  intro null
  unfold Addresses.Knows Addresses.getControlFunction LittleDawn.getControlFunction at knows
  rw [null, if_neg (by decide)] at knows
  cases knows

theorem canFrame_built {frame : Frame κ} (full : frame.data.length = 8)
    (valid : addresses.getAddress frame.destination ≠ nullCanAddress) :
    ∃ built, frame.canFrame addresses = some built := by
  have narrow : frame.group.parameterGroupNumber &&& 0xF000 < 0xF000 := by
    cases frame.group <;> decide
  have wide : ¬ 0xF000 ≤ frame.group.parameterGroupNumber &&& 0xF000 := UInt32.not_le.mpr narrow
  have low : (7 : UInt8) ≤ 7 := by decide
  have short : frame.data.length ≤ 8 := Nat.le_of_eq full
  simp only [Frame.canFrame, constructFrame, if_pos (And.intro valid (And.intro low short)),
    if_neg wide, if_pos narrow, ite_self, Option.map_some]
  exact ⟨_, rfl⟩

theorem canFrame_read {frame : Frame κ} (full : frame.data.length = 8)
    (source : addresses.Knows frame.source) (destination : addresses.Knows frame.destination) :
    (frame.canFrame addresses).bind (readFrame addresses) = some frame := by
  obtain ⟨built, same⟩ := canFrame_built full destination.valid
  obtain ⟨-, -, data, -⟩ := constructFrame_identifier same
  have extended : built.canIdentifier.getIdentifierType = .extended := by
    cases format : built.canIdentifier.getIdentifierType with
    | extended => rfl
    | standard =>
      have zero : (7 : UInt8) = 0 := ((frame_standard same).mp format).1
      cases zero
  have sender := frame_source same extended
  have receiver := frame_destination same extended
  have whole : built.canIdentifier.getParameterGroupNumber =
      frame.group.parameterGroupNumber := by
    rw [frame_group same extended]
    cases frame.group <;> decide
  unfold Addresses.Knows at source destination
  rw [same, Option.bind_some, readFrame, sender, receiver, source, destination, whole, data]
  obtain ⟨_, _, kind, _⟩ := frame
  cases kind with
  | connectionManagement => exact if_pos rfl
  | dataTransfer =>
    have other : Group.dataTransfer.parameterGroupNumber ≠ 0xC800 := by decide
    exact (if_neg other).trans (if_pos rfl)

def overBus (addresses : Addresses κ) (frames : List (Frame κ)) : List (Frame κ) :=
  frames.filterMap fun frame => (frame.canFrame addresses).bind (readFrame addresses)

theorem overBus_full {frames : List (Frame κ)}
    (full : ∀ frame ∈ frames, frame.data.length = 8)
    (known : ∀ frame ∈ frames, addresses.Knows frame.source ∧ addresses.Knows frame.destination) :
    overBus addresses frames = frames := by
  have each : ∀ frame ∈ frames,
      (frame.canFrame addresses).bind (readFrame addresses) = some frame := by
    intro frame member
    obtain ⟨source, destination⟩ := known frame member
    exact canFrame_read (full frame member) source destination
  rw [overBus, List.filterMap_congr each, List.filterMap_some]

def Effects.Full (effects : Effects κ) : Prop :=
  ∀ frame ∈ effects.port.sent, frame.data.length = 8

theorem full_send {effects : Effects κ} {frame : Frame κ} (whole : effects.Full)
    (full : frame.data.length = 8) : (effects.send frame).2.Full := by
  unfold Effects.Full
  rw [send_sent]
  split
  · intro sent member
    rcases List.mem_append.mp member with before | single
    · exact whole sent before
    · rwa [List.mem_singleton.mp single]
  · exact whole

theorem full_close {effects : Effects κ} (whole : effects.Full) (session : Session κ)
    (successful : Bool) : (closeSession effects session successful).Full := by
  unfold Effects.Full
  rwa [closeSession_port]

theorem Effects.Acts.full {effects result : Effects κ} (acts : effects.Acts result)
    (whole : effects.Full) : result.Full := by
  induction acts with
  | refl => exact whole
  | tail _ act ih =>
    cases act with
    | speak frame other full => exact full_send ih full
    | close session => exact full_close ih session false

section Runs

variable [DecidableEq κ]

theorem Ending.full {sessions : List (Session κ)} {input : Input ours} {result : Effects κ}
    (ending : Ending sessions input result) : result.Full := by
  have fresh : (Effects.fresh input.now input.accepts : Effects κ).Full := by
    intro frame member
    cases member
  cases ending with
  | plain acts => exact acts.full fresh
  | told frame hears acknowledges session found size closed =>
    rw [closed]
    exact full_close fresh session true
  | hands frame session found state handed =>
    unfold Effects.Full
    rw [handed, hand_port]
    exact full_send fresh rfl

def sentIn (history : List (Input ours × Output κ)) : List (Frame κ) :=
  history.flatMap fun call => call.2.effects.port.sent

theorem run_full (configuration : Configuration) (sessions : List (Session κ))
    (inputs : List (Input ours)) :
    ∀ frame ∈ sentIn (trace configuration sessions inputs), frame.data.length = 8 := by
  induction inputs generalizing sessions with
  | nil => simp [sentIn, trace]
  | cons input inputs ih =>
    intro frame member
    rcases List.mem_append.mp member with first | later
    · exact (step_ends configuration sessions input).full frame first
    · exact ih _ frame later

/-- All that a manager sends in a run can be sent on the bus, and is read there as it was sent, as
long as its control functions are known by their addresses. -/
theorem run_carried (configuration : Configuration) (addresses : Addresses κ)
    (inputs : List (Input ours))
    (known : ∀ frame ∈ sentIn (trace configuration [] inputs),
      addresses.Knows frame.source ∧ addresses.Knows frame.destination) :
    overBus addresses (sentIn (trace configuration [] inputs)) =
      sentIn (trace configuration [] inputs) :=
  overBus_full (run_full configuration [] inputs) known

end Runs

def sampleAddresses : Addresses Bool :=
  { getAddress := fun here => if here then 0x1C else 0x26
    controlFunctionTable := fun address =>
      if address = 0x1C then some true else if address = 0x26 then some false else none }

theorem run_carried_sample :
    overBus sampleAddresses (sentIn (trace longSegments [] sampleSending)) =
        sentIn (trace longSegments [] sampleSending) ∧
      (sentIn (trace longSegments [] sampleSending)).length = 259 :=
  ⟨run_carried longSegments sampleAddresses sampleSending (by decide +kernel), by decide +kernel⟩

section Exchange

variable [DecidableEq κ] (addresses : Addresses κ) (sends hears : κ → Bool)

def Exchange.relayOnBus (exchange : Exchange κ) (now : UInt32) (output : Output κ) : Exchange κ :=
  let heard := listen hears now exchange.receiver (overBus addresses output.effects.port.sent)
  let answered := listen sends now output.sessions (overBus addresses heard.sent)
  { sender := answered.sessions
    receiver := heard.sessions
    delivered := exchange.delivered ++ heard.delivered
    completed := exchange.completed ++ output.effects.completed ++ answered.completed }

def Exchange.relayBackOnBus (exchange : Exchange κ) (now : UInt32) (output : Output κ) :
    Exchange κ :=
  let answered := listen sends now exchange.sender (overBus addresses output.effects.port.sent)
  let heard := listen hears now output.sessions (overBus addresses answered.sent)
  { sender := answered.sessions
    receiver := heard.sessions
    delivered := exchange.delivered ++ output.effects.delivered ++ heard.delivered
    completed := exchange.completed ++ answered.completed }

def Exchange.openedOnBus (transmission : Transmission sends) (now : UInt32) : Exchange κ :=
  Exchange.relayOnBus addresses sends hears
    { sender := [], receiver := [], delivered := [], completed := [] } now
    (step .default [] (freely (.transmit transmission) now))

def Exchange.turnOnBus (exchange : Exchange κ) : Turn → Exchange κ
  | .sender now =>
    let input : Input sends := freely .update now
    exchange.relayOnBus addresses sends hears now (step .default exchange.sender input)
  | .receiver now =>
    let input : Input hears := freely .update now
    exchange.relayBackOnBus addresses sends hears now (step .default exchange.receiver input)

variable {addresses sends hears}

theorem listen_full (ours : κ → Bool) (now : UInt32) (sessions : List (Session κ))
    (frames : List (Frame κ)) :
    ∀ frame ∈ (listen ours now sessions frames).sent, frame.data.length = 8 := by
  induction frames generalizing sessions with
  | nil => simp [listen]
  | cons heard frames ih =>
    let input : Input ours := freely (.receive heard) now
    intro frame member
    rcases List.mem_append.mp member with first | later
    · exact (step_ends .default sessions input).full frame first
    · exact ih _ frame later

omit [DecidableEq κ] in
theorem overBus_all (knows : ∀ partner, addresses.Knows partner) {frames : List (Frame κ)}
    (full : ∀ frame ∈ frames, frame.data.length = 8) : overBus addresses frames = frames :=
  overBus_full full fun frame _ => ⟨knows frame.source, knows frame.destination⟩

theorem relayOnBus_relay (knows : ∀ partner, addresses.Knows partner) (exchange : Exchange κ)
    (now : UInt32) {output : Output κ} (full : output.effects.Full) :
    exchange.relayOnBus addresses sends hears now output =
      exchange.relay sends hears now output := by
  unfold Exchange.relayOnBus Exchange.relay
  rw [overBus_all knows full]
  dsimp only
  rw [overBus_all knows (listen_full hears now exchange.receiver _)]

theorem relayBackOnBus_relayBack (knows : ∀ partner, addresses.Knows partner)
    (exchange : Exchange κ) (now : UInt32) {output : Output κ} (full : output.effects.Full) :
    exchange.relayBackOnBus addresses sends hears now output =
      exchange.relayBack sends hears now output := by
  unfold Exchange.relayBackOnBus Exchange.relayBack
  rw [overBus_all knows full]
  dsimp only
  rw [overBus_all knows (listen_full sends now exchange.sender _)]

theorem turnOnBus_turn (knows : ∀ partner, addresses.Knows partner) (exchange : Exchange κ)
    (turn : Turn) :
    exchange.turnOnBus addresses sends hears turn = exchange.turn sends hears turn := by
  cases turn with
  | sender now =>
    exact relayOnBus_relay knows exchange now
      (step_ends .default exchange.sender (freely .update now)).full
  | receiver now =>
    exact relayBackOnBus_relayBack knows exchange now
      (step_ends .default exchange.receiver (freely .update now)).full

end Exchange

end LittleDawn.ExtendedTransport
