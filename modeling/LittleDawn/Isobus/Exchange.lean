import LittleDawn.Isobus.Receiver

set_option autoImplicit false

namespace LittleDawn.ExtendedTransport

variable {κ : Type}

structure Exchange (κ : Type) where
  sender : List (Session κ)
  receiver : List (Session κ)
  delivered : List (Delivery κ)
  completed : List (Completion κ)

structure Answer (κ : Type) where
  sessions : List (Session κ)
  sent : List (Frame κ)
  delivered : List (Delivery κ)
  completed : List (Completion κ)

inductive Turn where
  | sender (now : UInt32)
  | receiver (now : UInt32)
  deriving DecidableEq, Repr

def Turn.ofSender : Turn → Bool
  | .sender _ => true
  | .receiver _ => false

-- The receiver never looks more than 750 ms after the last update of the sender.
def paced (last : UInt32) : List Turn → Bool
  | [] => true
  | .sender now :: turns => paced now turns
  | .receiver now :: turns => decide (now - last ≤ t1TimeoutMs) && paced last turns

def freely {ours : κ → Bool} (call : Call ours) (now : UInt32) : Input ours :=
  { call, now, accepts := List.replicate 256 true, addressValid := fun _ => true }

def Effects.free (now : UInt32) (room : Nat) (sent : List (Frame κ)) : Effects κ :=
  { port := { now, accepts := List.replicate room true, sent }, delivered := [], completed := [] }

def packets (now : UInt32) : Nat → Session κ → List (Frame κ)
  | 0, _ => []
  | count + 1, session => dataTransfer session :: packets now count
      { session with lastSequenceNumber := session.lastSequenceNumber + 1, timestamp := now }

theorem sendPackets_free (now : UInt32) (room count : Nat) (session : Session κ)
    (sent : List (Frame κ)) :
    ∃ timestamp, sendPackets count session (.free now (room + count) sent) =
      ({ session with
          lastSequenceNumber := session.lastSequenceNumber + UInt8.ofNat count
          timestamp := timestamp },
        .free now room (sent ++ packets now count session)) := by
  induction count generalizing session sent with
  | zero => exact ⟨session.timestamp, by simp [sendPackets, packets]⟩
  | succ count ih =>
    obtain ⟨timestamp, rest⟩ := ih
      { session with lastSequenceNumber := session.lastSequenceNumber + 1, timestamp := now }
      (sent ++ [dataTransfer session])
    have number : session.lastSequenceNumber + 1 + UInt8.ofNat count =
        session.lastSequenceNumber + UInt8.ofNat (count + 1) := by
      rw [UInt8.ofNat_add, add_assoc, add_comm 1]
      rfl
    refine ⟨timestamp, ?_⟩
    rw [number, List.append_assoc] at rest
    exact rest

section Exchange

variable [DecidableEq κ] (sends hears : κ → Bool)

def listen (ours : κ → Bool) (now : UInt32) : List (Session κ) → List (Frame κ) → Answer κ
  | sessions, [] => { sessions, sent := [], delivered := [], completed := [] }
  | sessions, frame :: frames =>
    let input : Input ours := freely (.receive frame) now
    let output := step .default sessions input
    let rest := listen ours now output.sessions frames
    { sessions := rest.sessions
      sent := output.effects.port.sent ++ rest.sent
      delivered := output.effects.delivered ++ rest.delivered
      completed := output.effects.completed ++ rest.completed }

def Exchange.relay (exchange : Exchange κ) (now : UInt32) (output : Output κ) : Exchange κ :=
  let heard := listen hears now exchange.receiver output.effects.port.sent
  let answered := listen sends now output.sessions heard.sent
  { sender := answered.sessions
    receiver := heard.sessions
    delivered := exchange.delivered ++ heard.delivered
    completed := exchange.completed ++ output.effects.completed ++ answered.completed }

def Exchange.relayBack (exchange : Exchange κ) (now : UInt32) (output : Output κ) : Exchange κ :=
  let answered := listen sends now exchange.sender output.effects.port.sent
  let heard := listen hears now output.sessions answered.sent
  { sender := answered.sessions
    receiver := heard.sessions
    delivered := exchange.delivered ++ output.effects.delivered ++ heard.delivered
    completed := exchange.completed ++ answered.completed }

def Exchange.opened (transmission : Transmission sends) (now : UInt32) : Exchange κ :=
  Exchange.relay sends hears { sender := [], receiver := [], delivered := [], completed := [] } now
    (step .default [] (freely (.transmit transmission) now))

def Exchange.turn (exchange : Exchange κ) : Turn → Exchange κ
  | .sender now =>
    let input : Input sends := freely .update now
    exchange.relay sends hears now (step .default exchange.sender input)
  | .receiver now =>
    let input : Input hears := freely .update now
    exchange.relayBack sends hears now (step .default exchange.receiver input)

variable {sends hears : κ → Bool}

theorem step_update {ours : κ → Bool} (session : Session κ) (now : UInt32)
    (awake : session.state ≠ .none) :
    step .default [session] (freely .update now : Input ours) =
      { accepted := false
        sessions := (updateStateMachine .default session (.free now 256 [])).1.toList
        effects := (updateStateMachine .default session (.free now 256 [])).2 } := by
  simp [-List.reduceReplicate, step, freely, update, awake, Effects.fresh, Port.fresh,
    Effects.free]

theorem step_management {ours : κ → Bool} (frame : Frame κ) (sessions : List (Session κ))
    (now : UInt32) (mine : ours frame.destination = true)
    (group : frame.group = .connectionManagement) :
    step .default sessions (freely (.receive frame) now : Input ours) =
      { accepted := false
        sessions :=
          (processConnectionManagementMessage .default sessions (.free now 256 []) frame).1
        effects :=
          (processConnectionManagementMessage .default sessions (.free now 256 []) frame).2 } := by
  simp [-List.reduceReplicate, step, freely, processMessage, mine, group, Effects.fresh,
    Port.fresh, Effects.free]

theorem step_packet {ours : κ → Bool} (frame : Frame κ) (sessions : List (Session κ))
    (now : UInt32) (mine : ours frame.destination = true) (group : frame.group = .dataTransfer) :
    step .default sessions (freely (.receive frame) now : Input ours) =
      { accepted := false
        sessions := (processDataTransferMessage .default sessions (.free now 256 []) frame).1
        effects := (processDataTransferMessage .default sessions (.free now 256 []) frame).2 } := by
  simp [-List.reduceReplicate, step, freely, processMessage, mine, group, Effects.fresh,
    Port.fresh, Effects.free]

end Exchange

def Message.packets (message : Message) : Nat :=
  (message.data.length + 6) / 7

structure Speaker {sends : κ → Bool} (transmission : Transmission sends) (session : Session κ)
    (cursor : Cursor) : Prop where
  key : session.key = (transmission.source, transmission.destination)
  direction : session.direction = .transmit
  notifies : session.notifies = transmission.notifies
  group : session.parameterGroupNumber = transmission.parameterGroupNumber
  sends : session.Sends transmission.message
  stands : session.Stands cursor

variable {sends hears : κ → Bool} {transmission : Transmission sends} {session : Session κ}
  {cursor : Cursor}

theorem total_packets (fits : transmission.message.Fits)
    (size : session.totalMessageSize = transmission.message.size) :
    session.getTotalNumberOfPackets.toNat = transmission.message.packets := by
  rw [getTotalNumberOfPackets_toNat, size, fits.size]
  rfl

theorem packets_few (fits : transmission.message.Fits) :
    0 < transmission.message.packets ∧ transmission.message.packets < 2 ^ 24 := by
  have few := fits.few
  have some := fits.some
  simp only [maxProtocolDataLength] at few
  unfold Message.packets
  omega

theorem remaining_toNat (fits : transmission.message.Fits)
    (size : session.totalMessageSize = transmission.message.size) (stands : session.Stands cursor)
    (within : cursor.last.toNat ≤ transmission.message.packets) :
    session.getNumberOfRemainingPackets.toNat =
      transmission.message.packets - cursor.last.toNat := by
  have total := total_packets fits size
  rw [Session.getNumberOfRemainingPackets, stands.last,
    UInt32.toNat_sub_of_le _ _ (UInt32.le_iff_toNat_le.mpr (total ▸ within)), total]

theorem segment_packets {remaining : UInt32} {limit : UInt8} (few : limit.toNat ≤ 16)
    (fits : limit.toNat ≤ remaining.toNat) :
    min (min (if remaining < 0xFF then remaining.toUInt8 else 0xFF) limit) 16 = limit := by
  have least (first second : UInt8) :
      min first second = if first ≤ second then first else second := rfl
  have enough : limit.toNat ≤
      (if remaining < 0xFF then remaining.toUInt8 else (0xFF : UInt8)).toNat := by
    split
    · rename_i small
      have byte : remaining.toNat < 255 := UInt32.lt_iff_toNat_lt.mp small
      rw [UInt32.toNat_toUInt8]
      omega
    · have full : (0xFF : UInt8).toNat = 255 := rfl
      omega
  have first : min (if remaining < 0xFF then remaining.toUInt8 else 0xFF) limit = limit := by
    rw [least]
    by_cases less : (if remaining < 0xFF then remaining.toUInt8 else (0xFF : UInt8)) ≤ limit
    · rw [if_pos less]
      exact UInt8.le_antisymm less (UInt8.le_iff_toNat_le.mpr enough)
    · rw [if_neg less]
  rw [first, least]
  exact if_pos (UInt8.le_iff_toNat_le.mpr few)

theorem speaker_offers (fits : transmission.message.Fits)
    (speaker : Speaker transmission session cursor) (state : session.state = .sendDataPacketOffset)
    (few : session.clearToSendPacketCountLimit.toNat ≤ 16)
    (room : cursor.last.toNat + session.clearToSendPacketCountLimit.toNat ≤
      transmission.message.packets) (now : UInt32) :
    ∃ next, updateStateMachine .default session (.free now 256 []) =
        (some next, .free now 255
          [dataPacketOffset session session.clearToSendPacketCountLimit]) ∧
      Speaker transmission next { cursor with offset := cursor.last, sequence := 0 } ∧
      next.state = .sendDataTransferPackets ∧
      next.lastAcknowledgedPacketNumber = session.lastAcknowledgedPacketNumber ∧
      next.dataPacketOffsetPacketCount = session.clearToSendPacketCountLimit := by
  have remaining := remaining_toNat fits speaker.sends.size speaker.stands (by omega)
  have count := segment_packets few (show _ ≤ session.getNumberOfRemainingPackets.toNat by omega)
  have offered : sendDataPacketOffset .default session (.free now 256 []) =
      (true, { session with
          dataPacketOffsetPacketCount := session.clearToSendPacketCountLimit
          sequenceNumberOffset := session.getLastPacketNumber
          lastSequenceNumber := 0
          timestamp := now },
        .free now 255 [dataPacketOffset session session.clearToSendPacketCountLimit]) := by
    have configured : Configuration.default.numberOfPacketsPerDPOMessage = 16 := rfl
    unfold sendDataPacketOffset
    dsimp only
    rw [configured, count]
    rfl
  have ticked : updateStateMachine .default session (.free now 256 []) =
      (some (Session.setState { session with
          dataPacketOffsetPacketCount := session.clearToSendPacketCountLimit
          sequenceNumberOffset := session.getLastPacketNumber
          lastSequenceNumber := 0
          timestamp := now } now .sendDataTransferPackets),
        .free now 255 [dataPacketOffset session session.clearToSendPacketCountLimit]) := by
    simp only [updateStateMachine, state, offered]
    rfl
  refine ⟨_, ticked, ?_, rfl, rfl, rfl⟩
  exact ⟨speaker.key, speaker.direction, speaker.notifies, speaker.group,
    ⟨speaker.sends.group, speaker.sends.data, speaker.sends.size⟩, speaker.stands.last, rfl⟩

theorem dpo_remaining (stands : session.Stands cursor)
    (acknowledged : session.lastAcknowledgedPacketNumber = cursor.offset) :
    session.getDpoNumberOfPacketsRemaining =
      session.dataPacketOffsetPacketCount - cursor.sequence := by
  have since : cursor.last - cursor.offset = cursor.sequence.toUInt32 := add_sub_cancel_right _ _
  rw [Session.getDpoNumberOfPacketsRemaining, stands.last, acknowledged, since,
    UInt8.toUInt8_toUInt32]

theorem last_toNat (cursor : Cursor) {count : UInt8}
    (small : cursor.offset.toNat + count.toNat < 2 ^ 32) :
    (Cursor.last { cursor with sequence := count }).toNat =
      cursor.offset.toNat + count.toNat := by
  rw [Cursor.last, UInt32.toNat_add, UInt8.toNat_toUInt32]
  dsimp only
  omega

theorem speaker_sends (fits : transmission.message.Fits)
    (speaker : Speaker transmission session cursor)
    (state : session.state = .sendDataTransferPackets) (start : cursor.sequence = 0)
    (acknowledged : session.lastAcknowledgedPacketNumber = cursor.offset)
    (few : session.dataPacketOffsetPacketCount.toNat ≤ 16)
    (room : cursor.offset.toNat + session.dataPacketOffsetPacketCount.toNat ≤
      transmission.message.packets) (now : UInt32) :
    ∃ next rest, updateStateMachine .default session (.free now 256 []) =
        (some next, .free now rest
          (packets now session.dataPacketOffsetPacketCount.toNat session)) ∧
      Speaker transmission next
        { cursor with sequence := session.dataPacketOffsetPacketCount } ∧
      next.state = if cursor.offset.toNat + session.dataPacketOffsetPacketCount.toNat =
        transmission.message.packets then .waitForEndOfMessageAcknowledge
        else .waitForClearToSend := by
  have small := (packets_few fits).2
  have count : (min session.getDpoNumberOfPacketsRemaining
      Configuration.default.networkManagerMaxFramesToSendPerUpdate).toNat =
      session.dataPacketOffsetPacketCount.toNat := by
    have least (first second : UInt8) :
        min first second = if first ≤ second then first else second := rfl
    have most : session.dataPacketOffsetPacketCount ≤
        Configuration.default.networkManagerMaxFramesToSendPerUpdate := by
      have full : Configuration.default.networkManagerMaxFramesToSendPerUpdate.toNat = 255 := rfl
      rw [UInt8.le_iff_toNat_le]
      omega
    rw [dpo_remaining speaker.stands acknowledged, start, sub_zero, least, if_pos most]
  obtain ⟨timestamp, sent⟩ := sendPackets_free now
    (256 - session.dataPacketOffsetPacketCount.toNat) session.dataPacketOffsetPacketCount.toNat
    session []
  rw [Nat.sub_add_cancel (by omega), List.nil_append, speaker.stands.sequence, start, zero_add,
    UInt8.ofNat_toNat] at sent
  let next : Session κ := { session with
    lastSequenceNumber := session.dataPacketOffsetPacketCount, timestamp := timestamp }
  have stands : next.Stands { cursor with sequence := session.dataPacketOffsetPacketCount } :=
    ⟨speaker.stands.offset, rfl⟩
  have last := last_toNat cursor
    (show cursor.offset.toNat + session.dataPacketOffsetPacketCount.toNat < 2 ^ 32 by omega)
  have remaining : next.getNumberOfRemainingPackets.toNat = _ :=
    remaining_toNat fits speaker.sends.size stands (by rw [last]; omega)
  have spent : next.getDpoNumberOfPacketsRemaining = 0 := by
    rw [dpo_remaining stands acknowledged]
    exact sub_self _
  let value : StateMachineState := if next.getNumberOfRemainingPackets = 0 then
    .waitForEndOfMessageAcknowledge else .waitForClearToSend
  have packeted : sendDataTransferPackets .default session (.free now 256 []) =
      (next.setState now value,
        .free now (256 - session.dataPacketOffsetPacketCount.toNat)
          (packets now session.dataPacketOffsetPacketCount.toNat session)) := by
    unfold sendDataTransferPackets
    dsimp only
    rw [count, sent]
    dsimp only
    by_cases whole : next.getNumberOfRemainingPackets = 0
    · have chosen : value = .waitForEndOfMessageAcknowledge := if_pos whole
      rw [chosen]
      exact if_pos whole
    · have chosen : value = .waitForClearToSend := if_neg whole
      rw [chosen]
      exact (if_neg whole).trans (if_pos spent)
  have ticked : updateStateMachine .default session (.free now 256 []) =
      (some (next.setState now value), .free now (256 - session.dataPacketOffsetPacketCount.toNat)
        (packets now session.dataPacketOffsetPacketCount.toNat session)) := by
    simp only [updateStateMachine, state, packeted]
  refine ⟨_, _, ticked, ?_, ?_⟩
  · exact ⟨speaker.key, speaker.direction, speaker.notifies, speaker.group,
      ⟨speaker.sends.group, speaker.sends.data, speaker.sends.size⟩, stands.offset, rfl⟩
  · have whole : next.getNumberOfRemainingPackets = 0 ↔
        cursor.offset.toNat + session.dataPacketOffsetPacketCount.toNat =
          transmission.message.packets := by
      have zero : (0 : UInt32).toNat = 0 := rfl
      rw [← UInt32.toNat_inj, remaining, last, zero]
      omega
    simp only [Session.setState, value, whole]

def Transmission.clearToSend (transmission : Transmission sends) (limit : UInt8)
    (nextPacketNumber : UInt32) : Frame κ :=
  connectionManagement transmission.destination transmission.source clearToSendMultiplexor
    [limit, byteOf nextPacketNumber 0, byteOf nextPacketNumber 1, byteOf nextPacketNumber 2]
    (groupOnWire transmission.parameterGroupNumber)

def Transmission.acknowledgement (transmission : Transmission sends) : Frame κ :=
  connectionManagement transmission.destination transmission.source
    endOfMessageAcknowledgeMultiplexor
    [byteOf transmission.message.size 0, byteOf transmission.message.size 1,
      byteOf transmission.message.size 2, byteOf transmission.message.size 3]
    (groupOnWire transmission.parameterGroupNumber)

def Transmission.completion (transmission : Transmission sends) : List (Completion κ) :=
  if transmission.notifies then
    [{ source := transmission.source, destination := transmission.destination
       parameterGroupNumber := transmission.parameterGroupNumber, successful := true }]
  else []

def Transmission.delivery (transmission : Transmission sends) : Delivery κ :=
  { source := transmission.source, destination := transmission.destination
    parameterGroupNumber := carriedGroup transmission.parameterGroupNumber
    data := transmission.data }

theorem carriedGroup_onWire (parameterGroupNumber : UInt32) :
    carriedGroup (groupOnWire parameterGroupNumber) = carriedGroup parameterGroupNumber := by
  have format : (0xFFFFFF : UInt32) &&& 0xF000 = 0xF000 := rfl
  have specific : (0xFFFFFF : UInt32) &&& 0x3FF00 = 0x3FF00 := rfl
  have broadcast : (0xFFFFFF : UInt32) &&& 0x3FFFF = 0x3FFFF := rfl
  simp only [carriedGroup, groupOnWire, UInt32.and_assoc, format, specific, broadcast]

theorem groupOnWire_again (parameterGroupNumber : UInt32) :
    groupOnWire (groupOnWire parameterGroupNumber) = groupOnWire parameterGroupNumber := by
  simp [groupOnWire, UInt32.and_assoc]

section Answers

variable [DecidableEq κ]

theorem getSession_single {source destination : κ} (key : session.key = (source, destination)) :
    getSession [session] source destination = some session := by
  have found : session.matches source destination = true := (matches_iff ..).mpr key
  simp [getSession, found]

theorem putSession_single {source destination : κ} (key : session.key = (source, destination))
    (changed : Option (Session κ)) :
    putSession source destination changed [session] = changed.toList := by
  have found : session.matches source destination = true := (matches_iff ..).mpr key
  simp [putSession, found]

theorem speaker_cleared (fits : transmission.message.Fits)
    (group : groupOnWire transmission.parameterGroupNumber = transmission.parameterGroupNumber)
    (speaker : Speaker transmission session cursor) (state : session.state = .waitForClearToSend)
    (more : cursor.last.toNat < transmission.message.packets) {limit : UInt8} (some : limit ≠ 0)
    (now : UInt32) :
    ∃ next, listen sends now [session] [transmission.clearToSend limit (cursor.last + 1)] =
        { sessions := [next], sent := [], delivered := [], completed := [] } ∧
      Speaker transmission next cursor ∧ next.state = .sendDataPacketOffset ∧
      next.lastAcknowledgedPacketNumber = cursor.last ∧
      next.clearToSendPacketCountLimit = limit := by
  have few := (packets_few fits).2
  have total := total_packets fits speaker.sends.size
  have one : (1 : UInt32).toNat = 1 := rfl
  have following : (cursor.last + 1).toNat = cursor.last.toNat + 1 := by
    rw [UInt32.toNat_add, one]
    omega
  have told : uint24At (transmission.clearToSend limit (cursor.last + 1)).data 2 =
      cursor.last + 1 := by
    have bytes : uint24At (transmission.clearToSend limit (cursor.last + 1)).data 2 =
        (cursor.last + 1) &&& 0xFFFFFF := uint24At_byteOf rfl rfl rfl
    rw [bytes]
    apply UInt32.toNat.inj
    rw [UInt32.toNat_and]
    exact (Nat.and_two_pow_sub_one_eq_mod _ 24).trans (Nat.mod_eq_of_lt (by omega))
  have same : uint24At (transmission.clearToSend limit (cursor.last + 1)).data 5 =
      session.parameterGroupNumber := by
    have bytes : uint24At (transmission.clearToSend limit (cursor.last + 1)).data 5 =
        groupOnWire (groupOnWire transmission.parameterGroupNumber) := uint24At_byteOf rfl rfl rfl
    rw [bytes, groupOnWire_again, group, speaker.group]
  have inside : ¬ session.getTotalNumberOfPackets < cursor.last + 1 := by
    rw [UInt32.lt_iff_toNat_lt, following, total]
    omega
  have back : cursor.last + 1 - 1 = cursor.last := add_sub_cancel_right _ _
  have dispatched : processConnectionManagementMessage .default [session] (.free now 256 [])
      (transmission.clearToSend limit (cursor.last + 1)) = processClearToSend [session]
        (.free now 256 []) transmission.destination transmission.source
        (uint24At (transmission.clearToSend limit (cursor.last + 1)).data 5) limit
        (uint24At (transmission.clearToSend limit (cursor.last + 1)).data 2) := rfl
  let next : Session κ := { session.cleared limit (cursor.last + 1) now with
    state := .sendDataPacketOffset }
  have processed : processConnectionManagementMessage .default [session] (.free now 256 [])
      (transmission.clearToSend limit (cursor.last + 1)) = ([next], .free now 256 []) := by
    rw [dispatched, same, told]
    unfold processClearToSend
    rw [getSession_single speaker.key]
    dsimp only
    rw [if_neg (not_not_intro rfl), if_neg inside, if_neg (not_not_intro state), if_pos some,
      putSession_single speaker.key]
    rfl
  have heard : listen sends now [session] [transmission.clearToSend limit (cursor.last + 1)] =
      { sessions := [next], sent := [], delivered := [], completed := [] } := by
    have stepped := step_management (transmission.clearToSend limit (cursor.last + 1)) [session]
      now transmission.internal rfl
    simp only [listen, stepped, processed]
    rfl
  exact ⟨next, heard, ⟨speaker.key, speaker.direction, speaker.notifies, speaker.group,
    ⟨speaker.sends.group, speaker.sends.data, speaker.sends.size⟩,
    ⟨speaker.stands.offset, speaker.stands.sequence⟩⟩, rfl, back, rfl⟩

theorem speaker_acknowledged (speaker : Speaker transmission session cursor)
    (state : session.state = .waitForEndOfMessageAcknowledge) (now : UInt32) :
    listen sends now [session] [transmission.acknowledgement] =
      { sessions := [], sent := [], delivered := [], completed := transmission.completion } := by
  have told : uint32At (transmission.acknowledgement : Frame κ).data 1 =
      session.totalMessageSize := by
    have bytes : uint32At (transmission.acknowledgement : Frame κ).data 1 =
        transmission.message.size := uint32At_byteOf rfl rfl rfl rfl
    rw [bytes, speaker.sends.size]
  have dispatched : processConnectionManagementMessage .default [session] (.free now 256 [])
      transmission.acknowledgement = processEndOfSessionAcknowledgement [session]
        (.free now 256 []) transmission.destination transmission.source
        (uint32At (transmission.acknowledgement : Frame κ).data 1) := rfl
  have processed : processConnectionManagementMessage .default [session] (.free now 256 [])
      transmission.acknowledgement = ([], closeSession (.free now 256 []) session true) := by
    rw [dispatched, told]
    unfold processEndOfSessionAcknowledgement
    rw [getSession_single speaker.key]
    dsimp only
    rw [if_pos state, putSession_single speaker.key, decide_eq_true rfl]
    rfl
  have closed : closeSession (.free now 256 []) session true =
      { Effects.free now 256 [] with completed := transmission.completion } := by
    obtain ⟨source, destination⟩ := Prod.mk.inj speaker.key
    cases wants : transmission.notifies <;>
      simp [-List.reduceReplicate, closeSession, speaker.direction, speaker.notifies, wants,
        Transmission.completion, source, destination, speaker.group, Effects.free]
  have stepped := step_management transmission.acknowledgement [session] now
    transmission.internal rfl
  simp only [listen, stepped, processed, closed, List.append_nil]
  rfl

end Answers

structure Listener {sends : κ → Bool} (transmission : Transmission sends) (session : Session κ)
    (cursor : Cursor) : Prop where
  key : session.key = (transmission.source, transmission.destination)
  silent : session.notifies = false
  limit : session.clearToSendPacketCountLimit = 16
  assembles : session.Assembles transmission.message cursor

theorem Listener.within (listener : Listener transmission session cursor) :
    cursor.last.toNat < transmission.message.packets := by
  have more := listener.assembles.more
  unfold Message.packets
  omega

theorem listener_clears (fits : transmission.message.Fits)
    (listener : Listener transmission session cursor) (state : session.state = .sendClearToSend)
    (now : UInt32) (room : Nat) (sent : List (Frame κ)) :
    ∃ next limit, updateStateMachine .default session (.free now (room + 1) sent) =
        (some next, .free now room (sent ++ [transmission.clearToSend limit (cursor.last + 1)])) ∧
      Listener transmission next cursor ∧ next.state = .waitForDataPacketOffset ∧
      next.lastAcknowledgedPacketNumber = cursor.last ∧ next.timestamp = now ∧
      limit.toNat = min 16 (transmission.message.packets - cursor.last.toNat) := by
  have assembles := listener.assembles
  have remaining :=
    remaining_toNat fits assembles.size assembles.stands (Nat.le_of_lt listener.within)
  let limit : UInt8 :=
    if session.getNumberOfRemainingPackets < session.clearToSendPacketCountLimit.toUInt32 then
      session.getNumberOfRemainingPackets.toUInt8
    else session.clearToSendPacketCountLimit
  have sized : limit.toNat = min 16 (transmission.message.packets - cursor.last.toNat) := by
    have most : session.clearToSendPacketCountLimit.toUInt32.toNat = 16 := by
      rw [listener.limit]
      rfl
    have sixteen : session.clearToSendPacketCountLimit.toNat = 16 := by
      rw [listener.limit]
      rfl
    simp only [limit]
    split <;> rename_i less <;> rw [UInt32.lt_iff_toNat_lt, most, remaining] at less
    · rw [UInt32.toNat_toUInt8, remaining]
      omega
    · rw [sixteen]
      omega
  let next : Session κ := { session with
    lastAcknowledgedPacketNumber := session.getLastPacketNumber, timestamp := now
    state := .waitForDataPacketOffset }
  have frame : connectionManagement session.destination session.source clearToSendMultiplexor
      [limit, byteOf (session.getLastPacketNumber + 1) 0,
        byteOf (session.getLastPacketNumber + 1) 1,
        byteOf (session.getLastPacketNumber + 1) 2] session.parameterGroupNumber =
      transmission.clearToSend limit (cursor.last + 1) := by
    obtain ⟨source, destination⟩ := Prod.mk.inj listener.key
    rw [source, destination, assembles.group, assembles.stands.last]
    rfl
  have ticked : updateStateMachine .default session (.free now (room + 1) sent) =
      (some next, .free now room (sent ++ [transmission.clearToSend limit (cursor.last + 1)])) := by
    rw [← frame]
    simp only [updateStateMachine, state]
    rfl
  refine ⟨next, limit, ticked, ⟨listener.key, listener.silent, listener.limit, ?_⟩, rfl,
    assembles.stands.last, rfl, sized⟩
  exact ⟨⟨assembles.group, assembles.size, ⟨assembles.stands.offset, assembles.stands.sequence⟩,
    assembles.holds⟩, assembles.more⟩

section Answers

variable [DecidableEq κ]

theorem listener_offset (fits : transmission.message.Fits)
    (listener : Listener transmission session cursor)
    (state : session.state = .waitForDataPacketOffset)
    (acknowledged : session.lastAcknowledgedPacketNumber = cursor.last) {frame : Frame κ}
    (key : frame.key = (transmission.source, transmission.destination))
    (moves : cursor.Moves frame) (group : uint24At frame.data 5 = transmission.message.group)
    {count : UInt8} (counts : frame.data.getD 1 0 = count) (some : count ≠ 0)
    (few : count.toNat ≤ 16) (now : UInt32) :
    ∃ next, processConnectionManagementMessage .default [session] (.free now 256 []) frame =
        ([next], .free now 256 []) ∧
      Listener transmission next { cursor with offset := cursor.last, sequence := 0 } ∧
      next.state = .waitForDataTransferPacket ∧
      next.lastAcknowledgedPacketNumber = cursor.last ∧
      next.dataPacketOffsetPacketCount = count ∧ next.timestamp = now := by
  obtain ⟨source, destination⟩ := Prod.mk.inj key
  have assembles := offset_assembles fits listener.assembles moves now .waitForDataTransferPacket
  have told : uint24At frame.data 2 = cursor.last := by
    have stands := assembles.stands.offset
    exact stands
  have dispatched : processConnectionManagementMessage .default [session] (.free now 256 []) frame =
      processDataPacketOffset [session] (.free now 256 []) frame.source frame.destination
        (uint24At frame.data 5) (frame.data.getD 1 0) (uint24At frame.data 2) := by
    have kind : frame.data.getD 0 0 = dataPacketOffsetMultiplexor := moves.multiplexor
    unfold processConnectionManagementMessage
    rw [if_neg (not_not_intro moves.full), kind]
    rfl
  have fewer : ¬ session.clearToSendPacketCountLimit < count := by
    have most : (16 : UInt8).toNat = 16 := rfl
    rw [listener.limit, UInt8.lt_iff_toNat_lt, most]
    omega
  refine ⟨{ session.offset frame now with state := .waitForDataTransferPacket }, ?_,
    ⟨listener.key, listener.silent, listener.limit, assembles⟩, rfl, acknowledged, counts, rfl⟩
  rw [dispatched, group, counts, source, destination]
  unfold processDataPacketOffset
  rw [getSession_single listener.key]
  dsimp only
  rw [if_neg (not_not_intro listener.assembles.group), if_neg (not_not_intro state), if_neg fewer,
    if_neg (not_not_intro (told.trans acknowledged.symm)), if_pos some,
    putSession_single listener.key, Session.offset, counts]
  rfl

theorem listener_takes {frame : Frame κ} (now : UInt32)
    (key : frame.key = (transmission.source, transmission.destination))
    (full : frame.data.length = 8) (expects : session.Expects frame) :
    processDataTransferMessage .default [session] (.free now 256 []) frame =
      if (session.received frame now).getNumberOfRemainingPackets = 0 then
        ([], closeSession { sendEndOfSessionAcknowledgement (session.received frame now)
              (.free now 256 []) with
            delivered := [{ source := transmission.source, destination := transmission.destination
                            parameterGroupNumber :=
                              completedGroup session.parameterGroupNumber
                            data := (session.received frame now).data }] }
          (session.received frame now) true)
      else if (session.received frame now).getDpoNumberOfPacketsRemaining = 0 then
        ((updateStateMachine .default { session.received frame now with state := .sendClearToSend }
            (.free now 256 [])).1.toList,
          (updateStateMachine .default { session.received frame now with state := .sendClearToSend }
            (.free now 256 [])).2)
      else ([session.received frame now], .free now 256 []) := by
  have keyed := expects.key.trans key
  obtain ⟨source, destination⟩ := Prod.mk.inj key
  have other : frame.data.getD 0 0 ≠ session.lastSequenceNumber := by
    intro same
    have next := expects.next
    rw [same] at next
    omega
  unfold processDataTransferMessage
  rw [if_neg (not_not_intro full)]
  dsimp only
  rw [source, destination, getSession_single keyed]
  dsimp only
  rw [if_neg (not_not_intro expects.state), if_neg other, if_pos expects.next]
  simp only [putSession_single keyed]
  rfl

end Answers

structure Receiving {sends : κ → Bool} (transmission : Transmission sends) (session : Session κ)
    (cursor : Cursor) (count : UInt8) : Prop extends Listener transmission session cursor where
  state : session.state = .waitForDataTransferPacket
  acknowledged : session.lastAcknowledgedPacketNumber = cursor.offset
  counts : session.dataPacketOffsetPacketCount = count
  inside : cursor.sequence.toNat < count.toNat
  few : count.toNat ≤ 16
  room : cursor.offset.toNat + count.toNat ≤ transmission.message.packets

def Cursor.next (cursor : Cursor) : Cursor :=
  { cursor with sequence := cursor.sequence + 1 }

structure Taken {sends : κ → Bool} (transmission : Transmission sends) (session : Session κ)
    (cursor : Cursor) (count : UInt8) (frame : Frame κ) (now : UInt32) : Prop where
  expects : session.Expects frame
  contains : (session.received frame now).Contains transmission.message cursor.next
  number : cursor.next.sequence.toNat = cursor.sequence.toNat + 1
  last : cursor.next.last.toNat = cursor.offset.toNat + cursor.next.sequence.toNat
  spent : (session.received frame now).getDpoNumberOfPacketsRemaining = 0 ↔
    cursor.next.sequence = count
  complete : (session.received frame now).getNumberOfRemainingPackets = 0 ↔
    cursor.next.last.toNat = transmission.message.packets
  more : cursor.next.last.toNat < transmission.message.packets →
    7 * cursor.next.last.toNat < transmission.message.data.length

theorem Receiving.taken {count : UInt8} (fits : transmission.message.Fits)
    (receiving : Receiving transmission session cursor count) (frame : Frame κ)
    (key : frame.key = (transmission.source, transmission.destination))
    (carries : cursor.Carries transmission.message frame) (now : UInt32) :
    Taken transmission session cursor count frame now := by
  have few := receiving.few
  have inside := receiving.inside
  have room := receiving.room
  have small := (packets_few fits).2
  have assembles := receiving.assembles
  have one : (1 : UInt8).toNat = 1 := rfl
  have number : (cursor.sequence + 1).toNat = cursor.sequence.toNat + 1 := by
    rw [UInt8.toNat_add, one]
    omega
  have first : frame.data.getD 0 0 = cursor.sequence + 1 := by
    rw [carries.data]
    rfl
  have expects : session.Expects frame := by
    refine ⟨receiving.key.trans key.symm, carries.group, receiving.state, ?_⟩
    rw [first, number, assembles.stands.sequence]
  obtain ⟨contains, -⟩ := received_contains fits assembles carries expects now
  have last : cursor.next.last.toNat = cursor.offset.toNat + (cursor.sequence + 1).toNat :=
    last_toNat cursor (by omega)
  have bounded : cursor.next.last.toNat ≤ transmission.message.packets := by omega
  have remaining : (session.received frame now).getNumberOfRemainingPackets.toNat =
      transmission.message.packets - cursor.next.last.toNat :=
    remaining_toNat fits contains.size contains.stands bounded
  have spent : (session.received frame now).getDpoNumberOfPacketsRemaining =
      count - cursor.next.sequence := by
    have counted := dpo_remaining contains.stands
      (show (session.received frame now).lastAcknowledgedPacketNumber = _ from
        receiving.acknowledged)
    rw [counted]
    exact congrArg (· - cursor.next.sequence) receiving.counts
  refine ⟨expects, contains, number, last, ?_, ?_, ?_⟩
  · rw [spent, sub_eq_zero]
    exact eq_comm
  · have zero : (0 : UInt32).toNat = 0 := rfl
    rw [← UInt32.toNat_inj, remaining, zero]
    omega
  · unfold Message.packets
    omega

variable {count : UInt8}

theorem Speaker.packet (speaker : Speaker transmission session cursor) :
    (dataTransfer session).key = (transmission.source, transmission.destination) :=
  speaker.key

section Answers

variable [DecidableEq κ]

theorem Receiving.goes_on (receiving : Receiving transmission session cursor count)
    {frame : Frame κ} {now : UInt32}
    (key : frame.key = (transmission.source, transmission.destination))
    (full : frame.data.length = 8) (taken : Taken transmission session cursor count frame now)
    (inside : cursor.next.sequence.toNat < count.toNat) :
    processDataTransferMessage .default [session] (.free now 256 []) frame =
        ([session.received frame now], .free now 256 []) ∧
      Receiving transmission (session.received frame now) cursor.next count := by
  have room := receiving.room
  have last := taken.last
  have some : (session.received frame now).getNumberOfRemainingPackets ≠ 0 := fun none => by
    have all := taken.complete.mp none
    omega
  have unspent : (session.received frame now).getDpoNumberOfPacketsRemaining ≠ 0 := fun none => by
    have all := taken.spent.mp none
    rw [all] at inside
    omega
  have more := taken.more (by omega)
  refine ⟨?_, ⟨⟨receiving.key, receiving.silent, receiving.limit, ⟨taken.contains, more⟩⟩,
    receiving.state, receiving.acknowledged, receiving.counts, inside, receiving.few, room⟩⟩
  rw [listener_takes now key full taken.expects, if_neg some, if_neg unspent]

theorem Receiving.asks (fits : transmission.message.Fits)
    (receiving : Receiving transmission session cursor count) {frame : Frame κ} {now : UInt32}
    (key : frame.key = (transmission.source, transmission.destination))
    (full : frame.data.length = 8) (taken : Taken transmission session cursor count frame now)
    (ends : cursor.next.sequence = count)
    (more : cursor.next.last.toNat < transmission.message.packets) :
    ∃ next limit, processDataTransferMessage .default [session] (.free now 256 []) frame =
        ([next], .free now 255 [transmission.clearToSend limit (cursor.next.last + 1)]) ∧
      Listener transmission next cursor.next ∧ next.state = .waitForDataPacketOffset ∧
      next.lastAcknowledgedPacketNumber = cursor.next.last ∧ next.timestamp = now ∧
      limit.toNat = min 16 (transmission.message.packets - cursor.next.last.toNat) := by
  have some : (session.received frame now).getNumberOfRemainingPackets ≠ 0 := fun none =>
    absurd (taken.complete.mp none) (Nat.ne_of_lt more)
  have assembles : Session.Assembles
      { session.received frame now with state := .sendClearToSend } transmission.message
      cursor.next :=
    ⟨⟨taken.contains.group, taken.contains.size,
      ⟨taken.contains.stands.offset, taken.contains.stands.sequence⟩, taken.contains.holds⟩,
      taken.more more⟩
  have listener : Listener transmission
      { session.received frame now with state := .sendClearToSend } cursor.next :=
    ⟨receiving.key, receiving.silent, receiving.limit, assembles⟩
  obtain ⟨next, limit, ticked, rest⟩ := listener_clears fits listener rfl now 255 []
  refine ⟨next, limit, ?_, rest⟩
  rw [listener_takes now key full taken.expects, if_neg some, if_pos (taken.spent.mpr ends),
    ticked]
  rfl

theorem Receiving.ends (receiving : Receiving transmission session cursor count)
    {frame : Frame κ} {now : UInt32}
    (key : frame.key = (transmission.source, transmission.destination))
    (full : frame.data.length = 8) (taken : Taken transmission session cursor count frame now)
    (complete : cursor.next.last.toNat = transmission.message.packets) :
    processDataTransferMessage .default [session] (.free now 256 []) frame =
      ([], { Effects.free now 255 [transmission.acknowledgement] with
        delivered := [transmission.delivery] }) := by
  have whole : (session.received frame now).data = transmission.data := by
    refine taken.contains.holds.complete ?_
    unfold Message.packets at complete
    omega
  obtain ⟨source, destination⟩ := Prod.mk.inj receiving.key
  have frame_sent : endOfSessionAcknowledgement session = transmission.acknowledgement := by
    rw [endOfSessionAcknowledgement, source, destination, receiving.assembles.group,
      receiving.assembles.size]
    rfl
  have acknowledged : sendEndOfSessionAcknowledgement (session.received frame now)
      (.free now 256 []) = .free now 255 [transmission.acknowledgement] := by
    rw [← frame_sent]
    rfl
  have unreported (effects : Effects κ) :
      closeSession effects (session.received frame now) true = effects := by
    have silent : (session.received frame now).notifies = false := receiving.silent
    simp [closeSession, silent]
  rw [listener_takes now key full taken.expects, if_pos (taken.complete.mpr complete),
    acknowledged, unreported, whole, receiving.assembles.group, completedGroup_eq]
  dsimp only [Transmission.message]
  rw [carriedGroup_onWire]
  rfl

theorem listen_packet {ours : κ → Bool} {frame : Frame κ} {sessions after : List (Session κ)}
    {now : UInt32} {effects : Effects κ} (mine : ours frame.destination = true)
    (group : frame.group = .dataTransfer)
    (processed : processDataTransferMessage .default sessions (.free now 256 []) frame =
      (after, effects)) (frames : List (Frame κ)) :
    listen ours now sessions (frame :: frames) =
      { sessions := (listen ours now after frames).sessions
        sent := effects.port.sent ++ (listen ours now after frames).sent
        delivered := effects.delivered ++ (listen ours now after frames).delivered
        completed := effects.completed ++ (listen ours now after frames).completed } := by
  simp only [listen, step_packet frame sessions now mine group, processed]

theorem listener_segment (fits : transmission.message.Fits)
    (mine : hears transmission.destination = true) (now : UInt32) (rest : Nat)
    {speaking : Session κ} (speaker : Speaker transmission speaking cursor)
    (receiving : Receiving transmission session cursor count)
    (left : cursor.sequence.toNat + rest + 1 = count.toNat) :
    (cursor.offset.toNat + count.toNat = transmission.message.packets →
      listen hears now [session] (packets now (rest + 1) speaking) =
        { sessions := [], sent := [transmission.acknowledgement]
          delivered := [transmission.delivery], completed := [] }) ∧
    (cursor.offset.toNat + count.toNat < transmission.message.packets →
      ∃ next limit, listen hears now [session] (packets now (rest + 1) speaking) =
          { sessions := [next]
            sent := [transmission.clearToSend limit
              (Cursor.last { cursor with sequence := count } + 1)]
            delivered := [], completed := [] } ∧
        Listener transmission next { cursor with sequence := count } ∧
        next.state = .waitForDataPacketOffset ∧
        next.lastAcknowledgedPacketNumber = Cursor.last { cursor with sequence := count } ∧
        next.timestamp = now ∧
        limit.toNat = min 16 (transmission.message.packets -
          (Cursor.last { cursor with sequence := count }).toNat)) := by
  have there {place : Cursor} {sender : Session κ} (speaker : Speaker transmission sender place) :
      hears (dataTransfer sender).destination = true := by
    have destination : (dataTransfer sender).destination = transmission.destination :=
      (Prod.mk.inj speaker.packet).2
    rw [destination]
    exact mine
  induction rest generalizing session speaking cursor with
  | zero =>
    have taken := receiving.taken fits (dataTransfer speaking) speaker.packet
      (dataTransfer_carries speaker.sends speaker.stands) now
    have number := taken.number
    have last := taken.last
    have ends : cursor.next.sequence = count := UInt8.toNat.inj (by omega)
    have final : cursor.next = { cursor with sequence := count } := by
      rw [← ends]
      rfl
    rw [ends] at last
    refine ⟨fun complete => ?_, fun more => ?_⟩
    · have processed := receiving.ends speaker.packet rfl taken (last.trans complete)
      rw [packets, packets, listen_packet (there speaker) rfl processed]
      rfl
    · obtain ⟨next, limit, processed, after⟩ :=
        receiving.asks fits speaker.packet rfl taken ends (by omega)
      rw [final] at processed after
      refine ⟨next, limit, ?_, after⟩
      rw [packets, packets, listen_packet (there speaker) rfl processed]
      rfl
  | succ rest ih =>
    have taken := receiving.taken fits (dataTransfer speaking) speaker.packet
      (dataTransfer_carries speaker.sends speaker.stands) now
    have number := taken.number
    obtain ⟨processed, going⟩ := receiving.goes_on speaker.packet rfl taken (by omega)
    have speaking_on : Speaker transmission
        { speaking with
          lastSequenceNumber := speaking.lastSequenceNumber + 1, timestamp := now }
        cursor.next :=
      ⟨speaker.key, speaker.direction, speaker.notifies, speaker.group,
        ⟨speaker.sends.group, speaker.sends.data, speaker.sends.size⟩, speaker.stands.offset,
        congrArg (· + 1) speaker.stands.sequence⟩
    obtain ⟨complete, more⟩ := ih speaking_on going (by omega)
    refine ⟨fun all => ?_, fun some => ?_⟩
    · rw [packets, listen_packet (there speaker) rfl processed, complete all]
      rfl
    · obtain ⟨next, limit, heard, after⟩ := more some
      refine ⟨next, limit, ?_, after⟩
      rw [packets, listen_packet (there speaker) rfl processed, heard]
      rfl

theorem listen_management {ours : κ → Bool} {frame : Frame κ} {sessions after : List (Session κ)}
    {now : UInt32} {effects : Effects κ} (mine : ours frame.destination = true)
    (group : frame.group = .connectionManagement)
    (processed : processConnectionManagementMessage .default sessions (.free now 256 []) frame =
      (after, effects)) :
    listen ours now sessions [frame] =
      { sessions := after, sent := effects.port.sent, delivered := effects.delivered
        completed := effects.completed } := by
  simp only [listen, step_management frame sessions now mine group, processed, List.append_nil]

structure Between (transmission : Transmission sends) (speaking listening : Session κ)
    (cursor : Cursor) : Prop where
  speaker : Speaker transmission speaking cursor
  offers : speaking.state = .sendDataPacketOffset
  acknowledged : speaking.lastAcknowledgedPacketNumber = cursor.last
  limit : speaking.clearToSendPacketCountLimit.toNat =
    min 16 (transmission.message.packets - cursor.last.toNat)
  listener : Listener transmission listening cursor
  waits : listening.state = .waitForDataPacketOffset
  asked : listening.lastAcknowledgedPacketNumber = cursor.last

structure Within (transmission : Transmission sends) (sending receiving : Session κ)
    (cursor : Cursor) (count : UInt8) : Prop where
  speaker : Speaker transmission sending cursor
  state : sending.state = .sendDataTransferPackets
  start : cursor.sequence = 0
  acknowledged : sending.lastAcknowledgedPacketNumber = cursor.offset
  counts : sending.dataPacketOffsetPacketCount = count
  gathers : Receiving transmission receiving cursor count

def Exchange.underway (speaking listening : Session κ) : Exchange κ :=
  { sender := [speaking], receiver := [listening], delivered := [], completed := [] }

def Exchange.finished (transmission : Transmission sends) : Exchange κ :=
  { sender := [], receiver := [], delivered := [transmission.delivery]
    completed := transmission.completion }

theorem sender_turn {speaking listening next : Session κ} {now : UInt32} {rest : Nat}
    {frames replies more : List (Frame κ)} {after ended : List (Session κ)}
    {delivered handed : List (Delivery κ)} {completed : List (Completion κ)}
    (awake : speaking.state ≠ .none)
    (ticked : updateStateMachine .default speaking (.free now 256 []) =
      (some next, .free now rest frames))
    (heard : listen hears now [listening] frames =
      { sessions := after, sent := replies, delivered, completed := [] })
    (answered : listen sends now [next] replies =
      { sessions := ended, sent := more, delivered := handed, completed }) :
    (Exchange.underway speaking listening).turn sends hears (.sender now) =
      { sender := ended, receiver := after, delivered, completed } := by
  have sent : (Effects.free now rest frames).port.sent = frames := rfl
  have none : (Effects.free now rest frames).completed = [] := rfl
  simp only [Exchange.underway, Exchange.turn, step_update speaking now awake, ticked, Exchange.relay,
    sent, none, Option.toList_some, heard, answered, List.nil_append]

theorem sender_offers (fits : transmission.message.Fits)
    (mine : hears transmission.destination = true) {speaking listening : Session κ}
    (between : Between transmission speaking listening cursor) (now : UInt32) :
    ∃ sending receiving, (Exchange.underway speaking listening).turn sends hears (.sender now) =
        .underway sending receiving ∧ receiving.timestamp = now ∧
      Within transmission sending receiving { cursor with offset := cursor.last, sequence := 0 }
        speaking.clearToSendPacketCountLimit := by
  have limit := between.limit
  have within := between.listener.within
  obtain ⟨sending, ticked, speaker, state, acknowledged, count⟩ := speaker_offers fits
    between.speaker between.offers (by omega) (by omega) now
  have key : (dataPacketOffset speaking speaking.clearToSendPacketCountLimit).key =
      (transmission.source, transmission.destination) := between.speaker.key
  have moves := dataPacketOffset_moves between.speaker.stands speaking.clearToSendPacketCountLimit
  have group : uint24At (dataPacketOffset speaking speaking.clearToSendPacketCountLimit).data 5 =
      transmission.message.group := by
    rw [← between.speaker.sends.group]
    exact uint24At_byteOf rfl rfl rfl
  have some : speaking.clearToSendPacketCountLimit ≠ 0 := by
    intro none
    rw [none] at limit
    have zero : (0 : UInt8).toNat = 0 := rfl
    omega
  obtain ⟨receiving, processed, listener, waits, asked, counts, stamped⟩ := listener_offset fits
    between.listener between.waits between.asked key moves group
    (rfl : _ = speaking.clearToSendPacketCountLimit) some (by omega) now
  refine ⟨sending, receiving, ?_, stamped, speaker, state, rfl,
    acknowledged.trans between.acknowledged, count,
    ⟨listener, waits, asked, counts, ?_, by omega, ?_⟩⟩
  · have there : hears (dataPacketOffset speaking
        speaking.clearToSendPacketCountLimit).destination = true := by
      rw [(Prod.mk.inj key).2]
      exact mine
    have awake : speaking.state ≠ .none := by simp [between.offers]
    exact sender_turn awake ticked (listen_management there rfl processed) rfl
  · have zero : (0 : UInt8).toNat = 0 := rfl
    dsimp only
    omega
  · dsimp only
    omega

theorem sender_packets (fits : transmission.message.Fits)
    (group : groupOnWire transmission.parameterGroupNumber = transmission.parameterGroupNumber)
    (mine : hears transmission.destination = true) {sending receiving : Session κ}
    (within : Within transmission sending receiving cursor count) (now : UInt32) :
    (cursor.offset.toNat + count.toNat = transmission.message.packets →
      (Exchange.underway sending receiving).turn sends hears (.sender now) =
        .finished transmission) ∧
    (cursor.offset.toNat + count.toNat < transmission.message.packets →
      ∃ speaking listening, (Exchange.underway sending receiving).turn sends hears (.sender now) =
          .underway speaking listening ∧ listening.timestamp = now ∧
        Between transmission speaking listening { cursor with sequence := count }) := by
  have inside := within.gathers.inside
  have room := within.gathers.room
  have zero : (0 : UInt8).toNat = 0 := rfl
  rw [within.start, zero] at inside
  have small := (packets_few fits).2
  have last := last_toNat cursor (show cursor.offset.toNat + count.toNat < 2 ^ 32 by omega)
  obtain ⟨next, rest, ticked, told, becomes⟩ := speaker_sends fits within.speaker within.state
    within.start within.acknowledged (within.counts ▸ within.gathers.few)
    (within.counts ▸ room) now
  rw [within.counts] at ticked told becomes
  obtain ⟨complete, more⟩ := listener_segment fits mine now (count.toNat - 1) within.speaker
    within.gathers (by rw [within.start, zero]; omega)
  rw [Nat.sub_add_cancel inside] at complete more
  have awake : sending.state ≠ .none := by simp [within.state]
  refine ⟨fun all => ?_, fun some => ?_⟩
  · have waits := becomes.trans (if_pos all)
    exact sender_turn awake ticked (complete all) (speaker_acknowledged told waits now)
  · have waits := becomes.trans (if_neg (Nat.ne_of_lt some))
    obtain ⟨listening, limit, heard, listener, state, asked, stamped, sized⟩ := more some
    have open_limit : limit ≠ 0 := by
      intro none
      rw [none, zero, last] at sized
      omega
    obtain ⟨speaking, answered, speaker, offers, last_told, limited⟩ :=
      speaker_cleared fits group told waits (by omega) open_limit now
    refine ⟨speaking, listening, ?_, stamped, ⟨speaker, offers, last_told, limited ▸ sized,
      listener, state, asked⟩⟩
    exact sender_turn awake ticked heard answered

-- A receiver that waits has nothing to do, up to its timeout.
theorem receiver_turn {speaking listening : Session κ} {now : UInt32}
    (waits : listening.state = .waitForDataPacketOffset ∨
      listening.state = .waitForDataTransferPacket)
    (early : now - listening.timestamp ≤ t1TimeoutMs) :
    (Exchange.underway speaking listening).turn sends hears (.receiver now) =
      .underway speaking listening := by
  have awake : listening.state ≠ .none := by
    rcases waits with state | state <;> simp [state]
  have short : ¬ t1TimeoutMs < listening.getTimeSinceLastUpdate now := UInt32.not_lt.mpr early
  have long : ¬ t2T3TimeoutMs < listening.getTimeSinceLastUpdate now := by
    have less : t1TimeoutMs ≤ t2T3TimeoutMs := by decide
    exact UInt32.not_lt.mpr (UInt32.le_trans early less)
  have ticked : updateStateMachine .default listening (.free now 256 []) =
      (some listening, .free now 256 []) := by
    unfold updateStateMachine
    rcases waits with state | state
    · simp only [state]
      exact if_neg long
    · simp only [state]
      exact if_neg short
  have sent : (Effects.free now 256 [] : Effects κ).port.sent = [] := rfl
  have none : (Effects.free now 256 [] : Effects κ).delivered = [] := rfl
  simp only [Exchange.underway, Exchange.turn, step_update listening now awake, ticked,
    Exchange.relayBack, sent, none, Option.toList_some, listen, List.nil_append]

-- How many updates of its sender a message still takes, with the time of the last one.
inductive Exchange.Takes (transmission : Transmission sends) (last : UInt32) :
    Nat → Exchange κ → Prop where
  | offers {speaking listening : Session κ} {cursor : Cursor} (segments : Nat)
      (between : Between transmission speaking listening cursor)
      (stamped : listening.timestamp = last)
      (bound : transmission.message.packets ≤ cursor.last.toNat + 16 * segments) :
      Takes transmission last (2 * segments) (.underway speaking listening)
  | packets {sending receiving : Session κ} {cursor : Cursor} {count : UInt8} (segments : Nat)
      (within : Within transmission sending receiving cursor count)
      (stamped : receiving.timestamp = last)
      (bound : transmission.message.packets ≤
        cursor.offset.toNat + count.toNat + 16 * segments) :
      Takes transmission last (2 * segments + 1) (.underway sending receiving)
  | none (left : Nat) : Takes transmission last left (.finished transmission)

theorem finished_turn (turn : Turn) :
    (Exchange.finished transmission).turn sends hears turn = .finished transmission := by
  have idle {ours : κ → Bool} (now : UInt32) :
      step .default ([] : List (Session κ)) (freely .update now : Input ours) =
        { accepted := false, sessions := [], effects := .free now 256 [] } := rfl
  have sent (now : UInt32) : (Effects.free now 256 [] : Effects κ).port.sent = [] := rfl
  cases turn with
  | sender now =>
    have none : (Effects.free now 256 [] : Effects κ).completed = [] := rfl
    simp only [Exchange.turn, Exchange.finished, idle, Exchange.relay, sent, none, listen,
      List.append_nil]
  | receiver now =>
    have none : (Effects.free now 256 [] : Effects κ).delivered = [] := rfl
    simp only [Exchange.turn, Exchange.finished, idle, Exchange.relayBack, sent, none, listen,
      List.append_nil]

section Runs

variable (fits : transmission.message.Fits)
  (group : groupOnWire transmission.parameterGroupNumber = transmission.parameterGroupNumber)
  (mine : hears transmission.destination = true)

include fits group mine in
theorem Exchange.Takes.sender {last : UInt32} {left : Nat} {exchange : Exchange κ}
    (takes : exchange.Takes transmission last left) (now : UInt32) :
    (exchange.turn sends hears (.sender now)).Takes transmission now (left - 1) := by
  have small := (packets_few fits).2
  cases takes with
  | @offers speaking listening cursor segments between stamped bound =>
    have inside := between.listener.within
    have limit := between.limit
    obtain ⟨sending, receiving, offered, heard, within⟩ := sender_offers fits mine between now
    obtain ⟨segments, rfl⟩ : ∃ fewer, segments = fewer + 1 :=
      Nat.exists_eq_succ_of_ne_zero (by omega)
    rw [offered]
    refine .packets segments within heard ?_
    dsimp only
    omega
  | @packets sending receiving cursor count segments within stamped bound =>
    obtain ⟨complete, more⟩ := sender_packets fits group mine within now
    have room := within.gathers.room
    by_cases all : cursor.offset.toNat + count.toNat = transmission.message.packets
    · rw [complete all]
      exact .none _
    · obtain ⟨speaking, listening, sent, heard, between⟩ := more (by omega)
      have last := last_toNat cursor (show cursor.offset.toNat + count.toNat < 2 ^ 32 by omega)
      rw [sent]
      exact .offers segments between heard (by rw [last]; exact bound)
  | none left =>
    rw [finished_turn]
    exact .none _

theorem Exchange.Takes.receiver {last now : UInt32} {left : Nat} {exchange : Exchange κ}
    (takes : exchange.Takes transmission last left) (early : now - last ≤ t1TimeoutMs) :
    exchange.turn sends hears (.receiver now) = exchange := by
  cases takes with
  | offers segments between stamped bound =>
    exact receiver_turn (.inl between.waits) (stamped ▸ early)
  | packets segments within stamped bound =>
    exact receiver_turn (.inr within.gathers.state) (stamped ▸ early)
  | none left => exact finished_turn _

omit [DecidableEq κ] in
theorem Exchange.Takes.finished {last : UInt32} {exchange : Exchange κ}
    (takes : exchange.Takes transmission last 0) : exchange = .finished transmission := by
  generalize zero : 0 = left at takes
  cases takes with
  | offers segments between stamped bound =>
    have inside := between.listener.within
    omega
  | packets segments within stamped bound => omega
  | none left => rfl

include fits group mine in
theorem Exchange.Takes.run {last : UInt32} {left : Nat} {exchange : Exchange κ}
    (takes : exchange.Takes transmission last left) (turns : List Turn)
    (pace : paced last turns = true) (enough : left ≤ turns.countP Turn.ofSender) :
    turns.foldl (Exchange.turn sends hears) exchange = .finished transmission := by
  induction turns generalizing last left exchange with
  | nil =>
    obtain rfl := Nat.le_zero.mp enough
    exact takes.finished
  | cons turn turns ih =>
    cases turn with
    | sender now =>
      have counted : (Turn.sender now :: turns).countP Turn.ofSender =
          turns.countP Turn.ofSender + 1 := List.countP_cons_of_pos rfl
      exact ih (takes.sender fits group mine now) pace (by omega)
    | receiver now =>
      have counted : (Turn.receiver now :: turns).countP Turn.ofSender =
          turns.countP Turn.ofSender := List.countP_cons_of_neg (by simp [Turn.ofSender])
      rw [paced, Bool.and_eq_true, decide_eq_true_eq] at pace
      rw [List.foldl_cons, takes.receiver pace.1]
      exact ih takes pace.2 (counted ▸ enough)

end Runs

theorem opened_takes
    (size : 1785 < transmission.data.length ∧ transmission.data.length ≤ maxProtocolDataLength)
    (group : groupOnWire transmission.parameterGroupNumber = transmission.parameterGroupNumber)
    (mine : hears transmission.destination = true) (now : UInt32) :
    (Exchange.opened sends hears transmission now).Takes transmission now
      (2 * ((transmission.data.length + 111) / 112)) := by
  have fits : transmission.message.Fits := ⟨Nat.zero_lt_of_lt size.1, size.2⟩
  let speaking : Session κ := (Session.begun transmission now).setState now .waitForClearToSend
  have speaker : Speaker transmission speaking { begun := 1, offset := 0, sequence := 0 } :=
    ⟨rfl, rfl, rfl, rfl, ⟨rfl, rfl, rfl⟩, rfl, rfl⟩
  have allowed : ¬ (transmission.data.length ≤ 1785 ∨
      maxProtocolDataLength < transmission.data.length) := by omega
  have transmitted : step .default [] (freely (.transmit transmission) now) =
      { accepted := true, sessions := [speaking]
        effects := .free now 255 [requestToSend (Session.begun transmission now)] } := by
    simp only [step, freely, protocolTransmitMessage, if_neg allowed]
    rfl
  have opens := requestToSend_opens (show (Session.begun transmission now).Sends
    transmission.message from ⟨rfl, rfl, rfl⟩)
  have assembles : (Session.requested .default (requestToSend (Session.begun transmission now))
      now).Assembles _ _ := requested_assembles fits opens now 1
  have requested : Listener transmission (Session.requested .default
      (requestToSend (Session.begun transmission now)) now)
      { begun := 1, offset := 0, sequence := 0 } := ⟨rfl, rfl, rfl, assembles⟩
  obtain ⟨listening, limit, ticked, listener, waits, asked, stamped, sized⟩ :=
    listener_clears fits requested rfl now 255 []
  have dispatched : processConnectionManagementMessage .default [] (.free now 256 [])
      (requestToSend (Session.begun transmission now)) =
      ((updateStateMachine .default (.requested .default
          (requestToSend (Session.begun transmission now)) now) (.free now (255 + 1) [])).1.toList,
        (updateStateMachine .default (.requested .default
          (requestToSend (Session.begun transmission now)) now) (.free now (255 + 1) [])).2) := rfl
  rw [ticked] at dispatched
  have heard := listen_management (show hears
    (requestToSend (Session.begun transmission now)).destination = true from mine) rfl dispatched
  have open_limit : limit ≠ 0 := by
    intro none
    have zero : (0 : UInt8).toNat = 0 := rfl
    have more := requested.within
    rw [none, zero] at sized
    omega
  obtain ⟨next, answered, told, offers, last_told, limited⟩ :=
    speaker_cleared fits group speaker rfl requested.within open_limit now
  have sent : (Effects.free now 255
      [requestToSend (Session.begun transmission now)]).port.sent = [_] := rfl
  have replies : (Effects.free now 255 ([] ++ [transmission.clearToSend limit
      (Cursor.last { begun := 1, offset := 0, sequence := 0 } + 1)])).port.sent = [_] := rfl
  have opened : Exchange.opened sends hears transmission now = .underway next listening := by
    simp only [Exchange.opened, transmitted, Exchange.relay, sent, heard, replies, answered]
    rfl
  rw [opened]
  refine .offers _ ⟨told, offers, last_told, limited ▸ sized, listener, waits, asked⟩ stamped ?_
  have data : transmission.message.data = transmission.data := rfl
  have zero : (Cursor.last { begun := 1, offset := 0, sequence := 0 }).toNat = 0 := rfl
  unfold Message.packets
  rw [data, zero]
  omega

/-- Between two managers alone on a free bus every message that the protocol is for arrives, and its
sender is told so, after two updates of the sender for each 112 bytes, as long as the receiver does
not time out before the sender has its turn. -/
theorem message_arrives (transmission : Transmission sends)
    (size : 1785 < transmission.data.length ∧ transmission.data.length ≤ maxProtocolDataLength)
    (group : groupOnWire transmission.parameterGroupNumber = transmission.parameterGroupNumber)
    (mine : hears transmission.destination = true) (start : UInt32) (turns : List Turn)
    (pace : paced start turns = true)
    (enough : 2 * ((transmission.data.length + 111) / 112) ≤ turns.countP Turn.ofSender) :
    turns.foldl (Exchange.turn sends hears) (.opened sends hears transmission start) =
      { sender := [], receiver := [], delivered := [transmission.delivery]
        completed := transmission.completion } := by
  have fits : transmission.message.Fits := ⟨Nat.zero_lt_of_lt size.1, size.2⟩
  exact (opened_takes size group mine start).run fits group mine turns pace enough

end Answers

def sampleTurns : List Turn :=
  (List.range 32).flatMap fun round =>
    [.receiver (UInt32.ofNat (700 * (round + 1))), .sender (UInt32.ofNat (700 * (round + 1)))]

theorem message_arrives_sample :
    sampleTurns.foldl (Exchange.turn (fun here => here) not)
        (.opened (fun here => here) not sampleTransmission 0) =
      { sender := [], receiver := [], delivered := [sampleTransmission.delivery]
        completed := sampleTransmission.completion } :=
  message_arrives sampleTransmission (by
    simp [-List.reduceReplicate, sampleTransmission, maxProtocolDataLength]) (by decide) rfl 0
    sampleTurns (by decide) (by
      have turns : sampleTurns.countP Turn.ofSender = 32 := by decide
      simp [turns, -List.reduceReplicate, sampleTransmission])

end LittleDawn.ExtendedTransport
