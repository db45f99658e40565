import LittleDawn.Isobus.Identifiers
import LittleDawn.Isobus.Sender
import LittleDawn.Shared.Assembly

set_option autoImplicit false

namespace LittleDawn.ExtendedTransport

variable {κ : Type} {ours : κ → Bool} {configuration : Configuration}

theorem getTotalNumberOfPackets_toNat (session : Session κ) :
    session.getTotalNumberOfPackets.toNat = (session.totalMessageSize.toNat + 6) / 7 := by
  have bound := session.totalMessageSize.toNat_lt
  have seven : protocolBytesPerFrame.toNat = 7 := rfl
  unfold Session.getTotalNumberOfPackets
  have rest : (0 < session.totalMessageSize % protocolBytesPerFrame) ↔
      0 < session.totalMessageSize.toNat % 7 := by
    rw [UInt32.lt_iff_toNat_lt, UInt32.toNat_mod, seven]
    exact Iff.rfl
  rw [UInt32.toNat_add, UInt32.toNat_div, seven]
  split
  · rename_i more
    have positive := rest.mp more
    have one : (1 : UInt32).toNat = 1 := rfl
    rw [one]
    omega
  · rename_i whole
    have none : ¬ 0 < session.totalMessageSize.toNat % 7 := fun more => whole (rest.mpr more)
    have zero : (0 : UInt32).toNat = 0 := rfl
    rw [zero]
    omega

theorem setBytes_write (size : UInt32) (bytes : List UInt8) {index : UInt32} {buffer : List UInt8}
    (length : buffer.length = size.toNat) (room : index.toNat + bytes.length < 2 ^ 32) :
    setBytes size index bytes buffer = Assembly.write index.toNat bytes buffer := by
  induction bytes generalizing index buffer with
  | nil => rfl
  | cons byte rest ih =>
    have next : (index + 1).toNat = index.toNat + 1 := by
      have one : (1 : UInt32).toNat = 1 := rfl
      rw [List.length_cons] at room
      rw [UInt32.toNat_add, one]
      omega
    have inside : index < size ↔ index.toNat < buffer.length := by
      rw [length]
      exact UInt32.lt_iff_toNat_lt
    unfold setBytes Assembly.write
    by_cases within : index < size
    · rw [if_pos within, if_pos (inside.mp within), ih (by rw [List.length_set, length]), next]
      rw [next]
      rw [List.length_cons] at room
      omega
    · rw [if_neg within, if_neg fun less => within (inside.mpr less)]

theorem carries_piece {cursor : Cursor} {message : Message} {frame : Frame κ}
    (carries : cursor.Carries message frame) (small : message.data.length < 2 ^ 32)
    (room : cursor.last.toNat * 7 + 7 < 2 ^ 32) :
    frame.data.drop 1 = Assembly.piece message.data 0xFF (7 * cursor.last.toNat) 7 := by
  rw [carries.data, List.drop_one, List.tail_cons, Assembly.piece]
  refine List.map_congr_left fun j member => ?_
  have few : j < 7 := List.mem_range.mp member
  have seven : protocolBytesPerFrame.toNat = 7 := rfl
  have position : (cursor.last * protocolBytesPerFrame + UInt32.ofNat j).toNat =
      7 * cursor.last.toNat + j := by
    rw [UInt32.toNat_add, UInt32.toNat_mul, seven, UInt32.toNat_ofNat']
    omega
  have size : message.size.toNat = message.data.length := by
    rw [Message.size, UInt32.toNat_ofNat']
    omega
  have within : cursor.last * protocolBytesPerFrame + UInt32.ofNat j < message.size ↔
      7 * cursor.last.toNat + j < message.data.length := by
    rw [UInt32.lt_iff_toNat_lt, position, size]
  by_cases inside : 7 * cursor.last.toNat + j < message.data.length
  · rw [Message.byte, if_pos (within.mpr inside), position, List.getD_eq_getElem _ _ inside,
      List.getD_eq_getElem _ _ inside]
  · rw [Message.byte, if_neg fun less => inside (within.mp less),
      List.getD_eq_default _ _ (Nat.le_of_not_lt inside)]

structure Message.Fits (message : Message) : Prop where
  some : 0 < message.data.length
  few : message.data.length ≤ maxProtocolDataLength

theorem Message.Fits.size {message : Message} (fits : message.Fits) :
    message.size.toNat = message.data.length := by
  have few := fits.few
  simp only [maxProtocolDataLength] at few
  rw [Message.size, UInt32.toNat_ofNat']
  omega

structure Session.Contains (session : Session κ) (message : Message) (cursor : Cursor) : Prop where
  group : session.parameterGroupNumber = message.group
  size : session.totalMessageSize = message.size
  stands : session.Stands cursor
  holds : Assembly.Holds message.data session.data (7 * cursor.last.toNat)

structure Session.Assembles (session : Session κ) (message : Message) (cursor : Cursor) : Prop
    extends session.Contains message cursor where
  more : 7 * cursor.last.toNat < message.data.length

theorem requested_assembles {frame : Frame κ} {message : Message} (fits : message.Fits)
    (opens : message.Opens frame) (now : UInt32) (index : Nat) :
    (Session.requested configuration frame now).Assembles message
      { begun := index, offset := 0, sequence := 0 } := by
  refine ⟨⟨opens.parameterGroupNumber, opens.size, ⟨rfl, rfl⟩, ?_⟩, fits.some⟩
  have blank := Assembly.holds_blank message.data 0
  rw [← fits.size, ← opens.size] at blank
  exact blank

theorem offset_assembles {session : Session κ} {frame : Frame κ} {message : Message}
    {cursor : Cursor} (fits : message.Fits) (assembles : session.Assembles message cursor)
    (moves : cursor.Moves frame) (now : UInt32) (value : StateMachineState) :
    Session.Assembles { session.offset frame now with state := value } message
      { cursor with offset := cursor.last, sequence := 0 } := by
  have few := fits.few
  have more := assembles.more
  simp only [maxProtocolDataLength] at few
  have told : uint24At frame.data 2 = cursor.last := by
    apply UInt32.toNat.inj
    rw [moves.last, UInt32.toNat_and]
    have masked := Nat.and_two_pow_sub_one_eq_mod cursor.last.toNat 24
    exact masked.trans (Nat.mod_eq_of_lt (by omega))
  have same : Cursor.last { cursor with offset := cursor.last, sequence := 0 } = cursor.last :=
    UInt32.zero_add cursor.last
  refine ⟨⟨assembles.group, assembles.size, ⟨told, rfl⟩, ?_⟩, ?_⟩
  · rw [same]
    exact assembles.holds
  · rw [same]
    exact assembles.more

theorem last_next {cursor : Cursor} (next : (cursor.sequence + 1).toNat = cursor.sequence.toNat + 1)
    (small : cursor.last.toNat + 1 < 2 ^ 32) :
    (Cursor.last { cursor with sequence := cursor.sequence + 1 }).toNat =
      cursor.last.toNat + 1 := by
  have wide : (cursor.sequence + 1).toUInt32 = cursor.sequence.toUInt32 + 1 := by
    have byte := cursor.sequence.toNat_lt
    have one : (1 : UInt32).toNat = 1 := rfl
    apply UInt32.toNat.inj
    rw [UInt8.toNat_toUInt32, next, UInt32.toNat_add, UInt8.toNat_toUInt32, one]
    omega
  have one : (1 : UInt32).toNat = 1 := rfl
  simp only [Cursor.last] at small ⊢
  rw [wide, add_right_comm, UInt32.toNat_add, one]
  omega

theorem received_contains {session : Session κ} {frame : Frame κ} {message : Message}
    {cursor : Cursor} (fits : message.Fits) (assembles : session.Assembles message cursor)
    (carries : cursor.Carries message frame) (expects : session.Expects frame) (now : UInt32) :
    (session.received frame now).Contains message
        { cursor with sequence := cursor.sequence + 1 } ∧
      (Cursor.last { cursor with sequence := cursor.sequence + 1 }).toNat =
        cursor.last.toNat + 1 := by
  have few := fits.few
  have more := assembles.more
  simp only [maxProtocolDataLength] at few
  have number : frame.data.getD 0 0 = cursor.sequence + 1 := by rw [carries.data]; rfl
  have next := expects.next
  rw [number, assembles.stands.sequence] at next
  have last := last_next next (by omega)
  refine ⟨⟨assembles.group, assembles.size, ⟨assembles.stands.offset, number⟩, ?_⟩, last⟩
  have seven : protocolBytesPerFrame.toNat = 7 := rfl
  have position : (protocolBytesPerFrame * cursor.last).toNat = 7 * cursor.last.toNat := by
    rw [UInt32.toNat_mul, seven]
    omega
  have piece := carries_piece carries (by omega) (by omega)
  have written : (session.received frame now).data =
      Assembly.write (7 * cursor.last.toNat)
        (Assembly.piece message.data 0xFF (7 * cursor.last.toNat) 7) session.data := by
    have length : session.data.length = session.totalMessageSize.toNat := by
      rw [assembles.size, fits.size, assembles.holds.length]
    have bytes : (frame.data.drop 1).length = 7 := by simp [carries.data]
    have room : (protocolBytesPerFrame * cursor.last).toNat + (frame.data.drop 1).length <
        2 ^ 32 := by
      rw [position, bytes]
      omega
    have wrote := setBytes_write session.totalMessageSize (frame.data.drop 1) length room
    rw [position] at wrote
    rw [← piece, ← wrote, Session.received, assembles.stands.last]
  rw [written, last, Nat.mul_add]
  exact assembles.holds.write 0xFF 7

theorem remaining_packets {session : Session κ} {message : Message} {cursor : Cursor}
    (fits : message.Fits) (contains : session.Contains message cursor)
    (before : 7 * cursor.last.toNat < message.data.length + 7) :
    session.getNumberOfRemainingPackets = 0 ↔ message.data.length ≤ 7 * cursor.last.toNat := by
  have total := getTotalNumberOfPackets_toNat session
  rw [contains.size, fits.size] at total
  have zero : session.getNumberOfRemainingPackets = 0 ↔
      session.getTotalNumberOfPackets.toNat = cursor.last.toNat := by
    rw [Session.getNumberOfRemainingPackets, contains.stands.last, sub_eq_zero, UInt32.toNat_inj]
  rw [zero]
  omega

-- What an identifier carries of a group: in one for a single destination the low byte makes way.
def carriedGroup (parameterGroupNumber : UInt32) : UInt32 :=
  if parameterGroupNumber &&& 0xF000 < 0xF000 then parameterGroupNumber &&& 0x3FF00
  else parameterGroupNumber &&& 0x3FFFF

theorem identifier_group (parameterGroupNumber : UInt32) (destination source : UInt8) :
    (CANIdentifier.create .extended parameterGroupNumber 6 destination
      source).getParameterGroupNumber = carriedGroup parameterGroupNumber := by
  apply create_group
  have raw := create_identifier parameterGroupNumber 6 destination source
  have six : (6 : CANPriority).val = 6 := rfl
  rw [CANIdentifier.getIdentifierType, if_neg]
  rw [UInt32.le_iff_toNat_le, raw, six]
  have small : (0x7FF : UInt32).toNat = 2047 := rfl
  omega

theorem completedGroup_eq (parameterGroupNumber : UInt32) :
    completedGroup parameterGroupNumber = carriedGroup parameterGroupNumber :=
  identifier_group parameterGroupNumber nullCanAddress nullCanAddress

def Message.carried (message : Message) : Message :=
  { message with group := carriedGroup message.group }

def Delivery.message (delivery : Delivery κ) : Message :=
  { group := delivery.parameterGroupNumber, data := delivery.data }

theorem closeSession_delivered (effects : Effects κ) (session : Session κ) (successful : Bool) :
    (closeSession effects session successful).delivered = effects.delivered := by
  unfold closeSession
  split <;> rfl

-- A session for the message that was begun last; those before it are done with.
def Session.Gathers (session : Session κ) (messages : List Message) (cursor : Cursor)
    (delivered : List Message) : Prop :=
  ∃ index message, cursor.begun = index + 1 ∧ messages[index]? = some message ∧
    session.Assembles message cursor ∧
    delivered.Sublist ((messages.map Message.carried).take index)

theorem Session.Gathers.same {session next : Session κ} {messages delivered : List Message}
    {cursor : Cursor} (gathers : session.Gathers messages cursor delivered)
    (group : next.parameterGroupNumber = session.parameterGroupNumber)
    (data : next.data = session.data) (size : next.totalMessageSize = session.totalMessageSize)
    (offset : next.sequenceNumberOffset = session.sequenceNumberOffset)
    (sequence : next.lastSequenceNumber = session.lastSequenceNumber) :
    next.Gathers messages cursor delivered := by
  obtain ⟨index, message, begun, here, assembles, before⟩ := gathers
  refine ⟨index, message, begun, here, ⟨⟨?_, ?_, ⟨?_, ?_⟩, ?_⟩, assembles.more⟩, before⟩
  · exact group.trans assembles.group
  · exact size.trans assembles.size
  · exact offset.trans assembles.stands.offset
  · exact sequence.trans assembles.stands.sequence
  · rw [data]
    exact assembles.holds

theorem Session.Proper.foreign {session : Session κ} {key : κ × κ} (proper : session.Proper ours)
    (keyed : session.key = key) (apart : ours key.1 = false) : session.direction = .receive := by
  cases direction : session.direction with
  | receive => rfl
  | transmit =>
    have mine := proper.mine
    have source : session.ends.1 = key.1 := by
      rw [← keyed, Session.ends, if_pos direction]
      rfl
    rw [source, apart] at mine
    cases mine

theorem Tick.gathers {session next : Session κ} {effects result : Effects κ}
    {messages delivered : List Message} {cursor : Cursor} (tick : Tick session effects next result)
    (proper : session.Proper ours) (receives : session.direction = .receive)
    (gathers : session.Gathers messages cursor delivered) :
    next.Gathers messages cursor delivered := by
  have side := proper.side
  rw [receives] at side
  cases tick with
  | idle => exact gathers
  | clear => exact gathers.same rfl rfl rfl rfl rfl
  | refused => exact gathers
  | request state => rw [state] at side; cases side
  | offset state => rw [state] at side; cases side
  | packets state => rw [state] at side; cases side

theorem Says.begun_le {messages : List Message} {cursor place : Cursor} {frame : Frame κ}
    (saying : Says messages cursor frame place) : cursor.begun ≤ place.begun := by
  cases saying with
  | request index message here later => exact Nat.le_succ_of_le later
  | offset | packet | other => exact Nat.le_refl _

theorem Says.otherwise {messages : List Message} {cursor place : Cursor} {frame : Frame κ}
    (saying : Says messages cursor frame place) :
    (frame.Other ∧ place = cursor) ∨ (¬ frame.Other ∧ frame.data.length = 8) := by
  cases saying with
  | request index message here later opens =>
    exact .inr ⟨fun other => other.2.1 opens.multiplexor, opens.full⟩
  | offset moves => exact .inr ⟨fun other => other.2.2 moves.multiplexor, moves.full⟩
  | packet index message here current carries =>
    refine .inr ⟨fun other => ?_, by simp [carries.data]⟩
    cases carries.group.symm.trans other.1
  | other other => exact .inl ⟨other, rfl⟩

theorem Session.Gathers.offset {session : Session κ} {frame : Frame κ}
    {messages delivered : List Message} {cursor place : Cursor}
    (gathers : session.Gathers messages cursor delivered)
    (fits : ∀ message ∈ messages, message.Fits)
    (multiplexor : frame.multiplexor = dataPacketOffsetMultiplexor) (carries : ¬ frame.Other)
    (group : frame.group = .connectionManagement) (saying : Says messages cursor frame place)
    (now : UInt32) (value : StateMachineState) :
    place.begun = cursor.begun ∧
      Session.Gathers { session.offset frame now with state := value } messages place
        delivered := by
  obtain ⟨index, message, begun, here, assembles, before⟩ := gathers
  cases saying with
  | offset moves =>
    have inRange := List.mem_of_getElem? here
    exact ⟨rfl, index, message, begun, here,
      offset_assembles (fits message inRange) assembles moves now value, before⟩
  | request index message here later opens => cases multiplexor.symm.trans opens.multiplexor
  | packet index message here current carried => cases group.symm.trans carried.group
  | other other => exact absurd other carries

theorem Session.Gathers.packet {session : Session κ} {frame : Frame κ}
    {messages delivered : List Message} {cursor place : Cursor}
    (gathers : session.Gathers messages cursor delivered)
    (fits : ∀ message ∈ messages, message.Fits) (expects : session.Expects frame)
    (saying : Says messages cursor frame place) (now : UInt32) :
    place.begun = cursor.begun ∧ ∃ index message, place.begun = index + 1 ∧
      messages[index]? = some message ∧
      delivered.Sublist ((messages.map Message.carried).take index) ∧
      (session.received frame now).Contains message place ∧
      ((session.received frame now).getNumberOfRemainingPackets = 0 ↔
        message.data.length ≤ 7 * place.last.toNat) := by
  obtain ⟨index, message, begun, here, assembles, before⟩ := gathers
  have fitting := fits message (List.mem_of_getElem? here)
  cases saying with
  | packet among carried inRange current carries =>
    have same : among = index := Nat.succ.inj (current.symm.trans begun)
    subst same
    obtain rfl : carried = message := Option.some.inj (inRange.symm.trans here)
    obtain ⟨contains, last⟩ := received_contains fitting assembles carries expects now
    have more := assembles.more
    refine ⟨rfl, among, carried, begun, here, before, contains, ?_⟩
    exact remaining_packets fitting contains (by rw [last]; omega)
  | request index message here later opens => cases expects.group.symm.trans opens.group
  | offset moves => cases expects.group.symm.trans moves.group
  | other other => cases expects.group.symm.trans other.1

theorem Minors.fewer (key : κ × κ) {manager next : Manager κ}
    (minors : Minors configuration manager next) :
    next.1.length ≤ manager.1.length ∧ (Fresh manager.1 key → Fresh next.1 key) := by
  induction minors with
  | refl => exact ⟨Nat.le_refl _, id⟩
  | tail _ minor ih =>
    obtain ⟨length, fresh⟩ := ih
    cases minor with
    | speak => exact ⟨length, fresh⟩
    | close before after session =>
      have less : (before ++ after).Sublist (before ++ session :: after) :=
        (List.sublist_cons_self session after).append_left before
      exact ⟨less.length_le.trans length,
        fun none other member => fresh none other (less.subset member)⟩
    | tick before after session next effects result ticks =>
      refine ⟨by simpa using length, fun none other member => ?_⟩
      rcases List.mem_append.mp member with early | rest
      · exact fresh none other (by simp [early])
      · rcases List.mem_cons.mp rest with rfl | late
        · rw [(tick_cases ticks).keeps.key]
          exact fresh none session (by simp)
        · exact fresh none other (by simp [late])

section Receiver

variable [DecidableEq κ]

def handed (key : κ × κ) (deliveries : List (Delivery κ)) : List Message :=
  (deliveries.filter fun delivery => (delivery.source, delivery.destination) = key).map
    Delivery.message

structure Hearing (key : κ × κ) (messages done : List Message) (cursor : Cursor)
    (manager : Manager κ) : Prop where
  inOrder : (done ++ handed key manager.2.delivered).Sublist
    ((messages.map Message.carried).take cursor.begun)
  gathers : ∀ session ∈ manager.1, session.key = key →
    session.Gathers messages cursor (done ++ handed key manager.2.delivered)

variable {key : κ × κ} {messages done : List Message} {cursor place : Cursor}

theorem Hearing.erase {before after : List (Session κ)} {session : Session κ} {effects : Effects κ}
    (hearing : Hearing key messages done cursor (before ++ session :: after, effects))
    (result : Effects κ) (same : handed key result.delivered = handed key effects.delivered) :
    Hearing key messages done cursor (before ++ after, result) := by
  obtain ⟨inOrder, gathers⟩ := hearing
  have less : (before ++ after).Sublist (before ++ session :: after) :=
    (List.sublist_cons_self session after).append_left before
  refine ⟨?_, ?_⟩ <;> dsimp only <;> rw [same]
  · exact inOrder
  · exact fun other member => gathers other (less.subset member)

theorem Hearing.replace {before after : List (Session κ)} {session next : Session κ}
    {effects result : Effects κ}
    (hearing : Hearing key messages done cursor (before ++ session :: after, effects))
    (unique : Unique (before ++ session :: after)) (kept : next.key = session.key)
    (same : result.delivered = effects.delivered)
    (begun : place.begun = cursor.begun)
    (own : session.key = key → next.Gathers messages place
      (done ++ handed key effects.delivered))
    (apart : session.key ≠ key → place = cursor) :
    Hearing key messages done place (before ++ next :: after, result) := by
  have others (other : Session κ) (member : other ∈ before ++ after) (keyed : other.key = key) :
      other.Gathers messages place (done ++ handed key effects.delivered) := by
    have distinct : session.key ≠ key := fun equal =>
      unique.alone other member (keyed.trans equal.symm)
    rw [apart distinct]
    refine hearing.gathers other ?_ keyed
    exact ((List.sublist_cons_self session after).append_left before).subset member
  refine ⟨?_, ?_⟩ <;> dsimp only <;> rw [same]
  · rw [begun]
    exact hearing.inOrder
  · intro other member keyed
    rcases List.mem_append.mp member with early | rest
    · exact others other (List.mem_append_left _ early) keyed
    · rcases List.mem_cons.mp rest with rfl | late
      · exact own (kept.symm.trans keyed)
      · exact others other (List.mem_append_right _ late) keyed

theorem Minor.hearing {manager next : Manager κ} (minor : Minor configuration manager next)
    (apart : ours key.1 = false) (formed : WellFormed configuration ours manager.1)
    (hearing : Hearing key messages done cursor manager) :
    Hearing key messages done cursor next := by
  cases minor with
  | speak => exact ⟨hearing.inOrder, hearing.gathers⟩
  | close => exact hearing.erase _ (congrArg _ (closeSession_delivered ..))
  | tick before after session next effects result ticks =>
    have tick := tick_cases ticks
    have proper := formed.proper session (by simp)
    obtain ⟨port, rfl⟩ := tick.quiet
    refine hearing.replace formed.unique tick.keeps.key rfl rfl ?_ fun _ => rfl
    intro own
    exact tick.gathers proper (proper.foreign own apart)
      (hearing.gathers session (by simp) own)

theorem Minors.hearing {manager next : Manager κ} (minors : Minors configuration manager next)
    (apart : ours key.1 = false) (formed : WellFormed configuration ours manager.1)
    (hearing : Hearing key messages done cursor manager) :
    Hearing key messages done cursor next := by
  induction minors with
  | refl => exact hearing
  | tail first minor ih => exact minor.hearing apart (Minors.wellFormed first formed) ih

def heard (key : κ × κ) (input : Input ours) : List (Frame κ) :=
  match input.call with
  | .receive frame =>
    if frame.key = key ∧ input.addressValid frame.source ∧ input.addressValid frame.destination ∧
        ours frame.destination then [frame]
    else []
  | _ => []

-- A request that is turned away for want of room, with a session that is open for it.
def crowded (configuration : Configuration) (key : κ × κ) (sessions : List (Session κ))
    (input : Input ours) : Bool :=
  (heard key input).any (fun frame =>
      frame.group = .connectionManagement ∧ frame.multiplexor = requestToSendMultiplexor) ∧
    configuration.maxNumberTransportProtocolSessions ≤ sessions.length ∧
    hasSession sessions key.1 key.2

theorem heard_cases {input : Input ours} {frame : Frame κ} (call : input.call = .receive frame)
    (speaks : Speaks messages cursor (heard key input) place) :
    (heard key input = [frame] ∧ frame.key = key ∧ Says messages cursor frame place ∧
        (¬ frame.Other ∧ frame.data.length = 8 → Counts ours input.addressValid frame)) ∨
      (place = cursor ∧ (frame.key = key → ¬ Counts ours input.addressValid frame)) := by
  by_cases taken : frame.key = key ∧ input.addressValid frame.source ∧
      input.addressValid frame.destination ∧ ours frame.destination
  · have hears : heard key input = [frame] := by simp [heard, call, taken]
    refine .inl ⟨hears, taken.1, ?_, ?_⟩
    · rw [hears] at speaks
      cases speaks with
      | say cursor next final frame rest saying silent =>
        cases silent
        exact saying
    · exact fun carries =>
        ⟨⟨taken.2.1, taken.2.2.1⟩, taken.2.2.2, carries.2, carries.1⟩
  · have misses : heard key input = [] := by simp [heard, call, taken]
    refine .inr ⟨?_, fun keyed counts => taken ?_⟩
    · rw [misses] at speaks
      cases speaks
      rfl
    · exact ⟨keyed, counts.valid.1, counts.valid.2, counts.ours⟩

theorem heard_nothing {input : Input ours} (call : ∀ frame, input.call ≠ .receive frame)
    (speaks : Speaks messages cursor (heard key input) place) : place = cursor := by
  have nothing : heard key input = [] := by
    unfold heard
    split
    · rename_i frame receives
      exact absurd receives (call frame)
    · rfl
  rw [nothing] at speaks
  cases speaks
  rfl

-- With no session for the key, only the order of what is delivered counts.
theorem Hearing.alone {manager : Manager κ} (hearing : Hearing key messages done cursor manager)
    (fresh : Fresh manager.1 key) (later : cursor.begun ≤ place.begun) :
    Hearing key messages done place manager := by
  refine ⟨Assembly.later_in_order hearing.inOrder later, ?_⟩
  intro session member keyed
  exact absurd keyed (fresh session member)

theorem Hearing.requested {sessions : List (Session κ)} {effects : Effects κ} {frame : Frame κ}
    (hearing : Hearing key messages done cursor (sessions, effects))
    (fits : ∀ message ∈ messages, message.Fits)
    (request : frame.multiplexor = requestToSendMultiplexor) (carries : ¬ frame.Other)
    (group : frame.group = .connectionManagement)
    (fresh : Fresh sessions key) (saying : Says messages cursor frame place) :
    Hearing key messages done place
      (sessions ++ [.requested configuration frame effects.port.now], effects) := by
  cases saying with
  | request index message here later opens =>
    refine ⟨Assembly.later_in_order hearing.inOrder (Nat.le_succ_of_le later), ?_⟩
    intro session member own
    rcases List.mem_append.mp member with inside | single
    · exact absurd own (fresh session inside)
    · rw [List.mem_singleton.mp single]
      have inRange := List.mem_of_getElem? here
      exact ⟨index, message, rfl, here, requested_assembles (fits message inRange) opens _ _,
        Assembly.later_in_order hearing.inOrder later⟩
  | offset moves => cases request.symm.trans moves.multiplexor
  | packet index message here current carried => cases group.symm.trans carried.group
  | other other => exact absurd other carries

theorem Hearing.finished {before after : List (Session κ)} {session : Session κ}
    {effects result : Effects κ} {frame : Frame κ} {now : UInt32}
    (hearing : Hearing key messages done cursor (before ++ session :: after, effects))
    (fits : ∀ message ∈ messages, message.Fits)
    (unique : Unique (before ++ session :: after)) (expects : session.Expects frame)
    (last : (session.received frame now).getNumberOfRemainingPackets = 0)
    (keyed : frame.key = key) (saying : Says messages cursor frame place)
    (delivered : result.delivered = effects.delivered ++
      [{ source := frame.source, destination := frame.destination
         parameterGroupNumber := completedGroup session.parameterGroupNumber
         data := (session.received frame now).data }]) :
    Hearing key messages done place (before ++ after, result) := by
  have gathers := hearing.gathers session (by simp) (expects.key.trans keyed)
  obtain ⟨-, index, message, begun, here, earlier, contains, complete⟩ :=
    gathers.packet fits expects saying now
  have whole := contains.holds.complete (complete.mp last)
  have group : session.parameterGroupNumber = message.group := contains.group
  have more : handed key result.delivered =
      handed key effects.delivered ++ [message.carried] := by
    have own : (frame.source, frame.destination) = key := keyed
    simp [handed, delivered, own, Delivery.message, Message.carried, completedGroup_eq, whole,
      group]
  have found : (messages.map Message.carried)[index]? = some message.carried := by
    rw [List.getElem?_map, here]
    rfl
  refine ⟨?_, ?_⟩
  · dsimp only
    rw [more, ← List.append_assoc, begun]
    exact Assembly.finish_in_order earlier found
  · intro other member own
    exact absurd own ((expects.key.trans keyed) ▸ unique.alone other member)

theorem Main.hearing {input : Input ours} {accepted : Bool} {manager next : Manager κ}
    (main : Main configuration input accepted manager next) (apart : ours key.1 = false)
    (formed : WellFormed configuration ours manager.1)
    (fits : ∀ message ∈ messages, message.Fits)
    (room : ∀ frame, heard key input = [frame] → frame.group = .connectionManagement →
      frame.multiplexor = requestToSendMultiplexor →
      configuration.maxNumberTransportProtocolSessions ≤ manager.1.length → Fresh manager.1 key)
    (speaks : Speaks messages cursor (heard key input) place)
    (hearing : Hearing key messages done cursor manager) :
    Hearing key messages done place next := by
  cases main with
  | updated manager call =>
    rw [heard_nothing (by simp [call]) speaks]
    exact hearing
  | refused manager transmission call =>
    rw [heard_nothing (by simp [call]) speaks]
    exact hearing
  | begun sessions effects transmission call size fresh =>
    rw [heard_nothing (by simp [call]) speaks]
    refine ⟨hearing.inOrder, ?_⟩
    intro session member own
    rcases List.mem_append.mp member with inside | single
    · exact hearing.gathers session inside own
    · rw [List.mem_singleton.mp single] at own
      have source : transmission.source = key.1 := congrArg Prod.fst own
      have mine := transmission.internal
      rw [source, apart] at mine
      cases mine
  | ignored manager frame call ignores =>
    rcases heard_cases call speaks with ⟨-, own, saying, counts⟩ | ⟨rfl, -⟩
    · rcases saying.otherwise with ⟨-, rfl⟩ | carries
      · exact hearing
      · exact absurd (counts carries) ignores
    · exact hearing
  | absent manager frame call fresh =>
    rcases heard_cases call speaks with ⟨-, own, saying, -⟩ | ⟨rfl, -⟩
    · exact hearing.alone (own ▸ fresh) saying.begun_le
    · exact hearing
  | full manager frame call request many =>
    rcases heard_cases call speaks with ⟨hears, own, saying, -⟩ | ⟨rfl, -⟩
    · exact hearing.alone (room frame hears request.1 request.2 many) saying.begun_le
    · exact hearing
  | requested sessions effects frame call counts request fresh room =>
    rcases heard_cases call speaks with ⟨-, own, saying, -⟩ | ⟨rfl, missed⟩
    · exact hearing.requested fits request.2 counts.carries request.1 (own ▸ fresh) saying
    · refine ⟨hearing.inOrder, ?_⟩
      intro session member own
      rcases List.mem_append.mp member with inside | single
      · exact hearing.gathers session inside own
      · rw [List.mem_singleton.mp single] at own
        exact absurd counts (missed own)
  | cleared before after session effects frame call other state packets number value next =>
    have same : place = cursor := by
      rcases heard_cases call speaks with ⟨-, own, saying, -⟩ | ⟨same, -⟩
      · rcases saying.otherwise with ⟨-, same⟩ | ⟨carries, -⟩
        · exact same
        · exact absurd other carries
      · exact same
    subst same
    refine hearing.replace formed.unique rfl rfl rfl ?_ fun _ => rfl
    intro own
    have proper := formed.proper session (by simp)
    have side := proper.side
    rw [proper.foreign own apart, state] at side
    cases side
  | offset before after session effects frame call counts group same state value =>
    rcases heard_cases call speaks with ⟨-, own, saying, -⟩ | ⟨rfl, missed⟩
    · have gathers := hearing.gathers session (by simp) (same.trans own)
      obtain ⟨begun, next⟩ := gathers.offset fits group.2 counts.carries group.1 saying
        effects.port.now value
      exact hearing.replace formed.unique rfl rfl begun (fun _ => next)
        fun distinct => absurd (same.trans own) distinct
    · exact hearing.replace formed.unique rfl rfl rfl
        (fun own => absurd counts (missed (same.symm.trans own))) fun _ => rfl
  | packet before after session effects frame call counts expects remain value =>
    rcases heard_cases call speaks with ⟨-, own, saying, -⟩ | ⟨rfl, missed⟩
    · have gathers := hearing.gathers session (by simp) (expects.key.trans own)
      obtain ⟨begun, index, message, current, here, earlier, contains, complete⟩ :=
        gathers.packet fits expects saying effects.port.now
      have more : 7 * place.last.toNat < message.data.length :=
        Nat.lt_of_not_le fun all => remain (complete.mpr all)
      have next : Session.Gathers { session.received frame effects.port.now with state := value }
          messages place (done ++ handed key effects.delivered) :=
        ⟨index, message, current, here, ⟨⟨contains.group, contains.size,
          ⟨contains.stands.offset, contains.stands.sequence⟩, contains.holds⟩, more⟩, earlier⟩
      exact hearing.replace formed.unique rfl rfl begun (fun _ => next)
        fun distinct => absurd (expects.key.trans own) distinct
    · exact hearing.replace formed.unique rfl rfl rfl
        (fun own => absurd counts (missed (expects.key.symm.trans own))) fun _ => rfl
  | finished before after session effects frame call counts expects last =>
    rcases heard_cases call speaks with ⟨-, own, saying, -⟩ | ⟨rfl, missed⟩
    · exact hearing.finished fits formed.unique expects last own saying
        (closeSession_delivered ..)
    · refine hearing.erase _ ?_
      rw [closeSession_delivered]
      have foreign : (frame.source, frame.destination) ≠ key := fun own =>
        missed own counts
      simp [handed, foreign]

theorem Shape.hearing {input : Input ours} {accepted : Bool} {start result : Manager κ}
    (shape : Shape configuration input accepted start result) (apart : ours key.1 = false)
    (formed : WellFormed configuration ours start.1)
    (fits : ∀ message ∈ messages, message.Fits)
    (room : crowded configuration key start.1 input = false)
    (speaks : Speaks messages cursor (heard key input) place)
    (hearing : Hearing key messages done cursor start) :
    Hearing key messages done place result := by
  obtain ⟨middle, next, first, main, rest⟩ := shape
  have kept := Minors.wellFormed first formed
  obtain ⟨length, fresh⟩ := Minors.fewer key first
  have between := Minors.hearing first apart formed hearing
  refine Minors.hearing rest apart (main.wellFormed kept) ?_
  refine main.hearing apart kept fits ?_ speaks between
  intro frame hears group request many
  refine fresh (hasSession_false ?_)
  have full := many.trans length
  simpa [crowded, hears, group, request, full] using room

def heardIn (key : κ × κ) (inputs : List (Input ours)) : List (Frame κ) :=
  inputs.flatMap (heard key)

theorem heardIn_all {now : UInt32} {accepts : List Bool} {addressValid : κ → Bool}
    {frames : List (Frame κ)} (valid : addressValid key.1 = true ∧ addressValid key.2 = true ∧
      ours key.2 = true)
    (keyed : ∀ frame ∈ frames, frame.key = key) :
    heardIn key (frames.map fun frame =>
      ({ call := .receive frame, now, accepts, addressValid } : Input ours)) = frames := by
  induction frames with
  | nil => rfl
  | cons frame frames ih =>
    have first : frame.key = key := keyed frame List.mem_cons_self
    obtain rfl := first
    have here : heard frame.key
        ({ call := .receive frame, now, accepts, addressValid } : Input ours) = [frame] :=
      if_pos ⟨rfl, valid⟩
    rw [List.map_cons, heardIn, List.flatMap_cons, here]
    have rest := ih fun other member => keyed other (List.mem_cons_of_mem _ member)
    exact congrArg (frame :: ·) rest

theorem said_key (history : List (Input ours × Output κ)) :
    ∀ frame ∈ said key history, frame.key = key := by
  intro frame member
  obtain ⟨call, -, spoke⟩ := List.mem_flatMap.mp member
  simpa [spoken] using (List.mem_filter.mp spoke).2

def delivered (key : κ × κ) (history : List (Input ours × Output κ)) : List Message :=
  history.flatMap fun call => handed key call.2.effects.delivered

def roomy (configuration : Configuration) (key : κ × κ) :
    List (Session κ) → List (Input ours) → Bool
  | _, [] => true
  | sessions, input :: inputs =>
    !crowded configuration key sessions input &&
      roomy configuration key (step configuration sessions input).sessions inputs

theorem run_hears (configuration : Configuration) (apart : ours key.1 = false)
    (fits : ∀ message ∈ messages, message.Fits) (inputs : List (Input ours))
    (room : roomy configuration key [] inputs = true)
    (speaks : Speaks messages .start (heardIn key inputs) place) :
    (delivered key (trace configuration [] inputs)).Sublist (messages.map Message.carried) := by
  have from_hearing (inputs : List (Input ours)) (sessions : List (Session κ))
      (done : List Message) (cursor : Cursor) (formed : WellFormed configuration ours sessions)
      (room : roomy configuration key sessions inputs = true)
      (speaks : Speaks messages cursor (heardIn key inputs) place)
      (hearing : Hearing key messages done cursor (sessions, .fresh 0 [])) :
      (done ++ delivered key (trace configuration sessions inputs)).Sublist
        (messages.map Message.carried) := by
    induction inputs generalizing sessions done cursor with
    | nil =>
      have short := hearing.inOrder.trans (List.take_sublist _ _)
      simpa [delivered, trace, handed, Effects.fresh] using short
    | cons input inputs ih =>
      let output := step configuration sessions input
      have rooms : crowded configuration key sessions input = false ∧
          roomy configuration key output.sessions inputs = true := by
        simpa [roomy] using room
      obtain ⟨middle, first, rest⟩ := Speaks.split speaks
      have begins : Hearing key messages done cursor (sessions, .fresh input.now input.accepts) :=
        ⟨hearing.inOrder, hearing.gathers⟩
      have result := (step_shape configuration formed.unique input).hearing apart formed fits
        rooms.1 first begins
      have ends : Hearing key messages (done ++ handed key output.effects.delivered) middle
          (output.sessions, .fresh 0 []) := by
        refine ⟨?_, fun session member own => ?_⟩
        · simpa [handed, Effects.fresh] using result.inOrder
        · simpa [handed, Effects.fresh] using result.gathers session member own
      have later := ih output.sessions _ middle (step_wellFormed formed input) rooms.2 rest ends
      simpa [delivered, trace, output] using later
  have nothing : Hearing key messages [] .start (([], .fresh 0 []) : Manager κ) := by
    refine ⟨by simp [handed, Effects.fresh], by simp⟩
  simpa using from_hearing inputs [] [] .start wellFormed_empty room speaks nothing

theorem Main.fits {input : Input ours} {accepted : Bool} {manager next : Manager κ}
    (main : Main configuration input accepted manager next) :
    ∀ message ∈ added key accepted input, message.Fits := by
  cases main with
  | begun sessions effects transmission call size fresh =>
    intro message member
    simp only [added, call] at member
    split at member
    · rw [List.mem_singleton.mp member]
      exact ⟨Nat.zero_lt_of_lt size.1, size.2⟩
    · cases member
  | _ => simp [added]

theorem accepted_fits (configuration : Configuration) (key : κ × κ) (inputs : List (Input ours)) :
    ∀ message ∈ accepted key (trace configuration [] inputs), message.Fits := by
  have from_formed (sessions : List (Session κ))
      (formed : WellFormed configuration ours sessions) :
      ∀ message ∈ accepted key (trace configuration sessions inputs), message.Fits := by
    induction inputs generalizing sessions with
    | nil => simp [accepted, trace]
    | cons input inputs ih =>
      intro message member
      obtain ⟨middle, next, -, main, -⟩ := step_shape configuration formed.unique input
      rcases List.mem_append.mp member with now | later
      · exact main.fits message now
      · exact ih _ (step_wellFormed formed input) message later
  exact from_formed [] wellFormed_empty

/-- Messages arrive as they were accepted, with what an identifier carries of their groups, in their
order and each once at most, whatever both managers hear otherwise: provided that the receiver hears
the frames in order from the first one on, and that it turns away no request with a session open for
it. -/
theorem messages_intact {sends hears : κ → Bool} (sender receiver : Configuration) (key : κ × κ)
    (away : sends key.2 = false) (apart : hears key.1 = false) (sending : List (Input sends))
    (hearing : List (Input hears))
    (lossless : heardIn key hearing <+: said key (trace sender [] sending))
    (room : roomy receiver key [] hearing = true) :
    (delivered key (trace receiver [] hearing)).Sublist
      ((accepted key (trace sender [] sending)).map Message.carried) := by
  obtain ⟨cursor, speaks⟩ := run_speaks sender key away sending
  obtain ⟨rest, all⟩ := lossless
  rw [← all] at speaks
  obtain ⟨place, heard, -⟩ := Speaks.split speaks
  exact run_hears receiver apart (accepted_fits sender key sending) hearing room heard

end Receiver

def longSegments : Configuration :=
  { Configuration.default with numberOfPacketsPerDPOMessage := 128 }

def sampleTransmission : Transmission fun here : Bool => here :=
  { parameterGroupNumber := 0xE712
    data := List.replicate 1000 0x11 ++ List.replicate 786 0x22
    source := true, destination := false, notifies := true, internal := rfl }

def sampleCalls : List (Call fun here : Bool => here) :=
  let answer (multiplexor : UInt8) (bytes : List UInt8) : Call fun here : Bool => here :=
    .receive (connectionManagement false true multiplexor bytes 0xE712)
  [.transmit sampleTransmission, answer 0x15 [128, 1, 0, 0], .update, .update,
    answer 0x15 [128, 129, 0, 0], .update, .update, answer 0x17 [0xFA, 6, 0, 0]]

def sampleSending : List (Input fun here : Bool => here) :=
  sampleCalls.map fun call =>
    { call, now := 0, accepts := List.replicate 128 true, addressValid := fun _ => true }

def sampleHearing : List (Input fun here : Bool => !here) :=
  (said (true, false) (trace longSegments [] sampleSending)).map fun frame =>
    { call := .receive frame, now := 40, accepts := [true], addressValid := fun _ => true }

theorem messages_intact_sample :
    (delivered (true, false) (trace longSegments [] sampleHearing)).Sublist
        ((accepted (true, false) (trace longSegments [] sampleSending)).map Message.carried) ∧
      (delivered (true, false) (trace longSegments [] sampleHearing)).map Message.group =
        [0xE700] := by
  have all : heardIn (true, false) sampleHearing =
      said (true, false) (trace longSegments [] sampleSending) :=
    heardIn_all (by decide) (said_key _)
  constructor
  · exact messages_intact longSegments longSegments (true, false) rfl rfl sampleSending
      sampleHearing ⟨[], by rw [all, List.append_nil]⟩ (by decide +kernel)
  · decide +kernel

end LittleDawn.ExtendedTransport
