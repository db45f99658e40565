import LittleDawn.Model.ExtendedTransport
import Mathlib.Logic.Relation

set_option autoImplicit false

namespace LittleDawn.ExtendedTransport

variable {κ : Type} {ours : κ → Bool}

abbrev Manager (κ : Type) := List (Session κ) × Effects κ

def Session.key (session : Session κ) : κ × κ :=
  (session.source, session.destination)

def Frame.key (frame : Frame κ) : κ × κ :=
  (frame.source, frame.destination)

def Session.ends (session : Session κ) : κ × κ :=
  if session.direction = .transmit then (session.source, session.destination)
  else (session.destination, session.source)

def Frame.multiplexor (frame : Frame κ) : UInt8 :=
  frame.data.getD 0 0

-- A frame that does not carry a message on: no request, no offset and no packet.
def Frame.Other (frame : Frame κ) : Prop :=
  frame.group = .connectionManagement ∧ frame.multiplexor ≠ requestToSendMultiplexor ∧
    frame.multiplexor ≠ dataPacketOffsetMultiplexor

structure Counts (ours addressValid : κ → Bool) (frame : Frame κ) : Prop where
  valid : addressValid frame.source = true ∧ addressValid frame.destination = true
  ours : ours frame.destination = true
  full : frame.data.length = 8
  carries : ¬ frame.Other

inductive Minor (configuration : Configuration) : Manager κ → Manager κ → Prop where
  | speak (sessions : List (Session κ)) (effects : Effects κ) (frame : Frame κ)
      (other : frame.Other) :
      Minor configuration (sessions, effects) (sessions, (effects.send frame).2)
  | close (before after : List (Session κ)) (session : Session κ) (effects : Effects κ)
      (successful : Bool) :
      Minor configuration (before ++ session :: after, effects)
        (before ++ after, closeSession effects session successful)
  | tick (before after : List (Session κ)) (session next : Session κ) (effects result : Effects κ)
      (ticks : updateStateMachine configuration session effects = (some next, result)) :
      Minor configuration (before ++ session :: after, effects)
        (before ++ next :: after, result)

abbrev Minors (configuration : Configuration) : Manager κ → Manager κ → Prop :=
  Relation.ReflTransGen (Minor configuration)

def Session.received (session : Session κ) (frame : Frame κ) (now : UInt32) : Session κ :=
  { session with
    data := setBytes session.totalMessageSize
      (protocolBytesPerFrame * session.getLastPacketNumber) (frame.data.drop 1) session.data
    lastSequenceNumber := frame.data.getD 0 0
    timestamp := now }

def Session.offset (session : Session κ) (frame : Frame κ) (now : UInt32) : Session κ :=
  { session with
    dataPacketOffsetPacketCount := frame.data.getD 1 0
    sequenceNumberOffset := uint24At frame.data 2
    lastSequenceNumber := 0
    timestamp := now }

def Session.cleared (session : Session κ) (packetsToBeSent : UInt8)
    (nextPacketNumber now : UInt32) : Session κ :=
  { session with
    lastAcknowledgedPacketNumber := nextPacketNumber - 1
    clearToSendPacketCountLimit := packetsToBeSent
    timestamp := now }

def Session.requested (configuration : Configuration) (frame : Frame κ) (now : UInt32) :
    Session κ :=
  { Session.create .receive (List.replicate (uint32At frame.data 1).toNat 0)
      (uint24At frame.data 5) (uint32At frame.data 1) frame.source frame.destination false with
    clearToSendPacketCountLimit := configuration.numberOfPacketsPerDPOMessage
    state := .sendClearToSend
    timestamp := now }

def Session.begun (transmission : Transmission ours) (now : UInt32) : Session κ :=
  { Session.create .transmit transmission.data transmission.parameterGroupNumber
      (UInt32.ofNat transmission.data.length) transmission.source transmission.destination
      transmission.notifies with
    state := .sendRequestToSend
    timestamp := now }

def Fresh (sessions : List (Session κ)) (key : κ × κ) : Prop :=
  ∀ session ∈ sessions, session.key ≠ key

structure Session.Expects (session : Session κ) (frame : Frame κ) : Prop where
  key : session.key = frame.key
  group : frame.group = .dataTransfer
  state : session.state = .waitForDataTransferPacket
  next : (frame.data.getD 0 0).toNat = session.lastSequenceNumber.toNat + 1

inductive Main (configuration : Configuration) (input : Input ours) :
    Bool → Manager κ → Manager κ → Prop where
  | updated (manager : Manager κ) (call : input.call = .update) :
      Main configuration input false manager manager
  | refused (manager : Manager κ) (transmission : Transmission ours)
      (call : input.call = .transmit transmission) : Main configuration input false manager manager
  | begun (sessions : List (Session κ)) (effects : Effects κ) (transmission : Transmission ours)
      (call : input.call = .transmit transmission)
      (size : 1785 < transmission.data.length ∧ transmission.data.length ≤ maxProtocolDataLength)
      (fresh : Fresh sessions (transmission.source, transmission.destination)) :
      Main configuration input true (sessions, effects)
        (sessions ++ [.begun transmission effects.port.now], effects)
  | ignored (manager : Manager κ) (frame : Frame κ) (call : input.call = .receive frame)
      (other : ¬ Counts ours input.addressValid frame) :
      Main configuration input false manager manager
  | absent (manager : Manager κ) (frame : Frame κ) (call : input.call = .receive frame)
      (fresh : Fresh manager.1 frame.key) : Main configuration input false manager manager
  | full (manager : Manager κ) (frame : Frame κ) (call : input.call = .receive frame)
      (request : frame.group = .connectionManagement ∧
        frame.multiplexor = requestToSendMultiplexor)
      (many : configuration.maxNumberTransportProtocolSessions ≤ manager.1.length) :
      Main configuration input false manager manager
  | requested (sessions : List (Session κ)) (effects : Effects κ) (frame : Frame κ)
      (call : input.call = .receive frame) (counts : Counts ours input.addressValid frame)
      (request : frame.group = .connectionManagement ∧
        frame.multiplexor = requestToSendMultiplexor)
      (fresh : Fresh sessions frame.key)
      (room : sessions.length < configuration.maxNumberTransportProtocolSessions) :
      Main configuration input false (sessions, effects)
        (sessions ++ [.requested configuration frame effects.port.now], effects)
  | cleared (before after : List (Session κ)) (session : Session κ) (effects : Effects κ)
      (frame : Frame κ) (call : input.call = .receive frame) (other : frame.Other)
      (state : session.state = .waitForClearToSend) (packetsToBeSent : UInt8)
      (nextPacketNumber : UInt32) (value : StateMachineState)
      (next : value = .waitForClearToSend ∨ value = .sendDataPacketOffset) :
      Main configuration input false (before ++ session :: after, effects)
        (before ++ { session.cleared packetsToBeSent nextPacketNumber effects.port.now with
          state := value } :: after, effects)
  | offset (before after : List (Session κ)) (session : Session κ) (effects : Effects κ)
      (frame : Frame κ) (call : input.call = .receive frame)
      (counts : Counts ours input.addressValid frame)
      (group : frame.group = .connectionManagement ∧
        frame.multiplexor = dataPacketOffsetMultiplexor)
      (key : session.key = frame.key) (state : session.state = .waitForDataPacketOffset)
      (value : StateMachineState)
      (next : value = .waitForDataPacketOffset ∨ value = .waitForDataTransferPacket) :
      Main configuration input false (before ++ session :: after, effects)
        (before ++ { session.offset frame effects.port.now with state := value } :: after, effects)
  | packet (before after : List (Session κ)) (session : Session κ) (effects : Effects κ)
      (frame : Frame κ) (call : input.call = .receive frame)
      (counts : Counts ours input.addressValid frame) (expects : session.Expects frame)
      (remain : (session.received frame effects.port.now).getNumberOfRemainingPackets ≠ 0)
      (value : StateMachineState)
      (next : value = .waitForDataTransferPacket ∨ value = .sendClearToSend) :
      Main configuration input false (before ++ session :: after, effects)
        (before ++ { session.received frame effects.port.now with state := value } :: after,
          effects)
  | finished (before after : List (Session κ)) (session : Session κ) (effects : Effects κ)
      (frame : Frame κ) (call : input.call = .receive frame)
      (counts : Counts ours input.addressValid frame) (expects : session.Expects frame)
      (last : (session.received frame effects.port.now).getNumberOfRemainingPackets = 0) :
      Main configuration input false (before ++ session :: after, effects)
        (before ++ after,
          closeSession { effects with
            delivered := effects.delivered ++
              [{ source := frame.source, destination := frame.destination
                 parameterGroupNumber := completedGroup session.parameterGroupNumber
                 data := (session.received frame effects.port.now).data }] }
            (session.received frame effects.port.now) true)

variable {configuration : Configuration}

theorem connectionManagement_other {source destination : κ} {multiplexor : UInt8}
    {bytes : List UInt8} {parameterGroupNumber : UInt32}
    (request : multiplexor ≠ requestToSendMultiplexor)
    (offset : multiplexor ≠ dataPacketOffsetMultiplexor) :
    (connectionManagement source destination multiplexor bytes parameterGroupNumber).Other :=
  ⟨rfl, request, offset⟩

theorem acknowledgement_other (session : Session κ) :
    (endOfSessionAcknowledgement session).Other :=
  connectionManagement_other (by decide) (by decide)

theorem send_now (effects : Effects κ) (frame : Frame κ) :
    (effects.send frame).2.port.now = effects.port.now :=
  Port.transmit_now ..

theorem abort_minors (configuration : Configuration) (before after : List (Session κ))
    (session : Session κ) (effects : Effects κ) (reason : ConnectionAbortReason) :
    Minors configuration (before ++ session :: after, effects)
      (before ++ after, abortSession effects session reason) := by
  have other {sender receiver : κ} : (connectionManagement sender receiver
      connectionAbortMultiplexor [reason.code, 0xFF, 0xFF, 0xFF]
      session.parameterGroupNumber).Other :=
    connectionManagement_other (by decide) (by decide)
  have spoken : Minor configuration _ _ := .speak (before ++ session :: after) effects _
    (@other session.ends.1 session.ends.2)
  have closed : Minor configuration _ _ := .close before after session
    (sendAbort effects session.ends.1 session.ends.2 session.parameterGroupNumber reason) false
  have aborted : abortSession effects session reason = closeSession
      (sendAbort effects session.ends.1 session.ends.2 session.parameterGroupNumber reason)
      session false := rfl
  rw [aborted]
  exact .tail (.single spoken) closed

theorem updateStateMachine_none {session : Session κ} {effects result : Effects κ}
    (closes : updateStateMachine configuration session effects = (none, result)) :
    result = abortSession effects session .timeout ∨
      result = closeSession effects session false := by
  unfold updateStateMachine at closes
  dsimp only at closes
  split at closes
  case h_3 =>
    split at closes
    · split at closes
      · exact .inl (Prod.mk.inj closes).2.symm
      · exact .inr (Prod.mk.inj closes).2.symm
    · cases closes
  case h_5 | h_8 | h_9 =>
    split at closes
    · exact .inl (Prod.mk.inj closes).2.symm
    · cases closes
  case h_7 => cases closes
  case h_1 => cases closes
  all_goals
    split at closes <;> cases closes

theorem update_minors (configuration : Configuration) (addressValid : κ → Bool)
    (before sessions : List (Session κ)) (effects : Effects κ) :
    Minors configuration (before ++ sessions, effects)
      (before ++ (update configuration addressValid sessions effects).1,
        (update configuration addressValid sessions effects).2) := by
  induction sessions generalizing before effects with
  | nil => exact .refl
  | cons session rest ih =>
    have first := ih (before ++ [session]) effects
    rw [List.append_assoc, List.append_assoc, List.singleton_append, List.singleton_append] at first
    unfold update
    generalize update configuration addressValid rest effects = result at first ⊢
    obtain ⟨rest, effects⟩ := result
    dsimp only at first ⊢
    split
    · exact first.tail (.close before rest session effects false)
    · split
      · exact first.tail (.close before rest session effects false)
      · split
        · cases ticks : updateStateMachine configuration session effects with
          | mk next result =>
            cases next with
            | some next => exact first.tail (.tick before rest session next effects result ticks)
            | none =>
              rcases updateStateMachine_none ticks with rfl | rfl
              · exact first.trans (abort_minors configuration before rest session effects .timeout)
              · exact first.tail (.close before rest session effects false)
        · exact first

inductive Tick (session : Session κ) (effects : Effects κ) : Session κ → Effects κ → Prop where
  | idle : Tick session effects session effects
  | request (state : session.state = .sendRequestToSend) (result : Effects κ)
      (sent : effects.send (requestToSend session) = (true, result)) :
      Tick session effects (session.setState result.port.now .waitForClearToSend) result
  | clear (state : session.state = .sendClearToSend) (frame : Frame κ) (other : frame.Other)
      (acknowledged timestamp : UInt32) (value : StateMachineState)
      (next : value = .sendClearToSend ∨ value = .waitForDataPacketOffset) :
      Tick session effects
        { session with
          lastAcknowledgedPacketNumber := acknowledged, timestamp := timestamp, state := value }
        (effects.send frame).2
  | offset (state : session.state = .sendDataPacketOffset) (packets : UInt8) (result : Effects κ)
      (sent : effects.send (dataPacketOffset session packets) = (true, result)) :
      Tick session effects
        { session with
          dataPacketOffsetPacketCount := packets
          sequenceNumberOffset := session.getLastPacketNumber
          lastSequenceNumber := 0
          timestamp := result.port.now
          state := .sendDataTransferPackets }
        result
  | packets (state : session.state = .sendDataTransferPackets) (framesToSend : Nat)
      (timestamp : UInt32) (value : StateMachineState)
      (next : value = .sendDataTransferPackets ∨ value = .waitForEndOfMessageAcknowledge ∨
        value = .waitForClearToSend) :
      Tick session effects
        { (sendPackets framesToSend session effects).1 with
          timestamp := timestamp, state := value }
        (sendPackets framesToSend session effects).2
  | refused (frame : Frame κ) (blocked : (effects.send frame).1 = false) :
      Tick session effects session (effects.send frame).2

theorem sendClearToSend_eq (session : Session κ) (effects : Effects κ) :
    ∃ frame : Frame κ, frame.Other ∧ sendClearToSend session effects =
      ((effects.send frame).1,
        if (effects.send frame).1 then
          { session with
            lastAcknowledgedPacketNumber := session.getLastPacketNumber
            timestamp := (effects.send frame).2.port.now }
        else session,
        (effects.send frame).2) :=
  ⟨_, connectionManagement_other (by decide) (by decide), rfl⟩

theorem sendDataPacketOffset_eq (configuration : Configuration) (session : Session κ)
    (effects : Effects κ) :
    ∃ packets : UInt8, sendDataPacketOffset configuration session effects =
      ((effects.send (dataPacketOffset session packets)).1,
        if (effects.send (dataPacketOffset session packets)).1 then
          { session with
            dataPacketOffsetPacketCount := packets
            sequenceNumberOffset := session.getLastPacketNumber
            lastSequenceNumber := 0
            timestamp := (effects.send (dataPacketOffset session packets)).2.port.now }
        else session,
        (effects.send (dataPacketOffset session packets)).2) :=
  ⟨_, rfl⟩

theorem sendPackets_state (framesToSend : Nat) (session : Session κ) (effects : Effects κ) :
    (sendPackets framesToSend session effects).1.state = session.state := by
  induction framesToSend generalizing session effects with
  | zero => rfl
  | succ framesToSend ih =>
    unfold sendPackets
    split
    · exact ih ..
    · rfl

theorem tick_cases {session next : Session κ} {effects result : Effects κ}
    (ticks : updateStateMachine configuration session effects = (some next, result)) :
    Tick session effects next result := by
  unfold updateStateMachine at ticks
  dsimp only at ticks
  split at ticks <;> rename_i state
  case h_1 =>
    cases ticks
    exact .idle
  case h_3 =>
    split at ticks
    · split at ticks <;> cases ticks
    · cases ticks
      exact .idle
  case h_2 =>
    split at ticks <;> rename_i after equal <;> cases ticks
    · exact .request state result equal
    · have blocked : (effects.send (requestToSend session)).1 = false := by
        rw [← sendRequestToSend, equal]
      have same : (effects.send (requestToSend session)).2 = result := by
        rw [← sendRequestToSend, equal]
      rw [← same]
      exact .refused _ blocked
  case h_5 | h_8 | h_9 =>
    split at ticks <;> cases ticks
    exact .idle
  case h_4 =>
    obtain ⟨frame, other, equal⟩ := sendClearToSend_eq session effects
    rw [equal] at ticks
    cases sent : (effects.send frame).1 <;> simp only [sent, if_true, if_false,
      Bool.false_eq_true] at ticks <;> cases ticks
    · exact .refused frame sent
    · exact .clear state frame other _ _ _ (.inr rfl)
  case h_6 =>
    obtain ⟨packets, equal⟩ := sendDataPacketOffset_eq configuration session effects
    rw [equal] at ticks
    cases sent : (effects.send (dataPacketOffset session packets)).1 <;>
      simp only [sent, if_true, if_false, Bool.false_eq_true] at ticks <;> cases ticks
    · exact .refused _ sent
    · exact .offset state packets _ (Prod.ext sent rfl)
  case h_7 =>
    unfold sendDataTransferPackets at ticks
    dsimp only at ticks
    generalize count : (min session.getDpoNumberOfPacketsRemaining
      configuration.networkManagerMaxFramesToSendPerUpdate).toNat = framesToSend at ticks
    have packets (timestamp : UInt32) (value : StateMachineState)
        (next : value = .sendDataTransferPackets ∨ value = .waitForEndOfMessageAcknowledge ∨
          value = .waitForClearToSend) : Tick session effects _ _ :=
      .packets state framesToSend timestamp value next
    split at ticks
    · cases ticks
      exact packets _ _ (.inr (.inl rfl))
    · split at ticks
      · cases ticks
        exact packets _ _ (.inr (.inr rfl))
      · cases ticks
        have same := sendPackets_state framesToSend session effects
        have stays := packets (sendPackets framesToSend session effects).1.timestamp
          .sendDataTransferPackets (.inl rfl)
        rw [← state, ← same] at stays
        exact stays

def Shape (configuration : Configuration) (input : Input ours) (accepted : Bool)
    (start result : Manager κ) : Prop :=
  ∃ middle next, Minors configuration start middle ∧
    Main configuration input accepted middle next ∧ Minors configuration next result

variable {input : Input ours} {frame : Frame κ}

theorem shape_gone {start : Manager κ} {rest : List (Session κ)} {effects : Effects κ}
    (call : input.call = .receive frame) (minors : Minors configuration start (rest, effects))
    (fresh : Fresh rest frame.key) : Shape configuration input false start (rest, effects) :=
  ⟨_, _, minors, .absent _ frame call fresh, .refl⟩

theorem tick_minors (configuration : Configuration) (before after : List (Session κ))
    (session : Session κ) (effects : Effects κ) :
    Minors configuration (before ++ session :: after, effects)
      (before ++ (updateStateMachine configuration session effects).1.toList ++ after,
        (updateStateMachine configuration session effects).2) := by
  cases ticks : updateStateMachine configuration session effects with
  | mk next result =>
    cases next with
    | some next =>
      have step := Minor.tick before after session next effects result ticks
      simpa using Relation.ReflTransGen.single step
    | none =>
      rcases updateStateMachine_none ticks with rfl | rfl
      · simpa using abort_minors configuration before after session effects .timeout
      · have step : Minor configuration _ _ := .close before after session effects false
        simpa using Relation.ReflTransGen.single step

theorem shape_opens {start : Manager κ} {rest : List (Session κ)} {effects : Effects κ}
    (call : input.call = .receive frame) (counts : Counts ours input.addressValid frame)
    (request : frame.group = .connectionManagement ∧
      frame.multiplexor = requestToSendMultiplexor)
    (minors : Minors configuration start (rest, effects)) (fresh : Fresh rest frame.key)
    (room : rest.length < configuration.maxNumberTransportProtocolSessions) :
    Shape configuration input false start
      (rest ++ (updateStateMachine configuration
          (.requested configuration frame effects.port.now) effects).1.toList,
        (updateStateMachine configuration
          (.requested configuration frame effects.port.now) effects).2) := by
  have tick := tick_minors configuration rest []
    (.requested configuration frame effects.port.now) effects
  rw [List.append_nil] at tick
  exact ⟨_, _, minors, .requested rest effects frame call counts request fresh room, tick⟩

theorem shape_other {start result : Manager κ} (call : input.call = .receive frame)
    (other : frame.Other) (minors : Minors configuration start result) :
    Shape configuration input false start result :=
  ⟨_, _, minors, .ignored _ frame call fun counts => counts.carries other, .refl⟩

def Unique (sessions : List (Session κ)) : Prop :=
  (sessions.map Session.key).Nodup

theorem Unique.alone {before after : List (Session κ)} {session : Session κ}
    (unique : Unique (before ++ session :: after)) : Fresh (before ++ after) session.key := by
  have apart : session.key ∉ (before ++ after).map Session.key := by
    simp only [Unique, List.map_append, List.map_cons] at unique
    rw [List.map_append]
    exact (List.nodup_cons.mp (List.nodup_middle.mp unique)).1
  intro other member same
  exact apart (List.mem_map.mpr ⟨other, member, same⟩)

section Calls

variable [DecidableEq κ]

theorem matches_iff (session : Session κ) (source destination : κ) :
    session.matches source destination = true ↔ session.key = (source, destination) := by
  simp [Session.matches, Session.key]

theorem getSession_none {sessions : List (Session κ)} {source destination : κ}
    (none : getSession sessions source destination = none) :
    Fresh sessions (source, destination) := by
  intro session member same
  have missed := List.find?_eq_none.mp none session member
  exact missed ((matches_iff ..).mpr same)

theorem hasSession_false {sessions : List (Session κ)} {source destination : κ}
    (none : hasSession sessions source destination = false) :
    Fresh sessions (source, destination) := by
  intro session member same
  have missed := List.any_eq_false.mp none session member
  exact missed ((matches_iff ..).mpr same)

theorem getSession_some {sessions : List (Session κ)} {source destination : κ}
    {session : Session κ} (found : getSession sessions source destination = some session) :
    session.key = (source, destination) ∧ ∃ before after, sessions = before ++ session :: after ∧
      Fresh before (source, destination) ∧
      ∀ changed, putSession source destination changed sessions =
        before ++ changed.toList ++ after := by
  induction sessions with
  | nil => cases found
  | cons head rest ih =>
    by_cases same : head.matches source destination = true
    · have equal : head = session := by simpa [getSession, same] using found
      subst equal
      refine ⟨(matches_iff ..).mp same, [], rest, rfl, ?_, ?_⟩
      · intro session member
        cases member
      · intro changed
        simp [putSession, same]
    · have later : getSession rest source destination = some session := by
        simpa [getSession, same] using found
      obtain ⟨key, before, after, split, fresh, put⟩ := ih later
      refine ⟨key, head :: before, after, by rw [split]; rfl, ?_, ?_⟩
      · intro session member
        rcases List.mem_cons.mp member with rfl | inside
        · exact fun equal => same ((matches_iff ..).mpr equal)
        · exact fresh session inside
      · intro changed
        simp [putSession, same, put changed]

theorem getSession_alone {sessions : List (Session κ)} {source destination : κ}
    {session : Session κ} (unique : Unique sessions)
    (found : getSession sessions source destination = some session) :
    session.key = (source, destination) ∧ ∃ before after, sessions = before ++ session :: after ∧
      Fresh (before ++ after) (source, destination) ∧
      ∀ changed, putSession source destination changed sessions =
        before ++ changed.toList ++ after := by
  obtain ⟨key, before, after, split, -, put⟩ := getSession_some found
  refine ⟨key, before, after, split, ?_, put⟩
  subst split
  rw [← key]
  exact unique.alone

theorem shape_request {sessions : List (Session κ)} (unique : Unique sessions)
    (effects : Effects κ) (call : input.call = .receive frame)
    (counts : Counts ours input.addressValid frame)
    (request : frame.group = .connectionManagement ∧
      frame.multiplexor = requestToSendMultiplexor) :
    Shape configuration input false (sessions, effects)
      (processRequestToSend configuration sessions effects frame.source frame.destination
        (uint24At frame.data 5) (uint32At frame.data 1)) := by
  unfold processRequestToSend
  split
  · rename_i many
    have other : (connectionManagement frame.destination frame.source connectionAbortMultiplexor
        [ConnectionAbortReason.alreadyInCMSession.code, 0xFF, 0xFF, 0xFF]
        (uint24At frame.data 5)).Other := connectionManagement_other (by decide) (by decide)
    exact ⟨_, _, .refl, .full _ frame call request many, .single (.speak sessions effects _ other)⟩
  · rename_i few
    have room := Nat.lt_of_not_le few
    cases found : getSession sessions frame.source frame.destination with
    | none => exact shape_opens call counts request .refl (getSession_none found) room
    | some old =>
      obtain ⟨-, before, after, rfl, fresh, put⟩ := getSession_alone unique found
      have erased : putSession frame.source frame.destination none (before ++ old :: after) =
          before ++ after := by simpa using put none
      have less : (before ++ after).length <
          configuration.maxNumberTransportProtocolSessions := by
        simp only [List.length_append, List.length_cons] at room ⊢
        omega
      dsimp only
      rw [erased]
      split
      · exact shape_opens call counts request
          (abort_minors configuration before after old effects _) fresh less
      · exact shape_opens call counts request (.single (.close before after old effects false))
          fresh less

theorem shape_offset {sessions : List (Session κ)} (unique : Unique sessions)
    (effects : Effects κ) (call : input.call = .receive frame)
    (counts : Counts ours input.addressValid frame)
    (group : frame.group = .connectionManagement ∧
      frame.multiplexor = dataPacketOffsetMultiplexor) :
    Shape configuration input false (sessions, effects)
      (processDataPacketOffset sessions effects frame.source frame.destination
        (uint24At frame.data 5) (frame.data.getD 1 0) (uint24At frame.data 2)) := by
  unfold processDataPacketOffset
  cases found : getSession sessions frame.source frame.destination with
  | none => exact shape_gone call .refl (getSession_none found)
  | some session =>
    obtain ⟨key, before, after, rfl, fresh, put⟩ := getSession_alone unique found
    have erased : putSession frame.source frame.destination none (before ++ session :: after) =
        before ++ after := by simpa using put none
    have aborted (reason : ConnectionAbortReason) :=
      abort_minors configuration before after session effects reason
    dsimp only
    rw [erased]
    split
    · have other : (connectionManagement frame.destination frame.source connectionAbortMultiplexor
          [ConnectionAbortReason.unexpectedDataPacketOffsetPGN.code, 0xFF, 0xFF, 0xFF]
          (uint24At frame.data 5)).Other := connectionManagement_other (by decide) (by decide)
      exact shape_gone call ((aborted _).tail (.speak (before ++ after) _ _ other)) fresh
    · split
      · exact shape_gone call (aborted _) fresh
      · rename_i state
        split
        · exact shape_gone call (aborted _) fresh
        · split
          · exact shape_gone call (aborted _) fresh
          · rw [put, Option.toList_some, List.append_assoc, List.singleton_append]
            have waits : session.state = .waitForDataPacketOffset := by simpa using state
            refine ⟨_, _, .refl, ?_, .refl⟩
            have main (value : StateMachineState) (next : value = .waitForDataPacketOffset ∨
                value = .waitForDataTransferPacket) : Main configuration input _ _ _ :=
              .offset before after session effects frame call counts
                group key waits value next
            split
            · exact main .waitForDataTransferPacket (.inr rfl)
            · have same := main .waitForDataPacketOffset (.inl rfl)
              rw [← waits] at same
              exact same

theorem shape_clear (sessions : List (Session κ)) (effects : Effects κ)
    (call : input.call = .receive frame) (other : frame.Other) :
    Shape configuration input false (sessions, effects)
      (processClearToSend sessions effects frame.source frame.destination
        (uint24At frame.data 5) (frame.data.getD 1 0) (uint24At frame.data 2)) := by
  unfold processClearToSend
  cases found : getSession sessions frame.destination frame.source with
  | none => exact shape_other call other .refl
  | some session =>
    obtain ⟨-, before, after, rfl, -, put⟩ := getSession_some found
    have erased : putSession frame.destination frame.source none (before ++ session :: after) =
        before ++ after := by simpa using put none
    have aborted (reason : ConnectionAbortReason) :=
      abort_minors configuration before after session effects reason
    dsimp only
    rw [erased]
    split
    · have abort : (connectionManagement frame.destination frame.source connectionAbortMultiplexor
          [ConnectionAbortReason.clearToSendReceivedWhileTransferInProgress.code, 0xFF, 0xFF, 0xFF]
          (uint24At frame.data 5)).Other := connectionManagement_other (by decide) (by decide)
      exact shape_other call other ((aborted _).tail (.speak (before ++ after) _ _ abort))
    · split
      · exact shape_other call other (aborted _)
      · split
        · exact shape_other call other (aborted _)
        · rename_i state
          have waits : session.state = .waitForClearToSend := by simpa using state
          have main (value : StateMachineState)
              (next : value = .waitForClearToSend ∨ value = .sendDataPacketOffset) :
              Main configuration input _ _ _ :=
            .cleared before after session effects frame call
              other waits (frame.data.getD 1 0) (uint24At frame.data 2) value next
          rw [put, Option.toList_some, List.append_assoc, List.singleton_append]
          refine ⟨_, _, .refl, ?_, .refl⟩
          split
          · exact main .sendDataPacketOffset (.inr rfl)
          · have same := main .waitForClearToSend (.inl rfl)
            rw [← waits] at same
            exact same

theorem shape_acknowledge (sessions : List (Session κ)) (effects : Effects κ)
    (call : input.call = .receive frame) (other : frame.Other) (numberOfBytes : UInt32) :
    Shape configuration input false (sessions, effects)
      (processEndOfSessionAcknowledgement sessions effects frame.source frame.destination
        numberOfBytes) := by
  unfold processEndOfSessionAcknowledgement
  cases found : getSession sessions frame.destination frame.source with
  | none => exact shape_other call other .refl
  | some session =>
    obtain ⟨-, before, after, rfl, -, put⟩ := getSession_some found
    have erased : putSession frame.destination frame.source none (before ++ session :: after) =
        before ++ after := by simpa using put none
    dsimp only
    rw [erased]
    split
    · exact shape_other call other (.single (.close before after session effects _))
    · exact shape_other call other .refl

theorem closeAborted_minors (configuration : Configuration) (sessions : List (Session κ))
    (effects : Effects κ) (source destination : κ) (parameterGroupNumber : UInt32) :
    Minors configuration (sessions, effects)
      (closeAborted sessions effects source destination parameterGroupNumber) := by
  unfold closeAborted
  cases found : getSession sessions source destination with
  | none => exact .refl
  | some session =>
    obtain ⟨-, before, after, rfl, -, put⟩ := getSession_some found
    have erased : putSession source destination none (before ++ session :: after) =
        before ++ after := by simpa using put none
    dsimp only
    rw [erased]
    split
    · exact .single (.close before after session effects false)
    · exact .refl

theorem shape_abort (sessions : List (Session κ)) (effects : Effects κ)
    (call : input.call = .receive frame) (other : frame.Other) :
    Shape configuration input false (sessions, effects)
      (processAbort sessions effects frame.source frame.destination (uint24At frame.data 5)) := by
  have first := closeAborted_minors configuration sessions effects frame.source frame.destination
    (uint24At frame.data 5)
  have second := closeAborted_minors configuration
    (closeAborted sessions effects frame.source frame.destination (uint24At frame.data 5)).1
    (closeAborted sessions effects frame.source frame.destination (uint24At frame.data 5)).2
    frame.destination frame.source (uint24At frame.data 5)
  exact shape_other call other (first.trans second)

theorem shape_packet {sessions : List (Session κ)} (unique : Unique sessions)
    (effects : Effects κ) (call : input.call = .receive frame)
    (counts : Counts ours input.addressValid frame) (group : frame.group = .dataTransfer) :
    Shape configuration input false (sessions, effects)
      (processDataTransferMessage configuration sessions effects frame) := by
  unfold processDataTransferMessage
  rw [if_neg (by simp [counts.full])]
  dsimp only
  cases found : getSession sessions frame.source frame.destination with
  | none => exact shape_gone call .refl (getSession_none found)
  | some session =>
    obtain ⟨key, before, after, rfl, fresh, put⟩ := getSession_alone unique found
    have erased : putSession frame.source frame.destination none (before ++ session :: after) =
        before ++ after := by simpa using put none
    have aborted (reason : ConnectionAbortReason) :=
      abort_minors configuration before after session effects reason
    dsimp only
    rw [erased]
    split
    · exact shape_gone call (aborted _) fresh
    · rename_i state
      have waits : session.state = .waitForDataTransferPacket := by simpa using state
      split
      · exact shape_gone call (aborted _) fresh
      · split
        · rename_i next
          have expects : session.Expects frame := ⟨key, group, waits, next⟩
          split
          · rename_i last
            have acknowledged : Minor configuration _ _ := .speak
              (before ++ session :: after) effects _
              (acknowledgement_other (session.received frame effects.port.now))
            have now : (sendEndOfSessionAcknowledgement (session.received frame effects.port.now)
                effects).port.now = effects.port.now := send_now ..
            have main : Main configuration input _ _ _ := .finished before after session
              (sendEndOfSessionAcknowledgement (session.received frame effects.port.now) effects)
              frame call counts expects (now ▸ last)
            rw [now] at main
            exact ⟨_, _, .single acknowledged, main, .refl⟩
          · rename_i remain
            split
            · have main : Main configuration input _ _ _ := .packet before after session effects
                frame call counts expects remain .sendClearToSend (.inr rfl)
              have tick := tick_minors configuration before after
                { session.received frame effects.port.now with state := .sendClearToSend } effects
              simp only [put]
              exact ⟨_, _, .refl, main, tick⟩
            · have main : Main configuration input _ _ _ := .packet before after session effects
                frame call counts expects remain .waitForDataTransferPacket (.inl rfl)
              rw [put, Option.toList_some, List.append_assoc, List.singleton_append]
              rw [← waits] at main
              exact ⟨_, _, .refl, main, .refl⟩
        · exact shape_gone call (aborted _) fresh

theorem shape_transmit {sessions : List (Session κ)} (effects : Effects κ)
    (transmission : Transmission ours) (call : input.call = .transmit transmission) :
    Shape configuration input
      (protocolTransmitMessage configuration input.addressValid sessions effects
        transmission.parameterGroupNumber transmission.data transmission.source
        transmission.destination transmission.notifies).1 (sessions, effects)
      (protocolTransmitMessage configuration input.addressValid sessions effects
        transmission.parameterGroupNumber transmission.data transmission.source
        transmission.destination transmission.notifies).2 := by
  unfold protocolTransmitMessage
  split
  · exact ⟨_, _, .refl, .refused _ transmission call, .refl⟩
  · rename_i size
    split
    · exact ⟨_, _, .refl, .refused _ transmission call, .refl⟩
    · rename_i free
      have fits : 1785 < transmission.data.length ∧
          transmission.data.length ≤ maxProtocolDataLength := by omega
      have none : hasSession sessions transmission.source transmission.destination = false := by
        simpa using fun found => free (.inr (.inr found))
      have main : Main configuration input _ _ _ := .begun sessions effects transmission call
        fits (hasSession_false none)
      have tick := tick_minors configuration sessions []
        (.begun transmission effects.port.now) effects
      rw [List.append_nil] at tick
      exact ⟨_, _, .refl, main, tick⟩

theorem shape_management {sessions : List (Session κ)} (unique : Unique sessions)
    (effects : Effects κ) (call : input.call = .receive frame)
    (valid : input.addressValid frame.source = true ∧ input.addressValid frame.destination = true)
    (mine : ours frame.destination = true) (group : frame.group = .connectionManagement) :
    Shape configuration input false (sessions, effects)
      (processConnectionManagementMessage configuration sessions effects frame) := by
  unfold processConnectionManagementMessage
  split
  · rename_i short
    exact ⟨_, _, .refl, .ignored _ frame call fun counts => short counts.full, .refl⟩
  · rename_i full
    have length : frame.data.length = 8 := by simpa using full
    dsimp only
    split
    · rename_i request
      have carries : ¬ frame.Other := fun other => other.2.1 request
      exact shape_request unique effects call ⟨valid, mine, length, carries⟩ ⟨group, request⟩
    · rename_i noRequest
      split
      · rename_i clear
        have other : frame.Other := ⟨group, noRequest, fun offset => by
          cases clear.symm.trans offset⟩
        exact shape_clear sessions effects call other
      · split
        · rename_i offset
          have carries : ¬ frame.Other := fun other => other.2.2 offset
          exact shape_offset unique effects call ⟨valid, mine, length, carries⟩ ⟨group, offset⟩
        · rename_i noOffset
          have other : frame.Other := ⟨group, noRequest, noOffset⟩
          split
          · exact shape_acknowledge sessions effects call other _
          · split
            · exact shape_abort sessions effects call other
            · exact shape_other call other .refl

theorem step_shape (configuration : Configuration) {sessions : List (Session κ)}
    (unique : Unique sessions) (input : Input ours) :
    Shape configuration input (step configuration sessions input).accepted
      (sessions, .fresh input.now input.accepts)
      ((step configuration sessions input).sessions,
        (step configuration sessions input).effects) := by
  unfold step
  dsimp only
  cases call : input.call with
  | update =>
    have minors := update_minors configuration input.addressValid [] sessions
      (.fresh input.now input.accepts)
    exact ⟨_, _, minors, .updated _ call, .refl⟩
  | transmit transmission => exact shape_transmit _ transmission call
  | receive frame =>
    dsimp only
    unfold processMessage
    split
    · rename_i valid
      cases group : frame.group with
      | connectionManagement =>
        exact shape_management unique _ call ⟨valid.1, valid.2.1⟩ valid.2.2 group
      | dataTransfer =>
        by_cases full : frame.data.length = 8
        · have carries : ¬ frame.Other := fun other => by cases group.symm.trans other.1
          exact shape_packet unique _ call ⟨⟨valid.1, valid.2.1⟩, valid.2.2, full, carries⟩ group
        · have short : processDataTransferMessage configuration sessions
              (.fresh input.now input.accepts) frame =
              (sessions, .fresh input.now input.accepts) := by
            simp [processDataTransferMessage, full]
          dsimp only
          rw [short]
          exact ⟨_, _, .refl, .ignored _ frame call fun counts => full counts.full, .refl⟩
    · rename_i invalid
      refine ⟨_, _, .refl, .ignored _ frame call fun counts => invalid ?_, .refl⟩
      exact ⟨counts.valid.1, counts.valid.2, counts.ours⟩

end Calls

end LittleDawn.ExtendedTransport
