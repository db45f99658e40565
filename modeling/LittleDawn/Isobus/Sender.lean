import LittleDawn.Isobus.Wire

set_option autoImplicit false

namespace LittleDawn.ExtendedTransport

variable {κ : Type} {ours : κ → Bool} {configuration : Configuration}

def Session.Tells (session : Session κ) (messages : List Message) (cursor : Cursor) : Prop :=
  ∃ index message, messages[index]? = some message ∧ session.Sends message ∧
    (session.state = .sendRequestToSend → cursor.begun ≤ index ∧ session.Stands .start) ∧
    (session.state ≠ .sendRequestToSend → cursor.begun = index + 1 ∧ session.Stands cursor)

theorem Session.Tells.same {session next : Session κ} {messages : List Message} {cursor : Cursor}
    (tells : session.Tells messages cursor)
    (group : next.parameterGroupNumber = session.parameterGroupNumber)
    (data : next.data = session.data) (size : next.totalMessageSize = session.totalMessageSize)
    (offset : next.sequenceNumberOffset = session.sequenceNumberOffset)
    (sequence : next.lastSequenceNumber = session.lastSequenceNumber)
    (before : session.state ≠ .sendRequestToSend) (after : next.state ≠ .sendRequestToSend) :
    next.Tells messages cursor := by
  obtain ⟨index, message, here, sends, -, going⟩ := tells
  obtain ⟨current, stands⟩ := going before
  refine ⟨index, message, here, ⟨?_, ?_, ?_⟩, fun impossible => absurd impossible after,
    fun _ => ?_⟩
  · rw [group]
    exact sends.group
  · rw [data]
    exact sends.data
  · rw [size]
    exact sends.size
  · refine ⟨current, ?_, ?_⟩
    · rw [offset]
      exact stands.offset
    · rw [sequence]
      exact stands.sequence

theorem Session.Tells.later {session : Session κ} {messages added : List Message} {cursor : Cursor}
    (tells : session.Tells messages cursor) : session.Tells (messages ++ added) cursor := by
  obtain ⟨index, message, here, rest⟩ := tells
  refine ⟨index, message, ?_, rest⟩
  rw [List.getElem?_append_left (List.getElem?_eq_some_iff.mp here).1, here]

theorem send_sent (effects : Effects κ) (frame : Frame κ) :
    (effects.send frame).2.port.sent =
      if (effects.send frame).1 then effects.port.sent ++ [frame] else effects.port.sent :=
  Port.transmit_sent ..

theorem sent_blocked {frame : Frame κ} {effects : Effects κ}
    (blocked : (effects.send frame).1 = false) :
    (effects.send frame).2.port.sent = effects.port.sent := by
  rw [send_sent, blocked, if_neg Bool.false_ne_true]

theorem closeSession_port (effects : Effects κ) (session : Session κ) (successful : Bool) :
    (closeSession effects session successful).port = effects.port := by
  unfold closeSession
  split <;> rfl

section Sender

variable [DecidableEq κ]

def spoken (key : κ × κ) (frames : List (Frame κ)) : List (Frame κ) :=
  frames.filter fun frame => frame.key = key

-- What has been told so far, and what the session that tells it is at.
structure Telling (key : κ × κ) (messages : List Message) (told : List (Frame κ)) (cursor : Cursor)
    (manager : Manager κ) : Prop where
  speaks : Speaks messages .start (told ++ spoken key manager.2.port.sent) cursor
  within : cursor.begun ≤ messages.length
  tells : ∀ session ∈ manager.1, session.key = key → session.Tells messages cursor

variable {key : κ × κ} {messages : List Message} {told : List (Frame κ)} {cursor : Cursor}

theorem spoken_append (frames more : List (Frame κ)) :
    spoken key (frames ++ more) = spoken key frames ++ spoken key more :=
  List.filter_append ..

theorem speaks_send {frame : Frame κ} {effects result : Effects κ} {next : Cursor}
    (sent : effects.send frame = (true, result)) (own : frame.key = key)
    (speaks : Speaks messages .start (told ++ spoken key effects.port.sent) cursor)
    (saying : Says messages cursor frame next) :
    Speaks messages .start (told ++ spoken key result.port.sent) next := by
  have ports := send_sent effects frame
  rw [sent, if_pos rfl] at ports
  have alone : spoken key [frame] = [frame] := by simp [spoken, own]
  rw [ports, spoken_append, alone, ← List.append_assoc]
  exact speaks.snoc saying

theorem spoken_send {frame : Frame κ} (effects : Effects κ) (apart : frame.key ≠ key) :
    spoken key (effects.send frame).2.port.sent = spoken key effects.port.sent := by
  have nothing : spoken key [frame] = [] := by simp [spoken, apart]
  rw [send_sent]
  split
  · rw [spoken_append, nothing, List.append_nil]
  · rfl

theorem speaks_other {frame : Frame κ} (effects : Effects κ) (other : frame.Other)
    (speaks : Speaks messages .start (told ++ spoken key effects.port.sent) cursor) :
    Speaks messages .start (told ++ spoken key (effects.send frame).2.port.sent) cursor := by
  by_cases own : frame.key = key
  · cases sent : effects.send frame with
    | mk taken result =>
      cases taken with
      | true => exact speaks_send sent own speaks (.other other)
      | false =>
        have same : result.port.sent = effects.port.sent := by
          have blocked := sent_blocked (congrArg Prod.fst sent)
          rwa [sent] at blocked
        rw [same]
        exact speaks
  · rw [spoken_send effects own]
    exact speaks

theorem spoken_sendPackets (framesToSend : Nat) (session : Session κ) (effects : Effects κ)
    (apart : session.key ≠ key) :
    spoken key (sendPackets framesToSend session effects).2.port.sent =
      spoken key effects.port.sent := by
  induction framesToSend generalizing session effects with
  | zero => rfl
  | succ framesToSend ih =>
    have first : spoken key (effects.send (dataTransfer session)).2.port.sent =
        spoken key effects.port.sent := spoken_send effects apart
    cases sent : effects.send (dataTransfer session) with
    | mk taken after =>
      rw [sent] at first
      cases taken with
      | true =>
        have rest := ih { session with
          lastSequenceNumber := session.lastSequenceNumber + 1, timestamp := after.port.now }
          after apart
        simpa only [sendPackets, sent, first] using rest
      | false => simpa only [sendPackets, sent] using first

theorem sendPackets_speaks (framesToSend : Nat) (session : Session κ) (effects : Effects κ)
    (cursor : Cursor) {index : Nat} {message : Message} (here : messages[index]? = some message)
    (own : session.key = key) (sends : session.Sends message) (current : cursor.begun = index + 1)
    (stands : session.Stands cursor)
    (speaks : Speaks messages .start (told ++ spoken key effects.port.sent) cursor) :
    ∃ next : Cursor, next.begun = index + 1 ∧
      Speaks messages .start
        (told ++ spoken key (sendPackets framesToSend session effects).2.port.sent) next ∧
      (sendPackets framesToSend session effects).1.Sends message ∧
      (sendPackets framesToSend session effects).1.Stands next := by
  induction framesToSend generalizing session effects cursor with
  | zero => exact ⟨cursor, current, speaks, sends, stands⟩
  | succ framesToSend ih =>
    cases sent : effects.send (dataTransfer session) with
    | mk taken after =>
      cases taken with
      | true =>
        have saying : Says messages cursor (dataTransfer session) _ :=
          .packet index message here current (dataTransfer_carries sends stands)
        have said := speaks_send sent own speaks saying
        have rest := ih { session with
          lastSequenceNumber := session.lastSequenceNumber + 1, timestamp := after.port.now }
          after { cursor with sequence := cursor.sequence + 1 } own
          ⟨sends.group, sends.data, sends.size⟩ current
          ⟨stands.offset, congrArg (· + 1) stands.sequence⟩ said
        simpa only [sendPackets, sent] using rest
      | false =>
        have same : after.port.sent = effects.port.sent := by
          have blocked := sent_blocked (congrArg Prod.fst sent)
          rwa [sent] at blocked
        refine ⟨cursor, current, ?_, ?_, ?_⟩ <;> simp only [sendPackets, sent]
        · rw [same]
          exact speaks
        · exact sends
        · exact stands

theorem Tick.apart {session next : Session κ} {effects result : Effects κ}
    (tick : Tick session effects next result) (apart : session.key ≠ key)
    (speaks : Speaks messages .start (told ++ spoken key effects.port.sent) cursor) :
    Speaks messages .start (told ++ spoken key result.port.sent) cursor := by
  cases tick with
  | idle => exact speaks
  | request state result sent =>
    have same : spoken key (effects.send (requestToSend session)).2.port.sent = _ :=
      spoken_send effects apart
    rw [sent] at same
    rw [same]
    exact speaks
  | clear state frame other => exact speaks_other effects other speaks
  | offset state packets result sent =>
    have same : spoken key (effects.send (dataPacketOffset session packets)).2.port.sent = _ :=
      spoken_send effects apart
    rw [sent] at same
    rw [same]
    exact speaks
  | packets state framesToSend =>
    rw [spoken_sendPackets framesToSend session effects apart]
    exact speaks
  | refused frame blocked =>
    rw [sent_blocked blocked]
    exact speaks

theorem Tick.own {session next : Session κ} {effects result : Effects κ}
    (tick : Tick session effects next result) (own : session.key = key)
    (speaks : Speaks messages .start (told ++ spoken key effects.port.sent) cursor)
    (within : cursor.begun ≤ messages.length) (tells : session.Tells messages cursor) :
    ∃ place : Cursor, Speaks messages .start (told ++ spoken key result.port.sent) place ∧
      place.begun ≤ messages.length ∧ next.Tells messages place := by
  obtain ⟨index, message, here, sends, waiting, going⟩ := tells
  have inside : index + 1 ≤ messages.length := (List.getElem?_eq_some_iff.mp here).1
  cases tick with
  | idle => exact ⟨cursor, speaks, within, index, message, here, sends, waiting, going⟩
  | request state result sent =>
    obtain ⟨later, start⟩ := waiting state
    have saying : Says messages cursor (requestToSend session) _ :=
      .request index message here later (requestToSend_opens sends)
    refine ⟨_, speaks_send sent own speaks saying, inside, index, message, here, ?_, ?_, ?_⟩
    · exact ⟨sends.group, sends.data, sends.size⟩
    · intro impossible
      cases impossible
    · exact fun _ => ⟨rfl, start.offset, start.sequence⟩
  | clear state frame other acknowledged timestamp value next =>
    refine ⟨cursor, speaks_other effects other speaks, within, ?_⟩
    have tells : session.Tells messages cursor := ⟨index, message, here, sends, waiting, going⟩
    refine tells.same rfl rfl rfl rfl rfl (by simp [state]) ?_
    rcases next with rfl | rfl <;> exact fun impossible => by cases impossible
  | offset state packets result sent =>
    obtain ⟨current, stands⟩ := going (by simp [state])
    have saying : Says messages cursor (dataPacketOffset session packets) _ :=
      .offset (dataPacketOffset_moves stands packets)
    refine ⟨_, speaks_send sent own speaks saying, within, index, message, here, ?_, ?_, ?_⟩
    · exact ⟨sends.group, sends.data, sends.size⟩
    · intro impossible
      cases impossible
    · exact fun _ => ⟨current, stands.last, rfl⟩
  | packets state framesToSend timestamp value next =>
    obtain ⟨current, stands⟩ := going (by simp [state])
    obtain ⟨place, placed, said, sent, standing⟩ :=
      sendPackets_speaks framesToSend session effects cursor here own sends current stands speaks
    refine ⟨place, said, placed ▸ inside, index, message, here, ?_, ?_, ?_⟩
    · exact ⟨sent.group, sent.data, sent.size⟩
    · intro impossible
      rcases next with rfl | rfl | rfl <;> cases impossible
    · exact fun _ => ⟨placed, standing.offset, standing.sequence⟩
  | refused frame blocked =>
    rw [sent_blocked blocked]
    exact ⟨cursor, speaks, within, index, message, here, sends, waiting, going⟩

theorem Telling.erase {before after : List (Session κ)} {session : Session κ} {effects : Effects κ}
    (telling : Telling key messages told cursor (before ++ session :: after, effects))
    (result : Effects κ) (port : result.port = effects.port) :
    Telling key messages told cursor (before ++ after, result) := by
  obtain ⟨speaks, within, tells⟩ := telling
  refine ⟨?_, within, ?_⟩
  · dsimp only
    rw [port]
    exact speaks
  · intro other member
    have less : (before ++ after).Sublist (before ++ session :: after) :=
      (List.sublist_cons_self session after).append_left before
    exact tells other (less.subset member)

theorem Telling.replace {before after : List (Session κ)} {session next : Session κ}
    {effects result : Effects κ} {place : Cursor}
    (telling : Telling key messages told cursor (before ++ session :: after, effects))
    (unique : Unique (before ++ session :: after)) (same : next.key = session.key)
    (speaks : Speaks messages .start (told ++ spoken key result.port.sent) place)
    (within : place.begun ≤ messages.length)
    (own : session.key = key → next.Tells messages place)
    (apart : session.key ≠ key → place = cursor) :
    Telling key messages told place (before ++ next :: after, result) := by
  refine ⟨speaks, within, ?_⟩
  have others (other : Session κ) (member : other ∈ before ++ after) (keyed : other.key = key) :
      other.Tells messages place := by
    have distinct : session.key ≠ key := fun equal =>
      unique.alone other member (keyed.trans equal.symm)
    rw [apart distinct]
    refine telling.tells other ?_ keyed
    exact ((List.sublist_cons_self session after).append_left before).subset member
  intro other member keyed
  rcases List.mem_append.mp member with early | rest
  · exact others other (List.mem_append_left _ early) keyed
  · rcases List.mem_cons.mp rest with rfl | late
    · exact own (same.symm.trans keyed)
    · exact others other (List.mem_append_right _ late) keyed

theorem Minor.telling {manager next : Manager κ} (minor : Minor configuration manager next)
    (unique : Unique manager.1) (telling : Telling key messages told cursor manager) :
    ∃ place, Telling key messages told place next := by
  cases minor with
  | speak sessions effects frame other =>
    exact ⟨cursor, speaks_other effects other telling.speaks, telling.within, telling.tells⟩
  | close before after session effects successful =>
    exact ⟨cursor, telling.erase _ (closeSession_port ..)⟩
  | tick before after session next effects result ticks =>
    have tick := tick_cases ticks
    have same := tick.keeps.key
    by_cases own : session.key = key
    · obtain ⟨place, said, within, tells⟩ :=
        tick.own own telling.speaks telling.within (telling.tells session (by simp) own)
      exact ⟨place, telling.replace unique same said within (fun _ => tells)
        fun apart => absurd own apart⟩
    · exact ⟨cursor, telling.replace unique same (tick.apart own telling.speaks) telling.within
        (fun equal => absurd equal own) fun _ => rfl⟩

theorem Minors.telling {manager next : Manager κ} (minors : Minors configuration manager next)
    (formed : WellFormed configuration ours manager.1)
    (telling : Telling key messages told cursor manager) :
    ∃ place, Telling key messages told place next := by
  induction minors with
  | refl => exact ⟨cursor, telling⟩
  | tail first minor ih =>
    obtain ⟨place, telling⟩ := ih
    exact minor.telling (Minors.wellFormed first formed).unique telling

def Transmission.message (transmission : Transmission ours) : Message :=
  { group := groupOnWire transmission.parameterGroupNumber, data := transmission.data }

def added (key : κ × κ) (accepted : Bool) (input : Input ours) : List Message :=
  match accepted, input.call with
  | true, .transmit transmission =>
    if (transmission.source, transmission.destination) = key then [transmission.message] else []
  | _, _ => []

theorem added_receive {input : Input ours} {frame : Frame κ} (accepted : Bool)
    (call : input.call = .receive frame) : added key accepted input = [] := by
  cases accepted <;> simp [added, call]

theorem begun_tells {input : Input ours} {transmission : Transmission ours} {now : UInt32}
    (call : input.call = .transmit transmission)
    (own : (Session.begun transmission now).key = key) (within : cursor.begun ≤ messages.length) :
    (Session.begun transmission now).Tells (messages ++ added key true input) cursor := by
  have adds : added key true input = [transmission.message] := by
    have keyed : (transmission.source, transmission.destination) = key := own
    simp [added, call, keyed]
  refine ⟨messages.length, transmission.message, ?_, ⟨rfl, rfl, rfl⟩, ?_, ?_⟩
  · rw [adds, List.getElem?_concat_length]
  · exact fun _ => ⟨within, rfl, rfl⟩
  · exact fun impossible => absurd rfl impossible

theorem Main.telling {input : Input ours} {accepted : Bool} {manager next : Manager κ}
    (main : Main configuration input accepted manager next) (apart : ours key.2 = false)
    (unique : Unique manager.1) (telling : Telling key messages told cursor manager) :
    Telling key (messages ++ added key accepted input) told cursor next := by
  have foreign {frame : Frame κ} (counts : Counts ours input.addressValid frame) :
      frame.key ≠ key := by
    intro equal
    have mine := counts.ours
    have same : frame.destination = key.2 := congrArg Prod.snd equal
    rw [same, apart] at mine
    cases mine
  cases main with
  | updated | refused => simpa [added] using telling
  | begun sessions effects transmission call size fresh =>
    obtain ⟨speaks, within, tells⟩ := telling
    refine ⟨speaks.later, ?_, ?_⟩
    · rw [List.length_append]
      exact Nat.le_add_right_of_le within
    · intro session member keyed
      rcases List.mem_append.mp member with inside | single
      · exact (tells session inside keyed).later
      · rw [List.mem_singleton.mp single] at keyed ⊢
        exact begun_tells call keyed within
  | ignored manager frame call | absent manager frame call | full manager frame call =>
    rw [added_receive _ call, List.append_nil]
    exact telling
  | requested sessions effects frame call counts =>
    rw [added_receive _ call, List.append_nil]
    refine ⟨telling.speaks, telling.within, ?_⟩
    intro session member keyed
    rcases List.mem_append.mp member with inside | single
    · exact telling.tells session inside keyed
    · rw [List.mem_singleton.mp single] at keyed
      exact absurd keyed (foreign counts)
  | cleared before after session effects frame call other state packets number value next =>
    rw [added_receive _ call, List.append_nil]
    refine telling.replace unique rfl telling.speaks telling.within ?_ fun _ => rfl
    intro own
    have tells := telling.tells session (by simp) own
    refine tells.same rfl rfl rfl rfl rfl (by simp [state]) ?_
    rcases next with rfl | rfl <;> exact fun impossible => by cases impossible
  | offset before after session effects frame call counts group same =>
    rw [added_receive _ call, List.append_nil]
    exact telling.replace unique rfl telling.speaks telling.within
      (fun own => absurd (same.symm.trans own) (foreign counts)) fun _ => rfl
  | packet before after session effects frame call counts expects =>
    rw [added_receive _ call, List.append_nil]
    exact telling.replace unique rfl telling.speaks telling.within
      (fun own => absurd (expects.key.symm.trans own) (foreign counts)) fun _ => rfl
  | finished before after session effects frame call counts expects =>
    rw [added_receive _ call, List.append_nil]
    exact telling.erase _ (closeSession_port ..)

theorem Shape.telling {input : Input ours} {accepted : Bool} {start result : Manager κ}
    (shape : Shape configuration input accepted start result) (apart : ours key.2 = false)
    (formed : WellFormed configuration ours start.1)
    (telling : Telling key messages told cursor start) :
    ∃ place, Telling key (messages ++ added key accepted input) told place result := by
  obtain ⟨middle, next, first, main, rest⟩ := shape
  have kept := Minors.wellFormed first formed
  obtain ⟨place, between⟩ := Minors.telling first formed telling
  exact Minors.telling rest (main.wellFormed kept) (main.telling apart kept.unique between)

def accepted (key : κ × κ) (history : List (Input ours × Output κ)) : List Message :=
  history.flatMap fun call => added key call.2.accepted call.1

def said (key : κ × κ) (history : List (Input ours × Output κ)) : List (Frame κ) :=
  history.flatMap fun call => spoken key call.2.effects.port.sent

theorem run_speaks (configuration : Configuration) (key : κ × κ) (apart : ours key.2 = false)
    (inputs : List (Input ours)) :
    ∃ cursor, Speaks (accepted key (trace configuration [] inputs)) .start
      (said key (trace configuration [] inputs)) cursor := by
  have from_telling (sessions : List (Session κ)) (messages : List Message)
      (told : List (Frame κ)) (cursor : Cursor) (formed : WellFormed configuration ours sessions)
      (telling : Telling key messages told cursor (sessions, .fresh 0 [])) :
      ∃ place, Speaks (messages ++ accepted key (trace configuration sessions inputs)) .start
        (told ++ said key (trace configuration sessions inputs)) place := by
    induction inputs generalizing sessions messages told cursor with
    | nil => exact ⟨cursor, by simpa [accepted, said, trace, Effects.fresh, Port.fresh, spoken]
        using telling.speaks⟩
    | cons input inputs ih =>
      let output := step configuration sessions input
      have begins : Telling key messages told cursor
          (sessions, .fresh input.now input.accepts) :=
        ⟨telling.speaks, telling.within, telling.tells⟩
      obtain ⟨place, result⟩ :=
        (step_shape configuration formed.unique input).telling apart formed begins
      have ends : Telling key (messages ++ added key output.accepted input)
          (told ++ spoken key output.effects.port.sent) place (output.sessions, .fresh 0 []) := by
        refine ⟨?_, result.within, result.tells⟩
        simpa [Effects.fresh, Port.fresh, spoken] using result.speaks
      obtain ⟨final, speaks⟩ := ih _ _ _ place (step_wellFormed formed input) ends
      exact ⟨final, by simpa [accepted, said, trace, output] using speaks⟩
  have nothing : Telling key [] [] .start (([], .fresh 0 []) : Manager κ) := by
    refine ⟨?_, Nat.zero_le _, by simp⟩
    simpa [Effects.fresh, Port.fresh, spoken] using Speaks.silent _
  simpa using from_telling [] [] [] .start wellFormed_empty nothing

end Sender

end LittleDawn.ExtendedTransport
