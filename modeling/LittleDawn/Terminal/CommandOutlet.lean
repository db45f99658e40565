import LittleDawn.Shared.Outbox
import LittleDawn.Terminal.ClientSteps

set_option autoImplicit false

namespace LittleDawn

open Outbox (Entry)

def Command.key (command : Command) : Nat × UInt8 × List UInt8 :=
  (command.bytes.length, command.function, (comparedBytes command.function).map command.byte)

theorem areCommandsSimilar_iff (first second : Command) :
    areCommandsSimilar first second = true ↔ first.key = second.key := by
  by_cases length : first.bytes.length = second.bytes.length
  · by_cases function : first.function = second.function
    · simp [areCommandsSimilar, Command.key, length, function]
    · simp [areCommandsSimilar, Command.key, function]
  · simp [areCommandsSimilar, Command.key, length]

theorem replaceCommand_eq (data : Command) (replaced : Bool) (queue : List Command) :
    replaceCommand data replaced queue =
      (Outbox.replace Command.key data replaced queue,
        replaced || decide (∃ other ∈ queue, other.key = data.key)) := by
  induction queue generalizing replaced with
  | nil => simp [replaceCommand, Outbox.replace]
  | cons head rest ih =>
    by_cases same : head.key = data.key
    · have similar : areCommandsSimilar head data = true := (areCommandsSimilar_iff _ _).mpr same
      cases replaced <;> simp [replaceCommand, Outbox.replace, similar, same, ih]
    · have differs : ¬ areCommandsSimilar head data = true :=
        fun similar => same ((areCommandsSimilar_iff _ _).mp similar)
      simp [replaceCommand, Outbox.replace, differs, same, ih]

inductive QueueEvent where
  | accepted (data : Command)
  | sent (data : Command)
  | answered

def QueueEvent.entry : QueueEvent → Option (Entry Command)
  | accepted data => some (.accepted data)
  | sent data => some (.sent data)
  | answered => none

def QueueEvent.sent? : QueueEvent → Option Command
  | sent data => some data
  | _ => none

variable {may : List Command → Command → Prop}

inductive Outlet.Move (may : List Command → Command → Prop) (now : UInt32) :
    Outlet → List QueueEvent → Outlet → Prop where
  | pass (outlet : Outlet) (data : Command) (free : outlet.Free now)
      (allowed : may outlet.queue data) :
      Move may now outlet [.accepted data, .sent data]
        { outlet with awaiting := true, timestamp := now }
  | put (outlet : Outlet) (data : Command) :
      Move may now outlet [.accepted data]
        { outlet with queue := Outbox.put Command.key data outlet.queue }
  | send (outlet : Outlet) (before after : List Command) (data : Command)
      (free : outlet.Free now) (waits : outlet.queue = before ++ data :: after) :
      Move may now outlet [.sent data]
        { queue := before ++ after, awaiting := true, timestamp := now }
  | giveUp (outlet : Outlet) (free : outlet.Free now) :
      Move may now outlet [] { outlet with awaiting := false }
  | answered (outlet : Outlet) : Move may now outlet [.answered] { outlet with awaiting := false }

abbrev Outlet.Run (may : List Command → Command → Prop) (now : UInt32) :
    Outlet → List QueueEvent → Outlet → Prop :=
  Emission.Path (Outlet.Move may now)

theorem Outlet.Move.run {now : UInt32} {outlet next : Outlet} {events : List QueueEvent}
    (move : Outlet.Move may now outlet events next) : Outlet.Run may now outlet events next :=
  .single move

def VtMessage.command? : VtMessage → Option Command
  | command data => some data
  | _ => none

def commands (messages : List VtMessage) : List Command :=
  messages.filterMap VtMessage.command?

@[simp] theorem commands_append (messages more : List VtMessage) :
    commands (messages ++ more) = commands messages ++ commands more :=
  List.filterMap_append

@[simp] theorem commands_command (data : Command) : commands [.command data] = [data] := rfl

structure Quiet (client : VtClient) (port : VtPort) (result : VtClient × VtPort) : Prop where
  outlet : result.1.outlet = client.outlet
  now : result.2.now = port.now
  commands : commands result.2.sent = commands port.sent

structure Calls (may : List Command → Command → Prop) (client : VtClient) (port : VtPort)
    (events : List QueueEvent) (result : VtClient × VtPort) : Prop where
  run : Outlet.Run may port.now client.outlet events result.1.outlet
  now : result.2.now = port.now
  sends : commands result.2.sent = commands port.sent ++ events.filterMap QueueEvent.sent?

theorem Quiet.calls {client : VtClient} {port : VtPort} {result : VtClient × VtPort}
    (quiet : Quiet client port result) : Calls may client port [] result :=
  ⟨quiet.outlet ▸ .stay _, quiet.now, by simp [quiet.commands]⟩

theorem Calls.trans {client next : VtClient} {port after : VtPort} {events more : List QueueEvent}
    {result : VtClient × VtPort} (first : Calls may client port events (next, after))
    (second : Calls may next after more result) :
    Calls may client port (events ++ more) result := by
  refine ⟨?_, second.now.trans first.now, ?_⟩
  · exact first.run.trans (first.now ▸ second.run)
  · simp [second.sends, first.sends]

theorem quiet_refl (client : VtClient) (port : VtPort) : Quiet client port (client, port) :=
  ⟨rfl, rfl, rfl⟩

theorem quiet_transmit (client : VtClient) (port : VtPort) (message : VtMessage)
    (other : message.command? = none) :
    Quiet client port (client, (port.transmit message).2) := by
  refine ⟨rfl, by simp, ?_⟩
  rw [Port.transmit_sent]
  split <;> simp [commands, other]

theorem commands_path {standing next : Standing} {out : List VtMessage}
    (path : Emission.Path Standing.Move standing out next) : commands out = [] := by
  induction path with
  | stay => rfl
  | move move path ih =>
    rw [commands_append, ih, List.append_nil]
    cases move with
    | @asks message milestone value asked =>
      cases message with
      | command => cases asked
      | _ => rfl
    | _ => rfl

-- No move of the state machine touches the queue.
theorem Moves.quiet {client : VtClient} {standing : Standing} {port : VtPort}
    {result : VtClient × VtPort} (moves : Moves standing port result)
    (same : standing.outlet = client.outlet) : Quiet client port result := by
  obtain ⟨now, out, sent, path⟩ := moves
  refine ⟨(path_outlet path).trans same, now, ?_⟩
  rw [sent, commands_append, commands_path path, List.append_nil]

theorem quiet_processResponse (client : VtClient) (port : VtPort) {message : RxMessage}
    (addressed : message.Addressed) (group : message.group = .virtualTerminalToECU) :
    Quiet client port (client.processResponse port message) := by
  obtain ⟨begun, hears, moves⟩ := responds_processResponse client port addressed group
  refine moves.quiet ?_
  cases hears <;> rfl

def VtClient.goesOut (client : VtClient) (port : VtPort) (data : Command) : Prop :=
  client.getIsConnected = true ∧ (client.sendCommand port data).1 = true

instance (client : VtClient) (port : VtPort) (data : Command) :
    Decidable (client.goesOut port data) :=
  inferInstanceAs (Decidable (_ ∧ _))

def VtClient.queueEvents (client : VtClient) (port : VtPort) (data : Command) : List QueueEvent :=
  if data.function ∈ client.unsupportedFunctions then []
  else if client.goesOut port data then [.accepted data, .sent data]
  else [.accepted data]

theorem queueCommand_calls (client : VtClient) (port : VtPort) (data : Command)
    (allowed : client.goesOut port data → may client.commandQueue data) :
    Calls may client port (client.queueEvents port data)
      (client.queueCommand port data true).2 := by
  -- Where nothing goes out, the command takes the place of a similar one or the end of the queue.
  have queued (begun : VtClient) (after : VtPort) (sent : after.sent = port.sent)
      (now : after.now = port.now)
      (run : Outlet.Run may port.now client.outlet [] begun.outlet) (queue : List Command)
      (put : queue = Outbox.put Command.key data begun.commandQueue) :
      Calls may client port [.accepted data] ({ begun with commandQueue := queue }, after) := by
    have last := run.trans (Outlet.Move.put begun.outlet data).run
    subst put
    exact ⟨last, now, by simp [sent, QueueEvent.sent?]⟩
  unfold VtClient.queueCommand VtClient.queueEvents
  by_cases unsupported : data.function ∈ client.unsupportedFunctions
  · simpa [unsupported] using (quiet_refl client port).calls
  · simp only [unsupported, if_false]
    by_cases goes : client.goesOut port data
    · rcases sendCommand_cases client port data with
        ⟨next, after, equal, connected, free, rfl, sent, now⟩ | ⟨next, after, equal, -⟩
      · simp only [goes.1, if_true, equal, goes]
        exact ⟨(Outlet.Move.pass client.outlet data free (allowed goes)).run, now,
          by simp [sent, QueueEvent.sent?, List.filterMap_cons]⟩
      · simp [VtClient.goesOut, equal] at goes
    · simp only [goes, if_false]
      have stays : ∃ begun after, (if client.getIsConnected then client.sendCommand port data
          else (false, client, port)) = (false, begun, after) ∧ after.sent = port.sent ∧
          after.now = port.now ∧ Outlet.Run may port.now client.outlet [] begun.outlet := by
        by_cases connected : client.getIsConnected = true
        · rcases sendCommand_cases client port data with
            ⟨next, after, equal, -⟩ | ⟨next, after, equal, same | ⟨free, gaveUp⟩, sent, now⟩
          · exact absurd ⟨connected, by rw [equal]⟩ goes
          · exact ⟨next, after, by simp [connected, equal], sent, now, same ▸ .stay _⟩
          · exact ⟨next, after, by simp [connected, equal], sent, now,
              gaveUp ▸ (Outlet.Move.giveUp client.outlet free).run⟩
        · exact ⟨client, port, by simp [connected], rfl, rfl, .stay _⟩
      obtain ⟨begun, after, equal, sent, now, run⟩ := stays
      rw [equal]
      simp only [replaceCommand_eq, Bool.false_or, Bool.false_eq_true, if_false, true_and,
        decide_eq_true_eq]
      split
      · rename_i similar
        exact queued begun after sent now run _ (by simp [Outbox.put, similar])
      · rename_i similar
        exact queued begun after sent now run _ (by simp only [Outbox.put, similar, if_false])

def VtClient.queueHistory (client : VtClient) (port : VtPort) :
    List Command → List QueueEvent
  | [] => []
  | data :: rest =>
    let (_, next, after) := client.queueCommand port data true
    client.queueEvents port data ++ next.queueHistory after rest

def VtClient.Allowed (may : List Command → Command → Prop) (client : VtClient) (port : VtPort) :
    List Command → Prop
  | [] => True
  | data :: rest =>
    let (_, next, after) := client.queueCommand port data true
    (client.goesOut port data → may client.commandQueue data) ∧ next.Allowed may after rest

theorem queueCommands_calls (client : VtClient) (port : VtPort) (list : List Command)
    (allowed : client.Allowed may port list) :
    Calls may client port (client.queueHistory port list) (client.queueCommands port list) := by
  induction list generalizing client port with
  | nil => exact (quiet_refl client port).calls
  | cons data rest ih =>
    exact (queueCommand_calls client port data allowed.1).trans (ih _ _ allowed.2)

def VtClient.outletWith (client : VtClient) (queue : List Command) : Outlet :=
  { client.outlet with queue }

theorem sendQueued_calls (may : List Command → Command → Prop) (stay rest : List Command)
    (client : VtClient) (port : VtPort) :
    ∃ out : List Command,
      Outlet.Run may port.now (client.outletWith (stay ++ rest)) (out.map .sent)
        ((VtClient.sendQueued rest client port).2.1.outletWith
          (stay ++ (VtClient.sendQueued rest client port).1)) ∧
      (VtClient.sendQueued rest client port).2.2.now = port.now ∧
      commands (VtClient.sendQueued rest client port).2.2.sent = commands port.sent ++ out := by
  induction rest generalizing stay client port with
  | nil => exact ⟨[], .stay _, rfl, by simp [VtClient.sendQueued]⟩
  | cons data rest ih =>
    rcases sendCommand_cases client port data with
      ⟨next, after, equal, connected, free, rfl, sent, now⟩ |
      ⟨next, after, equal, same, sent, now⟩
    · obtain ⟨out, run, later, sends⟩ := ih stay
        { client with commandAwaitingResponse := true, lastCommandTimestamp := port.now } after
      have first : Outlet.Move may port.now (client.outletWith (stay ++ data :: rest))
          [.sent data] _ :=
        .send (client.outletWith (stay ++ data :: rest)) stay rest data free rfl
      refine ⟨data :: out, ?_, ?_, ?_⟩
      · rw [now] at run
        simpa [VtClient.sendQueued, equal] using Emission.Path.move first run
      · simp [VtClient.sendQueued, equal, later, now]
      · simp [VtClient.sendQueued, equal, sends, sent]
    · obtain ⟨out, run, later, sends⟩ := ih (stay ++ [data]) next after
      have first : Outlet.Run may port.now (client.outletWith (stay ++ data :: rest)) []
          (next.outletWith (stay ++ data :: rest)) := by
        rcases same with rfl | ⟨free, rfl⟩
        · exact .stay _
        · exact (Outlet.Move.giveUp (client.outletWith (stay ++ data :: rest)) free).run
      refine ⟨out, ?_, ?_, ?_⟩
      · rw [now, List.append_assoc, List.append_assoc] at run
        simpa [VtClient.sendQueued, equal] using first.trans run
      · simp [VtClient.sendQueued, equal, later, now]
      · simp [VtClient.sendQueued, equal, sends, sent]

theorem processCommandQueue_calls (may : List Command → Command → Prop) (client : VtClient)
    (port : VtPort) :
    ∃ out : List Command,
      Calls may client port (out.map .sent) (client.processCommandQueue port) := by
  unfold VtClient.processCommandQueue
  split
  · obtain ⟨out, run, now, sends⟩ :=
      sendQueued_calls may [] client.commandQueue client port
    refine ⟨out, run, now, ?_⟩
    rw [sends]
    simp [Function.comp_def, QueueEvent.sent?]
  · exact ⟨[], (quiet_refl client port).calls⟩

theorem processKey_calls (client : VtClient) (port : VtPort)
    (listener : VTKeyEvent → List Command) (message : RxMessage)
    (allowed : client.Allowed may port ((message.keyEvent.map listener).getD [])) :
    Calls may client port (client.queueHistory port ((message.keyEvent.map listener).getD []))
      (client.processKey port listener message) := by
  unfold VtClient.processKey
  cases key : message.keyEvent with
  | none => exact (quiet_refl client port).calls
  | some event =>
    rw [key] at allowed
    have queued := queueCommands_calls client port (listener event) allowed
    simpa [VtClient.reply] using queued.trans (quiet_transmit _ _ _ rfl).calls

def RxMessage.issued (listeners : KeyListeners) (message : RxMessage) : List Command :=
  if message.Addressed ∧ message.group = .virtualTerminalToECU then
    if message.byte 0 = 0x00 then (message.keyEvent.map listeners.softKey).getD []
    else if message.byte 0 = 0x01 then (message.keyEvent.map listeners.button).getD []
    else []
  else []

def RxMessage.Answers (message : RxMessage) : Prop :=
  message.Addressed ∧ message.group = .virtualTerminalToECU ∧
    message.byte 0 ∈ commandResponses ∧ message.toUs ∧ message.fromPartner

instance (message : RxMessage) : Decidable message.Answers :=
  inferInstanceAs (Decidable (_ ∧ _))

theorem processRxMessage_calls (client : VtClient) (port : VtPort) (listeners : KeyListeners)
    (message : RxMessage) (allowed : client.Allowed may port (message.issued listeners)) :
    (¬ message.Answers ∧ Calls may client port
        (client.queueHistory port (message.issued listeners))
        (client.processRxMessage port listeners message)) ∨
      message.issued listeners = [] ∧ message.Answers ∧ ∃ out : List Command,
        Calls may client port (.answered :: out.map .sent)
          (client.processRxMessage port listeners message) := by
  have silent (none : message.issued listeners = [])
      (quiet : Quiet client port (client.processRxMessage port listeners message)) :
      Calls may client port (client.queueHistory port (message.issued listeners))
        (client.processRxMessage port listeners message) := by
    rw [none]
    exact quiet.calls
  unfold VtClient.processRxMessage at silent ⊢
  by_cases addressed : message.Addressed
  · cases group : message.group with
    | acknowledge =>
      simp only [addressed, group, if_true] at silent ⊢
      exact .inl ⟨by simp [RxMessage.Answers, group],
        silent (by simp [RxMessage.issued, group]) ((moves_processAcknowledge ..).quiet rfl)⟩
    | virtualTerminalToECU =>
      simp only [addressed, group, if_true] at silent ⊢
      by_cases softKey : message.byte 0 = 0x00
      · simp only [RxMessage.issued, addressed, group, and_self, softKey, if_true] at allowed ⊢
        exact .inl ⟨by simp [RxMessage.Answers, softKey, commandResponses],
          processKey_calls client port listeners.softKey message allowed⟩
      · by_cases button : message.byte 0 = 0x01
        · simp [RxMessage.issued, addressed, group, button] at allowed ⊢
          exact .inl ⟨by simp [RxMessage.Answers, button, commandResponses],
            processKey_calls client port listeners.button message allowed⟩
        · have none : message.issued listeners = [] := by simp [RxMessage.issued, softKey, button]
          simp only [softKey, button, if_false] at silent ⊢
          by_cases answer : message.byte 0 ∈ commandResponses
          · simp only [answer, if_true] at silent ⊢
            by_cases ours : message.toUs = true ∧ message.fromPartner = true
            · refine .inr ⟨none, ⟨addressed, group, answer, ours⟩, ?_⟩
              have first : Calls may client port [.answered]
                  ({ client with commandAwaitingResponse := false }, port) :=
                ⟨(Outlet.Move.answered client.outlet).run, rfl, by simp [QueueEvent.sent?]⟩
              obtain ⟨out, later⟩ := processCommandQueue_calls may
                { client with commandAwaitingResponse := false } port
              exact ⟨out, by simpa [VtClient.processCommandResponse, ours] using first.trans later⟩
            · exact .inl ⟨fun answers => ours answers.2.2.2, silent none (by
                simpa [VtClient.processCommandResponse, ours] using quiet_refl client port)⟩
          · simp only [answer, if_false] at silent ⊢
            exact .inl ⟨fun answers => answer answers.2.2.1,
              silent none (quiet_processResponse client port addressed group)⟩
  · simp only [addressed, if_false] at silent ⊢
    exact .inl ⟨fun answers => addressed answers.1,
      silent (by simp [RxMessage.issued, addressed]) (quiet_refl ..)⟩

end LittleDawn
