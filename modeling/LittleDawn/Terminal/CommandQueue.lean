import LittleDawn.Terminal.CommandOutlet

set_option autoImplicit false

namespace LittleDawn

open Outbox (Entry)

variable {may : List Command → Command → Prop}

def Program.issued (program : Program) : ProgramStep → List Command
  | .receive message => message.issued keyListeners
  | .update _ => []
  | .transferEnds _ => []
  | .refresh tickCount dawnData =>
    (((canUpdateTask program.lastVTUpdateTime tickCount
      { isConnected := program.client.getIsConnected, dawnData }).1).getD []).map VtCommand.command
  | .status tickCount input =>
    (((appMain program.app tickCount
      { input with isConnected := program.client.getIsConnected }).1.map
        StatusOutput.commands).getD []).map VtCommand.command

def ProgramStep.answers : ProgramStep → List QueueEvent
  | .receive message => if message.Answers then [.answered] else []
  | _ => []

def Program.history (program : Program) (input : ProgramInput) : List QueueEvent :=
  if (program.issued input.step).isEmpty then
    input.step.answers ++ (commands (program.sent input)).map .sent
  else program.client.queueHistory input.port (program.issued input.step)

def Program.Allowed (may : List Command → Command → Prop) (program : Program)
    (input : ProgramInput) : Prop :=
  program.client.Allowed may input.port (program.issued input.step)

theorem history_sends {program : Program} {input : ProgramInput} {result : VtClient × VtPort}
    (out : List Command) (none : program.issued input.step = [])
    (calls : Calls may program.client input.port (input.step.answers ++ out.map .sent) result)
    (sent : program.sent input = result.2.sent) :
    Calls may program.client input.port (program.history input) result := by
  have silent : input.step.answers.filterMap QueueEvent.sent? = [] := by
    cases input.step with
    | receive message => simp only [ProgramStep.answers]; split <;> rfl
    | _ => rfl
  have fresh : commands input.port.sent = [] := rfl
  have sends : commands (program.sent input) = out := by
    simp [sent, calls.sends, silent, fresh, Function.comp_def, QueueEvent.sent?]
  simpa [Program.history, none, sends] using calls

theorem history_issued {program : Program} {input : ProgramInput} {result : VtClient × VtPort}
    (silent : input.step.answers = [])
    (calls : Calls may program.client input.port
      (program.client.queueHistory input.port (program.issued input.step)) result)
    (sent : program.sent input = result.2.sent) :
    Calls may program.client input.port (program.history input) result := by
  cases issued : program.issued input.step with
  | nil =>
    rw [issued] at calls
    refine history_sends [] issued ?_ sent
    rw [silent]
    exact calls
  | cons data rest =>
    rw [issued] at calls
    simpa [Program.history, issued] using calls

theorem step_calls (program : Program) (input : ProgramInput)
    (allowed : program.Allowed may input) :
    Calls may program.client input.port (program.history input)
      ((program.next input).client, (program.step input.port input.step).2) := by
  obtain ⟨step, time, accepts⟩ := input
  cases step with
  | receive message =>
    rcases processRxMessage_calls program.client _ keyListeners message allowed with
      ⟨silent, calls⟩ | ⟨none, answers, out, calls⟩
    · exact history_issued (by simp [ProgramStep.answers, silent]) calls rfl
    · have answered : (ProgramStep.receive message).answers = [.answered] := by
        simp [ProgramStep.answers, answers]
      refine history_sends out none ?_ rfl
      rw [answered]
      exact calls
  | update partnerAddressValid =>
    have quiet := ((moves_updateState program.client (.fresh (UInt32.ofNat time) accepts)
      partnerAddressValid).trans (moves_updateMaintenance _ _)).quiet rfl
    obtain ⟨out, calls⟩ := processCommandQueue_calls may _ _
    exact history_sends out rfl (quiet.calls.trans calls) rfl
  | transferEnds successful =>
    have quiet : Quiet program.client (.fresh (UInt32.ofNat time) accepts)
        (program.client.processCallback successful, .fresh (UInt32.ofNat time) accepts) := by
      refine ⟨?_, rfl, rfl⟩
      unfold VtClient.processCallback
      split <;> rfl
    exact history_sends [] rfl quiet.calls rfl
  | refresh tickCount dawnData =>
    exact history_issued rfl (queueCommands_calls _ _ _ allowed) rfl
  | status tickCount input =>
    exact history_issued rfl (queueCommands_calls _ _ _ allowed) rfl

def Program.run (program : Program) (inputs : List ProgramInput) : Program :=
  inputs.foldl Program.next program

def Program.timeline (program : Program) : List ProgramInput → List (Nat × QueueEvent)
  | [] => []
  | input :: inputs =>
    (program.history input).map (fun event => (input.time, event)) ++
      (program.next input).timeline inputs

def Program.traffic (program : Program) : List ProgramInput → List VtMessage
  | [] => []
  | input :: inputs => program.sent input ++ (program.next input).traffic inputs

def Program.AllAllowed (may : List Command → Command → Prop) (program : Program) :
    List ProgramInput → Prop
  | [] => True
  | input :: inputs => program.Allowed may input ∧ (program.next input).AllAllowed may inputs

def entries (timeline : List (Nat × QueueEvent)) : List (Entry Command) :=
  timeline.filterMap fun event => event.2.entry

theorem entries_append (timeline more : List (Nat × QueueEvent)) :
    entries (timeline ++ more) = entries timeline ++ entries more :=
  List.filterMap_append

theorem entries_at (time : Nat) (events : List QueueEvent) :
    entries (events.map fun event => (time, event)) = events.filterMap QueueEvent.entry := by
  simp [entries, List.filterMap_map]

theorem Outlet.Move.outbox {now : UInt32} {outlet next : Outlet} {events : List QueueEvent}
    (move : Outlet.Move may now outlet events next) (log : List (Entry Command)) :
    Outbox.Run Command.key may ⟨outlet.queue, log⟩
      ⟨next.queue, log ++ events.filterMap QueueEvent.entry⟩ := by
  cases move with
  | pass data free allowed => exact .single (.pass ⟨outlet.queue, log⟩ data allowed)
  | put data => exact .single (.put ⟨outlet.queue, log⟩ data)
  | send before after data free waits =>
    exact .single (.send ⟨outlet.queue, log⟩ before after data waits)
  | giveUp free => rw [List.filterMap_nil, List.append_nil]
  | answered =>
    change Outbox.Run Command.key may _ ⟨outlet.queue, log ++ []⟩
    rw [List.append_nil]

theorem Outlet.Run.outbox {now : UInt32} {outlet next : Outlet} {events : List QueueEvent}
    (run : Outlet.Run may now outlet events next) (log : List (Entry Command)) :
    Outbox.Run Command.key may ⟨outlet.queue, log⟩
      ⟨next.queue, log ++ events.filterMap QueueEvent.entry⟩ := by
  induction run generalizing log with
  | stay => rw [List.filterMap_nil, List.append_nil]
  | move move _ ih =>
    rw [List.filterMap_append, ← List.append_assoc]
    exact (move.outbox log).trans (ih _)

theorem run_outbox (program : Program) (inputs : List ProgramInput)
    (allowed : program.AllAllowed may inputs) (log : List (Entry Command)) :
    Outbox.Run Command.key may ⟨program.client.commandQueue, log⟩
      ⟨(program.run inputs).client.commandQueue, log ++ entries (program.timeline inputs)⟩ := by
  induction inputs generalizing program log with
  | nil =>
    change Outbox.Run Command.key may _ ⟨program.client.commandQueue, log ++ []⟩
    rw [List.append_nil]
  | cons input inputs ih =>
    rw [Program.timeline, entries_append, entries_at, ← List.append_assoc]
    exact ((step_calls program input allowed.1).run.outbox log).trans (ih _ allowed.2 _)

theorem sent_entries (events : List QueueEvent) :
    Outbox.sent (events.filterMap QueueEvent.entry) = events.filterMap QueueEvent.sent? := by
  induction events with
  | nil => rfl
  | cons event events ih =>
    cases event <;> simp [QueueEvent.entry, QueueEvent.sent?, Outbox.sent, List.filterMap_cons, ih]

def anything (_ : List Command) (_ : Command) : Prop := True

theorem allowed_anything (client : VtClient) (port : VtPort) (list : List Command) :
    client.Allowed anything port list := by
  induction list generalizing client port with
  | nil => trivial
  | cons data rest ih => exact ⟨fun _ => trivial, ih _ _⟩

theorem allAllowed_anything (program : Program) (inputs : List ProgramInput) :
    program.AllAllowed anything inputs := by
  induction inputs generalizing program with
  | nil => trivial
  | cons input inputs ih => exact ⟨allowed_anything _ _ _, ih _⟩

theorem run_traffic (program : Program) (inputs : List ProgramInput) :
    Outbox.sent (entries (program.timeline inputs)) = commands (program.traffic inputs) := by
  induction inputs generalizing program with
  | nil => rfl
  | cons input inputs ih =>
    have sends := (step_calls program input (allowed_anything _ _ _)).sends
    have fresh : commands input.port.sent = [] := rfl
    rw [fresh, List.nil_append] at sends
    rw [Program.timeline, Program.traffic, entries_append, entries_at, Outbox.sent_append,
      sent_entries, commands_append, ih]
    exact congrArg (· ++ _) sends.symm

inductive Issues : VtCommand → Prop where
  | mask (mask : UInt16) : Issues (.changeActiveMask 0 mask)
  | wasAngle (value : UInt32) : Issues (.changeNumericValue 21000 value)
  | speed (value : UInt32) : Issues (.changeNumericValue 21001 value)

theorem buttonEvent_issues (displayValue : UInt32) (event : VTKeyEvent) :
    ∀ command ∈ (buttonEvent displayValue event).1.commands, Issues command := by
  intro command member
  have masks : command = .changeActiveMask 0 1001 ∨ command = .changeActiveMask 0 1000 := by
    unfold buttonEvent at member
    repeat' split at member
    all_goals simp [KeyOutput.none] at member
    all_goals simp [member]
  rcases masks with rfl | rfl <;> exact .mask _

theorem softKeyEvent_issues (displayValue : UInt32) (event : VTKeyEvent) :
    ∀ command ∈ (softKeyEvent displayValue event).1.commands, Issues command := by
  intro command member
  unfold softKeyEvent at member
  repeat' split at member
  all_goals cases member

theorem refresh_issues (last tickCount : UInt32) (input : RefreshInput) :
    ∀ command ∈ ((canUpdateTask last tickCount input).1).getD [], Issues command := by
  intro command member
  by_cases due : input.isConnected = true ∧
      vtUpdateIntervalMs ≤ tickCount * portTickPeriodMs - last
  · cases data : input.dawnData with
    | none => simp [canUpdateTask, due, data] at member
    | some record =>
      have sent : command ∈ refreshCommands record := by
        simpa [canUpdateTask, due, data] using member
      rcases List.mem_cons.mp sent with rfl | last
      · exact .wasAngle _
      · rw [List.mem_singleton.mp last]
        exact .speed _
  · simp [canUpdateTask, due] at member

theorem status_issues (app : MainLoop) (tickCount : UInt32) (input : StatusInput) :
    ∀ command ∈ ((appMain app tickCount input).1.map StatusOutput.commands).getD [],
      Issues command := by
  intro command member
  by_cases due : statusIntervalMs ≤ tickCount * portTickPeriodMs - app.lastStatusTime
  · cases connected : input.isConnected <;> cases known : app.vtConnected <;>
      simp [appMain, due, statusTick, connected, known] at member
    rw [member]
    exact .mask 1000
  · simp [appMain, due] at member

theorem issued_issues (program : Program) (step : ProgramStep) :
    ∀ data ∈ program.issued step, ∃ command, Issues command ∧ data = command.command := by
  intro data member
  have found (list : List VtCommand) (all : ∀ command ∈ list, Issues command)
      (member : data ∈ list.map VtCommand.command) :
      ∃ command, Issues command ∧ data = command.command := by
    obtain ⟨command, inside, same⟩ := List.mem_map.mp member
    exact ⟨command, all command inside, same.symm⟩
  cases step with
  | update partnerAddressValid => cases member
  | transferEnds successful => cases member
  | refresh tickCount dawnData => exact found _ (refresh_issues _ _ _) member
  | status tickCount input => exact found _ (status_issues _ _ _) member
  | receive message =>
    simp only [Program.issued, RxMessage.issued] at member
    cases key : message.keyEvent with
    | none => repeat' split at member <;> simp [key] at member
    | some event =>
      rw [key] at member
      split at member
      · split at member
        · exact found _ (softKeyEvent_issues 0 event) member
        · split at member
          · exact found _ (buttonEvent_issues 0 event) member
          · cases member
      · cases member

def commandKeys : List (Nat × UInt8 × List UInt8) :=
  [(8, 0xAD, [0, 0]), (8, 0xA8, [0x08, 0x52]), (8, 0xA8, [0x09, 0x52])]

theorem issues_key {command : VtCommand} (issues : Issues command) :
    command.command.key ∈ commandKeys := by
  cases issues <;> exact List.mem_of_elem_eq_true rfl

def VtClient.decideClear : (list : List Command) → (client : VtClient) → (port : VtPort) →
    Decidable (client.Allowed (Outbox.Clear Command.key) port list)
  | [], _, _ => .isTrue trivial
  | data :: rest, client, port =>
    let result := client.queueCommand port data true
    have later : Decidable (result.2.1.Allowed (Outbox.Clear Command.key) result.2.2 rest) :=
      decideClear rest result.2.1 result.2.2
    have : Decidable (Outbox.Clear Command.key client.commandQueue data) :=
      inferInstanceAs (Decidable (∀ other ∈ client.commandQueue, other.key ≠ data.key))
    have now : Decidable (client.goesOut port data →
        Outbox.Clear Command.key client.commandQueue data) := inferInstance
    @instDecidableAnd _ _ now later

def Program.decideClear : (inputs : List ProgramInput) → (program : Program) →
    Decidable (program.AllAllowed (Outbox.Clear Command.key) inputs)
  | [], _ => .isTrue trivial
  | input :: inputs, program =>
    have := decideClear inputs (program.next input)
    have : Decidable (program.Allowed (Outbox.Clear Command.key) input) :=
      VtClient.decideClear _ _ _
    inferInstanceAs (Decidable (_ ∧ _))

instance (program : Program) (inputs : List ProgramInput) :
    Decidable (program.AllAllowed (Outbox.Clear Command.key) inputs) :=
  Program.decideClear inputs program

theorem queueCommand_unsupported (client : VtClient) (port : VtPort) (data : Command) :
    (client.queueCommand port data true).2.1.unsupportedFunctions =
      client.unsupportedFunctions := by
  have sent : (client.sendCommand port data).2.1.unsupportedFunctions =
      client.unsupportedFunctions := by
    rcases sendCommand_cases client port data with
      ⟨next, after, equal, -, -, rfl, -⟩ | ⟨next, after, equal, rfl | ⟨-, rfl⟩, -⟩ <;> rw [equal]
  have begun : ∃ gone next after, (if client.getIsConnected then client.sendCommand port data
      else (false, client, port)) = (gone, next, after) ∧
      next.unsupportedFunctions = client.unsupportedFunctions := by
    split
    · exact ⟨_, _, _, rfl, sent⟩
    · exact ⟨_, _, _, rfl, rfl⟩
  obtain ⟨gone, next, after, equal, same⟩ := begun
  unfold VtClient.queueCommand
  rw [equal]
  dsimp only
  split
  · rfl
  · cases gone with
    | true => exact same
    | false =>
      simp only [Bool.false_eq_true, if_false]
      split <;> exact same

-- A command is refused only if the terminal has said that it does not know its function.
theorem queueHistory_accepted (client : VtClient) (port : VtPort) (list : List Command) :
    Outbox.accepted ((client.queueHistory port list).filterMap QueueEvent.entry) =
      list.filter (fun data => data.function ∉ client.unsupportedFunctions) := by
  induction list generalizing client port with
  | nil => rfl
  | cons data rest ih =>
    have one : Outbox.accepted ((client.queueEvents port data).filterMap QueueEvent.entry) =
        [data].filter (fun data => data.function ∉ client.unsupportedFunctions) := by
      unfold VtClient.queueEvents
      split
      · simp [Outbox.accepted, *]
      · split <;>
          simp [QueueEvent.entry, Outbox.accepted, *]
    rw [VtClient.queueHistory, List.filterMap_append, Outbox.accepted_append, one, ih,
      queueCommand_unsupported, ← List.filter_append, List.singleton_append]

def Program.accepts (program : Program) (input : ProgramInput) : List Command :=
  (program.issued input.step).filter
    fun data => data.function ∉ program.client.unsupportedFunctions

def Program.accepted (program : Program) : List ProgramInput → List Command
  | [] => []
  | input :: inputs => program.accepts input ++ (program.next input).accepted inputs

theorem history_accepted (program : Program) (input : ProgramInput) :
    Outbox.accepted ((program.history input).filterMap QueueEvent.entry) =
      program.accepts input := by
  unfold Program.history
  split
  · rename_i none
    have sends (out : List Command) :
        Outbox.accepted ((out.map .sent).filterMap QueueEvent.entry) = [] := by
      induction out with
      | nil => rfl
      | cons data out ih => simpa [QueueEvent.entry, Outbox.accepted, List.filterMap_cons] using ih
    have answers : input.step.answers.filterMap QueueEvent.entry = [] := by
      cases input.step with
      | receive message => simp only [ProgramStep.answers]; split <;> rfl
      | _ => rfl
    rw [List.filterMap_append, answers, List.nil_append, sends, Program.accepts,
      List.isEmpty_iff.mp none, List.filter_nil]
  · exact queueHistory_accepted ..

theorem run_accepted (program : Program) (inputs : List ProgramInput) :
    Outbox.accepted (entries (program.timeline inputs)) = program.accepted inputs := by
  induction inputs generalizing program with
  | nil => rfl
  | cons input inputs ih =>
    rw [Program.timeline, Program.accepted, entries_append, entries_at, Outbox.accepted_append,
      history_accepted, ih]

section Boot

variable (objectPools : List ObjectPool) (inputs : List ProgramInput)

theorem boot_outbox {may : List Command → Command → Prop}
    (allowed : (Program.boot objectPools).AllAllowed may inputs) :
    Outbox.Run Command.key may .empty
      ⟨((Program.boot objectPools).run inputs).client.commandQueue,
        entries ((Program.boot objectPools).timeline inputs)⟩ :=
  run_outbox (Program.boot objectPools) inputs allowed []

/-- In every run each command that is accepted goes out at most once, nothing else goes out, and
what was accepted waits, has gone out since or has made way for a newer command of its object. -/
theorem commands_accounted :
    (commands ((Program.boot objectPools).traffic inputs) ++
        ((Program.boot objectPools).run inputs).client.commandQueue).Subperm
      ((Program.boot objectPools).accepted inputs) ∧
    Outbox.Kept Command.key ((Program.boot objectPools).run inputs).client.commandQueue
      (entries ((Program.boot objectPools).timeline inputs)) := by
  have outbox := boot_outbox objectPools inputs (allAllowed_anything _ _)
  have once := Outbox.run_once Command.key outbox Outbox.empty_once
  rw [Outbox.Once, run_traffic, run_accepted] at once
  exact ⟨once, Outbox.run_kept Command.key outbox trivial⟩

theorem accepted_key (program : Program) :
    ∀ data ∈ program.accepted inputs, data.key ∈ commandKeys := by
  induction inputs generalizing program with
  | nil => intro data member; cases member
  | cons input inputs ih =>
    intro data member
    rcases List.mem_append.mp member with here | later
    · obtain ⟨command, issues, rfl⟩ := issued_issues program _ data (List.mem_of_mem_filter here)
      exact issues_key issues
    · exact ih _ data later

/-- However long the terminal is away, no more than three commands wait for it. -/
theorem queue_bounded :
    ((Program.boot objectPools).run inputs).client.commandQueue.length ≤ 3 := by
  have outbox := boot_outbox objectPools inputs (allAllowed_anything _ _)
  have once := Outbox.run_once Command.key outbox Outbox.empty_once
  rw [Outbox.Once, run_accepted] at once
  have known (data : Command)
      (waits : data ∈ ((Program.boot objectPools).run inputs).client.commandQueue) :
      data.key ∈ commandKeys :=
    accepted_key inputs _ data (once.subset (List.mem_append_right _ waits))
  exact Outbox.distinct_bounded Command.key
    (Outbox.run_distinct Command.key outbox (Outbox.empty_distinct _)) known

/-- Where no command overtakes a waiting one of its object, no old value is ever sent, and the
newest value of an object waits or is the last that was sent. -/
theorem values_in_order
    (clear : (Program.boot objectPools).AllAllowed (Outbox.Clear Command.key) inputs) :
    Outbox.InOrder Command.key
      ⟨((Program.boot objectPools).run inputs).client.commandQueue,
        entries ((Program.boot objectPools).timeline inputs)⟩ :=
  Outbox.run_inOrder Command.key (boot_outbox objectPools inputs clear)
    (Outbox.empty_inOrder Command.key)

end Boot

def released (objectID : UInt16) : ProgramStep :=
  .receive { group := .virtualTerminalToECU
             data := [0x01, 0x00, objectID.toUInt8, (objectID >>> 8).toUInt8, 0, 0, 1, 0xFF]
             broadcast := false, toUs := true, fromPartner := true }

def ld20 : ObjectPool :=
  { objectPoolData := some ((List.range 2000).map fun index => UInt8.ofNat (index % 251))
    objectPoolSize := 2000
    complete := by
      intro data known
      rw [← Option.some.inj known, List.length_map, List.length_range]
      decide
    versionLabel := [0x6C, 0x64, 0x32, 0x30], uploaded := false }

def fromTerminal (function : UInt8) : ProgramStep :=
  .receive { group := .virtualTerminalToECU, data := function :: List.replicate 7 0
             broadcast := false, toUs := true, fromPartner := true }

def connectInputs : List ProgramInput :=
  [.update true, fromTerminal 0xFE, .update true, .update true, .update true, .update true,
    fromTerminal 0xC0, .update true, fromTerminal 0xC2, .update true, fromTerminal 0xC3,
    .update true, fromTerminal 0xC7, .update true, fromTerminal 0xE0, .update true,
    .transferEnds true, .update true, .update true, .update true, fromTerminal 0x12, .update true,
    fromTerminal 0xD0, released 27001].mapIdx
    fun index step => { step, time := index + 1, accepts := [true, true] }

-- Connected, with three more buttons: one mask makes way for another while it waits, the response
-- lets that go out, and the last mask goes out 1500 ms later.
def commandInputs : List ProgramInput :=
  connectInputs ++
    [⟨released 27001, 25, [true, true]⟩, ⟨released 27012, 26, [true, true]⟩,
      ⟨fromTerminal 0xAD, 30, [true, true]⟩, ⟨released 27001, 31, [true, true]⟩,
      ⟨.update true, 1530, [true, true]⟩]

theorem values_in_order_sample :
    Outbox.InOrder Command.key
        ⟨((Program.boot [ld20]).run commandInputs).client.commandQueue,
          entries ((Program.boot [ld20]).timeline commandInputs)⟩ ∧
      (commands ((Program.boot [ld20]).traffic commandInputs)).map Command.bytes =
        [1001, 1000, 1001].map fun mask => (sendChangeActiveMask 0 mask).bytes :=
  ⟨values_in_order [ld20] _ (by decide +kernel), by decide +kernel⟩

def Spaced : Option Nat → List (Nat × QueueEvent) → Prop
  | _, [] => True
  | last, (time, .sent _) :: rest =>
    (∀ before ∈ last, before + 1500 ≤ time) ∧ Spaced (some time) rest
  | _, (_, .answered) :: rest => Spaced none rest
  | last, (_, .accepted _) :: rest => Spaced last rest

def outstanding : Option Nat → List (Nat × QueueEvent) → Option Nat
  | last, [] => last
  | _, (time, .sent _) :: rest => outstanding (some time) rest
  | _, (_, .answered) :: rest => outstanding none rest
  | last, (_, .accepted _) :: rest => outstanding last rest

theorem spaced_append (last : Option Nat) (timeline more : List (Nat × QueueEvent)) :
    Spaced last (timeline ++ more) ↔
      Spaced last timeline ∧ Spaced (outstanding last timeline) more := by
  induction timeline generalizing last with
  | nil => simp [Spaced, outstanding]
  | cons event rest ih =>
    obtain ⟨time, event⟩ := event
    cases event <;> simp [Spaced, outstanding, ih, and_assoc]

theorem outstanding_append (last : Option Nat) (timeline more : List (Nat × QueueEvent)) :
    outstanding last (timeline ++ more) = outstanding (outstanding last timeline) more := by
  induction timeline generalizing last with
  | nil => rfl
  | cons event rest ih =>
    obtain ⟨time, event⟩ := event
    cases event <;> exact ih _

def Outlet.Waits (outlet : Outlet) (last : Option Nat) (time : Nat) : Prop :=
  ∀ before ∈ last, before ≤ time ∧
    (outlet.awaiting = true ∧ outlet.timestamp = UInt32.ofNat before ∨ before + 1500 ≤ time)

theorem Outlet.Waits.later {outlet : Outlet} {last : Option Nat} {time later : Nat}
    (waits : outlet.Waits last time) (passed : time ≤ later) : outlet.Waits last later := by
  intro before known
  obtain ⟨past, held | overdue⟩ := waits before known
  · exact ⟨past.trans passed, .inl held⟩
  · exact ⟨past.trans passed, .inr (overdue.trans passed)⟩

theorem elapsed_le {before time : Nat} (past : before ≤ time)
    (expired : commandTimeoutMs ≤ UInt32.ofNat time - UInt32.ofNat before) :
    before + 1500 ≤ time := by
  rw [UInt32.le_iff_toNat_le, UInt32.toNat_sub, UInt32.toNat_ofNat', UInt32.toNat_ofNat'] at expired
  have limit : commandTimeoutMs.toNat = 1500 := rfl
  omega

theorem Outlet.Waits.overdue {outlet : Outlet} {last : Option Nat} {time : Nat}
    (waits : outlet.Waits last time) (free : outlet.Free (UInt32.ofNat time)) :
    ∀ before ∈ last, before + 1500 ≤ time := by
  intro before known
  obtain ⟨past, ⟨awaiting, stamp⟩ | overdue⟩ := waits before known
  · exact elapsed_le past (stamp ▸ free awaiting)
  · exact overdue

theorem Outlet.Move.spaced {time : Nat} {outlet next : Outlet} {events : List QueueEvent}
    {last : Option Nat} (move : Outlet.Move may (UInt32.ofNat time) outlet events next)
    (waits : outlet.Waits last time) :
    Spaced last (events.map fun event => (time, event)) ∧
      next.Waits (outstanding last (events.map fun event => (time, event))) time := by
  have gone (queue : List Command) :
      Outlet.Waits { queue, awaiting := true, timestamp := UInt32.ofNat time } (some time)
        time := by
    intro before known
    cases known
    exact ⟨le_refl time, .inl ⟨rfl, rfl⟩⟩
  cases move with
  | pass data free allowed => exact ⟨⟨waits.overdue free, trivial⟩, gone _⟩
  | put data => exact ⟨trivial, waits⟩
  | send before after data free queued => exact ⟨⟨waits.overdue free, trivial⟩, gone _⟩
  | giveUp free =>
    refine ⟨trivial, fun before known => ⟨(waits before known).1, .inr ?_⟩⟩
    exact waits.overdue free before known
  | answered => exact ⟨trivial, fun before known => by cases known⟩

theorem Outlet.Run.spaced {time : Nat} {outlet next : Outlet} {events : List QueueEvent}
    {last : Option Nat} (run : Outlet.Run may (UInt32.ofNat time) outlet events next)
    (waits : outlet.Waits last time) :
    Spaced last (events.map fun event => (time, event)) ∧
      next.Waits (outstanding last (events.map fun event => (time, event))) time := by
  induction run generalizing last with
  | stay => exact ⟨trivial, waits⟩
  | move move _ ih =>
    obtain ⟨first, held⟩ := move.spaced waits
    obtain ⟨rest, held⟩ := ih held
    rw [List.map_append, spaced_append, outstanding_append]
    exact ⟨⟨first, rest⟩, held⟩

theorem run_spaced (program : Program) (inputs : List ProgramInput) (start : Nat)
    (last : Option Nat) (waits : program.client.outlet.Waits last start)
    (begun : ∀ input ∈ inputs, start ≤ input.time)
    (ordered : inputs.Pairwise fun input later => input.time ≤ later.time) :
    Spaced last (program.timeline inputs) := by
  induction inputs generalizing program start last with
  | nil => trivial
  | cons input inputs ih =>
    obtain ⟨first, ordered⟩ := List.pairwise_cons.mp ordered
    have calls := step_calls program input (allowed_anything _ _ _)
    obtain ⟨spaced, held⟩ :=
      calls.run.spaced (waits.later (begun input List.mem_cons_self))
    rw [Program.timeline, spaced_append]
    exact ⟨spaced, ih _ _ _ held first ordered⟩

/-- After a command the next one goes out when a response has come in or 1500 ms have passed, in
true time and across any number of wraps of the clock. -/
theorem commands_spaced (objectPools : List ObjectPool) (inputs : List ProgramInput)
    (ordered : inputs.Pairwise fun input later => input.time ≤ later.time) :
    Spaced none ((Program.boot objectPools).timeline inputs) := by
  refine run_spaced _ inputs 0 none ?_ (fun input _ => Nat.zero_le _) ordered
  intro before known
  cases known

theorem commands_spaced_sample :
    Spaced none ((Program.boot [ld20]).timeline commandInputs) ∧
      (((Program.boot [ld20]).timeline commandInputs).filterMap fun event =>
        event.2.sent?.map fun data => (event.1, data.byte 3)) =
        [(24, 0xE9), (30, 0xE8), (1530, 0xE9)] :=
  ⟨commands_spaced [ld20] _ (by decide +kernel), by decide +kernel⟩

end LittleDawn
