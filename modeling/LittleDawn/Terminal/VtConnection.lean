import LittleDawn.Shared.Milestones
import LittleDawn.Terminal.CommandQueue

set_option autoImplicit false

namespace LittleDawn

open Emission (Path)
open Milestones (Leads Passed)

def milestones (messages : List VtMessage) : List Milestone :=
  messages.filterMap VtMessage.milestone

def handshake : List Milestone :=
  [.vtStatus, .workingSetMaster, .getMemory, .enoughMemory, .getNumberOfSoftkeys,
    .numberOfSoftkeys, .getTextFontData, .textFontData, .getHardware, .hardware]

structure Phase where
  labelled : Bool
  seen : Bool
  state : StateMachineState
  deriving DecidableEq

def listed (labelled : Bool) : List Milestone :=
  if labelled then handshake ++ [.getVersions, .versions] else handshake

-- The ways to be connected: with the stored version that the terminal loads, or with a pool that it
-- accepts and, if there is a label, stores. The pool may have been transferred in a session before.
def connections (labelled : Bool) : List (List Milestone) :=
  if labelled then
    [listed true ++ [.loadVersion, .versionLoaded],
      listed true ++ [.endOfObjectPool, .objectPoolAccepted, .storeVersion, .versionStored]]
  else [handshake ++ [.endOfObjectPool, .objectPoolAccepted]]

def Phase.needs (phase : Phase) : List (List Milestone) :=
  -- The states around the versions are there with a label only.
  let labelled (way : List Milestone) := if phase.labelled then [way] else []
  match phase.state with
  | .disconnected => [if phase.seen then [.vtStatus] else []]
  | .waitForPartnerVTStatusMessage => [if phase.seen then [.vtStatus] else []]
  | .sendWorkingSetMasterMessage => [handshake.take 1]
  | .readyForObjectPool => [handshake.take 2]
  | .sendGetMemory => [handshake.take 2]
  | .waitForGetMemoryResponse => [handshake.take 3]
  | .sendGetNumberSoftkeys => [handshake.take 4]
  | .waitForGetNumberSoftKeysResponse => [handshake.take 5]
  | .sendGetTextFontData => [handshake.take 6]
  | .waitForGetTextFontDataResponse => [handshake.take 7]
  | .sendGetHardware => [handshake.take 8]
  | .waitForGetHardwareResponse => [handshake.take 9]
  | .sendGetVersions => labelled handshake
  | .waitForGetVersionsResponse => labelled (handshake ++ [.getVersions])
  | .sendLoadVersion => labelled (listed true)
  | .waitForLoadVersionResponse => labelled (listed true ++ [.loadVersion])
  | .uploadObjectPool => [listed phase.labelled]
  | .sendEndOfObjectPool => [listed phase.labelled]
  | .waitForEndOfObjectPoolResponse => [listed phase.labelled ++ [.endOfObjectPool]]
  | .sendStoreVersion => labelled (listed true ++ [.endOfObjectPool, .objectPoolAccepted])
  | .waitForStoreVersionResponse =>
    labelled (listed true ++ [.endOfObjectPool, .objectPoolAccepted, .storeVersion])
  | .connected => connections phase.labelled
  | .failed => [[]]

def Standing.phase (standing : Standing) : Phase :=
  { labelled := hasLabel standing.pools, seen := standing.seen, state := standing.state }

theorem milestones_append (messages more : List VtMessage) :
    milestones (messages ++ more) = milestones messages ++ milestones more :=
  List.filterMap_append

theorem Transition.leads {labelled : Bool} {milestone : Option Milestone}
    {state next : StateMachineState} (transition : Transition labelled milestone state next)
    (seen : Bool) :
    Leads Phase.needs ⟨labelled, seen, state⟩ milestone.toList ⟨labelled, seen, next⟩ := by
  revert seen
  cases transition with
  | fails =>
    intro seen
    have begun : [] ∈ Phase.needs ⟨labelled, seen, .failed⟩ := List.mem_singleton.mpr rfl
    exact Leads.anew begun _ _
  | hardware | hardwareLabelled | accepted | acceptedLabelled => decide
  | _ =>
    revert labelled
    decide

theorem Standing.Move.leads {standing next : Standing} {out : List VtMessage}
    (move : Standing.Move standing out next) :
    Leads Phase.needs standing.phase (milestones out) next.phase := by
  -- Neither the marks of the pools nor the way of the upload matter to the connection.
  have marked {pools : List ObjectPool} (same : hasLabel pools = hasLabel standing.pools) :
      Leads Phase.needs standing.phase [] (Standing.phase { standing with pools }) := by
    rw [Standing.phase, Standing.phase, same]
    exact .stay _ _
  have label := hasLabel_same move.pools
  cases move with
  | turns transition => exact transition.leads _
  | greets here seen =>
    have leads : ∀ labelled, Leads Phase.needs ⟨labelled, true, .waitForPartnerVTStatusMessage⟩ []
        ⟨labelled, true, .sendWorkingSetMasterMessage⟩ := by decide
    rw [Standing.phase, Standing.phase, here, seen]
    exact leads _
  | @asks message milestone value asked transition =>
    have passed : milestones [message] = [milestone] := by simp [milestones, asked]
    rw [passed]
    exact transition.leads _
  | tells => exact .stay _ _
  | drops =>
    have begun : [] ∈ Phase.needs standing.dropped.phase := List.mem_singleton.mpr rfl
    exact Leads.anew begun _ _
  | renews here =>
    have leads : ∀ labelled seen, Leads Phase.needs ⟨labelled, seen, .readyForObjectPool⟩ []
        ⟨labelled, false, .sendGetMemory⟩ := by decide
    rw [Standing.phase, Standing.phase, label, here]
    exact leads _ _
  | begins | givesUp => exact .stay _ _
  | marks | skips => exact marked label
  | completes next here all pools upload outlet state =>
    have leads : ∀ labelled seen heard, Leads Phase.needs ⟨labelled, seen, .uploadObjectPool⟩ []
        ⟨labelled, heard, .sendEndOfObjectPool⟩ := by decide
    rw [Standing.phase, Standing.phase, label, here, state]
    exact leads _ _ _

theorem path_leads {standing next : Standing} {out : List VtMessage}
    (path : Path Standing.Move standing out next) :
    Leads Phase.needs standing.phase (milestones out) next.phase := by
  induction path with
  | stay => exact .stay _ _
  | move move _ ih =>
    rw [milestones_append]
    exact move.leads.trans ih

-- A new session begins with nothing heard.
theorem Standing.Move.opens {standing next : Standing} {out : List VtMessage}
    (move : Standing.Move standing out next) (closed : next.state = .disconnected) :
    standing.state = .disconnected ∧ next.seen = standing.seen ∨ next.seen = false := by
  cases move with
  | turns transition | asks asked transition => exact absurd closed transition.other
  | greets | renews => cases closed
  | drops => exact .inr rfl
  | completes next here all pools upload outlet state => simp [state] at closed
  | _ => exact .inl ⟨closed, rfl⟩

theorem path_opens {standing next : Standing} {out : List VtMessage}
    (path : Path Standing.Move standing out next) (closed : next.state = .disconnected) :
    standing.state = .disconnected ∧ next.seen = standing.seen ∨ next.seen = false := by
  induction path with
  | stay => exact .inl ⟨closed, rfl⟩
  | move move _ ih =>
    rcases ih closed with ⟨before, seen⟩ | unheard
    · rw [seen]
      exact move.opens before
    · exact .inr unheard

def ProgramStep.passed : ProgramStep → List Milestone
  | .receive message => message.milestone.toList
  | _ => []

def Program.passes (program : Program) (input : ProgramInput) : List Milestone :=
  input.step.passed ++ milestones (program.sent input)

def Program.Opens (program : Program) (input : ProgramInput) : Prop :=
  (program.next input).client.state = .disconnected ∧ program.client.state ≠ .disconnected

instance (program : Program) (input : ProgramInput) : Decidable (program.Opens input) :=
  inferInstanceAs (Decidable (_ ∧ _))

def Program.session (program : Program) (inputs : List ProgramInput) : List Milestone :=
  Milestones.session Program.next Program.passes Program.Opens program [] inputs

theorem Standing.Comes.leads {step : ProgramStep} {standing begun : Standing}
    (comes : Standing.Comes step standing begun) :
    Leads Phase.needs standing.phase step.passed begun.phase := by
  cases comes with
  | nothing | ends => exact .stay _ _
  | hears hears =>
    cases hears with
    | nothing => exact .stay _ _
    | status known seen =>
      have leads : ∀ state labelled seen heard, Leads Phase.needs ⟨labelled, seen, state⟩
          [.vtStatus] ⟨labelled, heard, state⟩ := by
        intro state
        cases state <;> decide
      rw [ProgramStep.passed, known]
      exact leads _ _ _ _
    | answer known transition =>
      rw [ProgramStep.passed, known]
      exact transition.leads _

theorem Standing.Comes.opens {step : ProgramStep} {standing begun : Standing}
    (comes : Standing.Comes step standing begun) (closed : begun.state = .disconnected) :
    standing.state = .disconnected := by
  cases comes with
  | nothing | ends => exact closed
  | hears hears =>
    cases hears with
    | nothing | status => exact closed
    | answer known transition => exact absurd closed transition.other

theorem step_leads (program : Program) (input : ProgramInput) :
    Leads Phase.needs program.client.standing.phase (program.passes input)
      (program.next input).client.standing.phase := by
  obtain ⟨begun, out, moved, outlet, words, told, comes, path, talks, same, sent, plains⟩ :=
    step_acts program input
  have leads := comes.leads.trans (path_leads path)
  rw [same, Program.passes, sent, List.append_assoc, milestones_append]
  exact leads.mono (List.Sublist.append_left (List.sublist_append_left _ _) _)

theorem opens_begins (program : Program) (input : ProgramInput) (opens : program.Opens input) :
    [] ∈ Phase.needs (program.next input).client.standing.phase := by
  obtain ⟨begun, out, moved, outlet, words, told, comes, path, talks, same, sent, plains⟩ :=
    step_acts program input
  have closed : (program.next input).client.standing.state = .disconnected := opens.1
  rw [same] at closed ⊢
  rcases path_opens path closed with ⟨before, -⟩ | unheard
  · exact absurd (comes.opens before) opens.2
  · have phase : Standing.phase { moved with outlet } =
        ⟨hasLabel moved.pools, false, .disconnected⟩ := by rw [Standing.phase, closed, unheard]
    rw [phase]
    exact List.mem_singleton.mpr rfl

theorem run_passed (objectPools : List ObjectPool) (inputs : List ProgramInput) :
    Passed Phase.needs ((Program.boot objectPools).run inputs).client.standing.phase
      ((Program.boot objectPools).session inputs) := by
  apply Milestones.session_passed Program.next Program.passes Program.Opens
    (fun program => program.client.standing.phase)
  · exact step_leads
  · exact opens_begins
  · exact ⟨[], List.mem_singleton.mpr rfl, List.Sublist.refl _⟩

theorem Standing.Comes.pools {step : ProgramStep} {standing begun : Standing}
    (comes : Standing.Comes step standing begun) : begun.pools = standing.pools := by
  cases comes with
  | nothing | ends => rfl
  | hears hears => cases hears <;> rfl

theorem step_labelled (program : Program) (input : ProgramInput) :
    hasLabel (program.next input).client.objectPools = hasLabel program.client.objectPools := by
  obtain ⟨begun, out, moved, outlet, words, told, comes, path, talks, same, sent, plains⟩ :=
    step_acts program input
  have pools : (program.next input).client.objectPools = moved.pools :=
    congrArg Standing.pools same
  have kept : begun.pools = program.client.objectPools := comes.pools
  rw [pools, ← kept]
  exact hasLabel_same (path_pools path)

theorem run_labelled (program : Program) (inputs : List ProgramInput) :
    hasLabel (program.run inputs).client.objectPools = hasLabel program.client.objectPools := by
  induction inputs generalizing program with
  | nil => rfl
  | cons input inputs ih =>
    exact (ih (program.next input)).trans (step_labelled program input)

theorem step_talks (program : Program) (input : ProgramInput) :
    commands (program.sent input) = [] ∨ (program.next input).client.state = .connected := by
  obtain ⟨begun, out, moved, outlet, words, told, comes, path, talks, same, sent, plains⟩ :=
    step_acts program input
  have state : (program.next input).client.state = moved.state := congrArg Standing.state same
  have plain : commands (told.map VtMessage.message) = [] := by
    simp [commands, List.filterMap_map, Function.comp_def, VtMessage.command?]
  rw [sent, commands_append, commands_append, commands_path path, plain, state]
  rcases talks with rfl | connected
  · exact .inl rfl
  · exact .inr connected

example : commands ((Program.boot [ld20]).traffic connectInputs) ≠ [] := by decide +kernel

end LittleDawn
