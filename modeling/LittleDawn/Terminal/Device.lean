import LittleDawn.Isobus.Acknowledged
import LittleDawn.Terminal.PoolTransfer

set_option autoImplicit false

namespace LittleDawn

open ExtendedTransport

structure Link (κ : Type) where
  configuration : Configuration
  ours : κ → Bool
  device : κ
  terminal : κ
  internal : ours device = true
  foreign : ours terminal = false
  pool : ObjectPool

structure Moment (κ : Type) where
  time : Nat
  accepts : List Bool
  addressValid : κ → Bool

inductive DeviceStep (κ : Type) where
  | program (input : ProgramInput) (moment : Moment κ)
  | transport (frame : Option (Frame κ)) (moment : Moment κ)

structure Device (κ : Type) where
  program : Program
  sessions : List (Session κ)

variable {κ : Type}

def Link.key (link : Link κ) : κ × κ :=
  (link.device, link.terminal)

def Link.transmission (link : Link κ) : Transmission link.ours :=
  { parameterGroupNumber := ecuToVirtualTerminal, data := link.pool.transferMessage
    source := link.device, destination := link.terminal, notifies := true
    internal := link.internal }

def Link.owed (link : Link κ) : κ × κ × UInt32 :=
  (link.device, link.terminal, ecuToVirtualTerminal)

def Moment.input {ours : κ → Bool} (moment : Moment κ) (call : Call ours) : Input ours :=
  { call, now := UInt32.ofNat moment.time, accepts := moment.accepts
    addressValid := moment.addressValid }

def Moment.ends (moment : Moment κ) (completion : Completion κ) : ProgramInput :=
  { step := .transferEnds completion.successful, time := moment.time, accepts := [] }

def transportCall {ours : κ → Bool} (frame : Option (Frame κ)) : Call ours :=
  match frame with
  | none => .update
  | some frame => .receive frame

def Device.boot (link : Link κ) : Device κ :=
  { program := .boot [link.pool], sessions := [] }

def Device.calls (link : Link κ) (device : Device κ) : DeviceStep κ → List (Input link.ours)
  | .program input moment =>
    (begun (uploadEvents (device.program.sent input))).map fun _ =>
      moment.input (.transmit link.transmission)
  | .transport frame moment => [moment.input (transportCall frame)]

section Steps

variable [DecidableEq κ] (link : Link κ)

def Device.inputs (device : Device κ) (step : DeviceStep κ) : List ProgramInput :=
  match step with
  | .program input _ => [input]
  | .transport frame moment =>
    (ExtendedTransport.step link.configuration device.sessions
      (moment.input (transportCall frame) : Input link.ours)).effects.completed.map moment.ends

-- The client takes a transfer for begun exactly if the transport accepts it.
def Device.allows (device : Device κ) (step : DeviceStep κ) : Bool :=
  match step with
  | .program input _ =>
    !input.endsTransfer &&
      (trace link.configuration device.sessions (device.calls link step)).all
        fun call => call.2.accepted
  | .transport .. => true

def Device.next (device : Device κ) (step : DeviceStep κ) : Device κ :=
  { program := device.program.run (device.inputs link step)
    sessions := ExtendedTransport.run link.configuration device.sessions
      (device.calls link step) }

def Device.run (device : Device κ) (steps : List (DeviceStep κ)) : Device κ :=
  steps.foldl (Device.next link) device

def Device.allowed (device : Device κ) : List (DeviceStep κ) → Bool
  | [] => true
  | step :: steps => device.allows link step && (device.next link step).allowed steps

def Device.programInputs (device : Device κ) : List (DeviceStep κ) → List ProgramInput
  | [] => []
  | step :: steps => device.inputs link step ++ (device.next link step).programInputs steps

def Device.transportInputs (device : Device κ) : List (DeviceStep κ) → List (Input link.ours)
  | [] => []
  | step :: steps => device.calls link step ++ (device.next link step).transportInputs steps

end Steps

structure Device.Linked (link : Link κ) (device : Device κ) (upload : Upload) : Prop where
  program : upload.program = device.program
  sound : upload.Sound
  formed : WellFormed link.configuration link.ours device.sessions
  sized : ∀ session ∈ device.sessions, session.Sized
  owes : device.sessions.filterMap Session.owed =
    if upload.transfer.isSome then [link.owed] else []

theorem boot_linked (link : Link κ) :
    (Device.boot link).Linked link (.boot [link.pool]) :=
  ⟨rfl, boot_sound [link.pool], wellFormed_empty, by simp [Device.boot], rfl⟩

theorem Device.Linked.calls {link : Link κ} {device : Device κ} {upload : Upload}
    {input : ProgramInput} (linked : device.Linked link upload)
    (goes : input.endsTransfer = false) (moment : Moment κ) :
    device.calls link (.program input moment) =
      (begun (upload.events (.program input))).map fun _ =>
        moment.input (.transmit link.transmission) := by
  have events : upload.events (.program input) = uploadEvents (device.program.sent input) := by
    rw [← linked.program]
    exact if_neg (by simp [goes])
  rw [events]
  rfl

theorem Device.Linked.own {link : Link κ} {device : Device κ} {upload : Upload}
    {input : ProgramInput} (linked : device.Linked link upload)
    (goes : input.endsTransfer = false) :
    (upload.next (.program input)).program = device.program.next input := by
  rw [Upload.next_goes upload goes, linked.program]

section Calls

variable [DecidableEq κ] {link : Link κ}

theorem transmit_completes (configuration : Configuration) (addressValid : κ → Bool)
    (sessions : List (Session κ)) (effects : Effects κ) (parameterGroupNumber : UInt32)
    (data : List UInt8) (source destination : κ) (notifies : Bool) :
    (protocolTransmitMessage configuration addressValid sessions effects parameterGroupNumber data
      source destination notifies).2.2.completed = effects.completed := by
  unfold protocolTransmitMessage
  split
  · rfl
  split
  · rfl
  dsimp only [updateStateMachine, Session.setState]
  split <;> rename_i sent <;> obtain ⟨port, same⟩ := send_quiet sent <;> rw [same]

theorem Device.Linked.settles {device : Device κ} {upload : Upload}
    (linked : device.Linked link upload) (frame : Option (Frame κ)) (moment : Moment κ) :
    let output := step link.configuration device.sessions
      (moment.input (transportCall frame) : Input link.ours)
    output.effects.completed.map Completion.owed ++ output.sessions.filterMap Session.owed =
      if upload.transfer.isSome then [link.owed] else [] := by
  intro output
  have quiet : asked output.accepted (moment.input (transportCall frame) : Input link.ours) =
      [] := by
    cases frame <;> simp [asked, Moment.input, transportCall]
  have reports := step_reports linked.formed
    (moment.input (transportCall frame) : Input link.ours)
  rw [quiet, List.append_nil, linked.owes] at reports
  split at reports
  · rw [if_pos ‹_›]
    exact List.perm_singleton.mp reports
  · rw [if_neg ‹_›]
    exact List.perm_nil.mp reports

theorem Device.Linked.called {device : Device κ} {upload : Upload}
    (linked : device.Linked link upload) (frame : Option (Frame κ)) (moment : Moment κ) :
    (device.next link (.transport frame moment)).Linked link
      (upload.run ((device.inputs link (.transport frame moment)).map .program)) := by
  let input : Input link.ours := moment.input (transportCall frame)
  let output := step link.configuration device.sessions input
  have settles : output.effects.completed.map Completion.owed ++
      output.sessions.filterMap Session.owed = _ := linked.settles frame moment
  have formed : WellFormed _ _ output.sessions := step_wellFormed linked.formed input
  have sized : ∀ session ∈ output.sessions, session.Sized :=
    step_sized linked.formed linked.sized input
  have next : device.next link (.transport frame moment) =
      { program := device.program.run (output.effects.completed.map moment.ends)
        sessions := output.sessions } := rfl
  have inputs : device.inputs link (.transport frame moment) =
      output.effects.completed.map moment.ends := rfl
  rw [next, inputs]
  cases ended : output.effects.completed with
  | nil =>
    rw [ended] at settles
    exact ⟨linked.program, linked.sound, formed, sized, settles⟩
  | cons completion rest =>
    rw [ended, List.map_cons, List.cons_append] at settles
    cases opened : upload.transfer.isSome with
    | false => simp [opened] at settles
    | true =>
      simp only [opened, if_true, List.cons.injEq, List.append_eq_nil_iff,
        List.map_eq_nil_iff] at settles
      obtain ⟨-, rfl, closed⟩ := settles
      have goes : (moment.ends completion).endsTransfer = true := rfl
      have after : upload.next (.program (moment.ends completion)) =
          { program := upload.program.next (moment.ends completion), transfer := none } :=
        Upload.next_ended goes opened
      have sound := linked.sound.next (.program (moment.ends completion))
      change Device.Linked link _ (upload.next (.program (moment.ends completion)))
      rw [after] at sound ⊢
      have program : upload.program.next (moment.ends completion) =
          device.program.next (moment.ends completion) := by rw [linked.program]
      exact ⟨program, sound, formed, sized, closed⟩

theorem transmit_silent (configuration : Configuration) {ours : κ → Bool}
    (sessions : List (Session κ)) (moment : Moment κ) (transmission : Transmission ours) :
    (step configuration sessions (moment.input (.transmit transmission))).effects.completed =
      [] :=
  transmit_completes configuration ..

section Own

variable {device : Device κ} {upload : Upload} {input : ProgramInput}

theorem Device.Linked.stays (linked : device.Linked link upload)
    (goes : input.endsTransfer = false) (moment : Moment κ)
    (none : begun (upload.events (.program input)) = [])
    (same : (upload.next (.program input)).transfer.isSome = upload.transfer.isSome) :
    (device.next link (.program input moment)).Linked link (upload.next (.program input)) := by
  have sessions : (device.next link (.program input moment)).sessions = device.sessions := by
    rw [Device.next, linked.calls goes, none]
    rfl
  refine ⟨linked.own goes, linked.sound.next (.program input), ?_, ?_, ?_⟩
  · rw [sessions]
    exact linked.formed
  · rw [sessions]
    exact linked.sized
  · rw [sessions, same]
    exact linked.owes

theorem Device.Linked.opens (linked : device.Linked link upload)
    (goes : input.endsTransfer = false) (moment : Moment κ) {length : UInt32}
    (one : begun (upload.events (.program input)) = [length]) (closed : upload.transfer = none)
    (opened : (upload.next (.program input)).transfer.isSome = true)
    (accepts : (step link.configuration device.sessions
      (moment.input (.transmit link.transmission))).accepted = true) :
    (device.next link (.program input moment)).Linked link (upload.next (.program input)) := by
  let output := step link.configuration device.sessions
    (moment.input (.transmit link.transmission))
  have sessions : (device.next link (.program input moment)).sessions = output.sessions := by
    rw [Device.next, linked.calls goes, one]
    rfl
  have asks : asked output.accepted (moment.input (.transmit link.transmission)) =
      [link.owed] := by
    rw [accepts]
    rfl
  have reports := step_reports linked.formed (moment.input (.transmit link.transmission))
  have silent : output.effects.completed = [] := transmit_silent ..
  rw [silent, asks, linked.owes, closed] at reports
  refine ⟨linked.own goes, linked.sound.next (.program input), ?_, ?_, ?_⟩
  · rw [sessions]
    exact step_wellFormed linked.formed _
  · rw [sessions]
    exact step_sized linked.formed linked.sized _
  · rw [sessions, if_pos opened]
    exact List.perm_singleton.mp reports

end Own

theorem Device.Linked.next {device : Device κ} {upload : Upload}
    (linked : device.Linked link upload) (step : DeviceStep κ)
    (allows : device.allows link step = true) :
    (device.next link step).Linked link
      (upload.run ((device.inputs link step).map .program)) := by
  cases step with
  | transport frame moment => exact linked.called frame moment
  | program input moment =>
    rw [Device.allows, Bool.and_eq_true] at allows
    obtain ⟨own, accepts⟩ := allows
    have goes : input.endsTransfer = false := by simpa using own
    change (device.next link (.program input moment)).Linked link (upload.next (.program input))
    cases linked.sound.turn (.program input) with
    | waits busy still kept silent ended =>
      have none : begun (upload.events (.program input)) = [] := by
        rw [silent]
        rfl
      exact linked.stays goes moment none kept
    | rests free still closed kept silent ended =>
      exact linked.stays goes moment silent (by rw [kept, closed])
    | ends busy opened closed silent ended =>
      have impossible : input.endsTransfer = true := by
        simpa [Upload.ended, opened] using ended
      simp [goes] at impossible
    | begins free busy closed length one opens ended =>
      rw [linked.calls goes, one, List.map_singleton, trace, trace, List.all_cons,
        Bool.and_eq_true] at accepts
      exact linked.opens goes moment one closed (by rw [opens]; rfl) accepts.1

theorem Device.Linked.run {device : Device κ} {upload : Upload}
    (linked : device.Linked link upload) (steps : List (DeviceStep κ))
    (allowed : device.allowed link steps = true) :
    (device.run link steps).Linked link
      (upload.run ((device.programInputs link steps).map .program)) := by
  induction steps generalizing device upload with
  | nil => exact linked
  | cons step steps ih =>
    have both : device.allows link step = true ∧
        (device.next link step).allowed link steps = true := by
      simpa [Device.allowed] using allowed
    have rest := ih (linked.next step both.1) both.2
    rw [Device.programInputs, List.map_append, run_append]
    exact rest

end Calls

def Link.Only (link : Link κ) (input : Input link.ours) : Prop :=
  ∀ transmission, input.call = .transmit transmission → transmission = link.transmission

theorem calls_only (link : Link κ) (device : Device κ) (step : DeviceStep κ) :
    ∀ input ∈ device.calls link step, link.Only input := by
  intro input member transmission call
  cases step with
  | program own moment =>
    obtain ⟨length, -, rfl⟩ := List.mem_map.mp member
    exact (Call.transmit.inj call).symm
  | transport frame moment =>
    obtain rfl := List.mem_singleton.mp member
    cases frame <;> cases call

section Runs

variable [DecidableEq κ]

/-- In every run the client waits for the end of a transfer exactly if the transport has its session
open, or has ended it while the client was in another state than `UploadObjectPool`. -/
theorem client_waits (link : Link κ) (steps : List (DeviceStep κ))
    (allowed : (Device.boot link).allowed link steps = true) :
    ((Device.boot link).run link steps).program.client.currentObjectPoolState = .inProgress ↔
      ((Device.boot link).run link steps).sessions.filterMap Session.owed = [link.owed] ∨
        (Upload.boot [link.pool]).missed
          (((Device.boot link).programInputs link steps).map .program) = true := by
  have linked := (boot_linked link).run steps allowed
  have stalls := (boot_sound [link.pool]).run_stalls
    (((Device.boot link).programInputs link steps).map .program)
  rw [or_iff_right (boot_idle [link.pool])] at stalls
  rw [← linked.program, linked.owes, ← stalls]
  constructor
  · intro progress
    cases opened : ((Upload.boot [link.pool]).run
        (((Device.boot link).programInputs link steps).map .program)).transfer with
    | none => exact .inr ⟨progress, opened⟩
    | some data => exact .inl rfl
  · rintro (opened | stalled)
    · apply linked.sound.opened
      by_contra closed
      simp [closed] at opened
    · exact stalled.1

theorem Device.Linked.successes {link : Link κ} {device : Device κ} {upload : Upload}
    (linked : device.Linked link upload) (step : DeviceStep κ)
    (allows : device.allows link step = true) :
    (device.inputs link step).countP (fun input => input.step.completes) ≤
      (acknowledgements ((device.calls link step).flatMap (heard link.key.swap))).length := by
  cases step with
  | program input moment =>
    rw [Device.allows, Bool.and_eq_true] at allows
    have goes : input.endsTransfer = false := by simpa using allows.1
    have quiet : input.step.completes = false := by
      have none : input.step.transferEnds? = none := by
        simpa [ProgramInput.endsTransfer] using goes
      simp [ProgramStep.completes, none]
    simp [Device.inputs, quiet]
  | transport frame moment =>
    let input : Input link.ours := moment.input (transportCall frame)
    let output := ExtendedTransport.step link.configuration device.sessions input
    have settles : output.effects.completed.map Completion.owed ++
        output.sessions.filterMap Session.owed = _ := linked.settles frame moment
    have keyed : ∀ completion ∈ output.effects.completed,
        (completion.source, completion.destination) = link.key := by
      intro completion member
      have owed : completion.owed ∈ output.effects.completed.map Completion.owed ++
          output.sessions.filterMap Session.owed :=
        List.mem_append_left _ (List.mem_map_of_mem member)
      rw [settles] at owed
      have same : completion.owed = link.owed := by
        split at owed
        · exact List.mem_singleton.mp owed
        · cases owed
      obtain ⟨source, rest⟩ := Prod.mk.inj same
      exact Prod.ext source (Prod.mk.inj rest).1
    have ending : Ending device.sessions input output.effects :=
      step_ends link.configuration device.sessions input
    have confirms := (ending.confirmed linked.formed link.key).length_le
    have all : (ExtendedTransport.successes output.effects.completed).filter (fun completion =>
        (completion.source, completion.destination) = link.key) =
        ExtendedTransport.successes output.effects.completed := by
      rw [List.filter_eq_self]
      intro completion member
      exact decide_eq_true (keyed completion (List.mem_of_mem_filter member))
    have counts : (device.inputs link (.transport frame moment)).countP
        (fun input => input.step.completes) =
        (ExtendedTransport.successes output.effects.completed).length := by
      have inputs : device.inputs link (.transport frame moment) =
          output.effects.completed.map moment.ends := rfl
      rw [inputs, List.countP_map, ExtendedTransport.successes, List.countP_eq_length_filter]
      congr 1
      apply List.filter_congr
      intro completion _
      cases successful : completion.successful <;>
        simp [Moment.ends, ProgramStep.completes, ProgramStep.transferEnds?, successful]
    have calls : (device.calls link (.transport frame moment)).flatMap (heard link.key.swap) =
        heard link.key.swap input := by
      simp [Device.calls, input]
    rw [confirmed, List.length_map, List.length_map, all] at confirms
    rw [counts, calls]
    exact confirms

theorem Device.Linked.run_successes {link : Link κ} {device : Device κ} {upload : Upload}
    (linked : device.Linked link upload) (steps : List (DeviceStep κ))
    (allowed : device.allowed link steps = true) :
    (device.programInputs link steps).countP (fun input => input.step.completes) ≤
      (acknowledgements (heardIn link.key.swap (device.transportInputs link steps))).length := by
  induction steps generalizing device upload with
  | nil => exact Nat.zero_le _
  | cons step steps ih =>
    have both : device.allows link step = true ∧
        (device.next link step).allowed link steps = true := by
      simpa [Device.allowed] using allowed
    have first := linked.successes step both.1
    have rest := ih (linked.next step both.1) both.2
    rw [Device.programInputs, Device.transportInputs, List.countP_append, heardIn,
      List.flatMap_append, acknowledgements_append, List.length_append]
    exact Nat.add_le_add first rest

theorem transportInputs_only (link : Link κ) (device : Device κ) (steps : List (DeviceStep κ)) :
    ∀ input ∈ device.transportInputs link steps, link.Only input := by
  induction steps generalizing device with
  | nil => simp [Device.transportInputs]
  | cons step steps ih =>
    intro input member
    rcases List.mem_append.mp member with now | later
    · exact calls_only link device step input now
    · exact ih _ input later

theorem Link.Only.added {link : Link κ} {input : Input link.ours} (only : link.Only input)
    (accepted : Bool) :
    ∀ message ∈ added link.key accepted input, message = link.transmission.message := by
  intro message member
  unfold ExtendedTransport.added at member
  split at member
  · rename_i transmission call
    split at member
    · rw [List.mem_singleton.mp member, only transmission call]
    · cases member
  · cases member

theorem accepted_only {link : Link κ} (inputs : List (Input link.ours))
    (sessions : List (Session κ)) (only : ∀ input ∈ inputs, link.Only input) :
    ∀ message ∈ accepted link.key (trace link.configuration sessions inputs),
      message = link.transmission.message := by
  induction inputs generalizing sessions with
  | nil => simp [accepted, trace]
  | cons input inputs ih =>
    intro message member
    rcases List.mem_append.mp member with now | later
    · exact (only input List.mem_cons_self).added _ message now
    · exact ih _ (fun other inside => only other (List.mem_cons_of_mem _ inside)) message later

/-- Each time the client tells the terminal that the object pool is complete, the transport of the
terminal has handed on the whole pool once more: provided that the terminal hears the frames of the
device in order, turns no request away with a session open for it, and that the acknowledgements
that the device hears are its own. -/
theorem pool_arrives (link : Link κ) (needs : link.pool.needsTransfer = true)
    (unmarked : link.pool.uploaded = false) (steps : List (DeviceStep κ))
    (allowed : (Device.boot link).allowed link steps = true) {hears : κ → Bool}
    (apart : hears link.device = false) (terminal : Configuration) (hearing : List (Input hears))
    (lossless : heardIn link.key hearing <+: said link.key
      (trace link.configuration [] ((Device.boot link).transportInputs link steps)))
    (room : roomy terminal link.key [] hearing = true)
    (genuine : (acknowledgements (heardIn link.key.swap
        ((Device.boot link).transportInputs link steps))).Subperm
      (acknowledgements (said link.key.swap (trace terminal [] hearing)))) :
    ends ((Program.boot [link.pool]).traffic ((Device.boot link).programInputs link steps)) ≤
      (delivered link.key (trace terminal [] hearing)).count link.transmission.message := by
  have paid := run_pays (Program.boot [link.pool]) ((Device.boot link).programInputs link steps)
  have told := (boot_linked link).run_successes steps allowed
  have given := genuine.length_le
  have receipts := (run_receipts terminal link.key hearing).length_le
  obtain ⟨cursor, speaks⟩ := run_speaks link.configuration link.key link.foreign
    ((Device.boot link).transportInputs link steps)
  obtain ⟨rest, all⟩ := lossless
  rw [← all] at speaks
  obtain ⟨place, heard, -⟩ := Speaks.split speaks
  have intact := run_hears terminal apart (accepted_fits link.configuration link.key _) hearing
    room heard
  have same : (delivered link.key (trace terminal [] hearing)).count link.transmission.message =
      (delivered link.key (trace terminal [] hearing)).length := by
    apply List.count_eq_length.mpr
    intro message member
    obtain ⟨accepted, listed, rfl⟩ := List.mem_map.mp (intact.subset member)
    rw [accepted_only _ [] (transportInputs_only link _ steps) accepted listed]
    -- The low byte of the group of the pool is zero.
    have group : groupOnWire ecuToVirtualTerminal =
        carriedGroup (groupOnWire ecuToVirtualTerminal) := by decide
    exact congrArg (Message.mk · link.pool.transferMessage) group
  have transfers : (Program.boot [link.pool]).client.uploading.transfers = 1 := by
    change [link.pool].countP ObjectPool.needsTransfer = 1
    simp [needs]
  have credit : (Program.boot [link.pool]).client.uploading.credit = 0 := by
    change [link.pool].countP ObjectPool.transferred + 0 = 0
    simp [ObjectPool.transferred, unmarked]
  rw [transfers, credit] at paid
  rw [List.length_map, List.length_map] at receipts
  rw [same]
  omega

end Runs

def sampleLink : Link Bool :=
  { configuration := longSegments, ours := fun here => here, device := true, terminal := false
    internal := rfl, foreign := rfl, pool := ld20 }

def sampleMoment : Moment Bool :=
  { time := 20, accepts := List.replicate 128 true, addressValid := fun _ => true }

def deviceSteps : List (DeviceStep Bool) :=
  let own (inputs : List ProgramInput) : List (DeviceStep Bool) :=
    inputs.map fun input => .program input sampleMoment
  let answer (multiplexor : UInt8) (bytes : List UInt8) : DeviceStep Bool :=
    .transport (some (connectionManagement false true multiplexor bytes ecuToVirtualTerminal))
      sampleMoment
  let updates : List (DeviceStep Bool) := List.replicate 2 (.transport none sampleMoment)
  own (connectInputs.take 16) ++ answer 0x15 [128, 1, 0, 0] :: updates ++
    answer 0x15 [128, 129, 0, 0] :: updates ++ answer 0x15 [30, 1, 1, 0] :: updates ++
      answer 0x17 [0xD1, 7, 0, 0] :: own (connectInputs.drop 17)

def terminalHearing : List (Input fun here : Bool => !here) :=
  (said sampleLink.key (trace longSegments []
      ((Device.boot sampleLink).transportInputs sampleLink deviceSteps))).map fun frame =>
    sampleMoment.input (.receive frame)

theorem client_waits_sample :
    (((Device.boot sampleLink).run sampleLink
        (deviceSteps.take 18)).program.client.currentObjectPoolState = .inProgress ↔
      ((Device.boot sampleLink).run sampleLink (deviceSteps.take 18)).sessions.filterMap
          Session.owed = [sampleLink.owed] ∨
        (Upload.boot [sampleLink.pool]).missed
          (((Device.boot sampleLink).programInputs sampleLink (deviceSteps.take 18)).map
            .program) = true) ∧
      ((Device.boot sampleLink).run sampleLink
        (deviceSteps.take 18)).program.client.currentObjectPoolState = .inProgress :=
  ⟨client_waits sampleLink (deviceSteps.take 18) (by decide +kernel), by decide +kernel⟩

theorem pool_arrives_sample :
    ends ((Program.boot [sampleLink.pool]).traffic
        ((Device.boot sampleLink).programInputs sampleLink deviceSteps)) ≤
        (delivered sampleLink.key (trace longSegments [] terminalHearing)).count
          sampleLink.transmission.message ∧
      ends ((Program.boot [sampleLink.pool]).traffic
        ((Device.boot sampleLink).programInputs sampleLink deviceSteps)) = 1 := by
  have hears : heardIn sampleLink.key terminalHearing = said sampleLink.key
      (trace longSegments [] ((Device.boot sampleLink).transportInputs sampleLink deviceSteps)) :=
    heardIn_all (by decide) (said_key _)
  refine ⟨?_, by decide +kernel⟩
  exact pool_arrives sampleLink (by decide) rfl deviceSteps (by decide +kernel) rfl longSegments
    terminalHearing ⟨[], by rw [hears, List.append_nil]; rfl⟩ (by decide +kernel)
    (List.Perm.of_eq (by decide +kernel)).subperm

end LittleDawn
