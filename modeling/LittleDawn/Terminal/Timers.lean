import LittleDawn.Model.Terminal
import LittleDawn.Serial.DrainEnds
import LittleDawn.Shared.PeriodicTimer

set_option autoImplicit false

namespace LittleDawn

open PeriodicTimer

def xTaskGetTickCount (ticks : Nat) : UInt32 :=
  UInt32.ofNat ticks

def trueTime (ticks : Nat) : Nat :=
  ticks * portTickPeriodMs.toNat

def handshakePolls (env : Env) : Task → List (Nat × UartRead) → List Poll
  | _, [] => []
  | task, (ticks, uartRead) :: passes =>
    { time := trueTime ticks
      fired := !(sendPeriodic task (xTaskGetTickCount ticks)).1.isEmpty } ::
    match newDawnSerialTask env task ⟨xTaskGetTickCount ticks, uartRead⟩ with
    | none => []
    | some (_, next) => handshakePolls env next passes

def statusPolls : MainLoop → List (Nat × StatusInput) → List Poll
  | _, [] => []
  | app, (ticks, input) :: passes =>
    let (output, next) := appMain app (xTaskGetTickCount ticks) input
    { time := trueTime ticks, fired := output.isSome } :: statusPolls next passes

def refreshPolls : UInt32 → List (Nat × RefreshInput) → List Poll
  | _, [] => []
  | lastVTUpdateTime, (ticks, input) :: passes =>
    let (output, next) := canUpdateTask lastVTUpdateTime (xTaskGetTickCount ticks) input
    { time := trueTime ticks, fired := output.isSome } :: refreshPolls next passes

theorem currentTime_toBitVec (ticks : Nat) :
    (xTaskGetTickCount ticks * portTickPeriodMs).toBitVec = BitVec.ofNat 32 (trueTime ticks) := by
  have product : UInt32.ofNat (trueTime ticks) = xTaskGetTickCount ticks * portTickPeriodMs := by
    rw [trueTime, UInt32.ofNat_mul]
    rfl
  rw [← product]
  rfl

theorem interval_due (interval last : UInt32) (ticks : Nat) :
    interval ≤ xTaskGetTickCount ticks * portTickPeriodMs - last ↔
      Due interval.toBitVec last.toBitVec (trueTime ticks) := by
  rw [UInt32.le_iff_toBitVec_le, UInt32.toBitVec_sub, currentTime_toBitVec]
  rfl

theorem receive_timer {env : Env} {task next : Task} {data : List UInt8} {output : PassOutput}
    (done : receive env task data = some (output, next)) :
    next.lastHandshakeTime = task.lastHandshakeTime := by
  simp only [receive, Option.bind_eq_bind, Option.bind_eq_some_iff] at done
  obtain ⟨drain, _, same⟩ := done
  obtain ⟨_, rfl⟩ := Prod.mk.inj (Option.some.inj same)
  rfl

theorem pass_timer {env : Env} {task next : Task} {input : PassInput} {output : PassOutput}
    (done : newDawnSerialTask env task input = some (output, next)) :
    next.lastHandshakeTime = (sendPeriodic task input.tickCount).2.lastHandshakeTime := by
  by_cases nothing : input.data = []
  · rw [pass_idle nothing] at done
    obtain ⟨_, rfl⟩ := Prod.mk.inj (Option.some.inj done)
    rfl
  · rw [pass_receive nothing, Option.map_eq_some_iff] at done
    obtain ⟨⟨received, after⟩, done, same⟩ := done
    obtain ⟨_, rfl⟩ := Prod.mk.inj same
    exact receive_timer done

theorem store_toBitVec (fired : Bool) (last : UInt32) (ticks : Nat) :
    Poll.store { time := trueTime ticks, fired } last.toBitVec =
      (if fired then xTaskGetTickCount ticks * portTickPeriodMs else last).toBitVec := by
  cases fired <;> simp only [Poll.store, if_true, if_false, Bool.false_eq_true, currentTime_toBitVec]

theorem sendPeriodic_timer (task : Task) (tickCount : UInt32) :
    ((!(sendPeriodic task tickCount).1.isEmpty) = true ↔
      handshakeIntervalMs ≤ tickCount * portTickPeriodMs - task.lastHandshakeTime) ∧
    (sendPeriodic task tickCount).2.lastHandshakeTime =
      if !(sendPeriodic task tickCount).1.isEmpty then tickCount * portTickPeriodMs
      else task.lastHandshakeTime := by
  by_cases fires : handshakeIntervalMs ≤ tickCount * portTickPeriodMs - task.lastHandshakeTime <;>
    simp only [sendPeriodic, fires, if_true, if_false] <;> simp

theorem handshake_exact (env : Env) (task : Task) (passes : List (Nat × UartRead)) :
    Exact handshakeIntervalMs.toBitVec task.lastHandshakeTime.toBitVec
      (handshakePolls env task passes) := by
  induction passes generalizing task with
  | nil => trivial
  | cons pass passes ih =>
    obtain ⟨ticks, uartRead⟩ := pass
    obtain ⟨fires, stored⟩ := sendPeriodic_timer task (xTaskGetTickCount ticks)
    simp only [handshakePolls, Exact, store_toBitVec, ← interval_due, ← stored]
    constructor
    · exact fires
    · cases done : newDawnSerialTask env task ⟨xTaskGetTickCount ticks, uartRead⟩ with
      | none => trivial
      | some result =>
        have later := ih result.2
        rw [pass_timer done] at later
        exact later

theorem statusTick_timer (app : MainLoop) (currentTime : UInt32) (input : StatusInput) :
    (statusTick app currentTime input).2.lastStatusTime = app.lastStatusTime := by
  by_cases connected : input.isConnected <;> by_cases latched : app.vtConnected <;>
    simp [statusTick, connected, latched]

theorem appMain_timer (app : MainLoop) (tickCount : UInt32) (input : StatusInput) :
    ((appMain app tickCount input).1.isSome = true ↔
      statusIntervalMs ≤ tickCount * portTickPeriodMs - app.lastStatusTime) ∧
    (appMain app tickCount input).2.lastStatusTime =
      if (appMain app tickCount input).1.isSome then tickCount * portTickPeriodMs
      else app.lastStatusTime := by
  by_cases fires : statusIntervalMs ≤ tickCount * portTickPeriodMs - app.lastStatusTime <;>
    simp only [appMain, fires, if_true, if_false] <;> simp [statusTick_timer]

theorem status_exact (app : MainLoop) (passes : List (Nat × StatusInput)) :
    Exact statusIntervalMs.toBitVec app.lastStatusTime.toBitVec (statusPolls app passes) := by
  induction passes generalizing app with
  | nil => trivial
  | cons pass passes ih =>
    obtain ⟨ticks, input⟩ := pass
    obtain ⟨fires, stored⟩ := appMain_timer app (xTaskGetTickCount ticks) input
    simp only [statusPolls, Exact, store_toBitVec, ← interval_due, ← stored]
    exact ⟨fires, ih _⟩

theorem canUpdateTask_timer (last tickCount : UInt32) (input : RefreshInput) :
    ((canUpdateTask last tickCount input).1.isSome = true →
      vtUpdateIntervalMs ≤ tickCount * portTickPeriodMs - last) ∧
    (canUpdateTask last tickCount input).2 =
      if (canUpdateTask last tickCount input).1.isSome then tickCount * portTickPeriodMs
      else last := by
  by_cases connected : input.isConnected <;>
    by_cases fires : vtUpdateIntervalMs ≤ tickCount * portTickPeriodMs - last <;>
      simp only [canUpdateTask, connected, fires, and_true, and_false, if_true, if_false] <;> simp

theorem refresh_guarded (last : UInt32) (passes : List (Nat × RefreshInput)) :
    Guarded vtUpdateIntervalMs.toBitVec last.toBitVec (refreshPolls last passes) := by
  induction passes generalizing last with
  | nil => trivial
  | cons pass passes ih =>
    obtain ⟨ticks, input⟩ := pass
    obtain ⟨fires, stored⟩ := canUpdateTask_timer last (xTaskGetTickCount ticks) input
    simp only [refreshPolls, Guarded, store_toBitVec, ← interval_due, ← stored]
    exact ⟨fires, ih _⟩

/-- In every run of the three loops no two handshakes, status ticks or display refreshes come too
early; and the handshake and the status timer, polled often enough, fire at every poll that has seen
their period pass. -/
theorem timers_survive_wraps :
    (∀ (env : Env) (buffer : Buffer) (passes : List (Nat × UartRead)),
      Ordered 0 (handshakePolls env (.boot buffer) passes) →
      Apart 2500 (handshakePolls env (.boot buffer) passes) ∧
      (Frequent (2 ^ 32 - 2500) 0 (handshakePolls env (.boot buffer) passes) →
        Prompt 2500 (handshakePolls env (.boot buffer) passes))) ∧
    (∀ passes : List (Nat × StatusInput), Ordered 0 (statusPolls .boot passes) →
      Apart 5000 (statusPolls .boot passes) ∧
      (Frequent (2 ^ 32 - 5000) 0 (statusPolls .boot passes) →
        Prompt 5000 (statusPolls .boot passes))) ∧
    (∀ passes : List (Nat × RefreshInput), Ordered 0 (refreshPolls 0 passes) →
      Apart 50 (refreshPolls 0 passes)) := by
  constructor
  · intro env buffer passes ordered
    have exact := handshake_exact env (.boot buffer) passes
    exact ⟨apart_of_guarded ordered (exact_guarded exact),
      fun frequent => prompt_of_exact (by decide) ordered frequent exact⟩
  constructor
  · intro passes ordered
    have exact := status_exact .boot passes
    exact ⟨apart_of_guarded ordered (exact_guarded exact),
      fun frequent => prompt_of_exact (by decide) ordered frequent exact⟩
  · intro passes ordered
    exact apart_of_guarded ordered (refresh_guarded 0 passes)

-- In the safety parts the second poll comes just after the tick counter has wrapped.
theorem timers_survive_wraps_once :
    (Apart 2500 (handshakePolls .quiet (.boot zeroBuffer) [(100, .error), (4294967296, .error)]) ∧
      Prompt 2500 (handshakePolls .quiet (.boot zeroBuffer) [(100, .error), (350, .error)])) ∧
    Prompt 5000 (statusPolls .boot [(100, ⟨true, true, true, none⟩), (600, ⟨true, true, true, none⟩)]) ∧
    Apart 50 (refreshPolls 0 [(100, ⟨true, none⟩), (4294967296, ⟨true, none⟩)]) := by
  obtain ⟨handshake, status, refresh⟩ := timers_survive_wraps
  refine ⟨⟨?_, ?_⟩, ?_, ?_⟩
  · exact (handshake _ _ _ (by decide)).1
  · exact (handshake _ _ _ (by decide)).2 (by decide)
  · exact (status _ (by decide)).2 (by decide)
  · exact refresh _ (by decide)

end LittleDawn
