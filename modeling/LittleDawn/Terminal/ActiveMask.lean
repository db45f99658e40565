import LittleDawn.Model.Terminal
import Mathlib.Tactic.Common

set_option autoImplicit false

namespace LittleDawn

structure Tick where
  input : StatusInput
  output : StatusOutput
  deriving DecidableEq, Repr

def statusTicks : MainLoop → List (UInt32 × StatusInput) → List Tick
  | _, [] => []
  | app, (currentTime, input) :: ticks =>
    let tick := statusTick { app with lastStatusTime := currentTime } currentTime input
    { input, output := tick.1 } :: statusTicks tick.2 ticks

def mainLoopTicks : MainLoop → List (UInt32 × StatusInput) → List Tick
  | _, [] => []
  | app, (tickCount, input) :: passes =>
    match appMain app tickCount input with
    | (some output, next) => { input, output } :: mainLoopTicks next passes
    | (none, next) => mainLoopTicks next passes

def Tick.attempted (tick : Tick) : Prop :=
  .changeActiveMask 0 1000 ∈ tick.output.commands

def Tick.accepted (tick : Tick) : Prop :=
  tick.attempted ∧ tick.input.maskSent = true

def MaskCommanded (ticks : List Tick) : Prop :=
  ∀ before now after, ticks = before ++ now :: after → now.input.isConnected = true →
    now.attempted ∨ ∃ earlier tick since, before = earlier ++ tick :: since ∧ tick.accepted ∧
      ∀ later ∈ tick :: since, later.input.isConnected = true

def FirstCommandLasts (inputs : List StatusInput) : Prop :=
  ∀ before first between now after, inputs = before ++ first :: (between ++ now :: after) →
    (∀ input ∈ before, input.isConnected = false) → first.isConnected = true →
    now.isConnected = true →
    first.maskSent = true ∧ ∀ input ∈ between, input.isConnected = true

theorem statusTick_latch (app : MainLoop) (currentTime : UInt32) (input : StatusInput) :
    (statusTick app currentTime input).1.commands =
      (if input.isConnected && !app.vtConnected then [.changeActiveMask 0 1000] else []) ∧
    (statusTick app currentTime input).2.vtConnected = (app.vtConnected || input.isConnected) := by
  by_cases connected : input.isConnected <;> by_cases latched : app.vtConnected <;>
    simp [statusTick, connected, latched]

theorem statusTicks_inputs (app : MainLoop) (passes : List (UInt32 × StatusInput)) :
    (statusTicks app passes).map Tick.input = passes.map Prod.snd := by
  induction passes generalizing app with
  | nil => rfl
  | cons pass passes ih => simp [statusTicks, ih]

theorem attempted_iff (app : MainLoop) (passes : List (UInt32 × StatusInput))
    (before after : List Tick) (now : Tick)
    (split : statusTicks app passes = before ++ now :: after) :
    now.attempted ↔ app.vtConnected = false ∧ now.input.isConnected = true ∧
      ∀ tick ∈ before, tick.input.isConnected = false := by
  induction before generalizing app passes with
  | nil =>
    cases passes with
    | nil => simp [statusTicks] at split
    | cons pass passes =>
      simp only [statusTicks, List.nil_append, List.cons.injEq] at split
      obtain ⟨rfl, _⟩ := split
      obtain ⟨commands, _⟩ := statusTick_latch { app with lastStatusTime := pass.1 } pass.1 pass.2
      rw [Tick.attempted, commands]
      by_cases connected : pass.2.isConnected <;> by_cases latched : app.vtConnected <;>
        simp [connected, latched]
  | cons first before ih =>
    cases passes with
    | nil => simp [statusTicks] at split
    | cons pass passes =>
      simp only [statusTicks, List.cons_append, List.cons.injEq] at split
      obtain ⟨rfl, rest⟩ := split
      obtain ⟨_, latch⟩ := statusTick_latch { app with lastStatusTime := pass.1 } pass.1 pass.2
      rw [ih _ _ rest, latch]
      by_cases latched : app.vtConnected <;> simp [latched, and_left_comm]

theorem first_unique {before earlier between since : List Tick} {first tick : Tick}
    (same : before ++ first :: between = earlier ++ tick :: since)
    (quiet : ∀ tick ∈ before, tick.input.isConnected = false)
    (silent : ∀ tick ∈ earlier, tick.input.isConnected = false)
    (connected : first.input.isConnected = true) (found : tick.input.isConnected = true) :
    first = tick ∧ between = since := by
  induction before generalizing earlier with
  | nil =>
    cases earlier with
    | nil => exact List.cons.inj same
    | cons head earlier =>
      obtain ⟨rfl, _⟩ := List.cons.inj same
      have := silent first List.mem_cons_self
      simp [connected] at this
  | cons head before ih =>
    cases earlier with
    | nil =>
      obtain ⟨rfl, _⟩ := List.cons.inj same
      have := quiet head List.mem_cons_self
      simp [found] at this
    | cons other earlier =>
      exact ih (List.cons.inj same).2
        (fun tick member => quiet tick (List.mem_cons_of_mem _ member))
        (fun tick member => silent tick (List.mem_cons_of_mem _ member))

theorem mainLoopTicks_due (app : MainLoop) (passes : List (UInt32 × StatusInput)) :
    ∃ due : List (UInt32 × StatusInput), due.Sublist passes ∧ mainLoopTicks app passes =
      statusTicks app (due.map fun pass => (pass.1 * portTickPeriodMs, pass.2)) := by
  induction passes generalizing app with
  | nil => exact ⟨[], .slnil, rfl⟩
  | cons pass passes ih =>
    by_cases fires : statusIntervalMs ≤ pass.1 * portTickPeriodMs - app.lastStatusTime
    · obtain ⟨due, listed, same⟩ := ih (appMain app pass.1 pass.2).2
      refine ⟨pass :: due, listed.cons_cons pass, ?_⟩
      simp only [appMain, fires, if_true] at same
      simp only [mainLoopTicks, appMain, fires, if_true, List.map_cons, statusTicks, same]
    · obtain ⟨due, listed, same⟩ := ih app
      refine ⟨due, listed.cons pass, ?_⟩
      simp only [mainLoopTicks, appMain, fires, if_false, same]

theorem lasts_of_commanded {passes : List (UInt32 × StatusInput)}
    (commanded : MaskCommanded (statusTicks .boot passes)) :
    FirstCommandLasts (passes.map Prod.snd) := by
  intro before first between now after split quiet connected again
  rw [← statusTicks_inputs .boot passes, List.map_eq_append_iff] at split
  obtain ⟨before, _, split, rfl, fromFirst⟩ := split
  obtain ⟨first, _, rfl, rfl, fromNext⟩ := List.map_eq_cons_iff.mp fromFirst
  obtain ⟨between, _, rfl, rfl, fromNow⟩ := List.map_eq_append_iff.mp fromNext
  obtain ⟨now, after, rfl, rfl, rfl⟩ := List.map_eq_cons_iff.mp fromNow
  have quiet : ∀ tick ∈ before, tick.input.isConnected = false := fun tick member =>
    quiet _ (List.mem_map_of_mem member)
  have late : statusTicks .boot passes = (before ++ first :: between) ++ now :: after := by
    rw [split, List.append_assoc, List.cons_append]
  rcases commanded _ now after late again with
    attempted | ⟨earlier, tick, since, same, accepted, lasts⟩
  · have alone := ((attempted_iff _ _ _ _ _ late).mp attempted).2.2 first (by simp)
    simp [connected] at alone
  · have place : statusTicks .boot passes = earlier ++ tick :: (since ++ now :: after) := by
      rw [late, same, List.append_assoc, List.cons_append]
    obtain ⟨_, found, silent⟩ := (attempted_iff _ _ _ _ _ place).mp accepted.1
    obtain ⟨rfl, rfl⟩ := first_unique same quiet silent connected found
    constructor
    · exact accepted.2
    · intro input member
      obtain ⟨later, listed, rfl⟩ := List.mem_map.mp member
      exact lasts later (List.mem_cons_of_mem _ listed)

theorem commanded_of_lasts {passes : List (UInt32 × StatusInput)}
    (lasts : FirstCommandLasts (passes.map Prod.snd)) :
    MaskCommanded (statusTicks .boot passes) := by
  intro before now after split connected
  by_cases attempted : now.attempted
  · exact .inl attempted
  -- The first tick that found the VT connected was before this one.
  obtain ⟨first, found⟩ :
      ∃ first, before.find? (fun tick => tick.input.isConnected) = some first := by
    rw [← Option.isSome_iff_exists, List.find?_isSome]
    by_contra none
    apply attempted
    rw [attempted_iff _ _ _ _ _ split]
    refine ⟨rfl, connected, ?_⟩
    intro tick member
    by_contra other
    exact none ⟨tick, member, by simpa using other⟩
  obtain ⟨early, earlier, since, rfl, quiet⟩ := List.find?_eq_some_iff_append.mp found
  have quiet : ∀ tick ∈ earlier, tick.input.isConnected = false := by simpa using quiet
  have place : statusTicks .boot passes = earlier ++ first :: (since ++ now :: after) := by
    rw [split, List.append_assoc, List.cons_append]
  have inputs : passes.map Prod.snd = earlier.map Tick.input ++ first.input ::
      (since.map Tick.input ++ now.input :: after.map Tick.input) := by
    rw [← statusTicks_inputs .boot passes, place]
    simp
  obtain ⟨sent, stays⟩ := lasts _ _ _ _ _ inputs (by simpa using quiet) early connected
  refine .inr ⟨earlier, first, since, rfl, ⟨?_, sent⟩, ?_⟩
  · exact (attempted_iff _ _ _ _ _ place).mpr ⟨rfl, early, quiet⟩
  · intro later member
    rcases List.mem_cons.mp member with rfl | member
    · exact early
    · exact stays _ (List.mem_map_of_mem member)

/-- The mask command holds exactly for one lasting connection, over every sequence of status ticks.
-/
theorem mask_commanded_iff (passes : List (UInt32 × StatusInput)) :
    MaskCommanded (statusTicks .boot passes) ↔ FirstCommandLasts (passes.map Prod.snd) :=
  ⟨lasts_of_commanded, commanded_of_lasts⟩

theorem mask_not_commanded :
    ¬ MaskCommanded (statusTicks .boot
      [(5000, ⟨true, true, false, none⟩), (10000, ⟨true, true, true, none⟩)]) := by
  intro commanded
  have lasts := lasts_of_commanded commanded [] ⟨true, true, false, none⟩ []
    ⟨true, true, true, none⟩ [] rfl (by simp) rfl rfl
  simp at lasts

end LittleDawn
