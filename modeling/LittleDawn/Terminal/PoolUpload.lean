import LittleDawn.Terminal.UploadMoves

set_option autoImplicit false

namespace LittleDawn

open Emission (Path)

def Uploading.transfers (uploading : Uploading) : Nat :=
  uploading.pools.countP ObjectPool.needsTransfer

-- The transfers that are not spent yet.
def Uploading.credit (uploading : Uploading) : Nat :=
  (match uploading.state.stage with
    | .before => uploading.pools.countP ObjectPool.transferred
    | .complete => uploading.transfers
    | .told => 0) +
  if uploading.upload = .success then 1 else 0

def ends (messages : List VtMessage) : Nat :=
  (uploadEvents messages).count .endOfObjectPool

theorem ends_append (messages more : List VtMessage) :
    ends (messages ++ more) = ends messages + ends more := by
  simp [ends, uploadEvents_append]

theorem countP_needs (pools : List ObjectPool) :
    pools.countP ObjectPool.needsTransfer =
      (pools.map ObjectPool.unmarked).countP ObjectPool.needsTransfer := by
  rw [List.countP_map]
  rfl

theorem Uploading.Move.transfers {uploading next : Uploading} {events : List UploadEvent}
    (move : Uploading.Move uploading events next) : next.transfers = uploading.transfers := by
  rw [Uploading.transfers, countP_needs, move.pools, ← countP_needs, Uploading.transfers]

theorem transferred_marked {pools : List ObjectPool} {index : Nat} {pool : ObjectPool}
    (found : pools[index]? = some pool) :
    (pools.set index { pool with uploaded := true }).countP ObjectPool.transferred +
        (if pool.transferred then 1 else 0) =
      pools.countP ObjectPool.transferred + if pool.needsTransfer then 1 else 0 := by
  obtain ⟨inside, rfl⟩ := List.getElem?_eq_some_iff.mp found
  have marks : (if pools[index].transferred then 1 else 0) ≤
      pools.countP ObjectPool.transferred := by
    split
    · rename_i holds
      exact List.countP_pos_iff.mpr ⟨_, List.getElem_mem inside, holds⟩
    · exact Nat.zero_le _
  have same : ObjectPool.transferred { pools[index] with uploaded := true } =
      pools[index].needsTransfer := Bool.and_true _
  rw [List.countP_set inside, same]
  omega

theorem transfers_le {pools : List ObjectPool}
    (marked : ∀ pool ∈ pools, pool.needsTransfer = true → pool.uploaded = true) :
    pools.countP ObjectPool.needsTransfer ≤ pools.countP ObjectPool.transferred := by
  apply List.countP_mono_left
  intro pool member needs
  simp [ObjectPool.transferred, needs, marked pool member needs]

theorem Uploading.Move.pays {uploading next : Uploading} {events : List UploadEvent}
    (move : Uploading.Move uploading events next) :
    uploading.transfers * events.count .endOfObjectPool + next.credit ≤ uploading.credit := by
  cases move with
  | goes value other stage =>
    rcases stage with same | told
    · simp [Uploading.credit, Uploading.transfers, same]
    · simp [Uploading.credit, told]
  | disconnects =>
    have none :
        (uploading.pools.map ObjectPool.unmarked).countP ObjectPool.transferred = 0 := by
      simp [List.countP_eq_zero, ObjectPool.transferred, ObjectPool.unmarked]
    have left : uploading.disconnected.credit =
        0 + if uploading.upload = .success then 1 else 0 :=
      congrArg (fun count => count + if uploading.upload = .success then 1 else 0) none
    rw [left, List.count_nil, Nat.mul_zero, Nat.zero_add, Nat.zero_add]
    exact Nat.le_add_left _ _
  | begins index pool found before needs unmarked free =>
    simp [Uploading.credit, Uploading.transfers, free]
  | marks index pool found before needs unmarked success =>
    have marks := transferred_marked found
    rw [if_neg (by simp [ObjectPool.transferred, unmarked]), if_pos needs, Nat.add_zero] at marks
    simp [Uploading.credit, Uploading.marked, before, success, marks]
  | skips index pool found before needless =>
    have marks := transferred_marked found
    rw [if_neg (by simp [ObjectPool.transferred, needless]), if_neg (by simp [needless])] at marks
    simp only [Nat.add_zero] at marks
    simp only [Uploading.credit, Uploading.marked, before, marks, List.count_nil, Nat.mul_zero,
      Nat.zero_add]
    exact le_refl _
  | givesUp failed => simp [Uploading.credit, Uploading.transfers, failed]
  | completes next here all same upload state =>
    have paid := transfers_le all
    have transfers : next.transfers = uploading.transfers := by
      rw [Uploading.transfers, countP_needs, same, ← countP_needs, Uploading.transfers]
    have flag : (if next.upload = .success then 1 else 0) ≤
        if uploading.upload = .success then 1 else 0 := by
      rcases upload with kept | cleared
      · rw [kept]
      · rw [cleared]
        exact Nat.zero_le _
    simp only [Uploading.credit, here, state, StateMachineState.stage, transfers, List.count_nil]
    exact (Nat.zero_add _).le.trans (Nat.add_le_add paid flag)
  | ends here =>
    simp [Uploading.credit, Uploading.transfers, here, StateMachineState.stage]

theorem path_pays {uploading next : Uploading} {events : List UploadEvent}
    (path : Path Uploading.Move uploading events next) :
    next.transfers = uploading.transfers ∧
      uploading.transfers * events.count .endOfObjectPool + next.credit ≤ uploading.credit := by
  induction path with
  | stay => simp
  | move move path ih =>
    obtain ⟨same, later⟩ := ih
    have first := move.pays
    rw [move.transfers] at same later
    refine ⟨same, ?_⟩
    rw [List.count_append, Nat.mul_add]
    omega

def ProgramStep.completes (step : ProgramStep) : Bool :=
  step.transferEnds? = some true

theorem processCallback_pays (client : VtClient) (successful : Bool) :
    (client.processCallback successful).uploading.transfers = client.uploading.transfers ∧
      (client.processCallback successful).uploading.credit ≤
        client.uploading.credit + if successful then 1 else 0 := by
  unfold VtClient.processCallback
  split
  · refine ⟨rfl, ?_⟩
    cases successful <;> simp [VtClient.uploading, Uploading.credit, Uploading.transfers]
  · exact ⟨rfl, Nat.le_add_right _ _⟩

theorem step_pays (program : Program) (input : ProgramInput) :
    (program.next input).client.uploading.transfers = program.client.uploading.transfers ∧
      program.client.uploading.transfers * ends (program.sent input) +
          (program.next input).client.uploading.credit ≤
        program.client.uploading.credit + if input.step.completes then 1 else 0 := by
  by_cases goes : input.step.transferEnds? = none
  · obtain ⟨same, paid⟩ := path_pays (step_uploads program input goes)
    exact ⟨same, paid.trans (Nat.le_add_right _ _)⟩
  · obtain ⟨step, time, accepts⟩ := input
    cases step with
    | transferEnds successful =>
      obtain ⟨same, credit⟩ := processCallback_pays program.client successful
      refine ⟨same, ?_⟩
      have income : (if successful then 1 else 0) =
          if (ProgramStep.transferEnds successful).completes then 1 else 0 := by
        cases successful <;> rfl
      rw [income] at credit
      change _ * 0 + _ ≤ _
      rw [Nat.mul_zero, Nat.zero_add]
      exact credit
    | _ => exact absurd rfl goes

theorem run_pays (program : Program) (inputs : List ProgramInput) :
    program.client.uploading.transfers * ends (program.traffic inputs) +
        (program.run inputs).client.uploading.credit ≤
      program.client.uploading.credit + inputs.countP fun input => input.step.completes := by
  induction inputs generalizing program with
  | nil =>
    have none : ends (program.traffic []) = 0 := rfl
    simp [none, Program.run]
  | cons input inputs ih =>
    obtain ⟨same, first⟩ := step_pays program input
    have rest := ih (program.next input)
    rw [same] at rest
    have traffic : ends (program.traffic (input :: inputs)) =
        ends (program.sent input) + ends ((program.next input).traffic inputs) :=
      ends_append _ _
    have run : program.run (input :: inputs) = (program.next input).run inputs := rfl
    rw [traffic, run, Nat.mul_add, List.countP_cons]
    omega

/-- The client never tells the terminal that the object pool is complete more often than transfers
of all its pools have ended well. -/
theorem ends_paid (objectPools : List ObjectPool) (inputs : List ProgramInput)
    (unmarked : ∀ pool ∈ objectPools, pool.uploaded = false) :
    objectPools.countP ObjectPool.needsTransfer *
        ends ((Program.boot objectPools).traffic inputs) ≤
      inputs.countP fun input => input.step.completes := by
  have none : objectPools.countP ObjectPool.transferred = 0 := by
    rw [List.countP_eq_zero]
    intro pool member
    simp [ObjectPool.transferred, unmarked pool member]
  have begun : (Program.boot objectPools).client.uploading.credit = 0 := none
  have paid := run_pays (Program.boot objectPools) inputs
  rw [begun, Nat.zero_add] at paid
  exact (Nat.le_add_right _ _).trans paid

theorem ends_paid_sample :
    [ld20].countP ObjectPool.needsTransfer * ends ((Program.boot [ld20]).traffic connectInputs) ≤
        connectInputs.countP (fun input => input.step.completes) ∧
      ends ((Program.boot [ld20]).traffic connectInputs) = 1 :=
  ⟨ends_paid [ld20] connectInputs (by decide), by decide +kernel⟩

end LittleDawn
