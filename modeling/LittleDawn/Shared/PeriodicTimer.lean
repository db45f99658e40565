import Mathlib.Data.BitVec
import Mathlib.Data.List.Pairwise
import Mathlib.Tactic.Common

set_option autoImplicit false

namespace PeriodicTimer

variable {w : Nat}

structure Poll where
  time : Nat
  fired : Bool
  deriving DecidableEq, Repr

def Due (period last : BitVec w) (time : Nat) : Prop :=
  period ≤ BitVec.ofNat w time - last

def Poll.store (poll : Poll) (last : BitVec w) : BitVec w :=
  if poll.fired then BitVec.ofNat w poll.time else last

def Guarded (period : BitVec w) : BitVec w → List Poll → Prop
  | _, [] => True
  | last, poll :: polls =>
    (poll.fired = true → Due period last poll.time) ∧ Guarded period (poll.store last) polls

def Exact (period : BitVec w) : BitVec w → List Poll → Prop
  | _, [] => True
  | last, poll :: polls =>
    (poll.fired = true ↔ Due period last poll.time) ∧ Exact period (poll.store last) polls

def firings (polls : List Poll) : List Nat :=
  (polls.filter Poll.fired).map Poll.time

def Ordered : Nat → List Poll → Prop
  | _, [] => True
  | start, poll :: polls => start ≤ poll.time ∧ Ordered poll.time polls

def Frequent (limit : Nat) : Nat → List Poll → Prop
  | _, [] => True
  | start, poll :: polls => poll.time < start + limit ∧ Frequent limit poll.time polls

def Ordered.decide : (start : Nat) → (polls : List Poll) → Decidable (Ordered start polls)
  | _, [] => .isTrue trivial
  | _, poll :: polls =>
    have := Ordered.decide poll.time polls
    inferInstanceAs (Decidable (_ ∧ _))

instance (start : Nat) (polls : List Poll) : Decidable (Ordered start polls) :=
  Ordered.decide start polls

def Frequent.decide (limit : Nat) :
    (start : Nat) → (polls : List Poll) → Decidable (Frequent limit start polls)
  | _, [] => .isTrue trivial
  | _, poll :: polls =>
    have := Frequent.decide limit poll.time polls
    inferInstanceAs (Decidable (_ ∧ _))

instance (limit start : Nat) (polls : List Poll) : Decidable (Frequent limit start polls) :=
  Frequent.decide limit start polls

def Apart (period : Nat) (polls : List Poll) : Prop :=
  (firings polls).Pairwise (fun earlier later => earlier + period ≤ later)

def Prompt (period : Nat) (polls : List Poll) : Prop :=
  ∀ before poll after, polls = before ++ poll :: after →
    (firings before).getLastD 0 + period ≤ poll.time → poll.fired = true

variable {period : BitVec w}

theorem firings_cons (poll : Poll) (polls : List Poll) :
    firings (poll :: polls) =
      if poll.fired then poll.time :: firings polls else firings polls := by
  by_cases fired : poll.fired <;> simp [firings, fired]

theorem exact_guarded {last : BitVec w} {polls : List Poll} (exact : Exact period last polls) :
    Guarded period last polls := by
  induction polls generalizing last with
  | nil => trivial
  | cons poll polls ih => exact ⟨exact.1.mp, ih exact.2⟩

theorem ordered_mono {start earlier : Nat} {polls : List Poll} (before : earlier ≤ start)
    (ordered : Ordered start polls) : Ordered earlier polls := by
  cases polls with
  | nil => trivial
  | cons poll polls => exact ⟨le_trans before ordered.1, ordered.2⟩

-- What a poll computes is the time since the last firing, up to a multiple of `2 ^ w`.
theorem due_iff {last time : Nat} (later : last ≤ time) :
    Due period (BitVec.ofNat w last) time ↔ period.toNat ≤ (time - last) % 2 ^ w := by
  have split : BitVec.ofNat w time = BitVec.ofNat w (time - last) + BitVec.ofNat w last := by
    rw [← BitVec.ofNat_add, Nat.sub_add_cancel later]
  rw [Due, split, BitVec.add_sub_cancel, BitVec.le_def, BitVec.toNat_ofNat]

theorem due_sound {last time : Nat} (later : last ≤ time)
    (due : Due period (BitVec.ofNat w last) time) : last + period.toNat ≤ time := by
  have computed := (due_iff later).mp due
  have most := Nat.mod_le (time - last) (2 ^ w)
  omega

theorem due_complete {last time : Nat} (later : last ≤ time) (recent : time - last < 2 ^ w) :
    Due period (BitVec.ofNat w last) time ↔ last + period.toNat ≤ time := by
  rw [due_iff later, Nat.mod_eq_of_lt recent]
  omega

theorem guarded_apart {last : Nat} {polls : List Poll} (ordered : Ordered last polls)
    (guarded : Guarded period (BitVec.ofNat w last) polls) :
    (last :: firings polls).Pairwise (fun earlier later => earlier + period.toNat ≤ later) := by
  induction polls generalizing last with
  | nil => simp [firings]
  | cons poll polls ih =>
    obtain ⟨later, ordered⟩ := ordered
    obtain ⟨due, guarded⟩ := guarded
    by_cases fired : poll.fired
    · have gap := due_sound later (due fired)
      simp only [Poll.store, fired, if_true] at guarded
      have rest := ih ordered guarded
      rw [firings_cons, if_pos fired, List.pairwise_cons]
      constructor
      · intro time member
        rcases List.mem_cons.mp member with same | member
        · omega
        · have := List.rel_of_pairwise_cons rest member
          omega
      · exact rest
    · simp only [Poll.store, fired, if_false, Bool.false_eq_true] at guarded
      rw [firings_cons, if_neg fired]
      exact ih (ordered_mono later ordered) guarded

theorem exact_prompt {last previous : Nat} {polls : List Poll} (order : last ≤ previous)
    (recent : previous < last + period.toNat) (ordered : Ordered previous polls)
    (frequent : Frequent (2 ^ w - period.toNat) previous polls)
    (exact : Exact period (BitVec.ofNat w last) polls) (before after : List Poll) (poll : Poll)
    (split : polls = before ++ poll :: after)
    (passed : (firings before).getLastD last + period.toNat ≤ poll.time) : poll.fired = true := by
  induction before generalizing last previous polls with
  | nil =>
    subst split
    have later := le_trans order ordered.1
    have close := frequent.1
    exact exact.1.mpr ((due_complete later (by omega)).mpr passed)
  | cons first before ih =>
    subst split
    obtain ⟨next, ordered⟩ := ordered
    obtain ⟨close, frequent⟩ := frequent
    obtain ⟨fires, exact⟩ := exact
    by_cases fired : first.fired
    · simp only [Poll.store, fired, if_true] at exact
      rw [firings_cons, if_pos fired, List.getLastD_cons] at passed
      exact ih (le_refl _) (by omega) ordered frequent exact rfl passed
    · simp only [Poll.store, fired, if_false, Bool.false_eq_true] at exact
      rw [firings_cons, if_neg fired] at passed
      -- A poll that does not fire has seen the true time since the last firing.
      have waits := mt fires.mpr fired
      rw [due_complete (le_trans order next) (by omega)] at waits
      exact ih (le_trans order next) (by omega) ordered frequent exact rfl passed

theorem apart_of_guarded {polls : List Poll} (ordered : Ordered 0 polls)
    (guarded : Guarded period 0 polls) : Apart period.toNat polls :=
  (List.pairwise_cons.mp (guarded_apart ordered guarded)).2

theorem prompt_of_exact {polls : List Poll} (positive : 0 < period.toNat)
    (ordered : Ordered 0 polls) (frequent : Frequent (2 ^ w - period.toNat) 0 polls)
    (exact : Exact period 0 polls) : Prompt period.toNat polls := by
  intro before poll after split passed
  exact exact_prompt (le_refl 0) (by omega) ordered frequent exact before after poll split passed

end PeriodicTimer
