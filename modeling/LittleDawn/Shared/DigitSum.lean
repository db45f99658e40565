import Mathlib.Data.Nat.ModEq
import Mathlib.Data.Nat.Bitwise

set_option autoImplicit false

namespace DigitSum

structure Burst (w start : Nat) (xs ys : List Nat) : Prop where
  length : xs.length = ys.length
  differs : xs ≠ ys
  window : ∀ i j, (xs.getD i 0).testBit j ≠ (ys.getD i 0).testBit j →
    start ≤ w * i + j ∧ w * i + j < start + w

theorem sum_modEq {m : Nat} {xs ys : List Nat} (length : xs.length = ys.length)
    (same : ∀ i, xs.getD i 0 ≡ ys.getD i 0 [MOD m]) : xs.sum ≡ ys.sum [MOD m] := by
  induction xs generalizing ys with
  | nil =>
    obtain rfl := List.length_eq_zero_iff.mp length.symm
    exact Nat.ModEq.refl _
  | cons x xs ih =>
    obtain ⟨y, ys, rfl⟩ := List.exists_cons_of_length_eq_add_one length.symm
    simp only [List.length_cons, Nat.add_right_cancel_iff] at length
    rw [List.sum_cons, List.sum_cons]
    exact (same 0).add (ih length fun i => same (i + 1))

theorem digit_of_sum {m : Nat} (p : Nat) {xs ys : List Nat} (length : xs.length = ys.length)
    (others : ∀ i, i ≠ p → xs.getD i 0 ≡ ys.getD i 0 [MOD m]) (sum : xs.sum ≡ ys.sum [MOD m]) :
    xs.getD p 0 ≡ ys.getD p 0 [MOD m] := by
  induction xs generalizing p ys with
  | nil =>
    obtain rfl := List.length_eq_zero_iff.mp length.symm
    exact Nat.ModEq.refl _
  | cons x xs ih =>
    obtain ⟨y, ys, rfl⟩ := List.exists_cons_of_length_eq_add_one length.symm
    simp only [List.length_cons, Nat.add_right_cancel_iff] at length
    rw [List.sum_cons, List.sum_cons] at sum
    cases p with
    | zero =>
      have tails := sum_modEq length fun i => others (i + 1) (by omega)
      exact Nat.ModEq.add_right_cancel tails sum
    | succ p =>
      have head : x ≡ y [MOD m] := others 0 (by omega)
      exact ih p length (fun i other => others (i + 1) (by omega))
        (Nat.ModEq.add_left_cancel head sum)

theorem modEq_of_bits {x y k : Nat} (bits : ∀ j < k, x.testBit j = y.testBit j) :
    x ≡ y [MOD 2 ^ k] := by
  apply Nat.eq_of_testBit_eq
  intro j
  rw [Nat.testBit_mod_two_pow, Nat.testBit_mod_two_pow]
  by_cases below : j < k
  · rw [bits j below]
  · simp [below]

theorem testBit_of_modEq {x y k j : Nat} (same : x ≡ y [MOD 2 ^ k]) (below : j < k) :
    x.testBit j = y.testBit j := by
  have bits := congrArg (Nat.testBit · j) same
  simpa [Nat.testBit_mod_two_pow, below] using bits

theorem eq_of_digits {xs ys : List Nat} (length : xs.length = ys.length)
    (same : ∀ i, xs.getD i 0 = ys.getD i 0) : xs = ys := by
  apply List.ext_getElem length
  intro i inside other
  have digit := same i
  rwa [List.getD_eq_getElem _ _ inside, List.getD_eq_getElem _ _ other] at digit

theorem getD_small {w : Nat} {xs : List Nat} (small : ∀ x ∈ xs, x < 2 ^ w) (i : Nat) :
    xs.getD i 0 < 2 ^ w := by
  by_cases inside : i < xs.length
  · rw [List.getD_eq_getElem _ _ inside]
    exact small _ (List.getElem_mem inside)
  · rw [List.getD_eq_default _ _ (Nat.le_of_not_lt inside)]
    exact Nat.two_pow_pos w

theorem burst_of_digit {w x y : Nat} (front back : List Nat) (different : x ≠ y)
    (left : x < 2 ^ w) (right : y < 2 ^ w) :
    Burst w (w * front.length) (front ++ x :: back) (front ++ y :: back) where
  length := by simp
  differs := by simp [different]
  window := by
    intro i j flip
    rcases Nat.lt_trichotomy i front.length with before | rfl | after
    · rw [List.getD_append _ _ _ _ before, List.getD_append _ _ _ _ before] at flip
      exact absurd rfl flip
    · have bit : j < w := by
        by_contra high
        have power := Nat.pow_le_pow_right (show 0 < 2 by decide) (Nat.le_of_not_lt high)
        simp [Nat.testBit_lt_two_pow (Nat.lt_of_lt_of_le left power),
          Nat.testBit_lt_two_pow (Nat.lt_of_lt_of_le right power)] at flip
      omega
    · obtain ⟨k, rfl⟩ : ∃ k, i = front.length + (k + 1) := ⟨i - front.length - 1, by omega⟩
      simp [List.getElem?_append_right] at flip

variable {w start : Nat} {xs ys : List Nat}

-- The window lies in two neighbouring digits: in the first one from its offset on, in the second
-- one below it.
theorem Burst.position (burst : Burst w start xs ys) (positive : 0 < w) {i j : Nat} (bit : j < w)
    (flip : (xs.getD i 0).testBit j ≠ (ys.getD i 0).testBit j) :
    (i = start / w ∧ start % w ≤ j) ∨ (i = start / w + 1 ∧ j < start % w) := by
  obtain ⟨low, high⟩ := burst.window i j flip
  have offset := Nat.mod_lt start positive
  have split := Nat.div_add_mod start w
  rcases Nat.lt_trichotomy i (start / w) with before | rfl | after
  · have := Nat.mul_le_mul_left w (show i + 1 ≤ start / w from before)
    rw [Nat.mul_add, Nat.mul_one] at this
    omega
  · omega
  · rcases Nat.lt_or_ge i (start / w + 2) with next | far
    · obtain rfl : i = start / w + 1 := by omega
      rw [Nat.mul_add, Nat.mul_one] at high
      omega
    · have := Nat.mul_le_mul_left w far
      rw [Nat.mul_add] at this
      omega

theorem Burst.sum_ne (burst : Burst w start xs ys) (positive : 0 < w)
    (left : ∀ x ∈ xs, x < 2 ^ w) (right : ∀ y ∈ ys, y < 2 ^ w) :
    ¬ xs.sum ≡ ys.sum [MOD 2 ^ w] := by
  intro sum
  have offset := Nat.mod_lt start positive
  have digit {i : Nat} (bits : ∀ j < w, (xs.getD i 0).testBit j = (ys.getD i 0).testBit j) :
      xs.getD i 0 = ys.getD i 0 :=
    Nat.ModEq.eq_of_lt_of_lt (modEq_of_bits bits) (getD_small left i) (getD_small right i)
  -- Modulo the power of two at the window's offset only the second digit can differ.
  have second : xs.getD (start / w + 1) 0 = ys.getD (start / w + 1) 0 := by
    have low := digit_of_sum (start / w + 1) burst.length (m := 2 ^ (start % w)) (fun i other =>
      modEq_of_bits fun j below => by
        by_contra flip
        have := burst.position positive (Nat.lt_trans below offset) flip
        omega) (sum.of_dvd (Nat.pow_dvd_pow 2 (Nat.le_of_lt offset)))
    apply digit
    intro j bit
    by_contra flip
    rcases burst.position positive bit flip with ⟨same, _⟩ | ⟨_, below⟩
    · omega
    · exact flip (testBit_of_modEq low below)
  have others : ∀ i, i ≠ start / w → xs.getD i 0 = ys.getD i 0 := by
    intro i other
    by_cases next : i = start / w + 1
    · rw [next]
      exact second
    · apply digit
      intro j bit
      by_contra flip
      have := burst.position positive bit flip
      omega
  have first := digit_of_sum (start / w) burst.length
    (fun i other => by rw [others i other]) sum
  apply burst.differs
  apply eq_of_digits burst.length
  intro i
  by_cases here : i = start / w
  · rw [here]
    exact Nat.ModEq.eq_of_lt_of_lt first (getD_small left _) (getD_small right _)
  · exact others i here

end DigitSum
