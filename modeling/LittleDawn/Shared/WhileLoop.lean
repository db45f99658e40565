import Mathlib.Logic.Relation

set_option autoImplicit false

namespace WhileLoop

variable {σ ρ : Type}

def run (body : σ → σ ⊕ ρ) : Nat → σ → Option ρ
  | 0, _ => none
  | fuel + 1, state =>
    match body state with
    | .inl next => run body fuel next
    | .inr result => some result

def Ends (body : σ → σ ⊕ ρ) (state : σ) : Prop :=
  ∃ fuel result, run body fuel state = some result

def Round (body : σ → σ ⊕ ρ) (state next : σ) : Prop :=
  body state = .inl next

abbrev Reaches (body : σ → σ ⊕ ρ) : σ → σ → Prop :=
  Relation.ReflTransGen (Round body)

theorem run_round {body : σ → σ ⊕ ρ} {state next : σ} (round : body state = .inl next)
    (fuel : Nat) : run body (fuel + 1) state = run body fuel next := by
  simp only [run, round]

theorem run_leave {body : σ → σ ⊕ ρ} {state : σ} {result : ρ} (leave : body state = .inr result)
    (fuel : Nat) : run body (fuel + 1) state = some result := by
  simp only [run, leave]

theorem run_more {body : σ → σ ⊕ ρ} {fuel more : Nat} {state : σ} {result : ρ}
    (enough : fuel ≤ more) (done : run body fuel state = some result) :
    run body more state = some result := by
  induction fuel generalizing more state with
  | zero => simp [run] at done
  | succ fuel ih =>
    obtain ⟨more, rfl⟩ : ∃ less, more = less + 1 := ⟨more - 1, by omega⟩
    cases step : body state with
    | inl next =>
      rw [run_round step] at done ⊢
      exact ih (by omega) done
    | inr value =>
      rw [run_leave step] at done ⊢
      exact done

theorem run_unique {body : σ → σ ⊕ ρ} {fuel other : Nat} {state : σ} {left right : ρ}
    (first : run body fuel state = some left) (second : run body other state = some right) :
    left = right := by
  have first := run_more (Nat.le_max_left fuel other) first
  have second := run_more (Nat.le_max_right fuel other) second
  exact Option.some.inj (first.symm.trans second)

theorem reaches_invariant {body : σ → σ ⊕ ρ} (keeps : σ → Prop)
    (round : ∀ state next, keeps state → body state = .inl next → keeps next)
    {state later : σ} (holds : keeps state) (path : Reaches body state later) : keeps later := by
  induction path with
  | refl => exact holds
  | tail _ step ih => exact round _ _ ih step

theorem run_reaches {body : σ → σ ⊕ ρ} {fuel : Nat} {state : σ} {result : ρ}
    (done : run body fuel state = some result) :
    ∃ last, Reaches body state last ∧ body last = .inr result := by
  induction fuel generalizing state with
  | zero => simp [run] at done
  | succ fuel ih =>
    cases step : body state with
    | inl next =>
      rw [run_round step] at done
      obtain ⟨last, path, leave⟩ := ih done
      exact ⟨last, .head step path, leave⟩
    | inr value =>
      rw [run_leave step] at done
      exact ⟨state, .refl, by rw [step, Option.some.inj done]⟩

theorem ends_iff_of_reaches {body : σ → σ ⊕ ρ} {state later : σ}
    (path : Reaches body state later) : Ends body state ↔ Ends body later := by
  induction path with
  | refl => rfl
  | @tail middle next _ step ih =>
    have step : body middle = .inl next := step
    rw [ih]
    constructor
    · rintro ⟨fuel, result, done⟩
      cases fuel with
      | zero => simp [run] at done
      | succ fuel => exact ⟨fuel, result, by rwa [run_round step] at done⟩
    · rintro ⟨fuel, result, done⟩
      exact ⟨fuel + 1, result, by rwa [run_round step]⟩

theorem not_ends_of_invariant {body : σ → σ ⊕ ρ} (keeps : σ → Prop)
    (round : ∀ state, keeps state → ∃ next, body state = .inl next ∧ keeps next)
    {state : σ} (holds : keeps state) : ¬ Ends body state := by
  rintro ⟨fuel, result, done⟩
  induction fuel generalizing state with
  | zero => simp [run] at done
  | succ fuel ih =>
    obtain ⟨next, step, holds⟩ := round state holds
    rw [run_round step] at done
    exact ih holds done

end WhileLoop
