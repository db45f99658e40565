set_option autoImplicit false

namespace Emission

variable {σ ε : Type}

inductive Path (moves : σ → List ε → σ → Prop) : σ → List ε → σ → Prop where
  | stay (state : σ) : Path moves state [] state
  | move {state next last : σ} {events more : List ε} (move : moves state events next)
      (path : Path moves next more last) : Path moves state (events ++ more) last

variable {moves : σ → List ε → σ → Prop} {state next last : σ} {events more : List ε}

theorem Path.single (move : moves state events next) : Path moves state events next := by
  simpa using Path.move move (.stay next)

theorem Path.trans (first : Path moves state events next) (second : Path moves next more last) :
    Path moves state (events ++ more) last := by
  induction first with
  | stay => exact second
  | move move _ ih =>
    rw [List.append_assoc]
    exact .move move (ih second)

theorem Path.keeps (holds : σ → Prop)
    (kept : ∀ {state events next}, moves state events next → holds state → holds next)
    (path : Path moves state events next) (here : holds state) : holds next := by
  induction path with
  | stay => exact here
  | move move _ ih => exact ih (kept move here)

theorem Path.silent (quiet : σ → Prop)
    (kept : ∀ {state events next}, moves state events next → quiet state →
      events = [] ∧ quiet next)
    (path : Path moves state events next) (here : quiet state) : events = [] ∧ quiet next := by
  induction path with
  | stay => exact ⟨rfl, here⟩
  | move move _ ih =>
    obtain ⟨rfl, there⟩ := kept move here
    exact ih there

end Emission
