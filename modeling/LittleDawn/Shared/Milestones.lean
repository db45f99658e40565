import Mathlib.Data.List.Basic

set_option autoImplicit false

namespace Milestones

variable {σ μ : Type} (needs : σ → List (List μ))

def Passed (state : σ) (log : List μ) : Prop :=
  ∃ way ∈ needs state, way.Sublist log

-- A step with these milestones leads from all that one state asks for to what the next one does.
def Leads (state : σ) (milestones : List μ) (next : σ) : Prop :=
  ∀ way ∈ needs state, ∃ longer ∈ needs next, longer.Sublist (way ++ milestones)

instance [DecidableEq μ] (state next : σ) (milestones : List μ) :
    Decidable (Leads needs state milestones next) :=
  inferInstanceAs (Decidable (∀ _ ∈ _, ∃ _ ∈ _, _))

variable {needs}

theorem Leads.stay (state : σ) (milestones : List μ) : Leads needs state milestones state := by
  intro way asked
  exact ⟨way, asked, List.sublist_append_left way milestones⟩

theorem Leads.mono {state next : σ} {milestones more : List μ}
    (leads : Leads needs state milestones next) (among : milestones.Sublist more) :
    Leads needs state more next := by
  intro way asked
  obtain ⟨longer, needed, inside⟩ := leads way asked
  exact ⟨longer, needed, inside.trans (List.Sublist.append_left among way)⟩

theorem Leads.trans {state next last : σ} {milestones more : List μ}
    (first : Leads needs state milestones next) (second : Leads needs next more last) :
    Leads needs state (milestones ++ more) last := by
  intro way asked
  obtain ⟨longer, needed, inside⟩ := first way asked
  obtain ⟨longest, reached, within⟩ := second longer needed
  refine ⟨longest, reached, within.trans ?_⟩
  rw [← List.append_assoc]
  exact List.Sublist.append_right inside more

theorem Leads.anew {next : σ} (start : [] ∈ needs next) (state : σ) (milestones : List μ) :
    Leads needs state milestones next := by
  intro way asked
  exact ⟨[], start, List.nil_sublist _⟩

theorem Passed.leads {state next : σ} {log milestones : List μ} (passed : Passed needs state log)
    (leads : Leads needs state milestones next) : Passed needs next (log ++ milestones) := by
  obtain ⟨way, asked, inside⟩ := passed
  obtain ⟨longer, needed, reached⟩ := leads way asked
  exact ⟨longer, needed, reached.trans (List.Sublist.append_right inside milestones)⟩

section Run

variable {τ ι : Type} (step : τ → ι → τ) (passes : τ → ι → List μ)
variable (opens : τ → ι → Prop) [∀ state input, Decidable (opens state input)]

def session (state : τ) (log : List μ) : List ι → List μ
  | [] => log
  | input :: inputs =>
    session (step state input) (if opens state input then [] else log ++ passes state input) inputs

theorem session_passed (phase : τ → σ)
    (leads : ∀ state input,
      Leads needs (phase state) (passes state input) (phase (step state input)))
    (begins : ∀ state input, opens state input → [] ∈ needs (phase (step state input)))
    (state : τ) (log : List μ) (inputs : List ι) (passed : Passed needs (phase state) log) :
    Passed needs (phase (inputs.foldl step state))
      (session step passes opens state log inputs) := by
  induction inputs generalizing state log with
  | nil => exact passed
  | cons input inputs ih =>
    apply ih
    by_cases anew : opens state input
    · rw [if_pos anew]
      exact ⟨[], begins state input anew, List.Sublist.refl []⟩
    · rw [if_neg anew]
      exact passed.leads (leads state input)

end Run

end Milestones
