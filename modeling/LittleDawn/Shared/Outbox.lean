import Mathlib.Data.List.Nodup
import Mathlib.Data.List.Perm.Subperm
import Mathlib.Logic.Relation

set_option autoImplicit false

namespace Outbox

variable {α κ : Type} [DecidableEq κ] (key : α → κ)

inductive Entry (α : Type) where
  | accepted (item : α)
  | sent (item : α)

def accepted : List (Entry α) → List α
  | [] => []
  | .accepted item :: log => item :: accepted log
  | .sent _ :: log => accepted log

def sent : List (Entry α) → List α
  | [] => []
  | .accepted _ :: log => sent log
  | .sent item :: log => item :: sent log

@[simp] theorem accepted_append (log more : List (Entry α)) :
    accepted (log ++ more) = accepted log ++ accepted more := by
  induction log with
  | nil => rfl
  | cons entry log ih => cases entry <;> simp [accepted, ih]

@[simp] theorem sent_append (log more : List (Entry α)) :
    sent (log ++ more) = sent log ++ sent more := by
  induction log with
  | nil => rfl
  | cons entry log ih => cases entry <;> simp [sent, ih]

structure State (α : Type) where
  waiting : List α
  log : List (Entry α)

def State.empty : State α :=
  { waiting := [], log := [] }

def replace (item : α) : Bool → List α → List α
  | _, [] => []
  | replaced, head :: rest =>
    if key head = key item then
      if replaced then replace item true rest else item :: replace item true rest
    else head :: replace item replaced rest

def put (item : α) (waiting : List α) : List α :=
  if ∃ other ∈ waiting, key other = key item then replace key item false waiting
  else waiting ++ [item]

def Clear (waiting : List α) (item : α) : Prop :=
  ∀ other ∈ waiting, key other ≠ key item

-- Which items may go out at once is left open.
inductive Move (may : List α → α → Prop) : State α → State α → Prop where
  | pass (state : State α) (item : α) (allowed : may state.waiting item) :
      Move may state { state with log := state.log ++ [.accepted item, .sent item] }
  | put (state : State α) (item : α) :
      Move may state { waiting := put key item state.waiting, log := state.log ++ [.accepted item] }
  | send (state : State α) (before after : List α) (item : α)
      (waits : state.waiting = before ++ item :: after) :
      Move may state { waiting := before ++ after, log := state.log ++ [.sent item] }

abbrev Run (may : List α → α → Prop) : State α → State α → Prop :=
  Relation.ReflTransGen (Move key may)

variable {may : List α → α → Prop}

def Distinct (waiting : List α) : Prop :=
  (waiting.map key).Nodup

theorem mem_replace {item other : α} {replaced : Bool} {waiting : List α}
    (member : other ∈ replace key item replaced waiting) :
    other = item ∨ other ∈ waiting ∧ key other ≠ key item := by
  induction waiting generalizing replaced with
  | nil => cases member
  | cons head rest ih =>
    have later
        (found : other ∈ replace key item true rest ∨ other ∈ replace key item replaced rest) :
        other = item ∨ other ∈ head :: rest ∧ key other ≠ key item := by
      rcases found with found | found <;>
        exact (ih found).imp_right (And.imp_left (List.mem_cons_of_mem head))
    by_cases same : key head = key item
    · cases replaced with
      | true => exact later (.inl (by simpa [replace, same] using member))
      | false =>
        rcases List.mem_cons.mp (by simpa [replace, same] using member) with new | found
        · exact .inl new
        · exact later (.inl found)
    · rcases List.mem_cons.mp (by simpa [replace, same] using member) with old | found
      · exact .inr (by simp [old, same])
      · exact later (.inr found)

theorem mem_replace_other {item other : α} {replaced : Bool} {waiting : List α}
    (waits : other ∈ waiting) (differs : key other ≠ key item) :
    other ∈ replace key item replaced waiting := by
  induction waiting generalizing replaced with
  | nil => cases waits
  | cons head rest ih =>
    rcases List.mem_cons.mp waits with rfl | waits
    · simp [replace, differs]
    · have kept (replaced : Bool) : other ∈ replace key item replaced rest := ih waits
      by_cases same : key head = key item <;> cases replaced <;> simp [replace, same, kept]

theorem replace_done {item : α} {waiting : List α} :
    ∀ other ∈ replace key item true waiting, key other ≠ key item := by
  induction waiting with
  | nil => simp [replace]
  | cons head rest ih =>
    by_cases same : key head = key item
    · simpa [replace, same] using ih
    · simpa [replace, same] using ih

theorem mem_replace_self {item : α} {waiting : List α}
    (similar : ∃ other ∈ waiting, key other = key item) :
    item ∈ replace key item false waiting := by
  induction waiting with
  | nil => simp at similar
  | cons head rest ih =>
    by_cases same : key head = key item
    · simp [replace, same]
    · have later : ∃ other ∈ rest, key other = key item := by simpa [same] using similar
      simp [replace, same, ih later]

theorem replace_distinct {item : α} {replaced : Bool} {waiting : List α}
    (distinct : Distinct key waiting) : Distinct key (replace key item replaced waiting) := by
  induction waiting generalizing replaced with
  | nil => exact distinct
  | cons head rest ih =>
    obtain ⟨alone, distinct⟩ := List.nodup_cons.mp distinct
    by_cases same : key head = key item
    · cases replaced with
      | true => simpa [replace, same] using ih distinct
      | false =>
        have later : Distinct key (replace key item true rest) := ih distinct
        have gone : key item ∉ (replace key item true rest).map key := by
          simpa using replace_done key
        simpa [Distinct, replace, same] using And.intro (by simpa using gone) later
    · have later : Distinct key (replace key item replaced rest) := ih distinct
      have gone : key head ∉ (replace key item replaced rest).map key := by
        intro found
        obtain ⟨other, member, equal⟩ := List.mem_map.mp found
        rcases mem_replace key member with rfl | ⟨waits, _⟩
        · exact same equal.symm
        · exact alone (equal ▸ List.mem_map_of_mem waits)
      simpa [Distinct, replace, same] using And.intro (by simpa using gone) later

theorem mem_put {item other : α} {waiting : List α} (member : other ∈ put key item waiting) :
    other = item ∨ other ∈ waiting ∧ key other ≠ key item := by
  by_cases similar : ∃ other ∈ waiting, key other = key item
  · exact mem_replace key (by simpa [put, similar] using member)
  · rcases List.mem_append.mp (by simpa only [put, similar, if_false] using member) with waits | new
    · exact .inr ⟨waits, fun same => similar ⟨other, waits, same⟩⟩
    · exact .inl (by simpa using new)

theorem mem_put_self (item : α) (waiting : List α) : item ∈ put key item waiting := by
  by_cases similar : ∃ other ∈ waiting, key other = key item
  · simpa [put, similar] using mem_replace_self key similar
  · simp only [put, similar, if_false, List.mem_append, List.mem_singleton, or_true]

theorem mem_put_other {item other : α} {waiting : List α} (waits : other ∈ waiting)
    (differs : key other ≠ key item) : other ∈ put key item waiting := by
  by_cases similar : ∃ other ∈ waiting, key other = key item
  · simpa [put, similar] using mem_replace_other key waits differs
  · simp only [put, similar, if_false, List.mem_append, waits, true_or]

theorem put_distinct {item : α} {waiting : List α} (distinct : Distinct key waiting) :
    Distinct key (put key item waiting) := by
  by_cases similar : ∃ other ∈ waiting, key other = key item
  · simpa [put, similar] using replace_distinct key distinct
  · have new : key item ∉ waiting.map key := by simpa using similar
    have alone : (waiting.map key ++ [key item]).Nodup := by
      rw [List.nodup_append]
      exact ⟨distinct, List.nodup_singleton _, fun other waits last member equal =>
        new (by rwa [← List.mem_singleton.mp member, ← equal])⟩
    simpa [Distinct, put, similar] using alone

theorem Move.distinct {state next : State α} (move : Move key may state next)
    (distinct : Distinct key state.waiting) : Distinct key next.waiting := by
  cases move with
  | pass item allowed => exact distinct
  | put item => exact put_distinct key distinct
  | send before after item waits =>
    rw [Distinct, waits] at distinct
    exact (List.Nodup.sublist (by simp) distinct)

theorem run_distinct {state next : State α} (run : Run key may state next)
    (distinct : Distinct key state.waiting) : Distinct key next.waiting := by
  induction run with
  | refl => exact distinct
  | tail _ move ih => exact move.distinct key ih

omit [DecidableEq κ] in
theorem distinct_bounded {waiting : List α} {keys : List κ} (distinct : Distinct key waiting)
    (known : ∀ item ∈ waiting, key item ∈ keys) : waiting.length ≤ keys.length := by
  have inside : waiting.map key ⊆ keys := by
    intro value member
    obtain ⟨item, waits, rfl⟩ := List.mem_map.mp member
    exact known item waits
  simpa using (distinct.subperm inside).length_le

theorem replace_done_sublist (item : α) (waiting : List α) :
    (replace key item true waiting).Sublist waiting := by
  induction waiting with
  | nil => exact .slnil
  | cons head rest ih =>
    by_cases same : key head = key item
    · simpa [replace, same] using ih.cons head
    · simpa [replace, same] using ih

theorem replace_subperm {item : α} {waiting : List α} :
    (replace key item false waiting).Subperm (item :: waiting) := by
  induction waiting with
  | nil => exact List.nil_subperm
  | cons head rest ih =>
    by_cases same : key head = key item
    · have later := (replace_done_sublist key item rest).cons head
      simpa [replace, same] using (List.subperm_cons item).mpr later.subperm
    · have swapped : (head :: item :: rest).Subperm (item :: head :: rest) :=
        (List.Perm.swap item head rest).subperm
      have later := ((List.subperm_cons head).mpr ih).trans swapped
      simpa [replace, same] using later

theorem put_subperm (item : α) (waiting : List α) :
    (put key item waiting).Subperm (waiting ++ [item]) := by
  by_cases similar : ∃ other ∈ waiting, key other = key item
  · have swapped : (item :: waiting).Subperm (waiting ++ [item]) :=
      (List.perm_append_singleton item waiting).symm.subperm
    simpa only [put, similar, if_true] using (replace_subperm key).trans swapped
  · simpa only [put, similar, if_false] using List.Subperm.refl (waiting ++ [item])

def Once (state : State α) : Prop :=
  (sent state.log ++ state.waiting).Subperm (accepted state.log)

theorem Move.once {state next : State α} (move : Move key may state next) (once : Once state) :
    Once next := by
  cases move with
  | pass item allowed =>
    have moved : (sent state.log ++ item :: state.waiting).Perm
        (sent state.log ++ state.waiting ++ [item]) := by
      rw [List.append_assoc]
      exact (List.perm_append_singleton item state.waiting).symm.append_left _
    have more := (List.subperm_append_right [item]).mpr once
    simpa [Once, sent, accepted] using moved.subperm.trans more
  | put item =>
    have queued := (List.subperm_append_left (sent state.log)).mpr
      (put_subperm key item state.waiting)
    have more := (List.subperm_append_right [item]).mpr once
    rw [List.append_assoc] at more
    simpa [Once, sent, accepted] using queued.trans more
  | send before after item waits =>
    have moved : (sent state.log ++ item :: (before ++ after)).Perm
        (sent state.log ++ state.waiting) := by
      rw [waits]
      exact List.perm_middle.symm.append_left _
    simpa [Once, sent, accepted] using moved.subperm.trans once

theorem run_once {state next : State α} (run : Run key may state next) (once : Once state) :
    Once next := by
  induction run with
  | refl => exact once
  | tail _ move ih => exact move.once key ih

def Kept (waiting : List α) : List (Entry α) → Prop
  | [] => True
  | .accepted item :: log =>
    (item ∈ waiting ∨ item ∈ sent log ∨ ∃ later ∈ accepted log, key later = key item) ∧
      Kept waiting log
  | .sent _ :: log => Kept waiting log

omit [DecidableEq κ] in
theorem kept_append {waiting left : List α} {log more : List (Entry α)}
    (kept : Kept key waiting log) (new : Kept key left more)
    (moved : ∀ item ∈ waiting,
      item ∈ left ∨ item ∈ sent more ∨ ∃ later ∈ accepted more, key later = key item) :
    Kept key left (log ++ more) := by
  induction log with
  | nil => exact new
  | cons entry log ih =>
    cases entry with
    | sent item => exact ih kept
    | accepted item =>
      refine ⟨?_, ih kept.2⟩
      change item ∈ left ∨ item ∈ sent (log ++ more) ∨
        ∃ later ∈ accepted (log ++ more), key later = key item
      simp only [sent_append, accepted_append, List.mem_append]
      rcases kept.1 with waits | gone | ⟨later, member, same⟩
      · rcases moved item waits with stays | gone | ⟨later, member, same⟩
        · exact .inl stays
        · exact .inr (.inl (.inr gone))
        · exact .inr (.inr ⟨later, .inr member, same⟩)
      · exact .inr (.inl (.inl gone))
      · exact .inr (.inr ⟨later, .inl member, same⟩)

theorem Move.kept {state next : State α} (move : Move key may state next)
    (kept : Kept key state.waiting state.log) : Kept key next.waiting next.log := by
  cases move with
  | pass item allowed =>
    exact kept_append key kept (by simp [Kept, sent]) (fun other waits => .inl waits)
  | put item =>
    refine kept_append key kept (by simp [Kept, mem_put_self]) ?_
    intro other waits
    by_cases same : key other = key item
    · exact .inr (.inr ⟨item, by simp [accepted], same.symm⟩)
    · exact .inl (mem_put_other key waits same)
  | send before after item waits =>
    refine kept_append key kept trivial ?_
    intro other member
    rw [waits] at member
    rcases List.mem_append.mp member with found | found
    · exact .inl (List.mem_append_left _ found)
    · rcases List.mem_cons.mp found with rfl | found
      · exact .inr (.inl (by simp [sent]))
      · exact .inl (List.mem_append_right _ found)

theorem run_kept {state next : State α} (run : Run key may state next)
    (kept : Kept key state.waiting state.log) : Kept key next.waiting next.log := by
  induction run with
  | refl => exact kept
  | tail _ move ih => exact move.kept key ih

def newest (about : κ) (items : List α) : Option α :=
  (items.filter (fun item => key item = about)).getLast?

@[simp] theorem newest_append_singleton (about : κ) (items : List α) (item : α) :
    newest key about (items ++ [item]) =
      if key item = about then some item else newest key about items := by
  by_cases same : key item = about <;> simp [newest, List.filter_append, same]

theorem newest_key {about : κ} {items : List α} {item : α}
    (found : newest key about items = some item) : key item = about := by
  have member := List.mem_of_getLast? found
  simpa using (List.mem_filter.mp member).2

def Fresh : List α → List (Entry α) → Prop
  | _, [] => True
  | seen, .accepted item :: log => Fresh (seen ++ [item]) log
  | seen, .sent item :: log => newest key (key item) seen = some item ∧ Fresh seen log

theorem fresh_append (seen : List α) (log more : List (Entry α)) :
    Fresh key seen (log ++ more) ↔
      Fresh key seen log ∧ Fresh key (seen ++ accepted log) more := by
  induction log generalizing seen with
  | nil => simp [Fresh, accepted]
  | cons entry log ih => cases entry <;> simp [Fresh, accepted, ih, and_assoc]

structure InOrder (state : State α) : Prop where
  fresh : Fresh key [] state.log
  current : ∀ item ∈ state.waiting, newest key (key item) (accepted state.log) = some item
  settled : ∀ about item, newest key about (accepted state.log) = some item →
    item ∈ state.waiting ∨ newest key about (sent state.log) = some item

theorem Move.inOrder {state next : State α} (move : Move key (Clear key) state next)
    (order : InOrder key state) : InOrder key next := by
  cases move with
  | pass item clear =>
    refine ⟨?_, ?_, ?_⟩
    · simp [fresh_append, order.fresh, Fresh]
    · intro other waits
      simpa [accepted, (clear other waits).symm] using order.current other waits
    · intro about other found
      by_cases same : key item = about
      · simp [accepted, same] at found
        subst found
        simp [sent, same]
      · simp [accepted, same] at found
        simpa [sent, same] using order.settled about other found
  | put item =>
    refine ⟨?_, ?_, ?_⟩
    · simp [fresh_append, order.fresh, Fresh]
    · intro other waits
      rcases mem_put key waits with rfl | ⟨waits, differs⟩
      · simp [accepted]
      · simpa [accepted, differs.symm] using order.current other waits
    · intro about other found
      by_cases same : key item = about
      · simp [accepted, same] at found
        exact .inl (found ▸ mem_put_self key item state.waiting)
      · simp [accepted, same] at found
        have about' := newest_key key found
        rcases order.settled about other found with waits | last
        · exact .inl (mem_put_other key waits (fun equal => same (equal.symm.trans about')))
        · exact .inr (by simpa [sent] using last)
  | send before after item waits =>
    have member : item ∈ state.waiting := by simp [waits]
    refine ⟨?_, ?_, ?_⟩
    · simp [fresh_append, order.fresh, Fresh, order.current item member]
    · intro other stays
      have waited : other ∈ state.waiting := by
        rw [waits]
        rcases List.mem_append.mp stays with found | found <;> simp [found]
      simpa [accepted] using order.current other waited
    · intro about other found
      simp [accepted] at found
      by_cases same : key item = about
      · have last := order.current item member
        rw [same, found] at last
        simp [sent, same, Option.some.inj last]
      · have about' := newest_key key found
        rcases order.settled about other found with waited | last
        · rw [waits] at waited
          have differs : other ≠ item := fun equal => same (equal ▸ about')
          exact .inl (by simpa [differs] using waited)
        · exact .inr (by simpa [sent, same] using last)

theorem run_inOrder {state next : State α} (run : Run key (Clear key) state next)
    (order : InOrder key state) : InOrder key next := by
  induction run with
  | refl => exact order
  | tail _ move ih => exact move.inOrder key ih

omit [DecidableEq κ] in
theorem empty_distinct : Distinct key (State.empty : State α).waiting :=
  List.nodup_nil

theorem empty_once : Once (State.empty : State α) :=
  List.Subperm.refl _

theorem empty_inOrder : InOrder key (State.empty : State α) :=
  ⟨trivial, by simp [State.empty], by simp [State.empty, accepted, newest]⟩

end Outbox
