import Mathlib.Data.List.Basic

set_option autoImplicit false

structure Framer (α : Type) where
  size : List α → Option Nat
  stable : ∀ xs ys n, size xs = some n → size (xs ++ ys) = some n
  inside : ∀ xs n, size xs = some n → n ≤ xs.length

namespace Framer

variable {α : Type} (F : Framer α)

inductive Walks : List α → List (List α) → List α → Prop
  | wait {xs : List α} (short : F.size xs = none) : Walks xs [] xs
  | cut {xs rest : List α} {frames : List (List α)} {n : Nat} (whole : F.size xs = some n)
      (tail : Walks (xs.drop n) frames rest) : Walks xs (xs.take n :: frames) rest

inductive Visits : List α → List α → Prop
  | here (xs : List α) : Visits xs xs
  | cut {xs ys : List α} {n : Nat} (whole : F.size xs = some n)
      (tail : Visits (xs.drop n) ys) : Visits xs ys

def Stalls (xs : List α) : Prop :=
  ∃ ys, F.Visits xs ys ∧ F.size ys = some 0

variable {F}

theorem Walks.flatten {xs rest : List α} {frames : List (List α)} (walk : F.Walks xs frames rest) :
    frames.flatten ++ rest = xs := by
  induction walk with
  | wait => rfl
  | cut whole tail ih => rw [List.flatten_cons, List.append_assoc, ih, List.take_append_drop]

theorem Walks.short {xs rest : List α} {frames : List (List α)} (walk : F.Walks xs frames rest) :
    F.size rest = none := by
  induction walk with
  | wait short => exact short
  | cut _ _ ih => exact ih

theorem Walks.unique {xs left right : List α} {first second : List (List α)}
    (one : F.Walks xs first left) (two : F.Walks xs second right) :
    first = second ∧ left = right := by
  induction one generalizing second with
  | wait short =>
    cases two with
    | wait => exact ⟨rfl, rfl⟩
    | cut whole => rw [short] at whole; cases whole
  | cut whole _ ih =>
    cases two with
    | wait short => rw [short] at whole; cases whole
    | cut same tail =>
      obtain rfl := Option.some.inj (whole.symm.trans same)
      obtain ⟨rfl, rfl⟩ := ih tail
      exact ⟨rfl, rfl⟩

theorem Walks.cut_inv {xs rest : List α} {frames : List (List α)} {n : Nat}
    (walk : F.Walks xs frames rest) (whole : F.size xs = some n) :
    ∃ others, frames = xs.take n :: others ∧ F.Walks (xs.drop n) others rest := by
  cases walk with
  | wait short => rw [short] at whole; cases whole
  | cut same tail =>
    obtain rfl := Option.some.inj (whole.symm.trans same)
    exact ⟨_, rfl, tail⟩

theorem Walks.not_zero {xs rest : List α} {frames : List (List α)}
    (walk : F.Walks xs frames rest) : F.size xs ≠ some 0 := by
  induction walk with
  | wait short => simp [short]
  | cut whole _ ih =>
    intro zero
    obtain rfl := Option.some.inj (whole.symm.trans zero)
    exact ih zero

theorem Walks.nonempty {xs rest : List α} {frames : List (List α)}
    (walk : F.Walks xs frames rest) : ∀ frame ∈ frames, frame ≠ [] := by
  induction walk with
  | wait => simp
  | @cut xs _ _ n whole tail ih =>
    have positive : n ≠ 0 := by
      rintro rfl
      exact (Walks.cut whole tail).not_zero whole
    have fits := F.inside xs n whole
    intro frame member
    rcases List.mem_cons.mp member with rfl | member
    · intro empty
      have := congrArg List.length empty
      simp only [List.length_take, List.length_nil] at this
      omega
    · exact ih frame member

theorem Walks.sizes {xs rest : List α} {frames : List (List α)}
    (walk : F.Walks xs frames rest) : ∀ frame ∈ frames, ∃ ys, F.size ys = some frame.length := by
  induction walk with
  | wait => simp
  | @cut xs _ _ n whole _ ih =>
    intro frame member
    rcases List.mem_cons.mp member with rfl | member
    · exact ⟨xs, by rw [List.length_take_of_le (F.inside xs n whole)]; exact whole⟩
    · exact ih frame member

theorem Walks.append {xs ys rest last : List α} {frames more : List (List α)}
    (walk : F.Walks xs frames rest) (next : F.Walks (rest ++ ys) more last) :
    F.Walks (xs ++ ys) (frames ++ more) last := by
  induction walk with
  | wait => exact next
  | @cut xs _ _ n whole _ ih =>
    have fits := F.inside xs n whole
    have walk := Walks.cut (F.stable xs ys n whole)
      (by rw [List.drop_append_of_le_length fits]; exact ih next)
    rwa [List.take_append_of_le_length fits] at walk

theorem Walks.split {xs ys last : List α} {frames : List (List α)}
    (walk : F.Walks (xs ++ ys) frames last) :
    ∃ first rest more, F.Walks xs first rest ∧ F.Walks (rest ++ ys) more last ∧
      frames = first ++ more := by
  generalize stream : xs ++ ys = zs at walk
  induction walk generalizing xs with
  | @wait zs short =>
    subst stream
    have waits : F.size xs = none := by
      cases known : F.size xs with
      | none => rfl
      | some n => rw [F.stable xs ys n known] at short; cases short
    exact ⟨[], xs, [], .wait waits, .wait short, rfl⟩
  | @cut zs _ frames n whole tail ih =>
    subst stream
    cases known : F.size xs with
    | none => exact ⟨[], xs, _, .wait known, .cut whole tail, rfl⟩
    | some m =>
      obtain rfl := Option.some.inj ((F.stable xs ys m known).symm.trans whole)
      have fits := F.inside xs m known
      obtain ⟨first, rest, more, start, next, rfl⟩ :=
        ih (List.drop_append_of_le_length fits).symm
      refine ⟨xs.take m :: first, rest, more, .cut known start, next, ?_⟩
      rw [List.take_append_of_le_length fits, List.cons_append]

theorem Visits.trans {xs ys zs : List α} (first : F.Visits xs ys) (second : F.Visits ys zs) :
    F.Visits xs zs := by
  induction first with
  | here => exact second
  | cut whole _ ih => exact .cut whole (ih second)

theorem Visits.cut_inv {xs ys : List α} {n : Nat} (visit : F.Visits xs ys)
    (whole : F.size xs = some n) (moved : ys ≠ xs) : F.Visits (xs.drop n) ys := by
  cases visit with
  | here => exact absurd rfl moved
  | cut same tail =>
    obtain rfl := Option.some.inj (whole.symm.trans same)
    exact tail

theorem Visits.wait_inv {xs ys : List α} (visit : F.Visits xs ys) (short : F.size xs = none) :
    ys = xs := by
  cases visit with
  | here => rfl
  | cut whole _ => rw [short] at whole; cases whole

theorem Walks.from_visited {xs ys rest : List α} {frames : List (List α)}
    (walk : F.Walks xs frames rest) (visit : F.Visits xs ys) :
    ∃ before after, frames = before ++ after ∧ before.flatten ++ ys = xs ∧
      F.Walks ys after rest := by
  induction visit generalizing frames with
  | here => exact ⟨[], frames, rfl, rfl, walk⟩
  | @cut xs ys n whole _ ih =>
    obtain ⟨others, rfl, tail⟩ := walk.cut_inv whole
    obtain ⟨before, after, rfl, stream, walk⟩ := ih tail
    refine ⟨xs.take n :: before, after, rfl, ?_, walk⟩
    rw [List.flatten_cons, List.append_assoc, stream, List.take_append_drop]

theorem Walks.visits {xs rest : List α} {before after : List (List α)}
    (walk : F.Walks xs (before ++ after) rest) : F.Visits xs (after.flatten ++ rest) := by
  induction before generalizing xs with
  | nil => rw [List.nil_append] at walk; rw [walk.flatten]; exact .here xs
  | cons frame before ih =>
    cases walk with
    | cut whole tail => exact .cut whole (ih tail)

theorem walks_iff (xs : List α) : (∃ frames rest, F.Walks xs frames rest) ↔ ¬ F.Stalls xs := by
  constructor
  · rintro ⟨frames, rest, walk⟩ ⟨ys, visit, zero⟩
    obtain ⟨_, _, _, _, tail⟩ := walk.from_visited visit
    exact tail.not_zero zero
  · intro free
    induction size : xs.length using Nat.strongRecOn generalizing xs with
    | ind count ih =>
      cases known : F.size xs with
      | none => exact ⟨[], xs, .wait known⟩
      | some n =>
        have positive : n ≠ 0 := by
          rintro rfl
          exact free ⟨xs, .here xs, known⟩
        have fits := F.inside xs n known
        have free : ¬ F.Stalls (xs.drop n) := by
          rintro ⟨ys, visit, zero⟩
          exact free ⟨ys, .cut known visit, zero⟩
        obtain ⟨frames, rest, walk⟩ :=
          ih (xs.drop n).length (by rw [List.length_drop]; omega) (xs.drop n) free rfl
        exact ⟨xs.take n :: frames, rest, .cut known walk⟩

def Unit (F : Framer α) (frame : List α) : Prop :=
  F.size frame = some frame.length

theorem Unit.size_append {frame : List α} (single : F.Unit frame) (ys : List α) :
    F.size (frame ++ ys) = some frame.length :=
  F.stable frame ys _ single

theorem Walks.unit {frame ys rest : List α} {frames : List (List α)} (single : F.Unit frame)
    (walk : F.Walks ys frames rest) : F.Walks (frame ++ ys) (frame :: frames) rest := by
  have walk := Walks.cut (single.size_append ys) (by rwa [List.drop_left])
  rwa [List.take_left] at walk

theorem Walks.unit_inv {frame ys rest : List α} {frames : List (List α)} (single : F.Unit frame)
    (walk : F.Walks (frame ++ ys) frames rest) :
    ∃ others, frames = frame :: others ∧ F.Walks ys others rest := by
  obtain ⟨others, rfl, tail⟩ := walk.cut_inv (single.size_append ys)
  rw [List.drop_left] at tail
  exact ⟨others, by rw [List.take_left], tail⟩

theorem Walks.units {units : List (List α)} {ys rest : List α} {frames : List (List α)}
    (single : ∀ frame ∈ units, F.Unit frame) (walk : F.Walks ys frames rest) :
    F.Walks (units.flatten ++ ys) (units ++ frames) rest := by
  induction units with
  | nil => exact walk
  | cons frame units ih =>
    rw [List.flatten_cons, List.append_assoc, List.cons_append]
    exact (ih fun frame member => single frame (List.mem_cons_of_mem _ member)).unit
      (single frame List.mem_cons_self)

theorem Visits.units {units : List (List α)} {ys zs : List α}
    (single : ∀ frame ∈ units, F.Unit frame) (visit : F.Visits ys zs) :
    F.Visits (units.flatten ++ ys) zs := by
  induction units with
  | nil => exact visit
  | cons frame units ih =>
    rw [List.flatten_cons, List.append_assoc]
    have later := ih fun frame member => single frame (List.mem_cons_of_mem _ member)
    exact .cut ((single frame List.mem_cons_self).size_append _) (by rwa [List.drop_left])

variable (F)

inductive Feeds : List α → List (List α) → List (List α) → List α → Prop
  | stop (held : List α) : Feeds held [] [] held
  | chunk {held chunk rest last : List α} {chunks frames more : List (List α)}
      (walk : F.Walks (held ++ chunk) frames rest) (feed : Feeds rest chunks more last) :
      Feeds held (chunk :: chunks) (frames ++ more) last

variable {F}

theorem feeds_iff {held last : List α} (chunks frames : List (List α))
    (short : F.size held = none) :
    F.Feeds held chunks frames last ↔ F.Walks (held ++ chunks.flatten) frames last := by
  induction chunks generalizing held frames with
  | nil =>
    rw [List.flatten_nil, List.append_nil]
    constructor
    · rintro ⟨⟩
      exact .wait short
    · intro walk
      obtain ⟨rfl, rfl⟩ := (Walks.wait short).unique walk
      exact .stop held
  | cons chunk chunks ih =>
    rw [List.flatten_cons, ← List.append_assoc]
    constructor
    · rintro (_ | ⟨walk, feed⟩)
      exact walk.append ((ih _ walk.short).mp feed)
    · intro walk
      obtain ⟨first, rest, more, start, next, rfl⟩ := walk.split
      exact .chunk start ((ih _ start.short).mpr next)

end Framer
