import Mathlib.Data.List.Basic

set_option autoImplicit false

namespace Assembly

variable {α : Type}

structure Holds (message buffer : List α) (position : Nat) : Prop where
  length : buffer.length = message.length
  same : ∀ index < position, buffer[index]? = message[index]?

def piece (message : List α) (padding : α) (position size : Nat) : List α :=
  (List.range size).map fun j => message.getD (position + j) padding

def write : Nat → List α → List α → List α
  | _, [], buffer => buffer
  | index, item :: rest, buffer =>
    if index < buffer.length then write (index + 1) rest (buffer.set index item) else buffer

theorem holds_blank (message : List α) (blank : α) :
    Holds message (List.replicate message.length blank) 0 :=
  ⟨List.length_replicate, fun _ outside => absurd outside (Nat.not_lt_zero _)⟩

theorem Holds.complete {message buffer : List α} {position : Nat}
    (holds : Holds message buffer position) (all : message.length ≤ position) :
    buffer = message := by
  apply List.ext_getElem?
  intro index
  by_cases inside : index < position
  · exact holds.same index inside
  · have beyond : message.length ≤ index := by omega
    rw [List.getElem?_eq_none beyond, List.getElem?_eq_none (holds.length ▸ beyond)]

theorem Holds.set {message buffer : List α} {position : Nat} {item : α}
    (holds : Holds message buffer position) (inside : position < message.length)
    (here : message[position]? = some item) :
    Holds message (buffer.set position item) (position + 1) := by
  have length := holds.length
  refine ⟨by rw [List.length_set, length], ?_⟩
  intro index before
  by_cases same : position = index
  · subst same
    rw [List.getElem?_set_self (length ▸ inside), here]
  · rw [List.getElem?_set_ne same]
    exact holds.same index (by omega)

theorem piece_succ (message : List α) (padding : α) (position size : Nat) :
    piece message padding position (size + 1) =
      message.getD position padding :: piece message padding (position + 1) size := by
  simp [piece, List.range_succ_eq_map, Function.comp_def, Nat.add_assoc, Nat.add_comm 1]

theorem Holds.write {message buffer : List α} {position : Nat}
    (holds : Holds message buffer position) (padding : α) (size : Nat) :
    Holds message (write position (piece message padding position size) buffer)
      (position + size) := by
  induction size generalizing position buffer with
  | zero => exact holds
  | succ size ih =>
    rw [piece_succ, Assembly.write]
    by_cases inside : position < message.length
    · rw [if_pos (holds.length ▸ inside)]
      have here : message[position]? = some (message.getD position padding) := by
        simp [inside]
      have next := ih (holds.set inside here)
      rwa [Nat.add_right_comm] at next
    · have beyond : ¬ position < buffer.length := holds.length ▸ inside
      rw [if_neg beyond]
      refine ⟨holds.length, ?_⟩
      intro index _
      by_cases before : index < position
      · exact holds.same index before
      · have outside : message.length ≤ index := by omega
        rw [List.getElem?_eq_none outside, List.getElem?_eq_none (holds.length ▸ outside)]

theorem finish_in_order {messages finished : List α} {index : Nat} {item : α}
    (before : finished.Sublist (messages.take index)) (here : messages[index]? = some item) :
    (finished ++ [item]).Sublist (messages.take (index + 1)) := by
  rw [List.take_add_one, here]
  exact before.append (List.Sublist.refl [item])

theorem later_in_order {messages finished : List α} {index later : Nat}
    (before : finished.Sublist (messages.take index)) (after : index ≤ later) :
    finished.Sublist (messages.take later) :=
  before.trans (List.take_sublist_take_left after)

end Assembly
