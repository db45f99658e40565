set_option autoImplicit false

namespace LittleDawn

abbrev Pointer := Nat → UInt8

structure Access (α : Type) where
  value : α
  reads : List Nat

namespace Access

instance : Monad Access where
  pure value := ⟨value, []⟩
  bind first next := ⟨(next first.value).value, first.reads ++ (next first.value).reads⟩

def read (buffer : Pointer) (index : Nat) : Access UInt8 :=
  ⟨buffer index, [index]⟩

@[simp] theorem value_pure {α : Type} (a : α) : (pure a : Access α).value = a := (rfl)

@[simp] theorem reads_pure {α : Type} (a : α) : (pure a : Access α).reads = [] := (rfl)

@[simp] theorem value_bind {α β : Type} (first : Access α) (next : α → Access β) :
    (first >>= next).value = (next first.value).value := (rfl)

@[simp] theorem reads_bind {α β : Type} (first : Access α) (next : α → Access β) :
    (first >>= next).reads = first.reads ++ (next first.value).reads := (rfl)

@[simp] theorem value_read (buffer : Pointer) (index : Nat) :
    (read buffer index).value = buffer index := (rfl)

@[simp] theorem reads_read (buffer : Pointer) (index : Nat) :
    (read buffer index).reads = [index] := (rfl)

@[simp] theorem value_ite {α : Type} (c : Prop) [Decidable c] (a b : Access α) :
    (if c then a else b).value = if c then a.value else b.value := by
  split <;> rfl

@[simp] theorem reads_ite {α : Type} (c : Prop) [Decidable c] (a b : Access α) :
    (if c then a else b).reads = if c then a.reads else b.reads := by
  split <;> rfl

end Access

end LittleDawn
