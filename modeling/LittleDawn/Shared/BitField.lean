import Mathlib.Data.Nat.Bitwise
import Mathlib.Data.UInt

set_option autoImplicit false

namespace BitField

theorem toNat_and_field (value mask : UInt32) {low width : Nat}
    (field : mask.toNat = (2 ^ width - 1) * 2 ^ low) :
    (value &&& mask).toNat = value.toNat / 2 ^ low % 2 ^ width * 2 ^ low := by
  rw [UInt32.toNat_and, field]
  apply Nat.eq_of_testBit_eq
  intro i
  simp only [Nat.testBit_and, Nat.testBit_mul_two_pow, Nat.testBit_two_pow_sub_one,
    Nat.testBit_mod_two_pow, Nat.testBit_div_two_pow]
  by_cases inside : low ≤ i
  · simp [inside, Nat.sub_add_cancel inside, Bool.and_comm]
  · simp [inside]

theorem toNat_or_disjoint (low high : UInt32) {bits : Nat} (small : low.toNat < 2 ^ bits)
    (multiple : 2 ^ bits ∣ high.toNat) : (low ||| high).toNat = low.toNat + high.toNat := by
  obtain ⟨count, same⟩ := multiple
  rw [UInt32.toNat_or, same, Nat.mul_comm, ← Nat.shiftLeft_eq, Nat.or_comm,
    ← Nat.shiftLeft_add_eq_or_of_lt small, Nat.add_comm]

theorem toNat_shiftLeft_fits (value shift : UInt32) (bits : Nat) (amount : shift.toNat = bits)
    (short : bits < 32) (fits : value.toNat * 2 ^ bits < 2 ^ 32) :
    (value <<< shift).toNat = value.toNat * 2 ^ bits := by
  rw [UInt32.toNat_shiftLeft, amount, Nat.mod_eq_of_lt short, Nat.shiftLeft_eq,
    Nat.mod_eq_of_lt fits]

end BitField
