import LittleDawn.Serial.ParseSpec
import LittleDawn.Shared.DigitSum

set_option autoImplicit false

namespace LittleDawn

open DigitSum

theorem sum_toNat (bytes : List UInt8) :
    bytes.sum.toNat = (bytes.map UInt8.toNat).sum % 256 := by
  induction bytes with
  | nil => rfl
  | cons byte bytes ih =>
    rw [List.sum_cons, UInt8.toNat_add, ih, List.map_cons, List.sum_cons]
    omega

theorem add_not (sum : UInt8) : sum + ~~~sum = 255 := by
  apply UInt8.toNat_inj.mp
  have small := sum.toNat_lt
  have size : UInt8.size = 256 := rfl
  simp only [UInt8.toNat_add, UInt8.toNat_not, UInt8.toNat_ofNat, size]
  omega

theorem bytesAt_append (buffer : Pointer) (index count more : Nat) :
    bytesAt buffer index (count + more) =
      bytesAt buffer index count ++ bytesAt buffer (index + count) more := by
  simp only [bytesAt, List.range_add, List.map_append, List.map_map, Function.comp_def,
    Nat.add_assoc]

def Dispatched (buffer : Pointer) : Prop :=
  (buffer 0 = msgMachineStatus ∧ (buffer 1).toNat = 10) ∨
    (buffer 0 = msgHandshakeRequest ∧ (buffer 1).toNat = 5)

theorem understood_some {buffer : Pointer} {len : Nat} {message : Message}
    (known : understood buffer len = some message) :
    Dispatched buffer ∧ (bytesAt buffer 0 (3 + (buffer 1).toNat)).sum = 255 := by
  simp only [understood] at known
  split at known
  next good =>
    obtain ⟨_, _, checksum⟩ := good
    constructor
    · cases message with
      | machineStatus status =>
        obtain ⟨id, payload⟩ := (meaning_status_iff _ _ status).mp known
        have size := congrArg List.length payload
        rw [bytesAt_length, status.bytes_length] at size
        exact .inl ⟨id, size⟩
      | handshakeRequest =>
        obtain ⟨id, payload⟩ := (meaning_handshake_iff _ _).mp known
        have size := congrArg List.length payload
        rw [bytesAt_length] at size
        exact .inr ⟨id, size⟩
    · have last : bytesAt buffer (2 + (buffer 1).toNat) 1 = [buffer (2 + (buffer 1).toNat)] := rfl
      have split : 3 + (buffer 1).toNat = 2 + (buffer 1).toNat + 1 := by omega
      rw [split, bytesAt_append, Nat.zero_add, last, ← checksum, List.sum_append,
        List.sum_singleton, add_not]
  next => cases known

variable {frame damaged : List UInt8} {start : Nat}

theorem burst_byte (i : Nat) (bytes : List UInt8) :
    (bytes.map UInt8.toNat).getD i 0 = (ofList bytes i).toNat := by
  by_cases inside : i < bytes.length
  · simp [ofList, List.getD, inside]
  · simp [ofList, List.getD, Nat.le_of_not_lt inside]

-- The two headers differ in their first and in their twelfth bit.
theorem burst_header (burst : Burst 8 start (frame.map UInt8.toNat) (damaged.map UInt8.toNat))
    (before : Dispatched (ofList frame)) (after : Dispatched (ofList damaged)) :
    (ofList damaged 1).toNat = (ofList frame 1).toNat := by
  have id := burst.window 0 0
  have length := burst.window 1 3
  simp only [burst_byte] at id length
  rcases before with ⟨first, size⟩ | ⟨first, size⟩ <;>
    rcases after with ⟨second, other⟩ | ⟨second, other⟩
  · omega
  · rw [first, second] at id
    rw [size, other] at length
    have early := (id (by decide)).1
    have late := (length (by decide)).2
    omega
  · rw [first, second] at id
    rw [size, other] at length
    have early := (id (by decide)).1
    have late := (length (by decide)).2
    omega
  · omega

theorem burst_sum (burst : Burst 8 start (frame.map UInt8.toNat) (damaged.map UInt8.toNat)) :
    frame.sum ≠ damaged.sum := by
  have small (bytes : List UInt8) : ∀ byte ∈ bytes.map UInt8.toNat, byte < 2 ^ 8 := by
    intro byte member
    obtain ⟨original, _, rfl⟩ := List.mem_map.mp member
    exact original.toNat_lt
  intro same
  apply burst.sum_ne (by decide) (small frame) (small damaged)
  have same := congrArg UInt8.toNat same
  rwa [sum_toNat, sum_toNat] at same

/-- A frame that the parser accepts, with bits flipped within a window of eight consecutive ones, is
rejected: whatever bytes follow it and whatever length is passed, the call returns false, leaves the
record as it was and writes nothing. -/
theorem burst_rejected (frame damaged rest : List UInt8) (start len : Nat)
    (before data : NewDawnData) (sent tickCount : UInt32)
    (whole : frame.length = 3 + (ofList frame 1).toNat)
    (accepted : (parseNewDawnMessage (ofList frame) frame.length before sent).value.returned = true)
    (burst : Burst 8 start (frame.map UInt8.toNat) (damaged.map UInt8.toNat)) :
    (parseNewDawnMessage (ofList (damaged ++ rest)) len data tickCount).value.returned = false ∧
    (parseNewDawnMessage (ofList (damaged ++ rest)) len data tickCount).value.data = data ∧
    (parseNewDawnMessage (ofList (damaged ++ rest)) len data tickCount).value.written = [] := by
  rw [parse_value, Parsed.answer_returned, Option.isSome_iff_exists] at accepted
  obtain ⟨message, known⟩ := accepted
  obtain ⟨header, sum⟩ := understood_some known
  have length := burst.length
  rw [List.length_map, List.length_map] at length
  have head (i : Nat) (inside : i < 3) : ofList (damaged ++ rest) i = ofList damaged i :=
    ofList_append (by omega) rest
  cases result : understood (ofList (damaged ++ rest)) len with
  | none => simp [parse_value, result, Parsed.answer]
  | some other =>
    obtain ⟨second, total⟩ := understood_some result
    simp only [Dispatched, head 0 (by decide), head 1 (by decide)] at second total
    have same := burst_header burst header second
    -- With the length byte intact both sums run over the whole frame.
    have left := bytesAt_ofList [] frame []
    have right := bytesAt_ofList [] damaged rest
    simp only [List.nil_append, List.append_nil, List.length_nil] at left right
    rw [← whole, left] at sum
    rw [same, ← whole, length, right] at total
    exact absurd (sum.trans total.symm) (burst_sum burst)

theorem burst_rejected_angle :
    (parseNewDawnMessage (ofList ([1, 10, 0, 0, 0, 0, 0, 0, 0, 0, 50, 0, 193] ++ [7])) 13
      initialData 0).value.returned = false :=
  (burst_rejected [1, 10, 0, 0, 0, 0, 0, 0, 0, 0, 51, 0, 193]
    [1, 10, 0, 0, 0, 0, 0, 0, 0, 0, 50, 0, 193] [7] 80 13 initialData initialData 0 0
    (by decide) (by decide)
    (burst_of_digit [1, 10, 0, 0, 0, 0, 0, 0, 0, 0] [0, 193] (by decide) (by decide)
      (by decide))).1

end LittleDawn
