import LittleDawn.Model.Serial
import Mathlib.Data.UInt
import Mathlib.Tactic.Common

set_option autoImplicit false

namespace LittleDawn

open Access

inductive Message where
  | machineStatus (status : MachineStatus)
  | handshakeRequest
  deriving DecidableEq, Repr

def bytesAt (buffer : Pointer) (index count : Nat) : List UInt8 :=
  (List.range count).map fun i => buffer (index + i)

theorem bytesAt_succ (buffer : Pointer) (index count : Nat) :
    bytesAt buffer index (count + 1) = buffer index :: bytesAt buffer (index + 1) count := by
  simp only [bytesAt, List.range_succ_eq_map, List.map_cons, List.map_map, Nat.add_zero]
  congr 1
  apply List.map_congr_left
  intro i _
  simp only [Function.comp_apply, Nat.succ_eq_add_one]
  congr 1
  omega

@[simp] theorem bytesAt_length (buffer : Pointer) (index count : Nat) :
    (bytesAt buffer index count).length = count := by
  simp [bytesAt]

theorem bytesAt_getElem (buffer : Pointer) (index count i : Nat) (inside : i < count) :
    (bytesAt buffer index count)[i]? = some (buffer (index + i)) := by
  simp [bytesAt, inside]

theorem bytesAt_congr (left right : Pointer) (index : Nat) {count : Nat}
    (same : ∀ i, i < count → left (index + i) = right (index + i)) :
    bytesAt left index count = bytesAt right index count := by
  apply List.map_congr_left
  intro i member
  exact same i (List.mem_range.mp member)

theorem ofList_append {bytes : List UInt8} {i : Nat} (inside : i < bytes.length)
    (rest : List UInt8) : ofList (bytes ++ rest) i = ofList bytes i := by
  simp [ofList, List.getElem?_append, inside]

theorem bytesAt_ofList (before bytes after : List UInt8) :
    bytesAt (ofList (before ++ bytes ++ after)) before.length bytes.length = bytes := by
  apply List.ext_getElem?
  intro i
  by_cases inside : i < bytes.length
  · have past : ¬ before.length + i < before.length := by omega
    rw [bytesAt_getElem _ _ _ _ inside]
    simp [ofList, List.getElem?_append, inside, past]
  · simp [Nat.le_of_not_lt inside]

theorem sumBytes_value (data : Pointer) (index count : Nat) (sum : UInt8) :
    (sumBytes data index count sum).value = sum + (bytesAt data index count).sum := by
  induction count generalizing index sum with
  | zero => simp [sumBytes, bytesAt]
  | succ count ih =>
    simp [sumBytes, ih, bytesAt_succ, UInt8.add_assoc]

theorem sumBytes_reads (data : Pointer) (index count : Nat) (sum : UInt8) :
    (sumBytes data index count sum).reads = List.range' index count := by
  induction count generalizing index sum with
  | zero => rfl
  | succ count ih => simp [sumBytes, ih, List.range'_succ]

@[simp] theorem calculateChecksum_value (data : Pointer) (len : Nat) :
    (calculateChecksum data len).value = ~~~(bytesAt data 0 len).sum := by
  simp [calculateChecksum, sumBytes_value]

@[simp] theorem calculateChecksum_reads (data : Pointer) (len : Nat) :
    (calculateChecksum data len).reads = List.range' 0 len := by
  simp [calculateChecksum, sumBytes_reads]

theorem equalsBytes_value (buffer : Pointer) (index : Nat) (expected : List UInt8) :
    (equalsBytes buffer index expected).value =
      decide (bytesAt buffer index expected.length = expected) := by
  induction expected generalizing index with
  | nil => rfl
  | cons byte rest ih =>
    by_cases same : buffer index = byte <;> simp [equalsBytes, ih, bytesAt_succ, same]

theorem equalsBytes_reads (buffer : Pointer) (index : Nat) (expected : List UInt8) :
    ∀ i ∈ (equalsBytes buffer index expected).reads, i < index + expected.length := by
  induction expected generalizing index with
  | nil => simp [equalsBytes]
  | cons byte rest ih =>
    intro i member
    simp only [equalsBytes, reads_bind, reads_read, value_read, reads_ite, reads_pure,
      List.mem_append, List.mem_singleton] at member
    rcases member with rfl | member
    · simp
    · split at member
      · have := ih (index + 1) i member
        simp only [List.length_cons]
        omega
      · cases member

def MachineStatus.ofBytes (payload : List UInt8) : MachineStatus :=
  (readMachineStatus (ofList payload) 0).value

theorem readMachineStatus_value (buffer : Pointer) (index : Nat) :
    (readMachineStatus buffer index).value =
      MachineStatus.ofBytes (bytesAt buffer index sizeofMachineStatus) := by
  rfl

theorem readMachineStatus_reads (buffer : Pointer) (index : Nat) :
    (readMachineStatus buffer index).reads = List.range' index sizeofMachineStatus := by
  rfl

theorem loadInt16_store (value : Int16) :
    loadInt16 value.toUInt16.toUInt8 (value.toUInt16 >>> 8).toUInt8 = value := by
  have joined : value.toUInt16.toUInt8.toUInt16 +
      (256 : UInt16) * (value.toUInt16 >>> 8).toUInt8.toUInt16 = value.toUInt16 := by
    apply UInt16.toNat_inj.mp
    have small := value.toUInt16.toNat_lt
    simp only [UInt16.toNat_add, UInt16.toNat_mul, UInt8.toNat_toUInt16, UInt16.toNat_toUInt8,
      UInt16.toNat_shiftRight, UInt16.toNat_ofNat, Nat.shiftRight_eq_div_pow, Nat.reduceMod,
      Nat.reducePow]
    omega
  rw [loadInt16, joined]
  rfl

theorem storeInt16_load (low high : UInt8) : storeInt16 (loadInt16 low high) = [low, high] := by
  have lowSmall := low.toNat_lt
  have highSmall := high.toNat_lt
  have joined : (loadInt16 low high).toUInt16 = low.toUInt16 + 256 * high.toUInt16 := rfl
  have value : (low.toUInt16 + 256 * high.toUInt16).toNat = low.toNat + 256 * high.toNat := by
    simp only [UInt16.toNat_add, UInt16.toNat_mul, UInt8.toNat_toUInt16, UInt16.toNat_ofNat]
    omega
  rw [storeInt16, joined]
  congr 1
  · apply UInt8.toNat_inj.mp
    rw [UInt16.toNat_toUInt8, value]
    omega
  · congr 1
    apply UInt8.toNat_inj.mp
    simp only [UInt16.toNat_toUInt8, UInt16.toNat_shiftRight, UInt16.toNat_ofNat, value,
      Nat.shiftRight_eq_div_pow, Nat.reduceMod, Nat.reducePow]
    omega

@[simp] theorem MachineStatus.bytes_length (status : MachineStatus) :
    status.bytes.length = sizeofMachineStatus := rfl

@[simp] theorem MachineStatus.ofBytes_bytes (status : MachineStatus) :
    MachineStatus.ofBytes status.bytes = status := by
  cases status
  simp [ofBytes, readMachineStatus, readInt16, ofList, bytes, storeInt16, loadInt16_store]

theorem MachineStatus.bytes_ofBytes (payload : List UInt8)
    (size : payload.length = sizeofMachineStatus) :
    (MachineStatus.ofBytes payload).bytes = payload := by
  obtain ⟨a, b, c, d, e, f, g, h, i, j, rfl⟩ : ∃ a b c d e f g h i j,
      payload = [a, b, c, d, e, f, g, h, i, j] := by
    match payload, size with
    | [a, b, c, d, e, f, g, h, i, j], _ => exact ⟨a, b, c, d, e, f, g, h, i, j, rfl⟩
  simp [bytes, ofBytes, readMachineStatus, readInt16, ofList, storeInt16_load]

def meaning (id : UInt8) (payload : List UInt8) : Option Message :=
  if id = msgMachineStatus ∧ payload.length = sizeofMachineStatus then
    some (.machineStatus (.ofBytes payload))
  else if id = msgHandshakeRequest ∧ payload = handshakePayload then some .handshakeRequest
  else none

def understood (buffer : Pointer) (len : Nat) : Option Message :=
  let size := (buffer 1).toNat
  if 3 ≤ len ∧ 3 + size ≤ len ∧ ~~~(bytesAt buffer 0 (2 + size)).sum = buffer (2 + size) then
    meaning (buffer 0) (bytesAt buffer 2 size)
  else none

def Parsed.answer (data : NewDawnData) (tickCount : UInt32) : Option Message → Parsed
  | none => ⟨false, data, []⟩
  | some (.machineStatus status) => ⟨true, ⟨status, true, tickCount * portTickPeriodMs⟩, []⟩
  | some .handshakeRequest => ⟨true, data, [sendHandshakeResponse]⟩

@[simp] theorem Parsed.answer_returned (data : NewDawnData) (tickCount : UInt32)
    (message : Option Message) : (answer data tickCount message).returned = message.isSome := by
  rcases message with _ | _ | _ <;> rfl

theorem parse_value (buffer : Pointer) (len : Nat) (data : NewDawnData) (tickCount : UInt32) :
    (parseNewDawnMessage buffer len data tickCount).value =
      Parsed.answer data tickCount (understood buffer len) := by
  by_cases few : len < 3
  · have : ¬ 3 ≤ len := by omega
    simp [parseNewDawnMessage, understood, few, this, Parsed.answer]
  have enough : 3 ≤ len := by omega
  by_cases cut : len < 3 + (buffer 1).toNat
  · have : ¬ 3 + (buffer 1).toNat ≤ len := by omega
    simp [parseNewDawnMessage, understood, few, cut, this, Parsed.answer]
  have whole : 3 + (buffer 1).toNat ≤ len := by omega
  by_cases good : ~~~(bytesAt buffer 0 (2 + (buffer 1).toNat)).sum = buffer (2 + (buffer 1).toNat)
  · simp only [parseNewDawnMessage, few, if_false, value_bind, value_read, cut, value_ite,
      calculateChecksum_value, good, ne_eq, not_true_eq_false, readMachineStatus_value,
      equalsBytes_value, value_pure, understood, enough, whole, and_self, if_true, meaning,
      bytesAt_length]
    have five : buffer 1 = 5 ↔ (buffer 1).toNat = 5 := by
      constructor
      · intro same; rw [same]; rfl
      · intro same; exact UInt8.toNat_inj.mp same
    by_cases status : buffer 0 = msgMachineStatus ∧ (buffer 1).toNat = sizeofMachineStatus
    · simp [status, Parsed.answer]
    rw [if_neg status, if_neg status]
    by_cases request : buffer 0 = msgHandshakeRequest ∧ (buffer 1).toNat = 5
    · obtain ⟨id, size⟩ := request
      have size : buffer 1 = 5 := five.mpr size
      have payload : handshakePayload.length = 5 := rfl
      by_cases same : bytesAt buffer 2 5 = handshakePayload <;>
        simp [id, size, payload, same, Parsed.answer]
    · have other : ¬ (buffer 0 = msgHandshakeRequest ∧
          bytesAt buffer 2 (buffer 1).toNat = handshakePayload) := by
        rintro ⟨id, payload⟩
        exact request ⟨id, by simpa [handshakePayload] using congrArg List.length payload⟩
      simp only [five, request, other, if_false]
      rfl
  · simp [parseNewDawnMessage, understood, few, cut, good, enough, whole, Parsed.answer]

theorem parse_reads (buffer : Pointer) (len : Nat) (data : NewDawnData) (tickCount : UInt32) :
    ∀ i ∈ (parseNewDawnMessage buffer len data tickCount).reads, i < len := by
  intro i member
  by_cases few : len < 3
  · simp [parseNewDawnMessage, few] at member
  by_cases cut : len < 3 + (buffer 1).toNat
  · simp [parseNewDawnMessage, few, cut] at member
    omega
  simp only [parseNewDawnMessage, few, if_false, reads_bind, reads_read, value_read, cut,
    reads_ite, reads_pure, calculateChecksum_reads, readMachineStatus_reads,
    List.mem_append, List.mem_singleton, List.mem_range'_1] at member
  rcases member with rfl | rfl | member | rfl | member
  · omega
  · omega
  · omega
  · omega
  split at member
  · cases member
  split at member
  next status =>
    simp at member
    omega
  split at member
  next request =>
    rw [List.mem_append] at member
    have size : (buffer 1).toNat = 5 := by rw [request.2]; rfl
    rcases member with member | member
    · have := equalsBytes_reads buffer 2 handshakePayload i member
      simp only [handshakePayload, List.length_cons, List.length_nil] at this
      omega
    · split at member <;> cases member
  next => cases member

theorem understood_congr {left right : Pointer} {len : Nat}
    (same : ∀ i, i < len → left i = right i) : understood left len = understood right len := by
  simp only [understood]
  by_cases enough : 3 ≤ len
  · rw [same 0 (by omega), same 1 (by omega)]
    by_cases whole : 3 + (right 1).toNat ≤ len
    · rw [same (2 + (right 1).toNat) (by omega),
        bytesAt_congr left right 0 fun i inside => same _ (by omega),
        bytesAt_congr left right 2 fun i inside => same _ (by omega)]
    · simp [whole]
  · simp [enough]

def Message.read (frame : List UInt8) : Option Message :=
  understood (ofList frame) frame.length

theorem ofList_bytesAt (buffer : Pointer) (index count i : Nat) (inside : i < count) :
    ofList (bytesAt buffer index count) i = buffer (index + i) := by
  simp [ofList, List.getD, bytesAt_getElem _ _ _ _ inside]

theorem understood_eq_read (buffer : Pointer) (len : Nat) :
    understood buffer len = Message.read (bytesAt buffer 0 len) := by
  rw [Message.read, bytesAt_length]
  apply understood_congr
  intro i inside
  rw [ofList_bytesAt _ _ _ _ inside, Nat.zero_add]

theorem sendToLittleDawn_eq (id : UInt8) (data : List UInt8) :
    sendToLittleDawn id data =
      id :: UInt8.ofNat data.length :: data ++
        [~~~(id :: UInt8.ofNat data.length :: data).sum] := by
  have body := bytesAt_ofList [] (id :: UInt8.ofNat data.length :: data) []
  simp only [List.nil_append, List.append_nil, List.length_nil, List.length_cons] at body
  rw [sendToLittleDawn, calculateChecksum_value, Nat.add_comm 2, body]

@[simp] theorem sendToLittleDawn_length (id : UInt8) (data : List UInt8) :
    (sendToLittleDawn id data).length = 3 + data.length := by
  simp [sendToLittleDawn]
  omega

theorem understood_send (id : UInt8) (data rest : List UInt8) (len : Nat)
    (short : data.length < 256) (whole : 3 + data.length ≤ len) :
    understood (ofList (sendToLittleDawn id data ++ rest)) len = meaning id data := by
  have size : (UInt8.ofNat data.length).toNat = data.length := by
    simp only [UInt8.toNat_ofNat']
    omega
  have one : ofList (sendToLittleDawn id data ++ rest) 1 = UInt8.ofNat data.length := rfl
  have body : bytesAt (ofList (sendToLittleDawn id data ++ rest)) 0 (2 + data.length) =
      id :: UInt8.ofNat data.length :: data := by
    have body := bytesAt_ofList [] (id :: UInt8.ofNat data.length :: data)
      ([~~~(id :: UInt8.ofNat data.length :: data).sum] ++ rest)
    rw [sendToLittleDawn_eq, Nat.add_comm 2]
    simp only [List.nil_append, List.append_assoc, List.length_nil, List.length_cons] at body ⊢
    exact body
  have payload : bytesAt (ofList (sendToLittleDawn id data ++ rest)) 2 data.length = data := by
    have payload := bytesAt_ofList [id, UInt8.ofNat data.length] data
      ([~~~(id :: UInt8.ofNat data.length :: data).sum] ++ rest)
    rw [sendToLittleDawn_eq]
    simpa using payload
  have last : ofList (sendToLittleDawn id data ++ rest) (2 + data.length) =
      ~~~(id :: UInt8.ofNat data.length :: data).sum := by
    rw [sendToLittleDawn_eq]
    simp [ofList, Nat.add_comm 2]
  have enough : 3 ≤ len := by omega
  simp only [understood, one, size, enough, whole, body, last, and_self, if_true, payload]
  rfl

theorem read_send (id : UInt8) (data : List UInt8) (short : data.length < 256) :
    Message.read (sendToLittleDawn id data) = meaning id data := by
  have sent := understood_send id data [] (3 + data.length) short (Nat.le_refl _)
  rwa [List.append_nil, ← sendToLittleDawn_length id data] at sent

@[simp] theorem meaning_status (status : MachineStatus) :
    meaning msgMachineStatus status.bytes = some (.machineStatus status) := by
  simp [meaning]

@[simp] theorem meaning_handshake :
    meaning msgHandshakeRequest handshakePayload = some .handshakeRequest := by
  rfl

theorem meaning_status_iff (id : UInt8) (payload : List UInt8) (status : MachineStatus) :
    meaning id payload = some (.machineStatus status) ↔
      id = msgMachineStatus ∧ payload = status.bytes := by
  constructor
  · intro known
    unfold meaning at known
    split_ifs at known with same
    · obtain rfl := Message.machineStatus.inj (Option.some.inj known)
      exact ⟨same.1, (MachineStatus.bytes_ofBytes payload same.2).symm⟩
    · cases Option.some.inj known
  · rintro ⟨rfl, rfl⟩
    exact meaning_status status

theorem meaning_status_exists (id : UInt8) (payload : List UInt8) :
    (∃ status, meaning id payload = some (.machineStatus status)) ↔
      id = msgMachineStatus ∧ payload.length = sizeofMachineStatus := by
  constructor
  · rintro ⟨status, known⟩
    obtain ⟨id, bytes⟩ := (meaning_status_iff id payload status).mp known
    exact ⟨id, by rw [bytes, status.bytes_length]⟩
  · intro header
    exact ⟨.ofBytes payload, by rw [meaning, if_pos header]⟩

theorem meaning_handshake_iff (id : UInt8) (payload : List UInt8) :
    meaning id payload = some .handshakeRequest ↔
      id = msgHandshakeRequest ∧ payload = handshakePayload := by
  constructor
  · intro known
    unfold meaning at known
    split_ifs at known with _ same
    · cases Option.some.inj known
    · exact same
  · rintro ⟨rfl, rfl⟩
    exact meaning_handshake

theorem understood_meaning {buffer : Pointer} {len : Nat} {message : Message}
    (known : understood buffer len = some message) :
    meaning (buffer 0) (bytesAt buffer 2 (buffer 1).toNat) = some message := by
  simp only [understood] at known
  split at known
  · exact known
  · cases known

theorem Message.read_id {frame : List UInt8} {message : Message}
    (known : Message.read frame = some message) :
    frame.getD 0 0 = msgMachineStatus ↔ message ≠ .handshakeRequest := by
  have meant := understood_meaning known
  cases message with
  | machineStatus status =>
    have id : frame.getD 0 0 = msgMachineStatus := ((meaning_status_iff _ _ status).mp meant).1
    exact iff_of_true id (by simp)
  | handshakeRequest =>
    have id : frame.getD 0 0 = msgHandshakeRequest := ((meaning_handshake_iff _ _).mp meant).1
    exact iff_of_false (by rw [id]; decide) (by simp)

def Message.frame : Message → List UInt8
  | .machineStatus status => sendMachineStatus status
  | .handshakeRequest => sendToLittleDawn msgHandshakeRequest handshakePayload

theorem Message.read_frame (message : Message) : Message.read message.frame = some message := by
  cases message with
  | machineStatus status =>
    exact (read_send _ _ (by rw [status.bytes_length]; decide)).trans (meaning_status status)
  | handshakeRequest => exact read_send _ _ (by decide)

end LittleDawn
