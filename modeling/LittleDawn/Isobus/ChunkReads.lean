import LittleDawn.Model.ExtendedTransport
import LittleDawn.Model.MessageData
import Mathlib.Data.List.GetD

set_option autoImplicit false

namespace LittleDawn

def Gives (callback : DataChunkCallback) (message : List UInt8) : Prop :=
  ∀ index count, 0 < count → index + count ≤ message.length →
    callback index count = some ((message.drop index).take count)

structure MessageDataCallback.Reflects (data : MessageDataCallback) (message : List UInt8) :
    Prop where
  size : data.totalSize = message.length
  room : 0 < data.buffer.length
  -- What is behind the end of the message does not count.
  shows : data.initialized = true → ∀ offset < data.buffer.length,
    data.dataOffset + offset < message.length →
      data.buffer.getD offset 0 = message.getD (data.dataOffset + offset) 0

theorem reflects_create (message : List UInt8) :
    (MessageDataCallback.create message.length).Reflects message :=
  ⟨rfl, by simp [MessageDataCallback.create], by simp [MessageDataCallback.create]⟩

theorem refill_dataOffset (callback : DataChunkCallback) (data : MessageDataCallback)
    (index : Nat) : (data.refill callback index).dataOffset = index :=
  rfl

theorem reflects_refill {callback : DataChunkCallback} {message : List UInt8}
    {data : MessageDataCallback} (gives : Gives callback message)
    (reflects : data.Reflects message) {index : Nat} (inside : index < message.length) :
    (data.refill callback index).Reflects message := by
  have room := reflects.room
  let count := min (message.length - index) data.buffer.length
  have filled : callback index (min (data.totalSize - index) data.buffer.length) =
      some ((message.drop index).take count) := by
    rw [reflects.size]
    exact gives index count (by omega) (by omega)
  have length : ((message.drop index).take count).length = count := by
    simp [count]
  unfold MessageDataCallback.refill
  rw [filled, Option.getD_some]
  dsimp only
  rw [length]
  refine ⟨reflects.size, ?_, ?_⟩
  · simp only [List.length_append, length, List.length_drop]
    omega
  · intro _ offset below within
    simp only [List.length_append, length, List.length_drop] at below
    change index + offset < message.length at within
    have first : offset < count := by omega
    rw [List.getD_append _ _ _ _ (by simpa only [length] using first)]
    simp [List.getD_eq_getElem?_getD, first, List.getElem?_drop]

theorem getByte_reflects {callback : DataChunkCallback} {message : List UInt8}
    {data : MessageDataCallback} (gives : Gives callback message)
    (reflects : data.Reflects message) (index : Nat) :
    (data.getByte callback index).1 = message.getD index 0 ∧
      (data.getByte callback index).2.Reflects message := by
  unfold MessageDataCallback.getByte
  by_cases inside : index < message.length
  · rw [if_neg (by rw [reflects.size]; omega)]
    split
    · have filled := reflects_refill gives reflects inside
      refine ⟨?_, filled⟩
      have here := filled.shows rfl 0 filled.room inside
      rwa [Nat.add_zero, refill_dataOffset, ← Nat.sub_self index] at here
    · rename_i held
      simp only [not_or, not_le, not_lt, not_not] at held
      obtain ⟨before, after, initialized⟩ := held
      refine ⟨?_, reflects⟩
      have here := reflects.shows initialized (index - data.dataOffset) (by omega) (by omega)
      rw [Nat.add_sub_cancel' after] at here
      exact here
  · rw [if_pos (by rw [reflects.size]; omega)]
    refine ⟨?_, reflects⟩
    rw [List.getD_eq_default _ _ (by omega)]

namespace ExtendedTransport

variable {κ : Type}

def readBytes (callback : DataChunkCallback) (messageLength dataOffset : UInt32) :
    List Nat → MessageDataCallback → List UInt8 × MessageDataCallback
  | [], data => ([], data)
  | j :: rest, data =>
    let index := dataOffset + UInt32.ofNat j
    let (byte, data) :=
      if index < messageLength then data.getByte callback index.toNat else (0xFF, data)
    let (bytes, data) := readBytes callback messageLength dataOffset rest data
    (byte :: bytes, data)

def readDataTransfer (callback : DataChunkCallback) (session : Session κ)
    (data : MessageDataCallback) : Frame κ × MessageDataCallback :=
  let dataOffset := session.getLastPacketNumber * protocolBytesPerFrame
  let (bytes, data) :=
    readBytes callback session.totalMessageSize dataOffset (List.range 7) data
  ({ source := session.source, destination := session.destination, group := .dataTransfer
     data := (session.lastSequenceNumber + 1) :: bytes }, data)

theorem readBytes_reflects {callback : DataChunkCallback} {message : List UInt8}
    (gives : Gives callback message) (messageLength dataOffset : UInt32) (numbers : List Nat)
    {data : MessageDataCallback} (reflects : data.Reflects message) :
    (readBytes callback messageLength dataOffset numbers data).1 = (numbers.map fun j =>
        if dataOffset + UInt32.ofNat j < messageLength then
          message.getD (dataOffset + UInt32.ofNat j).toNat 0
        else 0xFF) ∧
      (readBytes callback messageLength dataOffset numbers data).2.Reflects message := by
  induction numbers generalizing data with
  | nil => exact ⟨rfl, reflects⟩
  | cons j rest ih =>
    unfold readBytes
    rw [List.map_cons]
    dsimp only
    by_cases inside : dataOffset + UInt32.ofNat j < messageLength
    · obtain ⟨byte, next⟩ :=
        getByte_reflects gives reflects (dataOffset + UInt32.ofNat j).toNat
      obtain ⟨bytes, last⟩ := ih next
      rw [if_pos inside, if_pos inside]
      exact ⟨by rw [byte, bytes], last⟩
    · obtain ⟨bytes, last⟩ := ih reflects
      rw [if_neg inside, if_neg inside]
      exact ⟨by rw [bytes], last⟩

theorem readDataTransfer_reflects {callback : DataChunkCallback} {session : Session κ}
    (gives : Gives callback session.data) {data : MessageDataCallback}
    (reflects : data.Reflects session.data) :
    (readDataTransfer callback session data).1 = dataTransfer session ∧
      (readDataTransfer callback session data).2.Reflects session.data := by
  obtain ⟨bytes, last⟩ := readBytes_reflects gives session.totalMessageSize
    (session.getLastPacketNumber * protocolBytesPerFrame) (List.range 7) reflects
  refine ⟨?_, last⟩
  unfold readDataTransfer dataTransfer
  dsimp only
  rw [bytes]

def readPackets (callback : DataChunkCallback) :
    Nat → Session κ → MessageDataCallback → Effects κ →
      (Session κ × Effects κ) × MessageDataCallback
  | 0, session, data, effects => ((session, effects), data)
  | framesToSend + 1, session, data, effects =>
    let (frame, data) := readDataTransfer callback session data
    match effects.send frame with
    | (true, effects) =>
      readPackets callback framesToSend
        { session with
          lastSequenceNumber := session.lastSequenceNumber + 1, timestamp := effects.port.now }
        data effects
    | (false, effects) => ((session, effects), data)

theorem readPackets_reflects {callback : DataChunkCallback} (framesToSend : Nat)
    {session : Session κ} (gives : Gives callback session.data) {data : MessageDataCallback}
    (reflects : data.Reflects session.data) (effects : Effects κ) :
    (readPackets callback framesToSend session data effects).1 =
        sendPackets framesToSend session effects ∧
      (readPackets callback framesToSend session data effects).2.Reflects session.data := by
  induction framesToSend generalizing session data effects with
  | zero => exact ⟨rfl, reflects⟩
  | succ framesToSend ih =>
    obtain ⟨frame, read⟩ := readDataTransfer_reflects gives reflects
    unfold readPackets sendPackets
    dsimp only
    rw [frame]
    obtain ⟨taken, after⟩ := effects.send (dataTransfer session)
    cases taken with
    | true =>
      apply ih
      · exact gives
      · exact read
    | false => exact ⟨rfl, read⟩

end ExtendedTransport

end LittleDawn
