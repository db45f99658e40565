import LittleDawn.Isobus.SessionTable
import LittleDawn.Shared.BitField

set_option autoImplicit false

namespace LittleDawn

theorem toNat_or_shift {low : UInt32} {bits : Nat} (high : UInt8) (shift : UInt32)
    (amount : shift.toNat = bits) (small : low.toNat < 2 ^ bits) (fits : bits + 8 ≤ 32) :
    (low ||| high.toUInt32 <<< shift).toNat = low.toNat + high.toNat * 2 ^ bits := by
  have inside : high.toNat * 2 ^ bits < 2 ^ 32 := by
    calc high.toNat * 2 ^ bits < 2 ^ 8 * 2 ^ bits :=
          Nat.mul_lt_mul_of_pos_right high.toNat_lt (Nat.two_pow_pos _)
      _ = 2 ^ (8 + bits) := (Nat.pow_add ..).symm
      _ ≤ 2 ^ 32 := Nat.pow_le_pow_right (by decide) (by omega)
  have shifted : (high.toUInt32 <<< shift).toNat = high.toNat * 2 ^ bits := by
    rw [BitField.toNat_shiftLeft_fits _ shift bits amount (by omega)
      (by rw [UInt8.toNat_toUInt32]; exact inside), UInt8.toNat_toUInt32]
  rw [BitField.toNat_or_disjoint low _ small ⟨high.toNat, by rw [shifted, Nat.mul_comm]⟩, shifted]

theorem toNat_uint24At (data : List UInt8) (index : Nat) :
    (uint24At data index).toNat = (data.getD index 0).toNat +
      (data.getD (index + 1) 0).toNat * 2 ^ 8 + (data.getD (index + 2) 0).toNat * 2 ^ 16 := by
  have first : (data.getD index 0).toUInt32.toNat = (data.getD index 0).toNat :=
    UInt8.toNat_toUInt32 _
  have low := (data.getD index 0).toNat_lt
  have middle := (data.getD (index + 1) 0).toNat_lt
  have second : ((data.getD index 0).toUInt32 |||
      (data.getD (index + 1) 0).toUInt32 <<< 8).toNat = _ + _ * 2 ^ 8 :=
    toNat_or_shift _ 8 rfl (first ▸ low) (by omega)
  have third : (uint24At data index).toNat = _ + _ * 2 ^ 16 :=
    toNat_or_shift _ 16 rfl (by omega) (by omega)
  rw [third, second, first]

theorem toNat_uint32At (data : List UInt8) (index : Nat) :
    (uint32At data index).toNat = (uint24At data index).toNat +
      (data.getD (index + 3) 0).toNat * 2 ^ 24 := by
  have small : (uint24At data index).toNat < 2 ^ 24 := by
    have low := (data.getD index 0).toNat_lt
    have middle := (data.getD (index + 1) 0).toNat_lt
    have high := (data.getD (index + 2) 0).toNat_lt
    rw [toNat_uint24At]
    omega
  exact toNat_or_shift (data.getD (index + 3) 0) 24 rfl small (by omega)

theorem toNat_byteOf (value : UInt32) {index : Nat} (inside : index < 4) :
    (byteOf value index).toNat = value.toNat / 2 ^ (8 * index) % 2 ^ 8 := by
  have amount : (UInt32.ofNat (8 * index)).toNat % 32 = 8 * index := by
    rw [UInt32.toNat_ofNat']
    omega
  rw [byteOf, UInt32.toNat_toUInt8, UInt32.toNat_shiftRight, amount, Nat.shiftRight_eq_div_pow]

theorem uint24At_byteOf {data : List UInt8} {index : Nat} {value : UInt32}
    (low : data.getD index 0 = byteOf value 0) (middle : data.getD (index + 1) 0 = byteOf value 1)
    (high : data.getD (index + 2) 0 = byteOf value 2) :
    uint24At data index = value &&& 0xFFFFFF := by
  apply UInt32.toNat.inj
  have masked : (value &&& 0xFFFFFF).toNat = value.toNat % 2 ^ 24 := by
    rw [UInt32.toNat_and]
    exact Nat.and_two_pow_sub_one_eq_mod value.toNat 24
  rw [toNat_uint24At, masked, low, middle, high, toNat_byteOf value (by decide),
    toNat_byteOf value (by decide), toNat_byteOf value (by decide)]
  omega

theorem uint32At_byteOf {data : List UInt8} {index : Nat} {value : UInt32}
    (low : data.getD index 0 = byteOf value 0) (middle : data.getD (index + 1) 0 = byteOf value 1)
    (high : data.getD (index + 2) 0 = byteOf value 2)
    (top : data.getD (index + 3) 0 = byteOf value 3) : uint32At data index = value := by
  apply UInt32.toNat.inj
  have bound := value.toNat_lt
  rw [toNat_uint32At, toNat_uint24At, low, middle, high, top, toNat_byteOf value (by decide),
    toNat_byteOf value (by decide), toNat_byteOf value (by decide),
    toNat_byteOf value (by decide)]
  omega

end LittleDawn

namespace LittleDawn.ExtendedTransport

variable {κ : Type}

-- A message as its receiver is told of it: with three bytes of its group.
structure Message where
  group : UInt32
  data : List UInt8
  deriving DecidableEq, Repr

def groupOnWire (parameterGroupNumber : UInt32) : UInt32 :=
  parameterGroupNumber &&& 0xFFFFFF

def Message.size (message : Message) : UInt32 :=
  UInt32.ofNat message.data.length

def Message.byte (message : Message) (position : UInt32) : UInt8 :=
  if position < message.size then message.data.getD position.toNat 0 else 0xFF

-- How many messages are begun or left out, and the place in the last of them.
structure Cursor where
  begun : Nat
  offset : UInt32
  sequence : UInt8
  deriving DecidableEq, Repr

def Cursor.start : Cursor :=
  { begun := 0, offset := 0, sequence := 0 }

def Cursor.last (cursor : Cursor) : UInt32 :=
  cursor.sequence.toUInt32 + cursor.offset

structure Message.Opens (message : Message) (frame : Frame κ) : Prop where
  group : frame.group = .connectionManagement
  multiplexor : frame.multiplexor = requestToSendMultiplexor
  full : frame.data.length = 8
  size : uint32At frame.data 1 = message.size
  parameterGroupNumber : uint24At frame.data 5 = message.group

structure Cursor.Moves (cursor : Cursor) (frame : Frame κ) : Prop where
  group : frame.group = .connectionManagement
  multiplexor : frame.multiplexor = dataPacketOffsetMultiplexor
  full : frame.data.length = 8
  last : uint24At frame.data 2 = cursor.last &&& 0xFFFFFF

structure Cursor.Carries (cursor : Cursor) (message : Message) (frame : Frame κ) : Prop where
  group : frame.group = .dataTransfer
  data : frame.data = (cursor.sequence + 1) :: (List.range 7).map fun j =>
    message.byte (cursor.last * protocolBytesPerFrame + UInt32.ofNat j)

inductive Says (messages : List Message) (cursor : Cursor) (frame : Frame κ) : Cursor → Prop where
  | request (index : Nat) (message : Message) (here : messages[index]? = some message)
      (later : cursor.begun ≤ index) (opens : message.Opens frame) :
      Says messages cursor frame { begun := index + 1, offset := 0, sequence := 0 }
  | offset (moves : cursor.Moves frame) :
      Says messages cursor frame { cursor with offset := cursor.last, sequence := 0 }
  | packet (index : Nat) (message : Message) (here : messages[index]? = some message)
      (current : cursor.begun = index + 1) (carries : cursor.Carries message frame) :
      Says messages cursor frame { cursor with sequence := cursor.sequence + 1 }
  | other (other : frame.Other) : Says messages cursor frame cursor

inductive Speaks (messages : List Message) : Cursor → List (Frame κ) → Cursor → Prop where
  | silent (cursor : Cursor) : Speaks messages cursor [] cursor
  | say (cursor next final : Cursor) (frame : Frame κ) (frames : List (Frame κ))
      (saying : Says messages cursor frame next) (rest : Speaks messages next frames final) :
      Speaks messages cursor (frame :: frames) final

variable {messages : List Message} {cursor next final : Cursor} {frame : Frame κ}
  {frames more : List (Frame κ)}

theorem Speaks.append (first : Speaks messages cursor frames next)
    (second : Speaks messages next more final) : Speaks messages cursor (frames ++ more) final := by
  induction first with
  | silent cursor => exact second
  | say cursor middle next frame frames saying rest ih => exact .say _ _ _ _ _ saying (ih second)

theorem Speaks.snoc (first : Speaks messages cursor frames next)
    (saying : Says messages next frame final) :
    Speaks messages cursor (frames ++ [frame]) final :=
  first.append (.say _ _ _ _ _ saying (.silent _))

theorem Speaks.split (speaks : Speaks messages cursor (frames ++ more) final) :
    ∃ next, Speaks messages cursor frames next ∧ Speaks messages next more final := by
  induction frames generalizing cursor with
  | nil => exact ⟨cursor, .silent cursor, speaks⟩
  | cons frame frames ih =>
    cases speaks with
    | say cursor next final frame rest saying speaks =>
      obtain ⟨place, first, second⟩ := ih speaks
      exact ⟨place, .say _ _ _ _ _ saying first, second⟩

theorem Says.later {added : List Message} (saying : Says messages cursor frame next) :
    Says (messages ++ added) cursor frame next := by
  have kept {index : Nat} {message : Message} (here : messages[index]? = some message) :
      (messages ++ added)[index]? = some message := by
    rw [List.getElem?_append_left (List.getElem?_eq_some_iff.mp here).1, here]
  cases saying with
  | request index message here later opens => exact .request index message (kept here) later opens
  | offset moves => exact .offset moves
  | packet index message here current carries =>
    exact .packet index message (kept here) current carries
  | other other => exact .other other

theorem Speaks.later {added : List Message} (speaks : Speaks messages cursor frames final) :
    Speaks (messages ++ added) cursor frames final := by
  induction speaks with
  | silent cursor => exact .silent cursor
  | say cursor next final frame frames saying rest ih => exact .say _ _ _ _ _ saying.later ih

structure Session.Sends (session : Session κ) (message : Message) : Prop where
  group : groupOnWire session.parameterGroupNumber = message.group
  data : session.data = message.data
  size : session.totalMessageSize = message.size

structure Session.Stands (session : Session κ) (cursor : Cursor) : Prop where
  offset : session.sequenceNumberOffset = cursor.offset
  sequence : session.lastSequenceNumber = cursor.sequence

theorem Session.Stands.last {session : Session κ} (stands : session.Stands cursor) :
    session.getLastPacketNumber = cursor.last := by
  rw [Session.getLastPacketNumber, Cursor.last, stands.offset, stands.sequence]

theorem requestToSend_opens {session : Session κ} {message : Message}
    (sends : session.Sends message) : message.Opens (requestToSend session) := by
  refine ⟨rfl, rfl, rfl, ?_, ?_⟩
  · rw [← sends.size]
    exact uint32At_byteOf rfl rfl rfl rfl
  · rw [← sends.group]
    exact uint24At_byteOf rfl rfl rfl

theorem dataPacketOffset_moves {session : Session κ} (stands : session.Stands cursor)
    (packets : UInt8) : cursor.Moves (dataPacketOffset session packets) := by
  refine ⟨rfl, rfl, rfl, ?_⟩
  rw [← stands.last]
  exact uint24At_byteOf rfl rfl rfl

theorem dataTransfer_carries {session : Session κ} {message : Message}
    (sends : session.Sends message) (stands : session.Stands cursor) :
    cursor.Carries message (dataTransfer session) := by
  refine ⟨rfl, ?_⟩
  simp only [dataTransfer, Message.byte, stands.last, stands.sequence, sends.data, sends.size]

end LittleDawn.ExtendedTransport
