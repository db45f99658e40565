import Mathlib.Data.UInt

set_option autoImplicit false

namespace LittleDawn

abbrev DataChunkCallback := Nat → Nat → Option (List UInt8)

structure MessageDataCallback where
  totalSize : Nat
  buffer : List UInt8
  dataOffset : Nat
  initialized : Bool
  deriving DecidableEq, Repr

abbrev defaultChunkSize : Nat := 7

def MessageDataCallback.create (totalSize : Nat) : MessageDataCallback :=
  { totalSize, buffer := List.replicate defaultChunkSize 0, dataOffset := 0, initialized := false }

-- The callback writes at the start of the buffer, and its answer is ignored.
def MessageDataCallback.refill (callback : DataChunkCallback) (data : MessageDataCallback)
    (index : Nat) : MessageDataCallback :=
  let bytes := (callback index (min (data.totalSize - index) data.buffer.length)).getD []
  { data with
    buffer := bytes ++ data.buffer.drop bytes.length, dataOffset := index, initialized := true }

def MessageDataCallback.getByte (callback : DataChunkCallback) (data : MessageDataCallback)
    (index : Nat) : UInt8 × MessageDataCallback :=
  if data.totalSize ≤ index then (0, data)
  else
    let data :=
      if data.dataOffset + data.buffer.length ≤ index ∨ index < data.dataOffset ∨
          ¬ data.initialized then data.refill callback index
      else data
    (data.buffer.getD (index - data.dataOffset) 0, data)

end LittleDawn
