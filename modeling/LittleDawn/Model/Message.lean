import LittleDawn.Model.Memory

set_option autoImplicit false

namespace LittleDawn

abbrev newDawnBufSize : Nat := 256

abbrev msgMachineStatus : UInt8 := 0x01
abbrev msgHandshakeRequest : UInt8 := 0x10
abbrev msgHandshakeResponse : UInt8 := 0x11

-- `1000 / configTICK_RATE_HZ`, with `CONFIG_FREERTOS_HZ=100`.
abbrev portTickPeriodMs : UInt32 := 10

structure MachineStatus where
  speed : Int16
  heading : Int16
  roll : Int16
  pitch : Int16
  steerAngle : Int16
  deriving DecidableEq, Repr

-- `sizeof(MachineStatus)`: the structure is packed.
abbrev sizeofMachineStatus : Nat := 10

structure NewDawnData where
  status : MachineStatus
  dataValid : Bool
  timestamp : UInt32
  deriving DecidableEq, Repr

def loadInt16 (low high : UInt8) : Int16 :=
  (low.toUInt16 + 256 * high.toUInt16).toInt16

def storeInt16 (value : Int16) : List UInt8 :=
  [value.toUInt16.toUInt8, (value.toUInt16 >>> 8).toUInt8]

def MachineStatus.bytes (status : MachineStatus) : List UInt8 :=
  storeInt16 status.speed ++ storeInt16 status.heading ++ storeInt16 status.roll ++
    storeInt16 status.pitch ++ storeInt16 status.steerAngle

open Access in
def readInt16 (buffer : Pointer) (index : Nat) : Access Int16 := do
  let low ← read buffer index
  let high ← read buffer (index + 1)
  return loadInt16 low high

def readMachineStatus (buffer : Pointer) (index : Nat) : Access MachineStatus := do
  let speed ← readInt16 buffer index
  let heading ← readInt16 buffer (index + 2)
  let roll ← readInt16 buffer (index + 4)
  let pitch ← readInt16 buffer (index + 6)
  let steerAngle ← readInt16 buffer (index + 8)
  return { speed, heading, roll, pitch, steerAngle }

open Access in
def sumBytes (data : Pointer) (index : Nat) : Nat → UInt8 → Access UInt8
  | 0, sum => return sum
  | count + 1, sum => do
    let byte ← read data index
    sumBytes data (index + 1) count (sum + byte)

def calculateChecksum (data : Pointer) (len : Nat) : Access UInt8 := do
  let sum ← sumBytes data 0 len 0
  return ~~~sum

-- A list of bytes in memory. What follows the list is never looked at.
def ofList (bytes : List UInt8) : Pointer :=
  fun index => bytes.getD index 0

-- The bytes that `sendToLittleDawn` of New Dawn writes for a message.
def sendToLittleDawn (id : UInt8) (data : List UInt8) : List UInt8 :=
  let buffer := id :: UInt8.ofNat data.length :: data
  buffer ++ [(calculateChecksum (ofList buffer) (2 + data.length)).value]

def sendMachineStatus (status : MachineStatus) : List UInt8 :=
  sendToLittleDawn msgMachineStatus status.bytes

end LittleDawn
