import Mathlib.Data.UInt

set_option autoImplicit false

namespace LittleDawn

variable {φ : Type}

-- What one call sees of the outside; the clock stands still during it.
structure Port (φ : Type) where
  now : UInt32
  -- The answers to come; without one the way out is blocked.
  accepts : List Bool
  sent : List φ

def Port.fresh (now : UInt32) (accepts : List Bool) : Port φ :=
  { now, accepts, sent := [] }

def Port.transmit (port : Port φ) (frame : φ) : Bool × Port φ :=
  match port.accepts with
  | [] => (false, port)
  | true :: accepts => (true, { port with accepts, sent := port.sent ++ [frame] })
  | false :: accepts => (false, { port with accepts })

@[simp] theorem Port.transmit_now (port : Port φ) (frame : φ) :
    (port.transmit frame).2.now = port.now := by
  rcases port with ⟨now, _ | ⟨_ | _, accepts⟩, sent⟩ <;> rfl

@[simp] theorem Port.transmit_sent (port : Port φ) (frame : φ) :
    (port.transmit frame).2.sent =
      if (port.transmit frame).1 then port.sent ++ [frame] else port.sent := by
  rcases port with ⟨now, _ | ⟨_ | _, accepts⟩, sent⟩ <;> rfl

-- `SystemTiming::get_time_elapsed_ms` and `SystemTiming::time_expired_ms`.
def Port.timeElapsed (port : Port φ) (timestamp : UInt32) : UInt32 :=
  port.now - timestamp

def Port.timeExpired (port : Port φ) (timestamp timeout : UInt32) : Bool :=
  timeout ≤ port.timeElapsed timestamp

def byteOf (value : UInt32) (index : Nat) : UInt8 :=
  (value >>> UInt32.ofNat (8 * index)).toUInt8

def uint16At (data : List UInt8) (index : Nat) : UInt16 :=
  (data.getD index 0).toUInt16 ||| (data.getD (index + 1) 0).toUInt16 <<< 8

def uint24At (data : List UInt8) (index : Nat) : UInt32 :=
  (data.getD index 0).toUInt32 ||| (data.getD (index + 1) 0).toUInt32 <<< 8 |||
    (data.getD (index + 2) 0).toUInt32 <<< 16

def uint32At (data : List UInt8) (index : Nat) : UInt32 :=
  uint24At data index ||| (data.getD (index + 3) 0).toUInt32 <<< 24

end LittleDawn
