import LittleDawn.Model.Message
import LittleDawn.Shared.WhileLoop

set_option autoImplicit false

namespace LittleDawn

def sendHandshakeResponse : List UInt8 :=
  let response : List UInt8 := [msgHandshakeResponse, 0x05, 0x4C, 0x44, 0x32, 0x4E, 0x44]
  let sum := response.foldl (· + ·) 0
  response ++ [~~~sum]

def handshakePayload : List UInt8 := [0x4E, 0x44, 0x32, 0x4C, 0x44]

open Access in
def equalsBytes (buffer : Pointer) (index : Nat) : List UInt8 → Access Bool
  | [] => return true
  | expected :: rest => do
    let byte ← read buffer index
    if byte = expected then equalsBytes buffer (index + 1) rest else return false

structure Parsed where
  returned : Bool
  data : NewDawnData
  written : List (List UInt8)
  deriving DecidableEq, Repr

open Access in
def parseNewDawnMessage (buffer : Pointer) (len : Nat) (data : NewDawnData) (tickCount : UInt32) :
    Access Parsed := do
  if len < 3 then return ⟨false, data, []⟩
  else
    let msgId ← read buffer 0
    let msgLen ← read buffer 1
    if len < 3 + msgLen.toNat then return ⟨false, data, []⟩
    else
      let calcChecksum ← calculateChecksum buffer (2 + msgLen.toNat)
      let recvChecksum ← read buffer (2 + msgLen.toNat)
      if calcChecksum ≠ recvChecksum then return ⟨false, data, []⟩
      else if msgId = msgMachineStatus ∧ msgLen.toNat = sizeofMachineStatus then
        let status ← readMachineStatus buffer 2
        return ⟨true, ⟨status, true, tickCount * portTickPeriodMs⟩, []⟩
      else if msgId = msgHandshakeRequest ∧ msgLen = 5 then
        let valid ← equalsBytes buffer 2 handshakePayload
        -- The record of the caller is left as it was, yet the call returns true.
        if valid then return ⟨true, data, [sendHandshakeResponse]⟩
        else return ⟨false, data, []⟩
      else return ⟨false, data, []⟩

-- What the surroundings answer: the record that the `n`-th parse call finds uninitialised on the
-- stack and the tick count at that call, and whether the task's `n`-th take of the mutex succeeds.
structure Env where
  tempData : Nat → NewDawnData
  tickCount : Nat → UInt32
  mutexTaken : Nat → Bool

structure World where
  currentData : NewDawnData
  parses : Nat
  takes : Nat
  deriving DecidableEq, Repr

structure ParseCall where
  frame : List UInt8
  returned : Bool
  data : NewDawnData
  written : List (List UInt8)
  published : Bool
  deriving DecidableEq, Repr

def parseAndPublish (env : Env) (message : Pointer) (totalLen : UInt8) (world : World) :
    Access (ParseCall × World) := do
  let parsed ← parseNewDawnMessage message totalLen.toNat
    (env.tempData world.parses) (env.tickCount world.parses)
  let published := parsed.returned && env.mutexTaken world.takes
  return (
    { frame := (List.range totalLen.toNat).map message
      returned := parsed.returned
      data := parsed.data
      written := parsed.written
      published },
    { currentData := if published then parsed.data else world.currentData
      parses := world.parses + 1
      takes := if parsed.returned then world.takes + 1 else world.takes })

abbrev Buffer := Vector UInt8 newDawnBufSize

def Buffer.pointer (buffer : Buffer) (base : Int) : Pointer :=
  fun index => buffer[(base + index).toNat]?.getD 0

-- What `uart_read_bytes` leaves in the buffer when it stores `data` at `buffer + base`.
def Buffer.store (buffer : Buffer) (base : Int) (data : List UInt8) : Buffer :=
  Vector.ofFn fun index =>
    if base ≤ index ∧ index < base + data.length then data.getD (index - base).toNat 0
    else buffer.get index

def Buffer.memmove (buffer : Buffer) (source count : Int) : Buffer :=
  Vector.ofFn fun index =>
    if (index : Int) < count then buffer.pointer source index else buffer.get index

structure Drain where
  processed : Int
  world : World
  calls : List ParseCall
  reads : List Int

def Drain.start (world : World) : Drain :=
  { processed := 0, world, calls := [], reads := [] }

-- One evaluation of `while (processed < buffer_pos)` and, where it holds, of its body.
def drainBody (env : Env) (buffer : Buffer) (bufferPos : Int) (drain : Drain) : Drain ⊕ Drain :=
  if drain.processed < bufferPos then
    if bufferPos - drain.processed < 2 then .inr drain
    else
      let msgLen := buffer.pointer drain.processed 1
      let totalLen : UInt8 := 3 + msgLen
      let header := drain.reads ++ [drain.processed, drain.processed + 1]
      if bufferPos - drain.processed < totalLen.toNat then .inr { drain with reads := header }
      else
        -- The debug log of the frame reads all of it, where it is compiled in.
        let logged := (List.range totalLen.toNat).map fun (index : Nat) => drain.processed + index
        let call := parseAndPublish env (buffer.pointer drain.processed) totalLen drain.world
        .inl
          { processed := drain.processed + totalLen.toNat
            world := call.value.2
            calls := drain.calls ++ [call.value.1]
            reads := header ++ logged ++
              call.reads.map fun (index : Nat) => drain.processed + index }
  else .inr drain

structure Task where
  buffer : Buffer
  bufferPos : Int
  lastHandshakeTime : UInt32
  world : World

-- The result of `uart_read_bytes`: -1 or the bytes it has stored.
inductive UartRead where
  | error
  | bytes (data : List UInt8)
  deriving DecidableEq, Repr

structure PassInput where
  tickCount : UInt32
  uartRead : UartRead
  deriving DecidableEq, Repr

structure PassOutput where
  periodic : List (List UInt8)
  calls : List ParseCall
  reads : List Int
  overflow : Bool

abbrev handshakeIntervalMs : UInt32 := 2500

def Task.requested (task : Task) : Int :=
  newDawnBufSize - task.bufferPos - 1

-- `memmove` and the two updates of `buffer_pos` after the drain loop, and the indices read.
def compact (buffer : Buffer) (bufferPos processed : Int) : Buffer × Int × List Int :=
  if 0 < processed ∧ processed < bufferPos then
    (buffer.memmove processed (bufferPos - processed), bufferPos - processed,
      (List.range (bufferPos - processed).toNat).map fun (index : Nat) => processed + index)
  else if bufferPos ≤ processed then (buffer, 0, [])
  else (buffer, bufferPos, [])

-- The part of a pass that runs when bytes have been received. It has no result when the drain
-- loop hangs: no run of the loop that ends needs more rounds than the buffer has bytes.
def receive (env : Env) (task : Task) (data : List UInt8) : Option (PassOutput × Task) := do
  let buffer := task.buffer.store task.bufferPos data
  let bufferPos := task.bufferPos + data.length
  let drain ← WhileLoop.run (drainBody env buffer bufferPos) newDawnBufSize (.start task.world)
  let (buffer, bufferPos, moved) := compact buffer bufferPos drain.processed
  let overflow : Bool := newDawnBufSize - 1 ≤ bufferPos
  return (
    { periodic := [], calls := drain.calls, reads := drain.reads ++ moved, overflow },
    { task with buffer, bufferPos := if overflow then 0 else bufferPos, world := drain.world })

def sendPeriodic (task : Task) (tickCount : UInt32) : List (List UInt8) × Task :=
  let currentTime := tickCount * portTickPeriodMs
  if handshakeIntervalMs ≤ currentTime - task.lastHandshakeTime then
    ([sendHandshakeResponse], { task with lastHandshakeTime := currentTime })
  else ([], task)

def newDawnSerialTask (env : Env) (task : Task) (input : PassInput) :
    Option (PassOutput × Task) := do
  let (periodic, task) := sendPeriodic task input.tickCount
  match input.uartRead with
  | .error | .bytes [] => return ({ periodic, calls := [], reads := [], overflow := false }, task)
  | .bytes data =>
    let (output, task) ← receive env task data
    return ({ output with periodic }, task)

def initialData : NewDawnData :=
  { status := ⟨0, 0, 0, 0, 0⟩, dataValid := false, timestamp := 0 }

structure GetData where
  returned : Bool
  data : Option NewDawnData
  deriving DecidableEq, Repr

-- `new_dawn_get_data`. A null pointer is `none`; `dataMutex` says whether the mutex has been
-- created, and `taken` whether `xSemaphoreTake` gets it in time.
def newDawnGetData (data : Option NewDawnData) (dataMutex taken : Bool)
    (currentData : NewDawnData) : GetData :=
  if data.isNone || !dataMutex then { returned := false, data }
  else if taken && currentData.dataValid then { returned := true, data := some currentData }
  else { returned := false, data }

def Task.boot (buffer : Buffer) : Task :=
  { buffer, bufferPos := 0, lastHandshakeTime := 0, world := ⟨initialData, 0, 0⟩ }

def serialRun (env : Env) : Task → List PassInput → Option (List PassOutput × Task)
  | task, [] => some ([], task)
  | task, input :: inputs => do
    let (output, task) ← newDawnSerialTask env task input
    let (outputs, task) ← serialRun env task inputs
    return (output :: outputs, task)

def PassInput.data (input : PassInput) : List UInt8 :=
  match input.uartRead with
  | .error => []
  | .bytes data => data

def received (inputs : List PassInput) : List UInt8 :=
  (inputs.map PassInput.data).flatten

-- No read returns more bytes than are requested.
def Legal (env : Env) : Task → List PassInput → Prop
  | _, [] => True
  | task, input :: inputs =>
    input.data.length ≤ task.requested ∧
      ∀ output next, newDawnSerialTask env task input = some (output, next) → Legal env next inputs

end LittleDawn
