import LittleDawn.Serial.TaskRun

set_option autoImplicit false

namespace LittleDawn

theorem frameSize_zero_iff (bytes : List UInt8) :
    frameSize bytes = some 0 ↔ ∃ id rest, bytes = id :: 253 :: rest := by
  have wraps (length : UInt8) : (3 + length).toNat = 0 ↔ length = 253 := by
    have small := length.toNat_lt
    rw [← UInt8.toNat_inj, UInt8.toNat_add]
    change (3 + length.toNat) % 256 = 0 ↔ length.toNat = 253
    omega
  constructor
  · intro zero
    obtain ⟨header, _, size⟩ := frameSize_some zero
    match bytes, header with
    | id :: length :: rest, _ =>
      obtain rfl := (wraps length).mp size.symm
      exact ⟨id, rest, rfl⟩
  · rintro ⟨id, rest, rfl⟩
    simp [frameSize, ofList]

def NoWrap (bytes : List UInt8) : Prop :=
  ∀ id rest, ¬ newDawnFramer.Visits bytes (id :: 253 :: rest)

theorem noWrap_iff (bytes : List UInt8) : NoWrap bytes ↔ ¬ newDawnFramer.Stalls bytes := by
  constructor
  · rintro free ⟨boundary, visit, zero⟩
    obtain ⟨id, rest, rfl⟩ := (frameSize_zero_iff boundary).mp zero
    exact free id rest visit
  · intro free id rest visit
    exact free ⟨_, visit, (frameSize_zero_iff _).mpr ⟨id, rest, rfl⟩⟩

theorem drain_advances {env : Env} {buffer : Buffer} {bufferPos : Int} {drain later next : Drain}
    (bounds : drain.Inside bufferPos) (free : NoWrap (drain.left buffer bufferPos))
    (path : WhileLoop.Reaches (drainBody env buffer bufferPos) drain later)
    (round : drainBody env buffer bufferPos later = .inl next) :
    later.processed < next.processed := by
  have visit := drain_visits_of_reaches bounds path
  obtain ⟨n, whole, moved, _⟩ := drainBody_inl (drain_reaches_inside bounds path) round
  have positive : n ≠ 0 := by
    rintro rfl
    exact (noWrap_iff _).mp free ⟨_, visit, whole⟩
  omega

/-- The drain loop ends, moving on in every round, exactly when no frame boundary of the received
bytes carries the length byte 253; and then, and only then, a run of the task comes back from every
read. -/
theorem drain_progress_iff (env : Env) (world : World) (buffer : Buffer) (bufferPos : Int)
    (start : 0 ≤ bufferPos) (room : bufferPos ≤ 255) :
    (WhileLoop.Ends (drainBody env buffer bufferPos) (.start world) ∧
        (∀ drain next, WhileLoop.Reaches (drainBody env buffer bufferPos) (.start world) drain →
          drainBody env buffer bufferPos drain = .inl next → drain.processed < next.processed) ↔
      NoWrap (buffer.live bufferPos)) ∧
    ∀ inputs : List PassInput, Legal env (.boot buffer) inputs →
      ((∃ outputs last, serialRun env (.boot buffer) inputs = some (outputs, last)) ↔
        NoWrap (received inputs)) := by
  constructor
  · have bounds := start_inside world start (Int.le_trans room (by decide))
    have ends : WhileLoop.Ends (drainBody env buffer bufferPos) (.start world) ↔
        NoWrap (buffer.live bufferPos) := by
      rw [drain_ends_iff env bounds, start_left, noWrap_iff]
    constructor
    · intro progress
      exact ends.mp progress.1
    · intro free
      constructor
      · exact ends.mpr free
      · intro drain next path round
        exact drain_advances bounds (by rwa [start_left]) path round
  · intro inputs legal
    rw [noWrap_iff]
    exact run_boot legal

def Env.quiet : Env :=
  { tempData := fun _ => initialData, tickCount := fun _ => 0, mutexTaken := fun _ => true }

def zeroBuffer : Buffer := Vector.replicate newDawnBufSize 0

def cutStream : List UInt8 := [0x20, 0x01, 0x07, 0xD7, 0x01, 0x0A, 0x05]

theorem cutStream_walks :
    newDawnFramer.Walks cutStream [[0x20, 0x01, 0x07, 0xD7]] [0x01, 0x0A, 0x05] := by
  have whole : newDawnFramer.size cutStream = some 4 := rfl
  have short : newDawnFramer.size (cutStream.drop 4) = none := rfl
  exact .cut whole (.wait short)

theorem cutStream_legal (buffer : Buffer) :
    Legal .quiet (.boot buffer) [⟨0, .bytes cutStream⟩] := by
  have fits : (7 : Int) ≤ 255 := by decide
  exact ⟨fits, by simp [Legal]⟩

theorem drain_progress_cut :
    WhileLoop.Ends (drainBody .quiet (zeroBuffer.store 0 cutStream) 7)
        (.start ⟨initialData, 0, 0⟩) ∧
      ∃ outputs last, serialRun .quiet (.boot (zeroBuffer.store 0 cutStream))
        [⟨0, .bytes cutStream⟩] = some (outputs, last) := by
  have free : NoWrap cutStream :=
    (noWrap_iff _).mpr ((Framer.walks_iff _).mp ⟨_, _, cutStream_walks⟩)
  have live : (zeroBuffer.store 0 cutStream).live 7 = cutStream :=
    zeroBuffer.live_store cutStream (Int.le_refl 0) (by decide)
  obtain ⟨loop, runs⟩ := drain_progress_iff .quiet ⟨initialData, 0, 0⟩
    (zeroBuffer.store 0 cutStream) 7 (by decide) (by decide)
  rw [live] at loop
  exact ⟨(loop.mpr free).1, (runs _ (cutStream_legal _)).mpr free⟩

-- With `01 FD` received the drain loop goes round for ever, and the task does not come back.
theorem drain_hangs :
    ¬ WhileLoop.Ends (drainBody .quiet (zeroBuffer.store 0 [0x01, 0xFD]) 2)
        (.start ⟨initialData, 0, 0⟩) ∧
      serialRun .quiet (.boot zeroBuffer) [⟨0, .bytes [0x01, 0xFD]⟩] = none := by
  have stalls : newDawnFramer.Stalls [0x01, 0xFD] := ⟨_, .here _, by decide⟩
  have live : (zeroBuffer.store 0 [0x01, 0xFD]).live 2 = [0x01, 0xFD] :=
    zeroBuffer.live_store [0x01, 0xFD] (Int.le_refl 0) (by decide)
  constructor
  · rw [drain_ends_iff _ (start_inside _ (by decide) (by decide)), start_left, live]
    exact fun free => free stalls
  · cases result : serialRun .quiet (.boot zeroBuffer) [⟨0, .bytes [0x01, 0xFD]⟩] with
    | none => rfl
    | some value =>
      have legal : Legal .quiet (.boot zeroBuffer) [⟨0, .bytes [0x01, 0xFD]⟩] :=
        ⟨by decide, by simp [Legal]⟩
      exact absurd stalls ((run_boot legal).mp ⟨_, _, result⟩)

end LittleDawn
