import LittleDawn.Serial.ParseSpec
import LittleDawn.Shared.Framer

set_option autoImplicit false

namespace LittleDawn

def frameSize (bytes : List UInt8) : Option Nat :=
  let totalLen : UInt8 := 3 + ofList bytes 1
  if 2 ≤ bytes.length ∧ totalLen.toNat ≤ bytes.length then some totalLen.toNat else none

theorem frameSize_some {bytes : List UInt8} {n : Nat} (whole : frameSize bytes = some n) :
    2 ≤ bytes.length ∧ n ≤ bytes.length ∧ n = (3 + ofList bytes 1).toNat := by
  simp only [frameSize] at whole
  split at whole
  · have := Option.some.inj whole
    omega
  · cases whole

-- How the drain loop cuts the stream: by the 8-bit sum of three and the length byte.
def newDawnFramer : Framer UInt8 where
  size := frameSize
  stable := by
    intro xs ys n whole
    obtain ⟨header, fits, rfl⟩ := frameSize_some whole
    simp only [frameSize, ofList_append header, List.length_append]
    rw [if_pos (by omega)]
  inside := by
    intro xs n whole
    exact (frameSize_some whole).2.1

theorem newDawnFramer_size (bytes : List UInt8) : newDawnFramer.size bytes = frameSize bytes := rfl

def handleFrame (env : Env) (world : World) (frame : List UInt8) : ParseCall × World :=
  let message := Message.read frame
  let answer := Parsed.answer (env.tempData world.parses) (env.tickCount world.parses) message
  let published := message.isSome && env.mutexTaken world.takes
  ({ frame
     returned := message.isSome
     data := answer.data
     written := answer.written
     published },
   { currentData := if published then answer.data else world.currentData
     parses := world.parses + 1
     takes := if message.isSome then world.takes + 1 else world.takes })

def handleFrames (env : Env) : World → List (List UInt8) → List ParseCall × World
  | world, [] => ([], world)
  | world, frame :: frames =>
    let first := handleFrame env world frame
    let others := handleFrames env first.2 frames
    (first.1 :: others.1, others.2)

theorem handleFrames_append (env : Env) (world : World) (left right : List (List UInt8)) :
    handleFrames env world (left ++ right) =
      ((handleFrames env world left).1 ++
          (handleFrames env (handleFrames env world left).2 right).1,
        (handleFrames env (handleFrames env world left).2 right).2) := by
  induction left generalizing world with
  | nil => rfl
  | cons frame left ih => simp [handleFrames, ih]

theorem handleFrames_frames (env : Env) (world : World) (frames : List (List UInt8)) :
    (handleFrames env world frames).1.map ParseCall.frame = frames := by
  induction frames generalizing world with
  | nil => rfl
  | cons frame frames ih => simp [handleFrames, handleFrame, ih]

theorem parseAndPublish_value (env : Env) (buffer : Pointer) (totalLen : UInt8) (world : World) :
    (parseAndPublish env buffer totalLen world).value =
      handleFrame env world (bytesAt buffer 0 totalLen.toNat) := by
  have frame : (List.range totalLen.toNat).map buffer = bytesAt buffer 0 totalLen.toNat := by
    simp [bytesAt]
  simp only [parseAndPublish, Access.value_bind, Access.value_pure, parse_value, handleFrame,
    frame, understood_eq_read, Parsed.answer_returned]

theorem parseAndPublish_reads (env : Env) (buffer : Pointer) (totalLen : UInt8) (world : World) :
    ∀ i ∈ (parseAndPublish env buffer totalLen world).reads, i < totalLen.toNat := by
  intro i member
  simp only [parseAndPublish, Access.reads_bind, Access.reads_pure, List.append_nil] at member
  exact parse_reads _ _ _ _ i member

def Buffer.live (buffer : Buffer) (bufferPos : Int) : List UInt8 :=
  buffer.toList.take bufferPos.toNat

theorem Buffer.live_length (buffer : Buffer) {bufferPos : Int} (fits : bufferPos ≤ newDawnBufSize) :
    (buffer.live bufferPos).length = bufferPos.toNat := by
  simp only [live, List.length_take, Vector.length_toList]
  omega

theorem Buffer.live_getElem (buffer : Buffer) {bufferPos : Int} {i : Nat} (inside : i < bufferPos) :
    (buffer.live bufferPos)[i]? = buffer[i]? := by
  rw [live, List.getElem?_take, if_pos (by omega), Vector.getElem?_toList]

theorem Buffer.pointer_live (buffer : Buffer) {bufferPos base : Int} {i : Nat} (start : 0 ≤ base)
    (inside : base + i < bufferPos) :
    buffer.pointer base i = ofList ((buffer.live bufferPos).drop base.toNat) i := by
  have index : (base + i).toNat = base.toNat + i := by omega
  rw [pointer, ofList, List.getD, List.getElem?_drop, live_getElem buffer (by omega), index]

theorem Buffer.bytesAt_live (buffer : Buffer) {bufferPos base : Int} (count : Nat)
    (start : 0 ≤ base) (inside : base + count ≤ bufferPos) (fits : bufferPos ≤ newDawnBufSize) :
    bytesAt (buffer.pointer base) 0 count =
      ((buffer.live bufferPos).drop base.toNat).take count := by
  have size := live_length buffer fits
  apply List.ext_getElem?
  intro i
  by_cases below : i < count
  · rw [bytesAt_getElem _ _ _ _ below, List.getElem?_take, if_pos below, Nat.zero_add,
      pointer_live buffer start (show base + i < bufferPos by omega), ofList, List.getD]
    rw [List.getElem?_eq_getElem (by rw [List.length_drop]; omega)]
    rfl
  · rw [List.getElem?_eq_none (by simp; omega), List.getElem?_eq_none (by simp; omega)]

theorem Buffer.live_store (buffer : Buffer) {bufferPos : Int} (data : List UInt8)
    (start : 0 ≤ bufferPos) (fits : bufferPos + data.length ≤ newDawnBufSize) :
    (buffer.store bufferPos data).live (bufferPos + data.length) =
      buffer.live bufferPos ++ data := by
  have size := live_length buffer (show bufferPos ≤ newDawnBufSize by omega)
  apply List.ext_getElem?
  intro i
  by_cases inside : i < bufferPos + data.length
  · have bound : i < newDawnBufSize := by omega
    rw [live_getElem _ inside, Vector.getElem?_eq_getElem bound, store, Vector.getElem_ofFn]
    by_cases old : i < bufferPos
    · rw [if_neg (by simp only; omega), List.getElem?_append_left (by omega),
        live_getElem buffer old, Vector.getElem?_eq_getElem bound]
      rfl
    · have index : ((i : Int) - bufferPos).toNat = i - bufferPos.toNat := by omega
      rw [if_pos (by simp only; omega), List.getElem?_append_right (by omega), size]
      simp only [index, List.getD]
      rw [List.getElem?_eq_getElem (by omega)]
      rfl
  · rw [List.getElem?_eq_none (by rw [live_length _ fits]; omega),
      List.getElem?_eq_none (by rw [List.length_append]; omega)]

theorem Buffer.live_memmove (buffer : Buffer) {bufferPos processed : Int} (start : 0 ≤ processed)
    (inside : processed ≤ bufferPos) (fits : bufferPos ≤ newDawnBufSize) :
    (buffer.memmove processed (bufferPos - processed)).live (bufferPos - processed) =
      (buffer.live bufferPos).drop processed.toNat := by
  have size := live_length buffer fits
  apply List.ext_getElem?
  intro i
  by_cases below : i < bufferPos - processed
  · have bound : i < newDawnBufSize := by omega
    rw [live_getElem _ below, Vector.getElem?_eq_getElem bound, memmove, Vector.getElem_ofFn,
      if_pos below, pointer_live buffer start (show processed + i < bufferPos by omega),
      ofList, List.getD, List.getElem?_eq_getElem (by rw [List.length_drop]; omega)]
    rfl
  · rw [List.getElem?_eq_none (by rw [live_length _ (by omega)]; omega),
      List.getElem?_eq_none (by rw [List.length_drop]; omega)]

def Drain.left (drain : Drain) (buffer : Buffer) (bufferPos : Int) : List UInt8 :=
  (buffer.live bufferPos).drop drain.processed.toNat

structure Drain.Inside (drain : Drain) (bufferPos : Int) : Prop where
  start : 0 ≤ drain.processed
  inside : drain.processed ≤ bufferPos
  fits : bufferPos ≤ newDawnBufSize

variable {env : Env} {buffer : Buffer} {bufferPos : Int} {drain : Drain}

theorem Drain.left_length (buffer : Buffer) (bounds : drain.Inside bufferPos) :
    ((drain.left buffer bufferPos).length : Int) = bufferPos - drain.processed := by
  have := buffer.live_length bounds.fits
  have := bounds.start
  have := bounds.inside
  rw [left, List.length_drop]
  omega

theorem Drain.totalLen_eq (bounds : drain.Inside bufferPos)
    (header : 2 ≤ (drain.left buffer bufferPos).length) :
    buffer.pointer drain.processed 1 = ofList (drain.left buffer bufferPos) 1 := by
  have := Drain.left_length buffer bounds
  exact buffer.pointer_live bounds.start (by omega)

theorem drainBody_wait (env : Env) (bounds : drain.Inside bufferPos)
    (short : frameSize (drain.left buffer bufferPos) = none) :
    ∃ reads, drainBody env buffer bufferPos drain = .inr { drain with reads } := by
  have size := Drain.left_length buffer bounds
  unfold drainBody
  split_ifs with more header
  · exact ⟨_, rfl⟩
  · have two : 2 ≤ (drain.left buffer bufferPos).length := by omega
    rw [frameSize] at short
    simp only [Drain.totalLen_eq bounds two, two, true_and] at short ⊢
    split at short
    · cases short
    · rw [if_pos (by omega)]
      exact ⟨_, rfl⟩
  · exact ⟨_, rfl⟩

theorem drainBody_cut (env : Env) {n : Nat} (bounds : drain.Inside bufferPos)
    (whole : frameSize (drain.left buffer bufferPos) = some n) :
    ∃ reads, drainBody env buffer bufferPos drain = .inl
      { processed := drain.processed + n
        world := (handleFrame env drain.world ((drain.left buffer bufferPos).take n)).2
        calls := drain.calls ++
          [(handleFrame env drain.world ((drain.left buffer bufferPos).take n)).1]
        reads } := by
  have size := Drain.left_length buffer bounds
  obtain ⟨header, enough, rfl⟩ := frameSize_some whole
  have frame := buffer.bytesAt_live (3 + ofList (drain.left buffer bufferPos) 1).toNat bounds.start
    (by omega) bounds.fits
  unfold drainBody
  rw [if_pos (by omega), if_neg (by omega)]
  simp only [Drain.totalLen_eq bounds header]
  rw [if_neg (by omega), parseAndPublish_value, frame]
  exact ⟨_, rfl⟩

theorem drainBody_inl {next : Drain} (bounds : drain.Inside bufferPos)
    (round : drainBody env buffer bufferPos drain = .inl next) :
    ∃ n, frameSize (drain.left buffer bufferPos) = some n ∧ next.processed = drain.processed + n ∧
      next.world = (handleFrame env drain.world ((drain.left buffer bufferPos).take n)).2 ∧
      next.calls = drain.calls ++
        [(handleFrame env drain.world ((drain.left buffer bufferPos).take n)).1] ∧
      next.Inside bufferPos ∧
      next.left buffer bufferPos = (drain.left buffer bufferPos).drop n := by
  cases known : frameSize (drain.left buffer bufferPos) with
  | none =>
    obtain ⟨reads, leave⟩ := drainBody_wait env bounds known
    rw [leave] at round
    cases round
  | some n =>
    obtain ⟨reads, cut⟩ := drainBody_cut env bounds known
    obtain rfl := Sum.inl.inj (cut.symm.trans round)
    have size := Drain.left_length buffer bounds
    have enough := (frameSize_some known).2.1
    have start := bounds.start
    have fits := bounds.fits
    refine ⟨n, rfl, rfl, rfl, rfl, ⟨?_, ?_, fits⟩, ?_⟩
    · simp only
      omega
    · simp only
      omega
    · rw [Drain.left, Drain.left, List.drop_drop]
      congr 1
      simp only
      omega

theorem drainBody_inr {result : Drain} (bounds : drain.Inside bufferPos)
    (leave : drainBody env buffer bufferPos drain = .inr result) :
    result.processed = drain.processed := by
  cases known : frameSize (drain.left buffer bufferPos) with
  | none =>
    obtain ⟨reads, wait⟩ := drainBody_wait env bounds known
    obtain rfl := Sum.inr.inj (wait.symm.trans leave)
    rfl
  | some n =>
    obtain ⟨reads, cut⟩ := drainBody_cut env bounds known
    rw [cut] at leave
    cases leave

theorem drain_reaches_inside {later : Drain} (bounds : drain.Inside bufferPos)
    (path : WhileLoop.Reaches (drainBody env buffer bufferPos) drain later) :
    later.Inside bufferPos := by
  refine WhileLoop.reaches_invariant (fun drain => drain.Inside bufferPos) ?_ bounds path
  intro drain next bounds round
  obtain ⟨n, _, _, _, _, inside, _⟩ := drainBody_inl bounds round
  exact inside

theorem drain_run_of_walk (env : Env) {frames : List (List UInt8)} {rest : List UInt8}
    (bounds : drain.Inside bufferPos)
    (walk : newDawnFramer.Walks (drain.left buffer bufferPos) frames rest) :
    ∃ reads, WhileLoop.run (drainBody env buffer bufferPos) (frames.length + 1) drain = some
      { processed := bufferPos - rest.length
        world := (handleFrames env drain.world frames).2
        calls := drain.calls ++ (handleFrames env drain.world frames).1
        reads } := by
  generalize bytes : drain.left buffer bufferPos = left at walk
  induction walk generalizing drain with
  | @wait xs short =>
    subst bytes
    obtain ⟨reads, leave⟩ := drainBody_wait env bounds short
    have size := Drain.left_length buffer bounds
    have position : bufferPos - (drain.left buffer bufferPos).length = drain.processed := by omega
    refine ⟨reads, ?_⟩
    rw [List.length_nil, Nat.zero_add, WhileLoop.run_leave leave, position]
    simp [handleFrames]
  | @cut xs rest frames n whole _ ih =>
    subst bytes
    obtain ⟨_, cut⟩ := drainBody_cut env bounds whole
    obtain ⟨m, same, _, _, _, inside, left⟩ := drainBody_inl bounds cut
    obtain rfl := Option.some.inj (whole.symm.trans same)
    obtain ⟨reads, done⟩ := ih inside left
    refine ⟨reads, ?_⟩
    rw [List.length_cons, WhileLoop.run_round cut, done]
    simp [handleFrames]

theorem drain_reaches_visited (env : Env) {bytes : List UInt8} (bounds : drain.Inside bufferPos)
    (visit : newDawnFramer.Visits (drain.left buffer bufferPos) bytes) :
    ∃ later, WhileLoop.Reaches (drainBody env buffer bufferPos) drain later ∧
      later.left buffer bufferPos = bytes := by
  generalize start : drain.left buffer bufferPos = left at visit
  induction visit generalizing drain with
  | here => exact ⟨drain, .refl, start⟩
  | @cut xs ys n whole _ ih =>
    subst start
    obtain ⟨_, cut⟩ := drainBody_cut env bounds whole
    obtain ⟨m, same, _, _, _, inside, left⟩ := drainBody_inl bounds cut
    obtain rfl := Option.some.inj (whole.symm.trans same)
    obtain ⟨later, path, left⟩ := ih inside left
    exact ⟨later, .head cut path, left⟩

theorem drain_visits_of_reaches {later : Drain} (bounds : drain.Inside bufferPos)
    (path : WhileLoop.Reaches (drainBody env buffer bufferPos) drain later) :
    newDawnFramer.Visits (drain.left buffer bufferPos) (later.left buffer bufferPos) := by
  induction path with
  | refl => exact .here _
  | tail path round ih =>
    obtain ⟨n, whole, _, _, _, _, left⟩ := drainBody_inl (drain_reaches_inside bounds path) round
    rw [left]
    exact ih.trans (.cut whole (.here _))

theorem drain_ends_iff (env : Env) (bounds : drain.Inside bufferPos) :
    WhileLoop.Ends (drainBody env buffer bufferPos) drain ↔
      ¬ newDawnFramer.Stalls (drain.left buffer bufferPos) := by
  constructor
  · rintro ends ⟨bytes, visit, zero⟩
    obtain ⟨later, path, left⟩ := drain_reaches_visited env bounds visit
    rw [WhileLoop.ends_iff_of_reaches path] at ends
    -- From a frame of length zero the loop goes round and round without moving on.
    refine WhileLoop.not_ends_of_invariant
      (fun drain => drain.Inside bufferPos ∧ frameSize (drain.left buffer bufferPos) = some 0)
      ?_ ⟨drain_reaches_inside bounds path, by rw [left]; exact zero⟩ ends
    rintro drain ⟨bounds, zero⟩
    obtain ⟨_, cut⟩ := drainBody_cut env bounds zero
    obtain ⟨n, same, _, _, _, inside, left⟩ := drainBody_inl bounds cut
    obtain rfl := Option.some.inj (zero.symm.trans same)
    exact ⟨_, cut, inside, by rw [left]; exact zero⟩
  · intro free
    obtain ⟨frames, rest, walk⟩ := (Framer.walks_iff _).mpr free
    obtain ⟨reads, done⟩ := drain_run_of_walk env bounds walk
    exact ⟨_, _, done⟩

end LittleDawn
