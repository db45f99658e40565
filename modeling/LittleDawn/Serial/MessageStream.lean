import LittleDawn.Serial.ChunkIndependence

set_option autoImplicit false

namespace LittleDawn

theorem totalLen_toNat (size : Nat) : (3 + UInt8.ofNat size).toNat = (3 + size) % 256 := by
  have three : (3 : UInt8).toNat = 3 := rfl
  rw [UInt8.toNat_add, UInt8.toNat_ofNat', three]
  omega

theorem unit_send (id : UInt8) (data : List UInt8) (small : data.length ≤ 252) :
    newDawnFramer.Unit (sendToLittleDawn id data) := by
  have total : (3 + data.length) % 256 = 3 + data.length := by omega
  have length : ofList (sendToLittleDawn id data) 1 = UInt8.ofNat data.length := rfl
  rw [Framer.Unit, newDawnFramer_size]
  simp only [frameSize, length, totalLen_toNat, total, sendToLittleDawn_length]
  rw [if_pos (by omega)]

theorem unit_frame (message : Message) : newDawnFramer.Unit message.frame := by
  cases message with
  | machineStatus status => exact unit_send _ _ (by rw [status.bytes_length]; decide)
  | handshakeRequest => exact unit_send _ _ (by decide)

theorem walks_nil : newDawnFramer.Walks [] [] [] :=
  .wait rfl

theorem walks_units {units : List (List UInt8)}
    (single : ∀ frame ∈ units, newDawnFramer.Unit frame) :
    newDawnFramer.Walks units.flatten units [] := by
  have walk := walks_nil.units single
  rwa [List.append_nil, List.append_nil] at walk

theorem run_units {env : Env} {buffer : Buffer} {inputs : List PassInput}
    {units : List (List UInt8)} (single : ∀ frame ∈ units, newDawnFramer.Unit frame)
    (legal : Legal env (.boot buffer) inputs) (stream : received inputs = units.flatten) :
    ∃ outputs last, serialRun env (.boot buffer) inputs = some (outputs, last) ∧
      callsOf outputs = (handleFrames env ⟨initialData, 0, 0⟩ units).1 ∧
      last.held = [] ∧ last.Waiting := by
  have walk := walks_units single
  rw [← stream] at walk
  have free := (Framer.walks_iff _).mp ⟨_, _, walk⟩
  obtain ⟨outputs, last, run⟩ := (run_boot legal).mpr free
  obtain ⟨frames, other, calls⟩ := boot_walks legal run
  obtain ⟨_, _, _, _, waiting⟩ := run_walks (boot_waiting buffer) legal run
  obtain ⟨rfl, held⟩ := walk.unique other
  exact ⟨outputs, last, run, calls, held.symm, waiting⟩

theorem bufferPos_of_held {task : Task} (waiting : task.Waiting) (empty : task.held = []) :
    task.bufferPos = 0 := by
  have capacity : newDawnBufSize = 256 := rfl
  have start := waiting.start
  have room := waiting.room
  have size := task.buffer.live_length (show task.bufferPos ≤ newDawnBufSize by omega)
  rw [Task.held] at empty
  rw [empty, List.length_nil] at size
  omega

theorem responses_meaning (id : UInt8) (payload : List UInt8) :
    Message.responses (meaning id payload) =
      if (id, payload) = (msgHandshakeRequest, handshakePayload) then
        [sendToLittleDawn msgHandshakeResponse [0x4C, 0x44, 0x32, 0x4E, 0x44]]
      else [] := by
  have request := meaning_handshake_iff id payload
  simp only [Prod.mk.injEq, ← request]
  rcases meaning id payload with _ | _ | _ <;> simp [Message.responses]

theorem decode_encode (env : Env) (buffer : Buffer) (messages : List (UInt8 × List UInt8))
    (short : ∀ message ∈ messages, message.2.length ≤ 65) (inputs : List PassInput)
    (legal : Legal env (.boot buffer) inputs)
    (stream : received inputs =
      (messages.map fun message => sendToLittleDawn message.1 message.2).flatten) :
    (∃ outputs last, serialRun env (.boot buffer) inputs = some (outputs, last) ∧
      (callsOf outputs).map ParseCall.frame =
        (messages.map fun message => sendToLittleDawn message.1 message.2) ∧
      (callsOf outputs).map ParseCall.accepted =
        (messages.map fun message => meaning message.1 message.2) ∧
      (callsOf outputs).map ParseCall.written =
        (messages.map fun message =>
          if message = (msgHandshakeRequest, [0x4E, 0x44, 0x32, 0x4C, 0x44]) then
            [sendToLittleDawn msgHandshakeResponse [0x4C, 0x44, 0x32, 0x4E, 0x44]]
          else []) ∧
      last.bufferPos = 0) ∧
    ∀ id payload,
      (∀ status, meaning id payload = some (.machineStatus status) ↔
        id = msgMachineStatus ∧ payload = status.bytes) ∧
      ((∃ status, meaning id payload = some (.machineStatus status)) ↔
        id = msgMachineStatus ∧ payload.length = sizeofMachineStatus) ∧
      (meaning id payload = some .handshakeRequest ↔
        id = msgHandshakeRequest ∧ payload = [0x4E, 0x44, 0x32, 0x4C, 0x44]) := by
  constructor
  · have single : ∀ frame ∈ messages.map fun message => sendToLittleDawn message.1 message.2,
        newDawnFramer.Unit frame := by
      intro frame member
      obtain ⟨message, listed, rfl⟩ := List.mem_map.mp member
      exact unit_send _ _ (Nat.le_trans (short message listed) (by decide))
    have read : ∀ message ∈ messages,
        Message.read (sendToLittleDawn message.1 message.2) = meaning message.1 message.2 :=
      fun message member => read_send _ _ (Nat.lt_of_le_of_lt (short message member) (by decide))
    obtain ⟨outputs, last, run, calls, empty, waiting⟩ := run_units single legal stream
    refine ⟨outputs, last, run, ?_, ?_, ?_, bufferPos_of_held waiting empty⟩
    · rw [calls, handleFrames_frames]
    · rw [calls, handleFrames_accepted, List.map_map]
      exact List.map_congr_left read
    · rw [calls, handleFrames_written, List.map_map]
      apply List.map_congr_left
      intro message member
      rw [Function.comp_apply, read message member]
      exact responses_meaning message.1 message.2
  · intro id payload
    exact ⟨meaning_status_iff id payload, meaning_status_exists id payload,
      meaning_handshake_iff id payload⟩

theorem decode_encode_sample : ∃ outputs last,
    serialRun .quiet (.boot zeroBuffer) (singles
      (sendToLittleDawn msgHandshakeRequest handshakePayload ++ sendToLittleDawn 0x20 [7] ++
        sendMachineStatus ⟨100, 0, 0, 0, -50⟩)) = some (outputs, last) ∧
    (callsOf outputs).map ParseCall.accepted =
      [some .handshakeRequest, none, some (.machineStatus ⟨100, 0, 0, 0, -50⟩)] ∧
    (callsOf outputs).map ParseCall.written =
      [[[0x11, 0x05, 0x4C, 0x44, 0x32, 0x4E, 0x44, 0x95]], [], []] ∧
    last.bufferPos = 0 := by
  obtain ⟨⟨outputs, last, run, _, accepted, written, empty⟩, _⟩ :=
    decode_encode .quiet zeroBuffer
      [(msgHandshakeRequest, handshakePayload), (0x20, [7]),
        (msgMachineStatus, MachineStatus.bytes ⟨100, 0, 0, 0, -50⟩)] (by decide)
      (singles (sendToLittleDawn msgHandshakeRequest handshakePayload ++
        sendToLittleDawn 0x20 [7] ++ sendMachineStatus ⟨100, 0, 0, 0, -50⟩))
      (singles_legal _ _ _) (by simp [sendMachineStatus])
  exact ⟨outputs, last, run, accepted, written.trans (by decide), empty⟩

inductive Effect where
  | published (status : MachineStatus)
  | responded
  deriving DecidableEq, Repr

def ParseCall.effect (call : ParseCall) : Option Effect :=
  match call.accepted with
  | some (.machineStatus status) => if call.published then some (.published status) else none
  | some .handshakeRequest => some .responded
  | none => none

def effectsOf (env : Env) : Nat → List Message → List Effect
  | _, [] => []
  | takes, .machineStatus status :: messages =>
    (if env.mutexTaken takes then [.published status] else []) ++
      effectsOf env (takes + 1) messages
  | takes, .handshakeRequest :: messages => .responded :: effectsOf env (takes + 1) messages

theorem handleFrames_effects (env : Env) (world : World) (frames : List (List UInt8)) :
    (handleFrames env world frames).1.filterMap ParseCall.effect =
      effectsOf env world.takes (frames.filterMap Message.read) := by
  induction frames generalizing world with
  | nil => rfl
  | cons frame frames ih =>
    simp only [handleFrames, List.filterMap_cons, ih, ParseCall.effect, handleFrame_accepted]
    cases known : Message.read frame with
    | none => simp [handleFrame, known]
    | some message =>
      cases message with
      | machineStatus status =>
        by_cases taken : env.mutexTaken world.takes <;>
          simp [handleFrame, known, effectsOf, taken]
      | handshakeRequest => simp [handleFrame, known, effectsOf]

def frameOffsets : Nat → List (List UInt8) → List Nat
  | _, [] => []
  | offset, frame :: frames => offset :: frameOffsets (offset + frame.length) frames

-- Where in the stream the drain loop takes two bytes for a frame header: at each frame it cuts,
-- and at a residue that has two bytes.
def headerOffsets (frames : List (List UInt8)) (residue : List UInt8) : List Nat :=
  frameOffsets 0 frames ++ if 2 ≤ residue.length then [frames.flatten.length] else []

theorem frameOffsets_append (offset : Nat) (left right : List (List UInt8)) :
    frameOffsets offset (left ++ right) =
      frameOffsets offset left ++ frameOffsets (offset + left.flatten.length) right := by
  induction left generalizing offset with
  | nil => simp [frameOffsets]
  | cons frame left ih => simp [frameOffsets, ih, Nat.add_assoc]

theorem frameOffsets_bounds (offset : Nat) (frames : List (List UInt8))
    (long : ∀ frame ∈ frames, 3 ≤ frame.length) :
    ∀ header ∈ frameOffsets offset frames,
      offset ≤ header ∧ header + 3 ≤ offset + frames.flatten.length := by
  induction frames generalizing offset with
  | nil => simp [frameOffsets]
  | cons frame frames ih =>
    have size := long frame List.mem_cons_self
    intro header member
    simp only [List.flatten_cons, List.length_append]
    rcases List.mem_cons.mp member with rfl | member
    · omega
    · have := ih _ (fun other listed => long other (List.mem_cons_of_mem _ listed)) header member
      omega

def framesOf (messages : List Message) : List (List UInt8) :=
  messages.map Message.frame

theorem framesOf_unit (messages : List Message) :
    ∀ frame ∈ framesOf messages, newDawnFramer.Unit frame := by
  intro frame member
  obtain ⟨message, _, rfl⟩ := List.mem_map.mp member
  exact unit_frame message

theorem framesOf_long (messages : List Message) :
    ∀ frame ∈ framesOf messages, 3 ≤ frame.length := by
  intro frame member
  obtain ⟨message, _, rfl⟩ := List.mem_map.mp member
  cases message with
  | machineStatus status => exact (sendToLittleDawn_length _ _) ▸ Nat.le_add_right 3 _
  | handshakeRequest => decide

theorem meaning_unknown {id : UInt8} (payload : List UInt8) (status : id ≠ msgMachineStatus)
    (request : id ≠ msgHandshakeRequest) : meaning id payload = none := by
  simp [meaning, status, request]

theorem run_units_effects {env : Env} {buffer : Buffer} {inputs : List PassInput}
    {units : List (List UInt8)} (single : ∀ frame ∈ units, newDawnFramer.Unit frame)
    (legal : Legal env (.boot buffer) inputs) (stream : received inputs = units.flatten) :
    ∃ outputs last, serialRun env (.boot buffer) inputs = some (outputs, last) ∧
      (callsOf outputs).map ParseCall.frame = units ∧ last.held = [] ∧
      (callsOf outputs).filterMap ParseCall.effect =
        effectsOf env 0 (units.filterMap Message.read) := by
  obtain ⟨outputs, last, run, calls, held, _⟩ := run_units single legal stream
  refine ⟨outputs, last, run, ?_, held, ?_⟩
  · rw [calls, handleFrames_frames]
  · rw [calls, handleFrames_effects]

theorem wrapped_size (id : UInt8) {payload : List UInt8} (rest : List UInt8)
    (wraps : 253 ≤ payload.length) (size : payload.length ≤ 255) :
    newDawnFramer.size (sendToLittleDawn id payload ++ rest) = some (payload.length - 253) := by
  have length : ofList (sendToLittleDawn id payload ++ rest) 1 = UInt8.ofNat payload.length := rfl
  have total : (3 + payload.length) % 256 = payload.length - 253 := by omega
  rw [newDawnFramer_size]
  simp only [frameSize, length, totalLen_toNat, total, List.length_append, sendToLittleDawn_length]
  rw [if_pos (by omega)]

theorem wrapped_walks {id : UInt8} {payload rest held : List UInt8} {frames : List (List UInt8)}
    (wraps : 253 ≤ payload.length) (size : payload.length ≤ 255)
    (walk : newDawnFramer.Walks (sendToLittleDawn id payload ++ rest) frames held) :
    ∃ first second others, frames = first :: second :: others ∧
      first.length + 253 = payload.length ∧ 0 < first.length := by
  have whole := wrapped_size id rest wraps size
  have moves := walk.not_zero
  rw [whole] at moves
  have positive : payload.length - 253 ≠ 0 := fun zero => moves (congrArg some zero)
  obtain ⟨others, rfl, tail⟩ := walk.cut_inv whole
  have count : (sendToLittleDawn id payload ++ rest).length = 3 + payload.length + rest.length := by
    rw [List.length_append, sendToLittleDawn_length]
  have first : ((sendToLittleDawn id payload ++ rest).take (payload.length - 253)).length =
      payload.length - 253 := by
    rw [List.length_take]
    omega
  cases known : newDawnFramer.size
      ((sendToLittleDawn id payload ++ rest).drop (payload.length - 253)) with
  | none =>
    -- What is left of the frame is longer than any residue.
    rw [newDawnFramer_size] at known
    have bound := short_length known
    rw [List.length_drop] at bound
    omega
  | some n =>
    obtain ⟨later, rfl, _⟩ := tail.cut_inv known
    exact ⟨_, _, _, rfl, by omega, by omega⟩

theorem wrapped_header {before frames : List (List UInt8)} {id : UInt8}
    {payload rest held : List UInt8} (units : ∀ frame ∈ before, newDawnFramer.Unit frame)
    (wraps : 253 ≤ payload.length) (size : payload.length ≤ 255)
    (walk : newDawnFramer.Walks (before.flatten ++ (sendToLittleDawn id payload ++ rest))
      frames held) :
    ∃ header ∈ headerOffsets frames held, before.flatten.length + 2 ≤ header + 1 ∧
      header + 1 < before.flatten.length + 2 + payload.length := by
  have visit := Framer.Visits.units units (.here (sendToLittleDawn id payload ++ rest))
  obtain ⟨earlier, later, rfl, flat, tail⟩ := walk.from_visited visit
  obtain ⟨first, second, others, rfl, length, positive⟩ := wrapped_walks wraps size tail
  have position : earlier.flatten.length = before.flatten.length := by
    have := congrArg List.length flat
    simp only [List.length_append] at this
    omega
  refine ⟨earlier.flatten.length + first.length, ?_, by omega, by omega⟩
  simp [headerOffsets, frameOffsets_append, frameOffsets]

theorem unit_headers {before after : List (List UInt8)} {id : UInt8} {payload : List UInt8}
    (first : ∀ frame ∈ before, 3 ≤ frame.length) (last : ∀ frame ∈ after, 3 ≤ frame.length) :
    ∀ header ∈ headerOffsets (before ++ sendToLittleDawn id payload :: after) [],
      ∀ byte ∈ [header, header + 1], ¬ (before.flatten.length + 2 ≤ byte ∧
        byte < before.flatten.length + 2 + payload.length) := by
  intro header member byte taken
  simp only [headerOffsets, List.length_nil, frameOffsets_append, frameOffsets,
    List.mem_append, List.mem_cons, sendToLittleDawn_length] at member
  simp only [List.mem_cons, List.not_mem_nil, or_false] at taken
  rcases member with (early | here | late) | none
  · have := frameOffsets_bounds 0 before first header early
    omega
  · omega
  · have := frameOffsets_bounds _ after last header late
    omega
  · simp at none

/-- For every frame of an unknown id between two others, in any chunking: the task comes back with
the effects of the stream without it, and no byte of its payload is taken for a header, if and only
if its declared length is at most 252. -/
theorem unknown_skipped_iff (env : Env) (buffer other : Buffer) (before after : List Message)
    (id : UInt8) (payload : List UInt8) (status : id ≠ msgMachineStatus)
    (request : id ≠ msgHandshakeRequest) (size : payload.length ≤ 255)
    (inputs without : List PassInput) (legal : Legal env (.boot buffer) inputs)
    (others : Legal env (.boot other) without)
    (stream : received inputs = (framesOf before).flatten ++ sendToLittleDawn id payload ++
      (framesOf after).flatten)
    (shorter : received without = (framesOf before).flatten ++ (framesOf after).flatten) :
    (∃ outputs last, serialRun env (.boot buffer) inputs = some (outputs, last) ∧
      (∃ expected final, serialRun env (.boot other) without = some (expected, final) ∧
        (callsOf outputs).filterMap ParseCall.effect =
          (callsOf expected).filterMap ParseCall.effect) ∧
      ∀ header ∈ headerOffsets ((callsOf outputs).map ParseCall.frame) last.held,
        ∀ byte ∈ [header, header + 1],
          ¬ ((framesOf before).flatten.length + 2 ≤ byte ∧
            byte < (framesOf before).flatten.length + 2 + payload.length)) ↔
      payload.length ≤ 252 := by
  constructor
  · rintro ⟨outputs, last, run, _, apart⟩
    by_contra wraps
    obtain ⟨frames, walk, calls⟩ := boot_walks legal run
    rw [calls, handleFrames_frames] at apart
    rw [stream, List.append_assoc] at walk
    obtain ⟨header, member, payload⟩ :=
      wrapped_header (framesOf_unit before) (by omega) size walk
    exact apart header member (header + 1) (by simp) payload
  · intro small
    have single : ∀ frame ∈ framesOf before ++ sendToLittleDawn id payload :: framesOf after,
        newDawnFramer.Unit frame := by
      intro frame member
      rcases List.mem_append.mp member with member | member
      · exact framesOf_unit before frame member
      rcases List.mem_cons.mp member with rfl | member
      · exact unit_send id payload small
      · exact framesOf_unit after frame member
    have known : ∀ frame ∈ framesOf before ++ framesOf after, newDawnFramer.Unit frame := by
      rw [framesOf, framesOf, ← List.map_append]
      exact framesOf_unit (before ++ after)
    obtain ⟨outputs, last, run, frames, held, effects⟩ :=
      run_units_effects single legal (by simpa using stream)
    obtain ⟨expected, final, plain, _, _, same⟩ :=
      run_units_effects known others (by simpa using shorter)
    refine ⟨outputs, last, run, ⟨expected, final, plain, ?_⟩, ?_⟩
    · rw [effects, same]
      simp [read_send id payload (by omega), meaning_unknown payload status request]
    · rw [frames, held]
      exact unit_headers (framesOf_long before) (framesOf_long after)

theorem unknown_skipped_byte : ∃ outputs last,
    serialRun .quiet (.boot zeroBuffer) (singles (Message.handshakeRequest.frame ++
      sendToLittleDawn 0x20 [1])) = some (outputs, last) := by
  have skipped := unknown_skipped_iff .quiet zeroBuffer zeroBuffer [.handshakeRequest] [] 0x20 [1]
    (by decide) (by decide) (by decide)
    (singles (Message.handshakeRequest.frame ++ sendToLittleDawn 0x20 [1]))
    (singles Message.handshakeRequest.frame) (singles_legal _ _ _) (singles_legal _ _ _)
    (by simp [framesOf]) (by simp [framesOf])
  obtain ⟨outputs, last, run, _⟩ := skipped.mpr (by decide)
  exact ⟨outputs, last, run⟩

def disguised : List UInt8 :=
  Message.frame (.machineStatus ⟨100, 0, 0, 0, 50⟩) ++ List.replicate 242 0

theorem disguised_length : disguised.length = 255 := by
  rw [disguised, List.length_append, List.length_replicate]
  rfl

-- Of a frame that the receiver should skip it reads the payload, and publishes what is there.
theorem disguised_published :
    ¬ ∃ outputs last, serialRun .quiet (.boot zeroBuffer)
        (singles (sendToLittleDawn 0x20 disguised)) = some (outputs, last) ∧
      (callsOf outputs).filterMap ParseCall.effect = [] := by
  rintro ⟨outputs, last, run, nothing⟩
  obtain ⟨frames, walk, calls⟩ := boot_walks (singles_legal _ _ _) run
  rw [received_singles, ← List.append_nil (sendToLittleDawn _ _)] at walk
  have length := disguised_length
  obtain ⟨others, rfl, tail⟩ := walk.cut_inv (wrapped_size 0x20 [] (by omega) (by omega))
  have body : (sendToLittleDawn 0x20 disguised ++ []).drop 2 =
      Message.frame (.machineStatus ⟨100, 0, 0, 0, 50⟩) ++ (List.replicate 242 0 ++
        [~~~(0x20 :: UInt8.ofNat disguised.length :: disguised).sum]) := by
    rw [sendToLittleDawn_eq, List.append_nil, List.cons_append, List.cons_append,
      List.drop_succ_cons, List.drop_succ_cons, List.drop_zero, ← List.append_assoc, ← disguised]
  have two : disguised.length - 253 = 2 := by omega
  rw [two] at tail
  rw [body] at tail
  obtain ⟨rest, rfl, _⟩ := tail.unit_inv (unit_frame _)
  have short : Message.read ((sendToLittleDawn 0x20 disguised ++ []).take
      (disguised.length - 253)) = none := by
    rw [Message.read, understood, if_neg]
    rw [List.length_take]
    omega
  rw [calls, handleFrames_effects, List.filterMap_cons, short, List.filterMap_cons,
    Message.read_frame] at nothing
  simp [effectsOf, Env.quiet] at nothing

end LittleDawn
