import LittleDawn.Serial.DrainEnds

set_option autoImplicit false

namespace LittleDawn

def ParseCall.accepted (call : ParseCall) : Option Message :=
  if call.returned then
    if call.frame.getD 0 0 = msgMachineStatus then some (.machineStatus call.data.status)
    else some .handshakeRequest
  else none

theorem sendHandshakeResponse_eq :
    sendHandshakeResponse =
      sendToLittleDawn msgHandshakeResponse [0x4C, 0x44, 0x32, 0x4E, 0x44] := by
  decide

def Message.responses : Option Message → List (List UInt8)
  | some .handshakeRequest =>
    [sendToLittleDawn msgHandshakeResponse [0x4C, 0x44, 0x32, 0x4E, 0x44]]
  | _ => []

theorem handleFrame_accepted (env : Env) (world : World) (frame : List UInt8) :
    (handleFrame env world frame).1.accepted = Message.read frame := by
  cases known : Message.read frame with
  | none => simp [handleFrame, ParseCall.accepted, known]
  | some message =>
    have id := Message.read_id known
    rw [List.getD_eq_getElem?_getD] at id
    cases message <;> simp [handleFrame, ParseCall.accepted, known, Parsed.answer, id]

theorem handleFrame_written (env : Env) (world : World) (frame : List UInt8) :
    (handleFrame env world frame).1.written = Message.responses (Message.read frame) := by
  simp only [handleFrame]
  rcases Message.read frame with _ | _ | _
  · rfl
  · rfl
  · exact congrArg (fun response => [response]) sendHandshakeResponse_eq

theorem handleFrames_accepted (env : Env) (world : World) (frames : List (List UInt8)) :
    (handleFrames env world frames).1.map ParseCall.accepted = frames.map Message.read := by
  induction frames generalizing world with
  | nil => rfl
  | cons frame frames ih => simp [handleFrames, handleFrame_accepted, ih]

theorem handleFrames_written (env : Env) (world : World) (frames : List (List UInt8)) :
    (handleFrames env world frames).1.map ParseCall.written =
      frames.map fun frame => Message.responses (Message.read frame) := by
  induction frames generalizing world with
  | nil => rfl
  | cons frame frames ih => simp [handleFrames, handleFrame_written, ih]

theorem boot_walks {env : Env} {buffer : Buffer} {inputs : List PassInput}
    {outputs : List PassOutput} {last : Task} (legal : Legal env (.boot buffer) inputs)
    (run : serialRun env (.boot buffer) inputs = some (outputs, last)) :
    ∃ frames, newDawnFramer.Walks (received inputs) frames last.held ∧
      callsOf outputs = (handleFrames env ⟨initialData, 0, 0⟩ frames).1 := by
  obtain ⟨frames, walk, calls, _, _⟩ := run_walks (boot_waiting buffer) legal run
  rw [boot_held, List.nil_append] at walk
  exact ⟨frames, walk, calls⟩

theorem legal_of_single {env : Env} {task : Task} {inputs : List PassInput}
    (waiting : task.Waiting) (single : ∀ input ∈ inputs, input.data.length ≤ 1) :
    Legal env task inputs := by
  have capacity : newDawnBufSize = 256 := rfl
  induction inputs generalizing task with
  | nil => trivial
  | cons input inputs ih =>
    have one := single input List.mem_cons_self
    have room := waiting.room
    have fits : (input.data.length : Int) ≤ task.requested := by
      simp only [Task.requested]
      omega
    refine ⟨fits, ?_⟩
    intro output next pass
    obtain ⟨_, _, _, _, _, later⟩ := pass_walks waiting fits pass
    exact ih later fun other member => single other (List.mem_cons_of_mem _ member)

def singles (bytes : List UInt8) : List PassInput :=
  bytes.map fun byte => ⟨0, .bytes [byte]⟩

@[simp] theorem received_singles (bytes : List UInt8) : received (singles bytes) = bytes := by
  induction bytes with
  | nil => rfl
  | cons byte bytes ih => exact congrArg (byte :: ·) ih

theorem singles_legal (env : Env) (buffer : Buffer) (bytes : List UInt8) :
    Legal env (.boot buffer) (singles bytes) := by
  apply legal_of_single (boot_waiting buffer)
  intro input member
  obtain ⟨byte, _, rfl⟩ := List.mem_map.mp member
  exact Nat.le_refl 1

/-- Two runs that receive the same bytes call the parser on the same frames, accept and answer the
same messages and hold back the same bytes: those of one walk over the whole stream, whose residue
is what its frames leave of the stream. -/
theorem chunk_independent (left right : Env) (leftBuffer rightBuffer : Buffer)
    (leftInputs rightInputs : List PassInput) (leftOutputs rightOutputs : List PassOutput)
    (leftLast rightLast : Task) (leftLegal : Legal left (.boot leftBuffer) leftInputs)
    (rightLegal : Legal right (.boot rightBuffer) rightInputs)
    (same : received leftInputs = received rightInputs)
    (leftRun : serialRun left (.boot leftBuffer) leftInputs = some (leftOutputs, leftLast))
    (rightRun : serialRun right (.boot rightBuffer) rightInputs = some (rightOutputs, rightLast)) :
    ∃ frames residue, newDawnFramer.Walks (received leftInputs) frames residue ∧
      frames.flatten ++ residue = received leftInputs ∧
      (callsOf leftOutputs).map ParseCall.frame = frames ∧
      (callsOf rightOutputs).map ParseCall.frame = frames ∧
      (callsOf leftOutputs).map ParseCall.accepted = (callsOf rightOutputs).map ParseCall.accepted ∧
      (callsOf leftOutputs).map ParseCall.written = (callsOf rightOutputs).map ParseCall.written ∧
      leftLast.held = residue ∧ rightLast.held = residue := by
  obtain ⟨frames, walk, leftCalls⟩ := boot_walks leftLegal leftRun
  obtain ⟨others, other, rightCalls⟩ := boot_walks rightLegal rightRun
  rw [← same] at other
  obtain ⟨rfl, held⟩ := walk.unique other
  refine ⟨frames, leftLast.held, walk, walk.flatten, ?_, ?_, ?_, ?_, rfl, held.symm⟩
  · rw [leftCalls, handleFrames_frames]
  · rw [rightCalls, handleFrames_frames]
  · rw [leftCalls, rightCalls, handleFrames_accepted, handleFrames_accepted]
  · rw [leftCalls, rightCalls, handleFrames_written, handleFrames_written]

theorem chunk_independent_zeros : ∃ outputs others last final,
    serialRun .quiet (.boot zeroBuffer) [⟨0, .bytes [0, 0, 0]⟩] = some (outputs, last) ∧
    serialRun .quiet (.boot zeroBuffer) (singles [0, 0, 0]) = some (others, final) ∧
    (callsOf outputs).map ParseCall.frame = (callsOf others).map ParseCall.frame := by
  have free : ¬ newDawnFramer.Stalls [0, 0, 0] :=
    (Framer.walks_iff _).mp ⟨_, _, .cut rfl (.wait rfl)⟩
  have legal : Legal .quiet (.boot zeroBuffer) [⟨0, .bytes [0, 0, 0]⟩] :=
    ⟨by decide, by simp [Legal]⟩
  have single := singles_legal .quiet zeroBuffer [0, 0, 0]
  obtain ⟨outputs, last, run⟩ := (run_boot legal).mpr free
  obtain ⟨others, final, other⟩ := (run_boot single).mpr free
  obtain ⟨frames, _, _, _, first, second, _⟩ :=
    chunk_independent .quiet .quiet zeroBuffer zeroBuffer
    _ _ outputs others last final legal single rfl run other
  exact ⟨outputs, others, last, final, run, other, first.trans second.symm⟩

end LittleDawn
