import LittleDawn.Serial.ChunkIndependence

set_option autoImplicit false

namespace LittleDawn

def Below (bufferPos : Int) (reads : List Int) : Prop :=
  ∀ i ∈ reads, 0 ≤ i ∧ i < bufferPos

theorem below_append {bufferPos : Int} {left right : List Int} (first : Below bufferPos left)
    (second : Below bufferPos right) : Below bufferPos (left ++ right) := by
  intro i member
  rcases List.mem_append.mp member with member | member
  · exact first i member
  · exact second i member

theorem below_offsets {bufferPos base : Int} {offsets : List Nat} {count : Nat} (start : 0 ≤ base)
    (bound : ∀ i ∈ offsets, i < count) (fits : base + count ≤ bufferPos) :
    Below bufferPos (offsets.map fun (i : Nat) => base + i) := by
  intro i member
  obtain ⟨offset, listed, rfl⟩ := List.mem_map.mp member
  have := bound offset listed
  omega

variable {env : Env} {buffer : Buffer} {bufferPos : Int} {drain : Drain} {task : Task}

theorem drainBody_below (env : Env) (buffer : Buffer) (bounds : drain.Inside bufferPos)
    (below : Below bufferPos drain.reads) :
    match drainBody env buffer bufferPos drain with
    | .inl next => Below bufferPos next.reads
    | .inr result => Below bufferPos result.reads := by
  have start := bounds.start
  unfold drainBody
  by_cases more : drain.processed < bufferPos
  · by_cases header : bufferPos - drain.processed < 2
    · simp only [more, header, if_true]
      exact below
    · have read : Below bufferPos (drain.reads ++ [drain.processed, drain.processed + 1]) := by
        refine below_append below ?_
        intro i member
        simp only [List.mem_cons, List.not_mem_nil, or_false] at member
        omega
      simp only [more, header, if_true, if_false]
      by_cases enough :
          bufferPos - drain.processed < (3 + buffer.pointer drain.processed 1).toNat
      · simp only [enough, if_true]
        exact read
      · simp only [enough, if_false]
        refine below_append (below_append read ?_) ?_
        · exact below_offsets start (fun i member => List.mem_range.mp member) (by omega)
        · exact below_offsets start (parseAndPublish_reads _ _ _ _) (by omega)
  · simp only [more, if_false]
    exact below

theorem drain_reaches_below {later : Drain} (bounds : drain.Inside bufferPos)
    (below : Below bufferPos drain.reads)
    (path : WhileLoop.Reaches (drainBody env buffer bufferPos) drain later) :
    later.Inside bufferPos ∧ Below bufferPos later.reads := by
  refine WhileLoop.reaches_invariant
    (fun drain => drain.Inside bufferPos ∧ Below bufferPos drain.reads) ?_ ⟨bounds, below⟩ path
  rintro drain next ⟨bounds, below⟩ round
  have reads := drainBody_below env buffer bounds below
  obtain ⟨_, _, _, _, _, inside, _⟩ := drainBody_inl bounds round
  rw [round] at reads
  exact ⟨inside, reads⟩

theorem drain_below {fuel : Nat} {result : Drain} (bounds : drain.Inside bufferPos)
    (below : Below bufferPos drain.reads)
    (done : WhileLoop.run (drainBody env buffer bufferPos) fuel drain = some result) :
    result.Inside bufferPos ∧ Below bufferPos result.reads := by
  obtain ⟨last, path, leave⟩ := WhileLoop.run_reaches done
  obtain ⟨inside, reads⟩ := drain_reaches_below bounds below path
  have after := drainBody_below env buffer inside reads
  rw [leave] at after
  refine ⟨?_, after⟩
  have same := drainBody_inr inside leave
  exact ⟨same ▸ inside.start, same ▸ inside.inside, inside.fits⟩

theorem compact_below {processed : Int} (start : 0 ≤ processed) :
    Below bufferPos (compact buffer bufferPos processed).2.2 := by
  unfold compact
  split_ifs
  · exact below_offsets start (fun i member => List.mem_range.mp member) (by omega)
  · exact fun i member => absurd member List.not_mem_nil
  · exact fun i member => absurd member List.not_mem_nil

theorem requested_bound {data : List UInt8}
    (fits : (data.length : Int) ≤ task.requested) : task.bufferPos + data.length ≤ 255 := by
  have capacity : newDawnBufSize = 256 := rfl
  simp only [Task.requested] at fits
  omega

theorem pass_below {input : PassInput} {output : PassOutput} {next : Task}
    (waiting : task.Waiting) (fits : (input.data.length : Int) ≤ task.requested)
    (done : newDawnSerialTask env task input = some (output, next)) :
    Below (task.bufferPos + input.data.length) output.reads := by
  have capacity : newDawnBufSize = 256 := rfl
  have start := waiting.start
  have bound := requested_bound fits
  by_cases nothing : input.data = []
  · rw [pass_idle nothing] at done
    obtain ⟨rfl, _⟩ := Prod.mk.inj (Option.some.inj done)
    exact fun i member => absurd member List.not_mem_nil
  · obtain ⟨_, position, _⟩ := sendPeriodic_keeps task input.tickCount
    rw [pass_receive nothing] at done
    simp only [receive, position, Option.bind_eq_bind, Option.map_eq_some_iff,
      Option.bind_eq_some_iff, Option.pure_def, Option.some.injEq] at done
    obtain ⟨_, ⟨drained, run, rfl⟩, same⟩ := done
    obtain ⟨rfl, _⟩ := Prod.mk.inj same
    obtain ⟨inside, reads⟩ := drain_below
      (start_inside _ (by omega) (by omega)) (fun i member => absurd member List.not_mem_nil) run
    exact below_append reads (compact_below inside.start)

/-- The buffer stays safe in every state a run reaches and throughout the next pass. -/
theorem buffer_safe (env : Env) (buffer : Buffer) (inputs : List PassInput)
    (legal : Legal env (.boot buffer) inputs) (outputs : List PassOutput) (task : Task)
    (run : serialRun env (.boot buffer) inputs = some (outputs, task)) :
    0 ≤ task.bufferPos ∧ task.bufferPos ≤ 254 ∧ 1 ≤ task.requested ∧
    (∀ output ∈ outputs, output.overflow = false) ∧
    ∀ input : PassInput, (input.data.length : Int) ≤ task.requested →
      (∀ k < input.data.length, task.bufferPos + k ≤ 254) ∧
      (∀ drain, WhileLoop.Reaches (drainBody env (task.buffer.store task.bufferPos input.data)
          (task.bufferPos + input.data.length)) (.start task.world) drain →
        0 ≤ drain.processed ∧ drain.processed ≤ task.bufferPos + input.data.length ∧
        Below (task.bufferPos + input.data.length) drain.reads) ∧
      (∀ output next, newDawnSerialTask env task input = some (output, next) →
        Below (task.bufferPos + input.data.length) output.reads ∧ output.overflow = false) := by
  have capacity : newDawnBufSize = 256 := rfl
  obtain ⟨_, _, _, _, waiting, calm⟩ := run_feeds (boot_waiting buffer) legal run
  have start := waiting.start
  have room := waiting.room
  refine ⟨start, room, by simp only [Task.requested]; omega, calm, ?_⟩
  intro input fits
  have bound := requested_bound fits
  refine ⟨fun k inside => by omega, ?_, ?_⟩
  · intro drain path
    obtain ⟨inside, reads⟩ := drain_reaches_below (start_inside task.world (by omega) (by omega))
      (fun i member => absurd member List.not_mem_nil) path
    exact ⟨inside.start, inside.inside, reads⟩
  · intro output next pass
    obtain ⟨_, _, _, quiet, _⟩ := pass_walks waiting fits pass
    exact ⟨pass_below waiting fits pass, quiet⟩

theorem buffer_safe_cut : ∃ outputs task,
    serialRun .quiet (.boot zeroBuffer) [⟨0, .bytes cutStream⟩] = some (outputs, task) ∧
      task.held = [0x01, 0x0A, 0x05] ∧ 0 ≤ task.bufferPos ∧ task.bufferPos ≤ 254 ∧
      ∀ output next, newDawnSerialTask .quiet task ⟨0, .bytes [0x00]⟩ = some (output, next) →
        Below (task.bufferPos + 1) output.reads ∧ output.overflow = false := by
  obtain ⟨outputs, task, run⟩ :=
    (run_boot (cutStream_legal _)).mpr ((Framer.walks_iff _).mp ⟨_, _, cutStream_walks⟩)
  obtain ⟨frames, walk, _⟩ := boot_walks (cutStream_legal _) run
  obtain ⟨_, held⟩ := cutStream_walks.unique walk
  obtain ⟨start, room, space, _, safe⟩ := buffer_safe .quiet zeroBuffer _ (cutStream_legal _)
    outputs task run
  obtain ⟨_, _, pass⟩ := safe ⟨0, .bytes [0x00]⟩ space
  exact ⟨outputs, task, run, held.symm, start, room, pass⟩

end LittleDawn
