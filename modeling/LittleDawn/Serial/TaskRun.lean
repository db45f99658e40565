import LittleDawn.Serial.DrainWalk

set_option autoImplicit false

namespace LittleDawn

def Task.held (task : Task) : List UInt8 :=
  task.buffer.live task.bufferPos

structure Task.Waiting (task : Task) : Prop where
  start : 0 ≤ task.bufferPos
  room : task.bufferPos ≤ 254
  short : frameSize task.held = none

theorem boot_held (buffer : Buffer) : (Task.boot buffer).held = [] := by
  simp [Task.held, Task.boot, Buffer.live]

theorem boot_waiting (buffer : Buffer) : (Task.boot buffer).Waiting := by
  refine ⟨by simp [Task.boot], by simp [Task.boot], ?_⟩
  rw [boot_held]
  rfl

theorem short_length {bytes : List UInt8} (short : frameSize bytes = none) :
    bytes.length ≤ 254 := by
  have small := (3 + ofList bytes 1).toNat_lt
  simp only [frameSize] at short
  split at short
  · cases short
  · omega

theorem compact_live (buffer : Buffer) {bufferPos : Int} (processed : Int) (start : 0 ≤ processed)
    (inside : processed ≤ bufferPos) (fits : bufferPos ≤ newDawnBufSize) :
    (compact buffer bufferPos processed).2.1 = bufferPos - processed ∧
      (compact buffer bufferPos processed).1.live (bufferPos - processed) =
        (buffer.live bufferPos).drop processed.toNat := by
  unfold compact
  split_ifs with moves ends
  · exact ⟨rfl, buffer.live_memmove start inside fits⟩
  · have same : processed = bufferPos := by omega
    subst same
    have size := buffer.live_length fits
    have gone : (buffer.live processed).drop processed.toNat = [] := by
      rw [List.drop_eq_nil_iff]
      omega
    rw [gone, Int.sub_self]
    exact ⟨rfl, rfl⟩
  · have still : processed = 0 := by omega
    subst still
    exact ⟨by simp, by simp⟩

theorem compact_of_walk (buffer : Buffer) {bufferPos : Int} {rest : List UInt8}
    {frames : List (List UInt8)} (start : 0 ≤ bufferPos) (fits : bufferPos ≤ newDawnBufSize)
    (walk : newDawnFramer.Walks (buffer.live bufferPos) frames rest) :
    (compact buffer bufferPos (bufferPos - rest.length)).2.1 = rest.length ∧
      (compact buffer bufferPos (bufferPos - rest.length)).1.live rest.length = rest := by
  have size := buffer.live_length fits
  have stream := congrArg List.length walk.flatten
  rw [List.length_append] at stream
  have kept : bufferPos - (bufferPos - rest.length) = rest.length := by omega
  obtain ⟨position, moved⟩ := compact_live buffer (bufferPos - rest.length)
    (by omega) (by omega) fits
  rw [kept] at position moved
  refine ⟨position, ?_⟩
  have index : (bufferPos - rest.length).toNat = frames.flatten.length := by omega
  rw [moved, index, ← walk.flatten, List.drop_left]

theorem walk_length {bytes rest : List UInt8} {frames : List (List UInt8)}
    (walk : newDawnFramer.Walks bytes frames rest) : frames.length ≤ bytes.length := by
  have nonempty := walk.nonempty
  have stream := congrArg List.length walk.flatten
  rw [List.length_append] at stream
  have count : frames.length ≤ frames.flatten.length := by
    clear stream walk
    induction frames with
    | nil => simp
    | cons frame frames ih =>
      have := ih fun other member => nonempty other (List.mem_cons_of_mem _ member)
      have := List.length_pos_iff.mpr (nonempty frame List.mem_cons_self)
      simp only [List.length_cons, List.flatten_cons, List.length_append]
      omega
  omega

variable {env : Env} {task : Task}

theorem start_inside {bufferPos : Int} (world : World) (start : 0 ≤ bufferPos)
    (fits : bufferPos ≤ newDawnBufSize) : (Drain.start world).Inside bufferPos :=
  ⟨by simp [Drain.start], by simpa [Drain.start] using start, fits⟩

theorem start_left (buffer : Buffer) (bufferPos : Int) (world : World) :
    (Drain.start world).left buffer bufferPos = buffer.live bufferPos := by
  simp [Drain.left, Drain.start]

-- The fuel of the model's drain loop is enough: no loop that ends runs out of it.
theorem drain_fuel {buffer : Buffer} {bufferPos : Int} {drain result : Drain}
    (bounds : drain.Inside bufferPos) (room : bufferPos < newDawnBufSize) {fuel : Nat}
    (done : WhileLoop.run (drainBody env buffer bufferPos) fuel drain = some result) :
    WhileLoop.run (drainBody env buffer bufferPos) newDawnBufSize drain = some result := by
  have free := (drain_ends_iff env bounds).mp ⟨fuel, result, done⟩
  obtain ⟨frames, rest, walk⟩ := (Framer.walks_iff _).mpr free
  obtain ⟨reads, same⟩ := drain_run_of_walk env bounds walk
  have size := Drain.left_length buffer bounds
  have count := walk_length walk
  have start := bounds.start
  rw [WhileLoop.run_unique done same]
  exact WhileLoop.run_more (by omega) same

theorem drain_of_walk (env : Env) {buffer : Buffer} {bufferPos : Int} {rest : List UInt8}
    {frames : List (List UInt8)} (world : World) (start : 0 ≤ bufferPos)
    (room : bufferPos < newDawnBufSize)
    (walk : newDawnFramer.Walks (buffer.live bufferPos) frames rest) :
    ∃ reads, WhileLoop.run (drainBody env buffer bufferPos) newDawnBufSize (.start world) = some
      { processed := bufferPos - rest.length
        world := (handleFrames env world frames).2
        calls := (handleFrames env world frames).1
        reads } := by
  have bounds := start_inside world start (Int.le_of_lt room)
  rw [← start_left buffer bufferPos world] at walk
  obtain ⟨reads, done⟩ := drain_run_of_walk env bounds walk
  exact ⟨reads, drain_fuel bounds room done⟩

theorem receive_of_walk (env : Env) {data rest : List UInt8} {frames : List (List UInt8)}
    (waiting : task.Waiting) (fits : (data.length : Int) ≤ task.requested)
    (walk : newDawnFramer.Walks (task.held ++ data) frames rest) :
    ∃ output next, receive env task data = some (output, next) ∧
      output.calls = (handleFrames env task.world frames).1 ∧ output.overflow = false ∧
      next.held = rest ∧ next.world = (handleFrames env task.world frames).2 ∧
      next.lastHandshakeTime = task.lastHandshakeTime ∧ next.Waiting := by
  have capacity : newDawnBufSize = 256 := rfl
  have start := waiting.start
  have room : task.bufferPos + data.length < newDawnBufSize := by
    simp only [Task.requested] at fits
    omega
  have small := short_length walk.short
  rw [Task.held, ← task.buffer.live_store data start (Int.le_of_lt room)] at walk
  obtain ⟨reads, done⟩ := drain_of_walk env task.world (by omega) room walk
  obtain ⟨position, kept⟩ := compact_of_walk _ (by omega) (Int.le_of_lt room) walk
  have calm : ¬ (newDawnBufSize : Int) - 1 ≤ rest.length := by omega
  simp only [receive, done, position, calm, Option.bind_eq_bind, Option.bind_some, decide_false,
    Bool.false_eq_true, if_false]
  refine ⟨_, _, rfl, rfl, rfl, kept, rfl, rfl, ?_, ?_, ?_⟩
  · simp only
    omega
  · simp only
    omega
  · rw [Task.held, kept]
    exact walk.short

theorem receive_ends {data : List UInt8} {output : PassOutput} {next : Task}
    (waiting : task.Waiting) (fits : (data.length : Int) ≤ task.requested)
    (done : receive env task data = some (output, next)) :
    ∃ frames rest, newDawnFramer.Walks (task.held ++ data) frames rest := by
  have capacity : newDawnBufSize = 256 := rfl
  have start := waiting.start
  have room : task.bufferPos + data.length < newDawnBufSize := by
    simp only [Task.requested] at fits
    omega
  simp only [receive, Option.bind_eq_bind, Option.bind_eq_some_iff] at done
  obtain ⟨drain, run, _⟩ := done
  have free := (drain_ends_iff env (start_inside task.world (by omega) (Int.le_of_lt room))).mp
    ⟨_, drain, run⟩
  rw [start_left, task.buffer.live_store data start (Int.le_of_lt room)] at free
  exact (Framer.walks_iff _).mpr free

theorem pass_idle {input : PassInput} (nothing : input.data = []) :
    newDawnSerialTask env task input =
      some ({ periodic := (sendPeriodic task input.tickCount).1, calls := [], reads := [],
              overflow := false },
        (sendPeriodic task input.tickCount).2) := by
  rcases input with ⟨tickCount, _ | _ | _⟩
  · rfl
  · rfl
  · simp [PassInput.data] at nothing

theorem pass_receive {input : PassInput} (some : input.data ≠ []) :
    newDawnSerialTask env task input =
      (receive env (sendPeriodic task input.tickCount).2 input.data).map fun result =>
        ({ result.1 with periodic := (sendPeriodic task input.tickCount).1 }, result.2) := by
  rcases input with ⟨tickCount, _ | _ | _⟩
  · simp [PassInput.data] at some
  · simp [PassInput.data] at some
  · simp only [newDawnSerialTask, PassInput.data, Option.bind_eq_bind, Option.pure_def]
    cases receive env (sendPeriodic task tickCount).2 _ <;> rfl

theorem sendPeriodic_keeps (task : Task) (tickCount : UInt32) :
    (sendPeriodic task tickCount).2.buffer = task.buffer ∧
      (sendPeriodic task tickCount).2.bufferPos = task.bufferPos ∧
      (sendPeriodic task tickCount).2.world = task.world := by
  simp only [sendPeriodic]
  split <;> exact ⟨rfl, rfl, rfl⟩

theorem sendPeriodic_held (task : Task) (tickCount : UInt32) :
    (sendPeriodic task tickCount).2.held = task.held := by
  obtain ⟨buffer, position, _⟩ := sendPeriodic_keeps task tickCount
  rw [Task.held, buffer, position, Task.held]

theorem sendPeriodic_requested (task : Task) (tickCount : UInt32) :
    (sendPeriodic task tickCount).2.requested = task.requested := by
  rw [Task.requested, (sendPeriodic_keeps task tickCount).2.1, Task.requested]

theorem sendPeriodic_waiting (tickCount : UInt32) (waiting : task.Waiting) :
    (sendPeriodic task tickCount).2.Waiting := by
  obtain ⟨_, position, _⟩ := sendPeriodic_keeps task tickCount
  refine ⟨?_, ?_, ?_⟩
  · rw [position]
    exact waiting.start
  · rw [position]
    exact waiting.room
  · rw [sendPeriodic_held]
    exact waiting.short

theorem pass_of_walk (env : Env) {input : PassInput} {rest : List UInt8}
    {frames : List (List UInt8)}
    (waiting : task.Waiting) (fits : (input.data.length : Int) ≤ task.requested)
    (walk : newDawnFramer.Walks (task.held ++ input.data) frames rest) :
    ∃ output next, newDawnSerialTask env task input = some (output, next) ∧
      output.calls = (handleFrames env task.world frames).1 ∧ output.overflow = false ∧
      next.held = rest ∧ next.world = (handleFrames env task.world frames).2 ∧ next.Waiting := by
  have ready := sendPeriodic_waiting input.tickCount waiting
  have world := (sendPeriodic_keeps task input.tickCount).2.2
  by_cases nothing : input.data = []
  · rw [nothing, List.append_nil] at walk
    obtain ⟨rfl, rfl⟩ := (Framer.Walks.wait waiting.short).unique walk
    exact ⟨_, _, pass_idle nothing, rfl, rfl, sendPeriodic_held _ _, world, ready⟩
  · rw [← sendPeriodic_requested task input.tickCount] at fits
    rw [← sendPeriodic_held task input.tickCount] at walk
    obtain ⟨output, next, done, calls, calm, held, after, _, later⟩ :=
      receive_of_walk env ready fits walk
    rw [world] at calls after
    refine ⟨{ output with periodic := (sendPeriodic task input.tickCount).1 }, next, ?_, calls, calm,
      held, after, later⟩
    rw [pass_receive nothing, done]
    rfl

theorem pass_walks {input : PassInput} {output : PassOutput} {next : Task}
    (waiting : task.Waiting) (fits : (input.data.length : Int) ≤ task.requested)
    (done : newDawnSerialTask env task input = some (output, next)) :
    ∃ frames, newDawnFramer.Walks (task.held ++ input.data) frames next.held ∧
      output.calls = (handleFrames env task.world frames).1 ∧ output.overflow = false ∧
      next.world = (handleFrames env task.world frames).2 ∧ next.Waiting := by
  obtain ⟨frames, rest, walk⟩ :
      ∃ frames rest, newDawnFramer.Walks (task.held ++ input.data) frames rest := by
    by_cases nothing : input.data = []
    · rw [nothing, List.append_nil]
      exact ⟨[], task.held, .wait waiting.short⟩
    · rw [pass_receive nothing, Option.map_eq_some_iff] at done
      obtain ⟨⟨received, after⟩, done, _⟩ := done
      rw [← sendPeriodic_held task input.tickCount]
      exact receive_ends (sendPeriodic_waiting input.tickCount waiting)
        (by rwa [sendPeriodic_requested]) done
  obtain ⟨other, after, same, calls, calm, held, world, later⟩ :=
    pass_of_walk env waiting fits walk
  obtain ⟨rfl, rfl⟩ := Prod.mk.inj (Option.some.inj (same.symm.trans done))
  exact ⟨frames, held ▸ walk, calls, calm, world, later⟩

def callsOf (outputs : List PassOutput) : List ParseCall :=
  (outputs.map PassOutput.calls).flatten

theorem run_feeds {inputs : List PassInput} {outputs : List PassOutput} {last : Task}
    (waiting : task.Waiting) (legal : Legal env task inputs)
    (run : serialRun env task inputs = some (outputs, last)) :
    ∃ frames, newDawnFramer.Feeds task.held (inputs.map PassInput.data) frames last.held ∧
      callsOf outputs = (handleFrames env task.world frames).1 ∧
      last.world = (handleFrames env task.world frames).2 ∧ last.Waiting ∧
      ∀ output ∈ outputs, output.overflow = false := by
  induction inputs generalizing task outputs with
  | nil =>
    obtain ⟨rfl, rfl⟩ := Prod.mk.inj (Option.some.inj run)
    exact ⟨[], .stop _, rfl, rfl, waiting, by simp⟩
  | cons input inputs ih =>
    obtain ⟨fits, legal⟩ := legal
    simp only [serialRun, Option.bind_eq_bind, Option.bind_eq_some_iff, Option.pure_def,
      Option.some.injEq, Prod.mk.injEq] at run
    obtain ⟨⟨output, next⟩, pass, ⟨others, final⟩, run, rfl, rfl⟩ := run
    obtain ⟨frames, walk, calls, calm, world, later⟩ := pass_walks waiting fits pass
    obtain ⟨more, feed, moreCalls, moreWorld, after, quiet⟩ := ih later (legal _ _ pass) run
    rw [world] at moreCalls moreWorld
    refine ⟨frames ++ more, .chunk walk feed, ?_, ?_, after, ?_⟩
    · rw [handleFrames_append, ← moreCalls, ← calls]
      rfl
    · rw [handleFrames_append, moreWorld]
    · intro one member
      rcases List.mem_cons.mp member with rfl | member
      · exact calm
      · exact quiet one member

theorem run_walks {inputs : List PassInput} {outputs : List PassOutput} {last : Task}
    (waiting : task.Waiting) (legal : Legal env task inputs)
    (run : serialRun env task inputs = some (outputs, last)) :
    ∃ frames, newDawnFramer.Walks (task.held ++ received inputs) frames last.held ∧
      callsOf outputs = (handleFrames env task.world frames).1 ∧
      last.world = (handleFrames env task.world frames).2 ∧ last.Waiting := by
  obtain ⟨frames, feed, calls, world, later, _⟩ := run_feeds waiting legal run
  exact ⟨frames, (Framer.feeds_iff _ _ waiting.short).mp feed, calls, world, later⟩

theorem run_of_walk {inputs : List PassInput} {frames : List (List UInt8)} {rest : List UInt8}
    (waiting : task.Waiting) (legal : Legal env task inputs)
    (walk : newDawnFramer.Walks (task.held ++ received inputs) frames rest) :
    ∃ outputs last, serialRun env task inputs = some (outputs, last) := by
  induction inputs generalizing task frames with
  | nil => exact ⟨[], task, rfl⟩
  | cons input inputs ih =>
    obtain ⟨fits, legal⟩ := legal
    have stream : task.held ++ received (input :: inputs) =
        task.held ++ input.data ++ received inputs := by
      simp [received]
    rw [stream] at walk
    obtain ⟨first, middle, more, start, walk, _⟩ := walk.split
    obtain ⟨output, next, pass, _, _, rfl, _, later⟩ := pass_of_walk env waiting fits start
    obtain ⟨outputs, last, run⟩ := ih later (legal _ _ pass) walk
    refine ⟨output :: outputs, last, ?_⟩
    simp only [serialRun, pass, run, Option.bind_eq_bind, Option.bind_some, Option.pure_def]

theorem run_boot {buffer : Buffer} {inputs : List PassInput}
    (legal : Legal env (.boot buffer) inputs) :
    (∃ outputs last, serialRun env (.boot buffer) inputs = some (outputs, last)) ↔
      ¬ newDawnFramer.Stalls (received inputs) := by
  rw [← Framer.walks_iff]
  constructor
  · rintro ⟨outputs, last, run⟩
    obtain ⟨frames, walk, _⟩ := run_walks (boot_waiting buffer) legal run
    rw [boot_held, List.nil_append] at walk
    exact ⟨frames, _, walk⟩
  · rintro ⟨frames, rest, walk⟩
    apply run_of_walk (boot_waiting buffer) legal
    rw [boot_held, List.nil_append]
    exact walk

end LittleDawn
