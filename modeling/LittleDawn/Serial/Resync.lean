import LittleDawn.Serial.MessageStream

set_option autoImplicit false

namespace LittleDawn

def statusStream (statuses : List MachineStatus) : List UInt8 :=
  (statuses.map sendMachineStatus).flatten

theorem statusStream_append (left right : List MachineStatus) :
    statusStream (left ++ right) = statusStream left ++ statusStream right := by
  simp [statusStream]

theorem statusStream_cons (status : MachineStatus) (rest : List MachineStatus) :
    statusStream (status :: rest) = sendMachineStatus status ++ statusStream rest := rfl

@[simp] theorem sendMachineStatus_length (status : MachineStatus) :
    (sendMachineStatus status).length = 13 := by
  rw [sendMachineStatus, sendToLittleDawn_length, status.bytes_length]
  rfl

theorem statusStream_length_cons (status : MachineStatus) (rest : List MachineStatus) :
    (statusStream (status :: rest)).length = 13 + (statusStream rest).length := by
  rw [statusStream_cons, List.length_append, sendMachineStatus_length]

theorem unit_status (status : MachineStatus) : newDawnFramer.Unit (sendMachineStatus status) :=
  unit_frame (.machineStatus status)

theorem read_status (status : MachineStatus) :
    Message.read (sendMachineStatus status) = some (.machineStatus status) :=
  Message.read_frame (.machineStatus status)

def PublishesOneOf (noise : List UInt8) (statuses : List MachineStatus) (calls : List ParseCall) :
    Prop :=
  ∃ earlier call later skipped status rest,
    calls = earlier ++ call :: later ∧ statuses = skipped ++ status :: rest ∧
      (earlier.map ParseCall.frame).flatten.length = (noise ++ statusStream skipped).length ∧
      call.accepted = some (.machineStatus status) ∧ call.published = true

def Regains (statuses : List MachineStatus) : Prop :=
  ∀ (noise : List UInt8) (env : Env) (buffer : Buffer) (inputs : List PassInput)
    (outputs : List PassOutput) (last : Task), (∀ n, env.mutexTaken n = true) →
    Legal env (.boot buffer) inputs → received inputs = noise ++ statusStream statuses →
    serialRun env (.boot buffer) inputs = some (outputs, last) →
    PublishesOneOf noise statuses (callsOf outputs)

def Meets (statuses : List MachineStatus) (offset : Nat) : Prop :=
  ∃ skipped status rest, statuses = skipped ++ status :: rest ∧
    newDawnFramer.Visits ((statusStream statuses).drop offset) (statusStream (status :: rest))

theorem entry_offset {noise : List UInt8} {statuses : List MachineStatus} {n : Nat}
    (some : statuses ≠ []) (positive : 0 < noise.length)
    (known : newDawnFramer.size (noise ++ statusStream statuses) = .some n) :
    n - noise.length ≤ 253 := by
  obtain ⟨_, _, total⟩ := frameSize_some known
  have small := (3 + ofList (noise ++ statusStream statuses) 1).toNat_lt
  -- A single byte of noise takes the id of the first frame for its length.
  by_cases one : noise.length = 1
  · obtain ⟨status, rest, rfl⟩ := List.exists_cons_of_ne_nil some
    obtain ⟨byte, rfl⟩ := List.length_eq_one_iff.mp one
    have length : ofList ([byte] ++ statusStream (status :: rest)) 1 = 1 := rfl
    have four : (3 + 1 : UInt8).toNat = 4 := rfl
    rw [length] at total
    omega
  · omega

theorem entry (noise : List UInt8) (statuses : List MachineStatus) (some : statuses ≠ [])
    {frames : List (List UInt8)} {held : List UInt8}
    (walk : newDawnFramer.Walks (noise ++ statusStream statuses) frames held) :
    (∃ offset ≤ 253, newDawnFramer.Visits (noise ++ statusStream statuses)
        ((statusStream statuses).drop offset)) ∨
      (statusStream statuses).length ≤ 253 := by
  induction size : noise.length using Nat.strongRecOn generalizing noise frames with
  | ind count ih =>
    by_cases quiet : noise = []
    · subst quiet
      exact .inl ⟨0, by decide, .here _⟩
    have positive := List.length_pos_iff.mpr quiet
    cases known : newDawnFramer.size (noise ++ statusStream statuses) with
    | none =>
      rw [newDawnFramer_size] at known
      have bound := short_length known
      rw [List.length_append] at bound
      exact .inr (by omega)
    | some n =>
      obtain ⟨others, rfl, tail⟩ := walk.cut_inv known
      have moves : n ≠ 0 := by
        rintro rfl
        exact walk.not_zero known
      by_cases within : n ≤ noise.length
      · rw [List.drop_append_of_le_length within] at tail
        rcases ih (noise.drop n).length (by rw [List.length_drop]; omega) _ tail rfl with
          ⟨offset, bound, visit⟩ | few
        · refine .inl ⟨offset, bound, .cut known ?_⟩
          rwa [List.drop_append_of_le_length within]
        · exact .inr few
      · refine .inl ⟨n - noise.length, entry_offset some positive known, .cut known ?_⟩
        rw [List.drop_append, List.drop_eq_nil_of_le (by omega), List.nil_append]
        exact .here _

theorem published_of_visit {env : Env} {world : World} {noise held : List UInt8}
    {frames : List (List UInt8)} {skipped rest : List MachineStatus} {status : MachineStatus}
    (free : ∀ n, env.mutexTaken n = true)
    (walk : newDawnFramer.Walks (noise ++ statusStream (skipped ++ status :: rest)) frames held)
    (visit : newDawnFramer.Visits (noise ++ statusStream (skipped ++ status :: rest))
      (statusStream (status :: rest))) :
    PublishesOneOf noise (skipped ++ status :: rest) (handleFrames env world frames).1 := by
  obtain ⟨before, after, rfl, flat, tail⟩ := walk.from_visited visit
  rw [statusStream_cons] at tail
  obtain ⟨others, rfl, _⟩ := tail.unit_inv (unit_status status)
  have position : before.flatten = noise ++ statusStream skipped := by
    rw [statusStream_append, ← List.append_assoc] at flat
    exact List.append_cancel_right flat
  have call := handleFrame_accepted env (handleFrames env world before).2 (sendMachineStatus status)
  rw [read_status] at call
  rw [handleFrames_append]
  refine ⟨_, _, _, skipped, status, rest, rfl, rfl, ?_, call, ?_⟩
  · rw [handleFrames_frames, position]
  · simp [handleFrame, read_status, free]

theorem visit_of_published {env : Env} {world : World} {noise held : List UInt8}
    {frames : List (List UInt8)} {statuses : List MachineStatus}
    (walk : newDawnFramer.Walks (noise ++ statusStream statuses) frames held)
    (published : PublishesOneOf noise statuses (handleFrames env world frames).1) :
    ∃ skipped status rest, statuses = skipped ++ status :: rest ∧
      newDawnFramer.Visits (noise ++ statusStream statuses) (statusStream (status :: rest)) := by
  obtain ⟨earlier, call, later, skipped, status, rest, calls, rfl, position, _, _⟩ := published
  have cut := handleFrames_frames env world frames
  rw [calls, List.map_append] at cut
  subst cut
  have visit := walk.visits
  have flat := walk.flatten
  rw [List.flatten_append, List.append_assoc, statusStream_append,
    ← List.append_assoc noise] at flat
  obtain ⟨_, same⟩ := List.append_inj flat position
  rw [same] at visit
  exact ⟨skipped, status, rest, rfl, visit⟩

theorem visit_of_regains {statuses : List MachineStatus} (regains : Regains statuses)
    {noise held : List UInt8} {frames : List (List UInt8)}
    (walk : newDawnFramer.Walks (noise ++ statusStream statuses) frames held) :
    ∃ skipped status rest, statuses = skipped ++ status :: rest ∧
      newDawnFramer.Visits (noise ++ statusStream statuses) (statusStream (status :: rest)) := by
  have legal := singles_legal .quiet zeroBuffer (noise ++ statusStream statuses)
  have stream := received_singles (noise ++ statusStream statuses)
  obtain ⟨outputs, last, run⟩ := (run_boot legal).mpr
    (by rw [stream]; exact (Framer.walks_iff _).mp ⟨_, _, walk⟩)
  have published := regains noise .quiet zeroBuffer _ outputs last (fun _ => rfl) legal stream run
  obtain ⟨frames, walk, calls⟩ := boot_walks legal run
  rw [calls] at published
  rw [stream] at walk
  exact visit_of_published walk published

theorem lead_size {offset : Nat} (bytes : List UInt8) (positive : offset ≠ 0)
    (bound : offset ≤ 253) :
    newDawnFramer.size ([0, UInt8.ofNat (offset - 1)] ++ bytes) =
      if offset ≤ bytes.length then some (offset + 2) else none := by
  have length : ofList ([0, UInt8.ofNat (offset - 1)] ++ bytes) 1 = UInt8.ofNat (offset - 1) := rfl
  have total : (3 + (offset - 1)) % 256 = offset + 2 := by omega
  rw [newDawnFramer_size]
  simp only [frameSize, length, totalLen_toNat, total, List.length_append, List.length_cons,
    List.length_nil]
  by_cases within : offset ≤ bytes.length
  · rw [if_pos within, if_pos (by omega)]
  · rw [if_neg within, if_neg (by omega)]

theorem meets_of_regains {statuses : List MachineStatus} (regains : Regains statuses)
    {offset : Nat} (bound : offset ≤ 253) (free : NoWrap ((statusStream statuses).drop offset)) :
    Meets statuses offset := by
  obtain ⟨frames, held, walk⟩ := (Framer.walks_iff _).mpr ((noWrap_iff _).mp free)
  by_cases zero : offset = 0
  · subst zero
    have walk : newDawnFramer.Walks ([] ++ statusStream statuses) frames held := walk
    exact visit_of_regains regains walk
  have size := lead_size (statusStream statuses) zero bound
  by_cases within : offset ≤ (statusStream statuses).length
  · rw [if_pos within] at size
    have drop : ([0, UInt8.ofNat (offset - 1)] ++ statusStream statuses).drop (offset + 2) =
        (statusStream statuses).drop offset := rfl
    rw [← drop] at walk
    obtain ⟨skipped, status, rest, rfl, visit⟩ := visit_of_regains regains (.cut size walk)
    refine ⟨skipped, status, rest, rfl, ?_⟩
    rw [← drop]
    refine visit.cut_inv size fun same => ?_
    have := congrArg List.length same
    simp only [statusStream_append, List.length_append, List.length_cons, List.length_nil] at this
    omega
  · rw [if_neg within] at size
    obtain ⟨skipped, status, rest, rfl, visit⟩ := visit_of_regains regains (.wait size)
    have := congrArg List.length (visit.wait_inv size)
    simp only [statusStream_append, List.length_append, List.length_cons, List.length_nil] at this
    omega

theorem noWrap_nil : NoWrap [] :=
  (noWrap_iff _).mpr ((Framer.walks_iff _).mp ⟨_, _, walks_nil⟩)

theorem not_meets_end (statuses : List MachineStatus) :
    ¬ Meets statuses (statusStream statuses).length := by
  rintro ⟨skipped, status, rest, rfl, visit⟩
  rw [List.drop_length] at visit
  have := congrArg List.length (visit.wait_inv rfl)
  rw [statusStream_length_cons, List.length_nil] at this
  omega

theorem regains_of_meets {statuses : List MachineStatus}
    (meets : ∀ offset ≤ 253, NoWrap ((statusStream statuses).drop offset) → Meets statuses offset) :
    Regains statuses := by
  intro noise env buffer inputs outputs last free legal stream run
  obtain ⟨frames, walk, calls⟩ := boot_walks legal run
  rw [stream] at walk
  rw [calls]
  have long : ¬ (statusStream statuses).length ≤ 253 := by
    intro few
    exact not_meets_end statuses (meets _ few (by rw [List.drop_length]; exact noWrap_nil))
  have some : statuses ≠ [] := by
    intro empty
    subst empty
    simp [statusStream] at long
  rcases entry noise statuses some walk with ⟨offset, bound, entered⟩ | few
  · have ends : NoWrap ((statusStream statuses).drop offset) := by
      obtain ⟨_, after, _, _, tail⟩ := walk.from_visited entered
      exact (noWrap_iff _).mpr ((Framer.walks_iff _).mp ⟨after, last.held, tail⟩)
    obtain ⟨skipped, status, rest, rfl, visit⟩ := meets offset bound ends
    exact published_of_visit free walk (entered.trans visit)
  · exact absurd few long

/-- The receiver regains it on `statuses`, whatever came before, if and only if from each of the
first 254 offsets in these frames the declared lengths lead to the beginning of one of them, unless
they run into a length byte of 253. -/
theorem resync_iff (statuses : List MachineStatus) :
    Regains statuses ↔
      ∀ offset ≤ 253, NoWrap ((statusStream statuses).drop offset) → Meets statuses offset := by
  constructor
  · intro regains offset bound free
    exact meets_of_regains regains bound free
  · intro meets
    exact regains_of_meets meets

theorem rotate {α : Type} (front back : List α) (count : Nat) :
    (List.replicate (count + 1) (front ++ back)).flatten =
      front ++ (List.replicate count (back ++ front)).flatten ++ back := by
  induction count with
  | zero => simp
  | succ count ih =>
    rw [List.replicate_succ, List.flatten_cons, ih, List.replicate_succ, List.flatten_cons]
    simp only [List.append_assoc]

-- A speed of 25.6 km/h puts the length of a machine status in front of the payload's third
-- byte.
def trap : MachineStatus := ⟨2560, 0, 0, 0, 0⟩

def rotated : List UInt8 := [0, 10, 0, 0, 0, 0, 0, 0, 0, 0, 234, 1, 10]

theorem trap_walks (count : Nat) :
    newDawnFramer.Walks ([0, 1] ++ statusStream (List.replicate (count + 1) trap))
      ([0, 1, 1, 10] :: List.replicate count rotated) [0, 10, 0, 0, 0, 0, 0, 0, 0, 0, 234] := by
  have stream : [0, 1] ++ statusStream (List.replicate (count + 1) trap) =
      ([0, 1, 1, 10] :: List.replicate count rotated).flatten ++
        [0, 10, 0, 0, 0, 0, 0, 0, 0, 0, 234] := by
    have frame :
        sendMachineStatus trap = [1, 10] ++ [0, 10, 0, 0, 0, 0, 0, 0, 0, 0, 234] := by decide
    rw [statusStream, List.map_replicate, frame, rotate]
    rfl
  have single : ∀ frame ∈ [0, 1, 1, 10] :: List.replicate count rotated,
      newDawnFramer.Unit frame := by
    intro frame member
    rcases List.mem_cons.mp member with rfl | member
    · exact (by decide : frameSize [0, 1, 1, 10] = some 4)
    · rw [List.eq_of_mem_replicate member]
      exact (by decide : frameSize rotated = some 13)
  have residue : newDawnFramer.size [0, 10, 0, 0, 0, 0, 0, 0, 0, 0, 234] = none :=
    (by decide : frameSize [0, 10, 0, 0, 0, 0, 0, 0, 0, 0, 234] = none)
  have walk := Framer.Walks.units single (.wait residue)
  rw [List.append_nil] at walk
  rw [stream]
  exact walk

theorem no_resync_bound :
    ¬ ∃ bound, ∀ statuses : List MachineStatus, bound < (statusStream statuses).length →
      Regains statuses := by
  rintro ⟨bound, regains⟩
  have long : bound < (statusStream (List.replicate (bound + 1) trap)).length := by
    simp [statusStream]
    omega
  have legal := singles_legal .quiet zeroBuffer
    ([0, 1] ++ statusStream (List.replicate (bound + 1) trap))
  have stream := received_singles ([0, 1] ++ statusStream (List.replicate (bound + 1) trap))
  have trapped := trap_walks bound
  obtain ⟨outputs, last, run⟩ := (run_boot legal).mpr
    (by rw [stream]; exact (Framer.walks_iff _).mp ⟨_, _, trapped⟩)
  obtain ⟨frames, walk, calls⟩ := boot_walks legal run
  rw [stream] at walk
  obtain ⟨rfl, _⟩ := trapped.unique walk
  obtain ⟨earlier, call, later, _, status, _, split, _, _, accepted, _⟩ :=
    regains _ long [0, 1] .quiet zeroBuffer _ outputs last (fun _ => rfl) legal stream run
  have listed : call.accepted ∈ (callsOf outputs).map ParseCall.accepted := by
    rw [split]
    simp
  rw [calls, handleFrames_accepted, accepted] at listed
  obtain ⟨frame, member, read⟩ := List.mem_map.mp listed
  have nothing : Message.read [0, 1, 1, 10] = none ∧ Message.read rotated = none := by decide
  rcases List.mem_cons.mp member with rfl | member
  · rw [nothing.1] at read
    cases read
  · rw [List.eq_of_mem_replicate member, nothing.2] at read
    cases read

end LittleDawn
