import LittleDawn.Serial.DrainEnds

set_option autoImplicit false

namespace LittleDawn

inductive Action where
  | frame (message : Pointer) (totalLen : UInt8)
  | getData (data : Option NewDawnData) (taken : Bool)

def Action.step (env : Env) (world : World) : Action → World
  | frame message totalLen => (parseAndPublish env message totalLen world).value.2
  | getData _ _ => world

structure Newest where
  latest : Option (MachineStatus × UInt32)
  parses : Nat
  takes : Nat
  deriving DecidableEq, Repr

def Newest.none : Newest :=
  { latest := .none, parses := 0, takes := 0 }

def Newest.news (env : Env) (newest : Newest) : Option Message → Option (MachineStatus × UInt32)
  | some (.machineStatus status) =>
    if env.mutexTaken newest.takes then
      some (status, env.tickCount newest.parses * portTickPeriodMs)
    else .none
  | _ => .none

def Newest.receive (env : Env) (newest : Newest) (message : Option Message) : Newest :=
  { latest := (newest.news env message).or newest.latest
    parses := newest.parses + 1
    takes := if message.isSome then newest.takes + 1 else newest.takes }

def Newest.step (env : Env) (newest : Newest) : Action → Newest
  | .frame message totalLen => newest.receive env (understood message totalLen.toNat)
  | .getData _ _ => newest

def record : MachineStatus × UInt32 → NewDawnData
  | (status, timestamp) => { status, dataValid := true, timestamp }

def Newest.world (newest : Newest) : World :=
  { currentData := (newest.latest.map record).getD initialData
    parses := newest.parses
    takes := newest.takes }

def Action.Correct (env : Env) (newest : Newest) (world : World) : Action → Prop
  | getData data taken =>
    let result := newDawnGetData data true taken world.currentData
    (result.returned = true ↔ (data.isSome = true ∧ taken = true) ∧ newest.latest.isSome = true) ∧
    (result.returned = true → result.data = newest.latest.map record)
  | frame message totalLen =>
    newest.news env (understood message totalLen.toNat) = none →
      ((frame message totalLen).step env world).currentData = world.currentData

def StoreCorrect (env : Env) : Newest → World → List Action → Prop
  | _, _, [] => True
  | newest, world, action :: actions =>
    action.Correct env newest world ∧
      StoreCorrect env (newest.step env action) (action.step env world) actions

def Action.Misses (env : Env) (newest : Newest) : Action → Prop
  | getData _ _ => True
  | frame message totalLen =>
    understood message totalLen.toNat = some .handshakeRequest → env.mutexTaken newest.takes = false

def HandshakesMiss (env : Env) : Newest → List Action → Prop
  | _, [] => True
  | newest, action :: actions =>
    action.Misses env newest ∧ HandshakesMiss env (newest.step env action) actions

theorem misses_tempData {env : Env} {newest : Newest} {action : Action}
    {tempData : Nat → NewDawnData} :
    action.Misses { env with tempData } newest ↔ action.Misses env newest := by
  cases action <;> rfl

theorem handshakesMiss_tempData {env : Env} {newest : Newest} {actions : List Action}
    {tempData : Nat → NewDawnData} :
    HandshakesMiss { env with tempData } newest actions ↔ HandshakesMiss env newest actions := by
  induction actions generalizing newest with
  | nil => rfl
  | cons action actions ih => exact and_congr misses_tempData ih

theorem frame_world (env : Env) (newest : Newest) (message : Pointer) (totalLen : UInt8) :
    (parseAndPublish env message totalLen newest.world).value.2 =
      if understood message totalLen.toNat = some .handshakeRequest ∧
          env.mutexTaken newest.takes = true then
        { (newest.receive env (understood message totalLen.toNat)).world with
          currentData := env.tempData newest.parses }
      else (newest.receive env (understood message totalLen.toNat)).world := by
  rw [parseAndPublish_value, handleFrame, ← understood_eq_read]
  cases known : understood message totalLen.toNat with
  | none => simp [Newest.world, Newest.receive, Newest.news]
  | some received =>
    by_cases taken : env.mutexTaken newest.takes <;> cases received <;>
      simp [Newest.world, Newest.receive, Newest.news, Parsed.answer, record, taken]

theorem getData_newest (newest : Newest) (data : Option NewDawnData) (taken : Bool) :
    ((newDawnGetData data true taken newest.world.currentData).returned = true ↔
      (data.isSome = true ∧ taken = true) ∧ newest.latest.isSome = true) ∧
    ((newDawnGetData data true taken newest.world.currentData).returned = true →
      (newDawnGetData data true taken newest.world.currentData).data = newest.latest.map record) := by
  cases data <;> cases taken <;> cases known : newest.latest <;>
    simp [newDawnGetData, Newest.world, known, record, initialData]

theorem news_none_world {env : Env} {newest : Newest} {message : Option Message}
    (nothing : newest.news env message = none) :
    (newest.receive env message).world.currentData = newest.world.currentData := by
  simp [Newest.world, Newest.receive, nothing]

theorem step_world {env : Env} {newest : Newest} {action : Action}
    (misses : action.Misses env newest) :
    action.step env newest.world = (newest.step env action).world := by
  cases action with
  | getData data taken => rfl
  | frame message totalLen =>
    rw [Action.step, frame_world, if_neg]
    · rfl
    · intro both
      simp [misses both.1] at both

theorem action_correct {env : Env} {newest : Newest} {action : Action}
    (misses : action.Misses env newest) : action.Correct env newest newest.world := by
  cases action with
  | getData data taken => exact getData_newest newest data taken
  | frame message totalLen =>
    intro nothing
    rw [step_world misses]
    exact news_none_world nothing

theorem correct_of_misses {env : Env} {newest : Newest} {actions : List Action}
    (misses : HandshakesMiss env newest actions) :
    StoreCorrect env newest newest.world actions := by
  induction actions generalizing newest with
  | nil => trivial
  | cons action actions ih =>
    obtain ⟨miss, misses⟩ := misses
    have later := ih misses
    rw [← step_world miss] at later
    exact ⟨action_correct miss, later⟩

theorem action_misses {env : Env} {newest : Newest} {action : Action}
    (correct : ∀ tempData, action.Correct { env with tempData } newest newest.world) :
    action.Misses env newest := by
  cases action with
  | getData data taken => trivial
  | frame message totalLen =>
    intro known
    by_contra taken
    let junk := { newest.world.currentData with dataValid := !newest.world.currentData.dataValid }
    have alone := correct (fun _ => junk) (by simp [Newest.news, known])
    rw [Action.step, frame_world, if_pos ⟨known, by simpa using taken⟩] at alone
    have flipped := congrArg NewDawnData.dataValid alone
    simp [junk] at flipped

theorem misses_of_correct {env : Env} {newest : Newest} {actions : List Action}
    (correct : ∀ tempData, StoreCorrect { env with tempData } newest newest.world actions) :
    HandshakesMiss env newest actions := by
  induction actions generalizing newest with
  | nil => trivial
  | cons action actions ih =>
    have miss := action_misses fun tempData => (correct tempData).1
    refine ⟨miss, ih ?_⟩
    intro tempData
    obtain ⟨_, later⟩ := correct tempData
    have stored : action.step { env with tempData } newest.world = (newest.step env action).world :=
      step_world (misses_tempData.mpr miss)
    rw [stored] at later
    exact later

/-- The store is right exactly when no handshake request gets the mutex, in every run of frames and
reads, whatever the drain loop finds on its stack. Before the mutex exists no read succeeds. -/
theorem store_correct_iff (env : Env) (actions : List Action) :
    ((∀ tempData, StoreCorrect { env with tempData } .none ⟨initialData, 0, 0⟩ actions) ↔
      HandshakesMiss env .none actions) ∧
    ∀ (data : Option NewDawnData) (taken : Bool),
      (newDawnGetData data false taken initialData).returned = false := by
  constructor
  · constructor
    · intro correct
      exact misses_of_correct correct
    · intro misses tempData
      exact correct_of_misses (handshakesMiss_tempData.mpr misses)
  · intro data taken
    simp [newDawnGetData]

-- A handshake request puts a record there that nobody has sent.
theorem handshake_published :
    ¬ StoreCorrect { Env.quiet with tempData := fun _ => ⟨⟨7, 0, 0, 0, 0⟩, true, 0⟩ } .none
      ⟨initialData, 0, 0⟩ [.frame (ofList Message.handshakeRequest.frame) 8,
        .getData (some initialData) true] := by
  intro correct
  have read := correct.2.1.1
  revert read
  decide

def frameAction (frame : List UInt8) : Action :=
  .frame (ofList frame) (UInt8.ofNat frame.length)

theorem frameAction_step (env : Env) (world : World) {frame : List UInt8}
    (short : frame.length < 256) :
    (frameAction frame).step env world = (handleFrame env world frame).2 := by
  have size : (UInt8.ofNat frame.length).toNat = frame.length := by
    rw [UInt8.toNat_ofNat']
    omega
  have bytes := bytesAt_ofList [] frame []
  simp only [List.nil_append, List.append_nil, List.length_nil] at bytes
  rw [frameAction, Action.step, parseAndPublish_value, size, bytes]

theorem handleFrames_world (env : Env) (world : World) (frames : List (List UInt8))
    (short : ∀ frame ∈ frames, frame.length < 256) :
    (frames.map frameAction).foldl (Action.step env) world =
      (handleFrames env world frames).2 := by
  induction frames generalizing world with
  | nil => rfl
  | cons frame frames ih =>
    have first := frameAction_step env world (short frame List.mem_cons_self)
    have rest := ih (handleFrame env world frame).2 fun other member =>
      short other (List.mem_cons_of_mem _ member)
    rw [List.map_cons, List.foldl_cons, first, rest]
    rfl

theorem run_store {env : Env} {buffer : Buffer} {inputs : List PassInput}
    {outputs : List PassOutput} {last : Task} (legal : Legal env (.boot buffer) inputs)
    (run : serialRun env (.boot buffer) inputs = some (outputs, last)) :
    last.world = (((callsOf outputs).map ParseCall.frame).map frameAction).foldl (Action.step env)
      ⟨initialData, 0, 0⟩ := by
  obtain ⟨frames, walk, calls, world, _⟩ := run_walks (boot_waiting buffer) legal run
  have short : ∀ frame ∈ frames, frame.length < 256 := by
    intro frame member
    obtain ⟨bytes, whole⟩ := walk.sizes frame member
    rw [(frameSize_some whole).2.2]
    exact UInt8.toNat_lt _
  rw [calls, handleFrames_frames, handleFrames_world _ _ _ short, world]
  rfl

end LittleDawn
