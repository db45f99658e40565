import LittleDawn.Terminal.VtConnection

set_option autoImplicit false

namespace LittleDawn

open Emission (Path)

def ObjectPool.transferred (pool : ObjectPool) : Bool :=
  pool.needsTransfer && pool.uploaded

inductive Stage where
  | before
  | complete
  | told
  deriving DecidableEq

def StateMachineState.stage : StateMachineState → Stage
  | .sendEndOfObjectPool => .complete
  | .waitForEndOfObjectPoolResponse => .told
  | .sendStoreVersion => .told
  | .waitForStoreVersionResponse => .told
  | .connected => .told
  | .failed => .told
  | _ => .before

structure Uploading where
  pools : List ObjectPool
  upload : UploadState
  state : StateMachineState

def Standing.uploading (standing : Standing) : Uploading :=
  { pools := standing.pools, upload := standing.upload, state := standing.state }

def VtClient.uploading (client : VtClient) : Uploading :=
  { pools := client.objectPools, upload := client.currentObjectPoolState, state := client.state }

inductive UploadEvent where
  | transfer (dataLength : UInt32)
  | endOfObjectPool
  deriving DecidableEq

def VtMessage.uploadEvent : VtMessage → Option UploadEvent
  | .objectPool dataLength => some (.transfer dataLength)
  | .message data => if data.headD 0 = 0x12 then some .endOfObjectPool else none
  | _ => none

def uploadEvents (messages : List VtMessage) : List UploadEvent :=
  messages.filterMap VtMessage.uploadEvent

theorem uploadEvents_append (messages more : List VtMessage) :
    uploadEvents (messages ++ more) = uploadEvents messages ++ uploadEvents more :=
  List.filterMap_append

def Uploading.disconnected (uploading : Uploading) : Uploading :=
  { uploading with
    pools := uploading.pools.map ObjectPool.unmarked, state := .disconnected }

def Uploading.marked (uploading : Uploading) (index : Nat) (pool : ObjectPool) : Uploading :=
  { uploading with pools := uploading.pools.set index { pool with uploaded := true } }

inductive Uploading.Move : Uploading → List UploadEvent → Uploading → Prop where
  | goes (uploading : Uploading) (value : StateMachineState) (other : value ≠ .disconnected)
      (stage : value.stage = uploading.state.stage ∨ value.stage = .told) :
      Move uploading [] { uploading with state := value }
  | disconnects (uploading : Uploading) : Move uploading [] uploading.disconnected
  | begins (uploading : Uploading) (index : Nat) (pool : ObjectPool)
      (found : uploading.pools[index]? = some pool) (before : uploading.state.stage = .before)
      (needs : pool.needsTransfer = true) (unmarked : pool.uploaded = false)
      (free : uploading.upload = .uninitialized) :
      Move uploading [.transfer (pool.objectPoolSize + 1)]
        { uploading with upload := .inProgress }
  | marks (uploading : Uploading) (index : Nat) (pool : ObjectPool)
      (found : uploading.pools[index]? = some pool) (before : uploading.state.stage = .before)
      (needs : pool.needsTransfer = true) (unmarked : pool.uploaded = false)
      (success : uploading.upload = .success) :
      Move uploading [] { uploading.marked index pool with upload := .uninitialized }
  | skips (uploading : Uploading) (index : Nat) (pool : ObjectPool)
      (found : uploading.pools[index]? = some pool) (before : uploading.state.stage = .before)
      (needless : pool.needsTransfer = false) : Move uploading [] (uploading.marked index pool)
  | givesUp (uploading : Uploading) (failed : uploading.upload = .failed) :
      Move uploading [] { uploading with upload := .uninitialized }
  | completes (uploading next : Uploading) (here : uploading.state = .uploadObjectPool)
      (all : ∀ pool ∈ uploading.pools, pool.needsTransfer = true → pool.uploaded = true)
      (same : next.pools.map ObjectPool.unmarked = uploading.pools.map ObjectPool.unmarked)
      (upload : next.upload = uploading.upload ∨ next.upload = .uninitialized)
      (state : next.state = .sendEndOfObjectPool) : Move uploading [] next
  | ends (uploading : Uploading) (here : uploading.state = .sendEndOfObjectPool) :
      Move uploading [.endOfObjectPool]
        { uploading with state := .waitForEndOfObjectPoolResponse }

theorem Transition.stage {labelled : Bool} {milestone : Option Milestone}
    {state next : StateMachineState} (transition : Transition labelled milestone state next) :
    next.stage = state.stage ∨ next.stage = .told := by
  cases transition <;> first | exact .inl rfl | exact .inr rfl

theorem Transition.ends {labelled : Bool} {state next : StateMachineState}
    (transition : Transition labelled (some .endOfObjectPool) state next) :
    state = .sendEndOfObjectPool ∧ next = .waitForEndOfObjectPoolResponse := by
  cases transition
  exact ⟨rfl, rfl⟩

theorem uploadEvent_asked {message : VtMessage} {milestone : Milestone}
    (asked : message.milestone = some milestone) :
    message.uploadEvent = if milestone = .endOfObjectPool then some .endOfObjectPool else none := by
  cases message with
  | workingSetMaster =>
    cases asked
    rfl
  | message data =>
    simp only [VtMessage.milestone] at asked
    by_cases ends : data.headD 0 = 0x12
    · rw [ends] at asked
      cases asked
      rw [VtMessage.uploadEvent, if_pos ends, if_pos rfl]
    · have other : milestone ≠ .endOfObjectPool := by
        rintro rfl
        revert asked
        split_ifs <;> simp_all
      rw [VtMessage.uploadEvent, if_neg ends, if_neg other]
  | command | objectPool => cases asked

theorem uploadEvent_plain {data : List UInt8}
    (plain : (VtMessage.message data).milestone = none) :
    (VtMessage.message data).uploadEvent = none := by
  have other : data.headD 0 ≠ 0x12 := by
    intro ends
    simp only [VtMessage.milestone, ends] at plain
    revert plain
    decide
  rw [VtMessage.uploadEvent, if_neg other]

theorem Standing.Loads.before {standing : Standing} (loads : standing.Loads) :
    standing.state.stage = .before := by
  rcases loads with here | here <;> rw [here] <;> rfl

theorem Standing.Move.uploads {standing next : Standing} {out : List VtMessage}
    (move : Standing.Move standing out next) :
    Path Uploading.Move standing.uploading (uploadEvents out) next.uploading := by
  cases move with
  | turns transition =>
    exact .single (.goes standing.uploading _ transition.other transition.stage)
  | greets here seen =>
    have stage : standing.state.stage = .before := by rw [here]; rfl
    exact .single (.goes standing.uploading .sendWorkingSetMasterMessage (by decide)
      (.inl stage.symm))
  | @asks message milestone value asked transition =>
    have event := uploadEvent_asked asked
    by_cases ends : milestone = .endOfObjectPool
    · subst ends
      have events : uploadEvents [message] = [.endOfObjectPool] := by simp [uploadEvents, event]
      rw [events]
      obtain ⟨here, rfl⟩ := transition.ends
      exact .single (.ends standing.uploading here)
    · have events : uploadEvents [message] = [] := by simp [uploadEvents, event, ends]
      rw [events]
      exact .single (.goes standing.uploading _ transition.other transition.stage)
  | tells plain =>
    rw [show uploadEvents [_] = [] by simp [uploadEvents, uploadEvent_plain plain]]
    exact .stay _
  | drops => exact .single (.disconnects standing.uploading)
  | renews here =>
    have drops : Path Uploading.Move standing.uploading [] standing.uploading.disconnected :=
      .single (.disconnects standing.uploading)
    exact drops.trans
      (.single (.goes standing.uploading.disconnected .sendGetMemory (by decide) (.inl rfl)))
  | begins found loads needs unmarked free =>
    exact .single (.begins standing.uploading _ _ found loads.before needs unmarked free)
  | marks found loads needs unmarked success =>
    exact .single (.marks standing.uploading _ _ found loads.before needs unmarked success)
  | skips found loads needless =>
    exact .single (.skips standing.uploading _ _ found loads.before needless)
  | givesUp failed => exact .single (.givesUp standing.uploading failed)
  | completes next here all pools upload outlet state =>
    exact .single (.completes standing.uploading _ here all pools upload state)

theorem path_uploads {standing next : Standing} {out : List VtMessage}
    (path : Path Standing.Move standing out next) :
    Path Uploading.Move standing.uploading (uploadEvents out) next.uploading := by
  induction path with
  | stay => exact .stay _
  | move move _ ih =>
    rw [uploadEvents_append]
    exact move.uploads.trans ih

theorem Uploading.Move.pools {uploading next : Uploading} {events : List UploadEvent}
    (move : Uploading.Move uploading events next) :
    next.pools.map ObjectPool.unmarked = uploading.pools.map ObjectPool.unmarked := by
  cases move with
  | goes | begins | givesUp | ends => rfl
  | disconnects =>
    simp only [Uploading.disconnected, List.map_map]
    rfl
  | marks index pool found => exact unmarked_marked found
  | skips index pool found => exact unmarked_marked found
  | completes next here all same => exact same

theorem uploading_pools {uploading next : Uploading} {events : List UploadEvent}
    (path : Path Uploading.Move uploading events next) :
    next.pools.map ObjectPool.unmarked = uploading.pools.map ObjectPool.unmarked := by
  apply path.keeps
    (fun state => state.pools.map ObjectPool.unmarked = uploading.pools.map ObjectPool.unmarked)
  · intro before events after move same
    exact move.pools.trans same
  · rfl

def ProgramStep.transferEnds? : ProgramStep → Option Bool
  | .transferEnds successful => some successful
  | _ => none

theorem Standing.Comes.uploads {step : ProgramStep} {standing begun : Standing}
    (comes : Standing.Comes step standing begun) (goes : step.transferEnds? = none) :
    Path Uploading.Move standing.uploading [] begun.uploading := by
  cases comes with
  | nothing => exact .stay _
  | ends => cases goes
  | hears hears =>
    cases hears with
    | nothing | status => exact .stay _
    | answer known transition =>
      exact .single (.goes standing.uploading _ transition.other transition.stage)

theorem step_uploads (program : Program) (input : ProgramInput)
    (goes : input.step.transferEnds? = none) :
    Path Uploading.Move program.client.uploading (uploadEvents (program.sent input))
      (program.next input).client.uploading := by
  obtain ⟨begun, out, moved, outlet, words, told, comes, path, talks, same, sent, plains⟩ :=
    step_acts program input
  have path := (comes.uploads goes).trans (path_uploads path)
  have spoken : uploadEvents (words.map VtMessage.command) = [] := by
    simp [uploadEvents, List.filterMap_map, Function.comp_def, VtMessage.uploadEvent]
  have confirmed : uploadEvents (told.map VtMessage.message) = [] := by
    rw [uploadEvents, List.filterMap_map, List.filterMap_eq_nil_iff]
    exact fun data member => uploadEvent_plain (plains data member)
  have reached : (program.next input).client.uploading = moved.uploading :=
    congrArg Standing.uploading same
  rw [sent, uploadEvents_append, uploadEvents_append, spoken, confirmed, reached, List.append_nil,
    List.append_nil]
  exact path

end LittleDawn
