import LittleDawn.Model.Application
import LittleDawn.Shared.Emission

set_option autoImplicit false

namespace LittleDawn

open Emission (Path)

inductive Milestone where
  | vtStatus
  | workingSetMaster
  | getMemory
  | enoughMemory
  | getNumberOfSoftkeys
  | numberOfSoftkeys
  | getTextFontData
  | textFontData
  | getHardware
  | hardware
  | getVersions
  | versions
  | loadVersion
  | versionLoaded
  | endOfObjectPool
  | objectPoolAccepted
  | storeVersion
  | versionStored
  deriving DecidableEq, Repr

def VtMessage.milestone : VtMessage → Option Milestone
  | .workingSetMaster => some .workingSetMaster
  | .message data =>
    let function := data.headD 0
    if function = 0xC0 then some .getMemory
    else if function = 0xC2 then some .getNumberOfSoftkeys
    else if function = 0xC3 then some .getTextFontData
    else if function = 0xC7 then some .getHardware
    else if function = 0xDF then some .getVersions
    else if function = 0xD1 then some .loadVersion
    else if function = 0xD0 then some .storeVersion
    else if function = 0x12 then some .endOfObjectPool
    else none
  | .command _ => none
  | .objectPool _ => none

-- An answer counts if it is addressed and, where it can, agrees.
def RxMessage.milestone (message : RxMessage) : Option Milestone :=
  let function := message.byte 0
  if message.Addressed ∧ message.group = .virtualTerminalToECU then
    if function = 0xFE then some .vtStatus
    else if function = 0xC0 ∧ message.byte 2 = 0 then some .enoughMemory
    else if function = 0xC2 then some .numberOfSoftkeys
    else if function = 0xC3 then some .textFontData
    else if function = 0xC7 then some .hardware
    else if function = 0xE0 then some .versions
    else if function = 0xD1 ∧ message.byte 5 = 0 then some .versionLoaded
    else if function = 0xD0 ∧ message.byte 5 = 0 then some .versionStored
    else if function = 0x12 ∧ message.byte 1 = 0 ∧ message.byte 6 = 0 then some .objectPoolAccepted
    else none
  else none

inductive Transition : Bool → Option Milestone → StateMachineState → StateMachineState → Prop where
  | starts (labelled : Bool) :
      Transition labelled none .disconnected .waitForPartnerVTStatusMessage
  | workingSetMaster (labelled : Bool) :
      Transition labelled (some .workingSetMaster) .sendWorkingSetMasterMessage
        .readyForObjectPool
  | ready (labelled : Bool) : Transition labelled none .readyForObjectPool .sendGetMemory
  | getMemory (labelled : Bool) :
      Transition labelled (some .getMemory) .sendGetMemory .waitForGetMemoryResponse
  | enoughMemory (labelled : Bool) :
      Transition labelled (some .enoughMemory) .waitForGetMemoryResponse .sendGetNumberSoftkeys
  | getNumberOfSoftkeys (labelled : Bool) :
      Transition labelled (some .getNumberOfSoftkeys) .sendGetNumberSoftkeys
        .waitForGetNumberSoftKeysResponse
  | numberOfSoftkeys (labelled : Bool) :
      Transition labelled (some .numberOfSoftkeys) .waitForGetNumberSoftKeysResponse
        .sendGetTextFontData
  | getTextFontData (labelled : Bool) :
      Transition labelled (some .getTextFontData) .sendGetTextFontData
        .waitForGetTextFontDataResponse
  | textFontData (labelled : Bool) :
      Transition labelled (some .textFontData) .waitForGetTextFontDataResponse .sendGetHardware
  | getHardware (labelled : Bool) :
      Transition labelled (some .getHardware) .sendGetHardware .waitForGetHardwareResponse
  | hardware : Transition false (some .hardware) .waitForGetHardwareResponse .uploadObjectPool
  | hardwareLabelled : Transition true (some .hardware) .waitForGetHardwareResponse .sendGetVersions
  | getVersions (labelled : Bool) :
      Transition labelled (some .getVersions) .sendGetVersions .waitForGetVersionsResponse
  | versionUnknown (labelled : Bool) :
      Transition labelled (some .versions) .waitForGetVersionsResponse .uploadObjectPool
  | versionKnown (labelled : Bool) :
      Transition labelled (some .versions) .waitForGetVersionsResponse .sendLoadVersion
  | loadVersion (labelled : Bool) :
      Transition labelled (some .loadVersion) .sendLoadVersion .waitForLoadVersionResponse
  | versionLoaded (labelled : Bool) :
      Transition labelled (some .versionLoaded) .waitForLoadVersionResponse .connected
  | versionRefused (labelled : Bool) :
      Transition labelled none .waitForLoadVersionResponse .uploadObjectPool
  | endOfObjectPool (labelled : Bool) :
      Transition labelled (some .endOfObjectPool) .sendEndOfObjectPool
        .waitForEndOfObjectPoolResponse
  | accepted :
      Transition false (some .objectPoolAccepted) .waitForEndOfObjectPoolResponse .connected
  | acceptedLabelled :
      Transition true (some .objectPoolAccepted) .waitForEndOfObjectPoolResponse .sendStoreVersion
  | storeVersion (labelled : Bool) :
      Transition labelled (some .storeVersion) .sendStoreVersion .waitForStoreVersionResponse
  | versionStored (labelled : Bool) :
      Transition labelled (some .versionStored) .waitForStoreVersionResponse .connected
  | fails (labelled : Bool) (state : StateMachineState) : Transition labelled none state .failed

theorem Transition.other {labelled : Bool} {milestone : Option Milestone}
    {state next : StateMachineState} (transition : Transition labelled milestone state next) :
    next ≠ .disconnected := by
  cases transition <;> decide

def ObjectPool.needsTransfer (pool : ObjectPool) : Bool :=
  pool.hasData && decide (0 < pool.objectPoolSize)

def ObjectPool.unmarked (pool : ObjectPool) : ObjectPool :=
  { pool with uploaded := false }

def hasLabel (objectPools : List ObjectPool) : Bool :=
  !((objectPools.head?.map ObjectPool.versionLabel).getD []).isEmpty

structure Outlet where
  queue : List Command
  awaiting : Bool
  timestamp : UInt32

def VtClient.outlet (client : VtClient) : Outlet :=
  { queue := client.commandQueue
    awaiting := client.commandAwaitingResponse
    timestamp := client.lastCommandTimestamp }

-- The client but for its timers and what it knows of the terminal.
structure Standing where
  state : StateMachineState
  seen : Bool
  pools : List ObjectPool
  upload : UploadState
  outlet : Outlet

def VtClient.standing (client : VtClient) : Standing :=
  { state := client.state, seen := client.lastVTStatusTimestamp ≠ 0, pools := client.objectPools,
    upload := client.currentObjectPoolState, outlet := client.outlet }

def Standing.dropped (standing : Standing) : Standing :=
  { standing with
    state := .disconnected, seen := false, pools := standing.pools.map ObjectPool.unmarked }

def Standing.marked (standing : Standing) (index : Nat) (pool : ObjectPool) : Standing :=
  { standing with pools := standing.pools.set index { pool with uploaded := true } }

-- The loop over the pools goes on after a disconnection.
def Standing.Loads (standing : Standing) : Prop :=
  standing.state = .uploadObjectPool ∨ standing.state = .disconnected

inductive Standing.Move : Standing → List VtMessage → Standing → Prop where
  | turns (standing : Standing) {value : StateMachineState}
      (transition : Transition (hasLabel standing.pools) none standing.state value) :
      Move standing [] { standing with state := value }
  | greets (standing : Standing) (here : standing.state = .waitForPartnerVTStatusMessage)
      (seen : standing.seen = true) :
      Move standing [] { standing with state := .sendWorkingSetMasterMessage }
  | asks (standing : Standing) {message : VtMessage} {milestone : Milestone}
      {value : StateMachineState} (asked : message.milestone = some milestone)
      (transition : Transition (hasLabel standing.pools) (some milestone) standing.state value) :
      Move standing [message] { standing with state := value }
  | tells (standing : Standing) {data : List UInt8}
      (plain : (VtMessage.message data).milestone = none) : Move standing [.message data] standing
  | drops (standing : Standing) : Move standing [] standing.dropped
  -- The terminal is lost, but the client goes on.
  | renews (standing : Standing) (here : standing.state = .readyForObjectPool) :
      Move standing [] { standing.dropped with state := .sendGetMemory }
  | begins (standing : Standing) {index : Nat} {pool : ObjectPool}
      (found : standing.pools[index]? = some pool) (loads : standing.Loads)
      (needs : pool.needsTransfer = true) (unmarked : pool.uploaded = false)
      (free : standing.upload = .uninitialized) :
      Move standing [.objectPool (pool.objectPoolSize + 1)]
        { standing with upload := .inProgress }
  | marks (standing : Standing) {index : Nat} {pool : ObjectPool}
      (found : standing.pools[index]? = some pool) (loads : standing.Loads)
      (needs : pool.needsTransfer = true) (unmarked : pool.uploaded = false)
      (success : standing.upload = .success) :
      Move standing [] { standing.marked index pool with upload := .uninitialized }
  | skips (standing : Standing) {index : Nat} {pool : ObjectPool}
      (found : standing.pools[index]? = some pool) (loads : standing.Loads)
      (needless : pool.needsTransfer = false) : Move standing [] (standing.marked index pool)
  | givesUp (standing : Standing) (failed : standing.upload = .failed) :
      Move standing [] { standing with upload := .uninitialized }
  | completes (standing next : Standing) (here : standing.state = .uploadObjectPool)
      (all : ∀ pool ∈ standing.pools, pool.needsTransfer = true → pool.uploaded = true)
      (pools : next.pools.map ObjectPool.unmarked = standing.pools.map ObjectPool.unmarked)
      (upload : next.upload = standing.upload ∨ next.upload = .uninitialized)
      (outlet : next.outlet = standing.outlet) (state : next.state = .sendEndOfObjectPool) :
      Move standing [] next

theorem unmarked_marked {pools : List ObjectPool} {index : Nat} {pool : ObjectPool}
    (found : pools[index]? = some pool) :
    (pools.set index { pool with uploaded := true }).map ObjectPool.unmarked =
      pools.map ObjectPool.unmarked := by
  obtain ⟨inside, rfl⟩ := List.getElem?_eq_some_iff.mp found
  have same : ObjectPool.unmarked { pools[index] with uploaded := true } =
      pools[index].unmarked := rfl
  rw [List.map_set, same, ← List.map_set, List.set_getElem_self]

theorem unmarked_unmarked (pools : List ObjectPool) :
    (pools.map ObjectPool.unmarked).map ObjectPool.unmarked = pools.map ObjectPool.unmarked := by
  rw [List.map_map]
  rfl

theorem Standing.Move.pools {standing next : Standing} {out : List VtMessage}
    (move : Standing.Move standing out next) :
    next.pools.map ObjectPool.unmarked = standing.pools.map ObjectPool.unmarked := by
  cases move with
  | turns | greets | asks | tells | begins | givesUp => rfl
  | drops | renews => exact unmarked_unmarked _
  | marks found | skips found => exact unmarked_marked found
  | completes next here all pools => exact pools

theorem Standing.Move.outlet {standing next : Standing} {out : List VtMessage}
    (move : Standing.Move standing out next) : next.outlet = standing.outlet := by
  cases move with
  | completes next here all pools upload outlet => exact outlet
  | _ => rfl

theorem path_pools {standing next : Standing} {out : List VtMessage}
    (path : Path Standing.Move standing out next) :
    next.pools.map ObjectPool.unmarked = standing.pools.map ObjectPool.unmarked := by
  apply path.keeps
    (fun state => state.pools.map ObjectPool.unmarked = standing.pools.map ObjectPool.unmarked)
  · intro before events after move same
    exact move.pools.trans same
  · rfl

theorem path_outlet {standing next : Standing} {out : List VtMessage}
    (path : Path Standing.Move standing out next) : next.outlet = standing.outlet := by
  apply path.keeps (fun state => state.outlet = standing.outlet)
  · intro before events after move same
    exact move.outlet.trans same
  · rfl

theorem hasLabel_unmarked (pools : List ObjectPool) :
    hasLabel (pools.map ObjectPool.unmarked) = hasLabel pools := by
  cases pools <;> rfl

theorem hasLabel_same {pools others : List ObjectPool}
    (same : others.map ObjectPool.unmarked = pools.map ObjectPool.unmarked) :
    hasLabel others = hasLabel pools := by
  rw [← hasLabel_unmarked others, same, hasLabel_unmarked]

structure Moves (standing : Standing) (port : VtPort) (result : VtClient × VtPort) : Prop where
  now : result.2.now = port.now
  path : ∃ out, result.2.sent = port.sent ++ out ∧
    Path Standing.Move standing out result.1.standing

theorem moves_same {client : VtClient} {standing : Standing} (same : client.standing = standing)
    (port : VtPort) : Moves standing port (client, port) := by
  subst same
  exact ⟨rfl, [], (List.append_nil _).symm, .stay _⟩

theorem moves_refl (client : VtClient) (port : VtPort) :
    Moves client.standing port (client, port) :=
  moves_same rfl port

theorem Moves.trans {standing : Standing} {next : VtClient} {port after : VtPort}
    {result : VtClient × VtPort} (first : Moves standing port (next, after))
    (second : Moves next.standing after result) : Moves standing port result := by
  obtain ⟨now, out, sent, path⟩ := first
  obtain ⟨later, more, sends, further⟩ := second
  refine ⟨later.trans now, out ++ more, ?_, path.trans further⟩
  rw [sends, sent, List.append_assoc]

theorem moves_move {client : VtClient} {standing : Standing}
    (move : Standing.Move standing [] client.standing) (port : VtPort) :
    Moves standing port (client, port) :=
  ⟨rfl, [], (List.append_nil _).symm, .single move⟩

theorem moves_transmit {client next : VtClient} (port : VtPort) {message : VtMessage}
    (move : Standing.Move client.standing [message] next.standing) :
    Moves client.standing port
      (if (port.transmit message).1 then next else client, (port.transmit message).2) := by
  have sent := Port.transmit_sent port message
  split <;> rename_i taken
  · rw [if_pos taken] at sent
    exact ⟨Port.transmit_now port message, [message], sent, .single move⟩
  · rw [if_neg taken] at sent
    exact ⟨Port.transmit_now port message, [], by simpa using sent, .stay _⟩

theorem Moves.told {standing : Standing} {port : VtPort} {result : VtClient × VtPort}
    {data : List UInt8} (plain : (VtMessage.message data).milestone = none)
    (moves : Moves standing (port.transmit (.message data)).2 result) :
    Moves standing port result := by
  obtain ⟨now, out, sent, path⟩ := moves
  have told := Port.transmit_sent port (.message data)
  rw [told] at sent
  refine ⟨now.trans (Port.transmit_now port _), ?_⟩
  split at sent
  · refine ⟨.message data :: out, ?_, .move (.tells standing plain) path⟩
    rw [sent, List.append_assoc]
    rfl
  · exact ⟨out, sent, path⟩

theorem moves_tells (client : VtClient) (port : VtPort) {data : List UInt8}
    (plain : (VtMessage.message data).milestone = none) :
    Moves client.standing port (client, (port.transmit (.message data)).2) :=
  (moves_refl client _).told plain

theorem standing_disconnected (client : VtClient) (now : UInt32) :
    (client.setState now .disconnected).standing = client.standing.dropped :=
  rfl

theorem standing_setState (client : VtClient) (now : UInt32) {value : StateMachineState}
    (other : value ≠ .disconnected) :
    (client.setState now value).standing = { client.standing with state := value } := by
  simp [VtClient.setState, other, VtClient.standing, VtClient.outlet]

theorem moves_disconnected (client : VtClient) (port : VtPort) (now : UInt32) :
    Moves client.standing port (client.setState now .disconnected, port) := by
  apply moves_move
  rw [standing_disconnected]
  exact .drops client.standing

theorem moves_setState {client : VtClient} {state value : StateMachineState}
    (here : client.state = state)
    (transition : Transition (hasLabel client.objectPools) none state value) (port : VtPort)
    (now : UInt32) : Moves client.standing port (client.setState now value, port) := by
  subst here
  apply moves_move
  rw [standing_setState client now transition.other]
  exact .turns client.standing transition

theorem moves_sendThen {client : VtClient} {state value : StateMachineState}
    (here : client.state = state) {message : VtMessage} {milestone : Milestone}
    (asked : message.milestone = some milestone)
    (transition : Transition (hasLabel client.objectPools) (some milestone) state value)
    (port : VtPort) : Moves client.standing port (client.sendThen port message value) := by
  subst here
  have asks : Standing.Move client.standing [message]
      (client.setState (port.transmit message).2.now value).standing := by
    rw [standing_setState client _ transition.other]
    exact .asks client.standing asked transition
  have sends := moves_transmit port asks
  unfold VtClient.sendThen
  split <;> rename_i after equal <;> rw [equal] at sends
  · exact sends
  · exact sends

theorem moves_failAfter (client : VtClient) (port : VtPort) :
    Moves client.standing port (client.failAfter port) := by
  unfold VtClient.failAfter
  split
  · exact moves_setState rfl (.fails _ _) port port.now
  · exact moves_refl client port

theorem moves_failOrSend {client : VtClient} {state value : StateMachineState}
    (here : client.state = state) {message : VtMessage} {milestone : Milestone}
    (asked : message.milestone = some milestone)
    (transition : Transition (hasLabel client.objectPools) (some milestone) state value)
    (port : VtPort) : Moves client.standing port (client.failOrSend port message value) := by
  unfold VtClient.failOrSend
  split
  · exact moves_setState rfl (.fails _ _) port port.now
  · exact moves_sendThen here asked transition port

theorem moves_uploadPools (pools : List Nat) (allPoolsProcessed : Bool) (client : VtClient)
    (port : VtPort) (loads : client.standing.Loads) :
    Moves client.standing port
      (VtClient.uploadPools pools allPoolsProcessed client port).2 := by
  induction pools generalizing allPoolsProcessed client port with
  | nil => exact moves_refl client port
  | cons index rest ih =>
    unfold VtClient.uploadPools
    split
    · exact moves_refl client port
    · rename_i pool found
      dsimp only
      split
      · rename_i needs
        have transfer : pool.needsTransfer = true := by
          simpa [ObjectPool.needsTransfer] using needs
        split
        · rename_i uninitialized
          split
          · exact ih _ client port loads
          · rename_i unmarked
            have begins : Standing.Move client.standing [.objectPool (pool.objectPoolSize + 1)]
                (VtClient.standing { client with currentObjectPoolState := .inProgress }) :=
              .begins client.standing found loads transfer (by simpa using unmarked) uninitialized
            have sends := moves_transmit port begins
            split <;> rename_i after equal <;> rw [equal] at sends
            · exact sends.trans (ih _ _ _ loads)
            · exact sends.trans (ih _ _ _ loads)
        · rename_i success
          split
          · exact ih _ client port loads
          · rename_i unmarked
            have marks : Standing.Move client.standing [] (VtClient.standing { client with
                objectPools := client.objectPools.set index { pool with uploaded := true }
                currentObjectPoolState := .uninitialized }) :=
              .marks client.standing found loads transfer (by simpa using unmarked) success
            exact (moves_move marks port).trans (ih _ _ _ loads)
        · rename_i failed
          have gives : Standing.Move client.standing []
              (VtClient.standing { client with currentObjectPoolState := .uninitialized }) :=
            .givesUp client.standing failed
          have dropped := moves_disconnected
            { client with currentObjectPoolState := .uninitialized } port port.now
          exact ((moves_move gives port).trans dropped).trans (ih _ _ _ (.inr rfl))
        · exact moves_refl client port
      · rename_i none
        have needless : pool.needsTransfer = false := by
          simpa [ObjectPool.needsTransfer] using none
        have skips : Standing.Move client.standing [] (VtClient.standing { client with
            objectPools := client.objectPools.set index { pool with uploaded := true } }) :=
          .skips client.standing found loads needless
        exact (moves_move skips port).trans (ih _ _ _ loads)

def Unmarks (client next : VtClient) (pools : List Nat) : Prop :=
  next.objectPools.length = client.objectPools.length ∧
  ∀ index ∈ pools, ∀ pool, client.objectPools[index]? = some pool → pool.needsTransfer = true →
    ∃ other, next.objectPools[index]? = some other ∧ other.needsTransfer = true ∧
      (other.uploaded = true → pool.uploaded = true)

theorem unmarks_same {client next : VtClient} (same : next.objectPools = client.objectPools)
    (pools : List Nat) : Unmarks client next pools := by
  refine ⟨congrArg List.length same, ?_⟩
  intro index _ pool found needs
  exact ⟨pool, same ▸ found, needs, id⟩

theorem unmarks_mark {client : VtClient} {next : VtClient} {index : Nat} {marked : ObjectPool}
    {pools : List Nat} (set : next.objectPools = client.objectPools.set index marked)
    (later : index ∉ pools) : Unmarks client next pools := by
  refine ⟨by rw [set, List.length_set], ?_⟩
  intro other inside pool found needs
  have differs : index ≠ other := fun equal => later (equal ▸ inside)
  exact ⟨pool, by rw [set, List.getElem?_set_ne differs, found], needs, id⟩

theorem unmarks_disconnected {client begun : VtClient}
    (same : begun.objectPools = client.objectPools) (now : UInt32) (pools : List Nat) :
    Unmarks client (begun.setState now .disconnected) pools := by
  have cleared : (begun.setState now .disconnected).objectPools =
      client.objectPools.map fun pool => { pool with uploaded := false } := by
    rw [← same]
    rfl
  refine ⟨by rw [cleared, List.length_map], ?_⟩
  intro index _ pool found needs
  refine ⟨{ pool with uploaded := false }, ?_, needs, ?_⟩
  · rw [cleared, List.getElem?_map, found]
    rfl
  · intro impossible
    cases impossible

-- Where the loop finds all pools processed, the marks were there before it.
theorem uploadPools_complete (pools : List Nat) (allPoolsProcessed : Bool) (client : VtClient)
    (port : VtPort) (inside : ∀ index ∈ pools, index < client.objectPools.length)
    (distinct : pools.Nodup)
    (complete : (VtClient.uploadPools pools allPoolsProcessed client port).1 = true) :
    allPoolsProcessed = true ∧ ∀ index ∈ pools, ∀ pool, client.objectPools[index]? = some pool →
      pool.needsTransfer = true → pool.uploaded = true := by
  induction pools generalizing allPoolsProcessed client port with
  | nil => exact ⟨complete, by simp⟩
  | cons index rest ih =>
    obtain ⟨fresh, distinct⟩ := List.nodup_cons.mp distinct
    have here := inside index List.mem_cons_self
    have further : ∀ index ∈ rest, index < client.objectPools.length :=
      fun index member => inside index (List.mem_cons_of_mem _ member)
    have go {flag : Bool} {next : VtClient} {after : VtPort}
        (complete : (VtClient.uploadPools rest flag next after).1 = true)
        (unmarks : Unmarks client next rest) :
        flag = true ∧ ∀ index ∈ rest, ∀ pool, client.objectPools[index]? = some pool →
          pool.needsTransfer = true → pool.uploaded = true := by
      obtain ⟨processed, marked⟩ := ih flag next after (unmarks.1 ▸ further) distinct complete
      refine ⟨processed, ?_⟩
      intro index member pool found needs
      obtain ⟨other, known, needed, kept⟩ := unmarks.2 index member pool found needs
      exact kept (marked index member other known needed)
    obtain ⟨pool, found⟩ : ∃ pool, client.objectPools[index]? = some pool :=
      ⟨_, List.getElem?_eq_getElem here⟩
    have all (processed : pool.needsTransfer = true → pool.uploaded = true)
        (marked : ∀ index ∈ rest, ∀ pool, client.objectPools[index]? = some pool →
          pool.needsTransfer = true → pool.uploaded = true) :
        ∀ other ∈ index :: rest, ∀ pool, client.objectPools[other]? = some pool →
          pool.needsTransfer = true → pool.uploaded = true := by
      intro other member pool' found' needs
      rcases List.mem_cons.mp member with rfl | later
      · cases found.symm.trans found'
        exact processed needs
      · exact marked other later pool' found' needs
    have both {flag : Bool} {next : VtClient} {after : VtPort}
        (complete : (VtClient.uploadPools rest (flag && pool.uploaded) next after).1 = true)
        (unmarks : Unmarks client next rest) :
        flag = true ∧ ∀ other ∈ index :: rest, ∀ pool, client.objectPools[other]? = some pool →
          pool.needsTransfer = true → pool.uploaded = true := by
      obtain ⟨processed, marked⟩ := go complete unmarks
      obtain ⟨flag, uploaded⟩ := Bool.and_eq_true_iff.mp processed
      exact ⟨flag, all (fun _ => uploaded) marked⟩
    unfold VtClient.uploadPools at complete
    simp only [found] at complete
    split at complete
    · split at complete
      · split at complete
        · exact both complete (unmarks_same rfl rest)
        · split at complete
          · exact both complete (unmarks_same rfl rest)
          · exact both complete (unmarks_same rfl rest)
      · split at complete
        · exact both complete (unmarks_same rfl rest)
        · exact both complete (unmarks_mark rfl fresh)
      · exact both complete (unmarks_disconnected rfl _ rest)
      · cases complete
    · rename_i none
      obtain ⟨flag, marked⟩ := go complete (unmarks_mark rfl fresh)
      refine ⟨flag, all ?_ marked⟩
      intro needs
      simp [ObjectPool.needsTransfer] at needs
      exact absurd needs none

theorem uploadPools_false (pools : List Nat) (client : VtClient) (port : VtPort) :
    (VtClient.uploadPools pools false client port).1 = false := by
  induction pools generalizing client port with
  | nil => rfl
  | cons index rest ih =>
    unfold VtClient.uploadPools
    split
    · rfl
    · dsimp only
      split
      · split
        · split
          · exact ih ..
          · split <;> exact ih ..
        · split <;> exact ih ..
        · exact ih ..
        · rfl
      · exact ih ..

theorem uploadPools_quiet (pools : List Nat) (client : VtClient) (port : VtPort)
    (complete : (VtClient.uploadPools pools true client port).1 = true) :
    (VtClient.uploadPools pools true client port).2.2.sent = port.sent ∧
      ((VtClient.uploadPools pools true client port).2.1.currentObjectPoolState =
          client.currentObjectPoolState ∨
        (VtClient.uploadPools pools true client port).2.1.currentObjectPoolState =
          .uninitialized) := by
  induction pools generalizing client port with
  | nil => exact ⟨rfl, .inl rfl⟩
  | cons index rest ih =>
    unfold VtClient.uploadPools at complete ⊢
    cases found : client.objectPools[index]? with
    | none => exact ⟨rfl, .inl rfl⟩
    | some pool =>
      simp only [found, Bool.true_and] at complete ⊢
      split
      · rename_i needs
        rw [if_pos needs] at complete
        cases marked : pool.uploaded with
        | true =>
          cases upload : client.currentObjectPoolState with
          | uninitialized =>
            simp only [marked, upload, if_true] at complete ⊢
            obtain ⟨same, state⟩ := ih client port complete
            rw [upload] at state
            exact ⟨same, state⟩
          | inProgress => simp [upload] at complete
          | success =>
            simp only [marked, upload, if_true] at complete ⊢
            obtain ⟨same, state⟩ := ih client port complete
            rw [upload] at state
            exact ⟨same, state⟩
          | failed =>
            simp only [marked, upload] at complete ⊢
            obtain ⟨same, state⟩ := ih _ _ complete
            exact ⟨same, .inr (state.elim id id)⟩
        | false =>
          -- A pool that is not marked yet keeps the loop from being complete.
          simp only [marked] at complete
          split at complete
          · simp only [Bool.false_eq_true, if_false] at complete
            split at complete <;> simp [uploadPools_false] at complete
          · simp [uploadPools_false] at complete
          · simp [uploadPools_false] at complete
          · simp at complete
      · rename_i none
        rw [if_neg none] at complete
        exact ih _ _ complete

theorem moves_complete {client : VtClient} (here : client.state = .uploadObjectPool)
    (port : VtPort)
    (complete : (VtClient.uploadPools (List.range client.objectPools.length) true client port).1 =
      true) :
    Moves client.standing port
      ((VtClient.uploadPools (List.range client.objectPools.length) true client port).2.1.setState
        (VtClient.uploadPools (List.range client.objectPools.length) true client port).2.2.now
        .sendEndOfObjectPool,
        (VtClient.uploadPools (List.range client.objectPools.length) true client port).2.2) := by
  have marked := (uploadPools_complete _ _ _ _ (fun index => List.mem_range.mp) List.nodup_range
    complete).2
  obtain ⟨sent, upload⟩ := uploadPools_quiet _ _ _ complete
  obtain ⟨now, out, -, path⟩ :=
    moves_uploadPools (List.range client.objectPools.length) true client port (.inl here)
  have pools := path_pools path
  have outlet := path_outlet path
  refine ⟨now, [], by simpa using sent, .single ?_⟩
  refine .completes client.standing _ here ?_ pools upload outlet rfl
  intro pool member needed
  obtain ⟨index, inside, rfl⟩ := List.getElem_of_mem member
  exact marked index (List.mem_range.mpr inside) _ (List.getElem?_eq_getElem inside) needed

theorem moves_readyForObjectPool {client : VtClient} (here : client.state = .readyForObjectPool)
    (port : VtPort) (partnerAddressValid : Bool) :
    Moves client.standing port (client.updateState port partnerAddressValid) := by
  have goes {begun : VtClient} (reset : Moves client.standing port (begun, port))
      (ready : Moves client.standing port (begun.setState port.now .sendGetMemory, port)) :
      Moves client.standing port
        (if begun.objectPools.isEmpty then (begun, port)
        else ({ begun.setState port.now .sendGetMemory with
            lastWorkingSetMaintenanceTimestamp :=
              (port.transmit (workingSetMaintenance true)).2.now
            sendWorkingSetMaintenance := true },
          (port.transmit (workingSetMaintenance true)).2)) := by
    split
    · exact reset
    · have tells : Moves (begun.setState port.now .sendGetMemory).standing port
          (begun.setState port.now .sendGetMemory,
            (port.transmit (workingSetMaintenance true)).2) := moves_tells _ port (by rfl)
      exact (ready.trans tells).trans (moves_same (by rfl) _)
  unfold VtClient.updateState
  simp only [here]
  by_cases lost : port.timeExpired client.lastVTStatusTimestamp vtStatusTimeoutMs = true
  · rw [if_pos lost]
    refine goes (moves_disconnected client port port.now) ?_
    apply moves_move
    rw [standing_setState _ _ (by decide), standing_disconnected]
    exact .renews client.standing here
  · rw [if_neg lost]
    exact goes (moves_refl client port) (moves_setState here (.ready _) port port.now)

theorem moves_updateState (client : VtClient) (port : VtPort) (partnerAddressValid : Bool) :
    Moves client.standing port (client.updateState port partnerAddressValid) := by
  by_cases ready : client.state = .readyForObjectPool
  · exact moves_readyForObjectPool ready port partnerAddressValid
  unfold VtClient.updateState
  split <;> rename_i here
  case h_1 =>
    have same : Moves client.standing port
        ({ client with sendWorkingSetMaintenance := false, unsupportedFunctions := [] }, port) :=
      moves_same (by rfl) port
    have state : VtClient.state { client with
        sendWorkingSetMaintenance := false, unsupportedFunctions := [] } = .disconnected := here
    dsimp only
    split
    · exact same.trans (moves_setState state (.starts _) port port.now)
    · exact same
  case h_2 =>
    split
    · rename_i heard
      apply moves_move
      rw [standing_setState client _ (by decide)]
      exact .greets client.standing here (decide_eq_true heard)
    · exact moves_refl client port
  case h_3 => exact moves_sendThen here rfl (.workingSetMaster _) port
  case h_4 => exact absurd here ready
  case h_5 => exact moves_sendThen here rfl (.getMemory _) port
  case h_7 => exact moves_sendThen here rfl (.getNumberOfSoftkeys _) port
  case h_9 => exact moves_sendThen here rfl (.getTextFontData _) port
  case h_11 => exact moves_sendThen here rfl (.getHardware _) port
  case h_13 =>
    split
    · exact moves_setState rfl (.fails _ _) port port.now
    · split
      · exact moves_refl client port
      · exact moves_sendThen here rfl (.getVersions _) port
  case h_15 => exact moves_failOrSend here rfl (.loadVersion _) port
  case h_17 => exact moves_failOrSend here rfl (.storeVersion _) port
  case h_19 =>
    dsimp only
    split
    · rename_i complete
      exact moves_complete here port complete
    · exact moves_uploadPools _ true client port (.inl here)
  case h_20 => exact moves_sendThen here rfl (.endOfObjectPool _) port
  case h_22 =>
    split
    · exact moves_disconnected client port port.now
    · exact moves_refl client port
  case h_23 =>
    have same : Moves client.standing port
        ({ client with sendWorkingSetMaintenance := false }, port) := moves_same (by rfl) port
    dsimp only
    split
    · exact same.trans (moves_disconnected _ port port.now)
    · exact same
  all_goals exact moves_failAfter client port

theorem moves_updateMaintenance (client : VtClient) (port : VtPort) :
    Moves client.standing port (client.updateMaintenance port) := by
  have tells : Moves client.standing port
      (client, (port.transmit (workingSetMaintenance false)).2) := moves_tells client port (by rfl)
  unfold VtClient.updateMaintenance
  dsimp only
  split
  · split
    · exact moves_same (by rfl) port
    · split <;> rename_i after equal <;> rw [equal] at tells
      · exact tells.trans (moves_same (by rfl) after)
      · exact tells.trans (moves_same (by rfl) after)
  · exact moves_refl client port

end LittleDawn
