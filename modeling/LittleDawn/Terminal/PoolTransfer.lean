import LittleDawn.Isobus.ChunkReads
import LittleDawn.Terminal.PoolUpload

set_option autoImplicit false

namespace LittleDawn

open Emission (Path)

def UploadEvent.size? : UploadEvent → Option UInt32
  | .transfer dataLength => some dataLength
  | .endOfObjectPool => none

def begun (events : List UploadEvent) : List UInt32 :=
  events.filterMap UploadEvent.size?

theorem begun_append (events more : List UploadEvent) :
    begun (events ++ more) = begun events ++ begun more :=
  List.filterMap_append

structure Upload where
  program : Program
  transfer : Option MessageDataCallback

inductive UploadStep where
  | program (input : ProgramInput)
  | read (index : Nat)

def ProgramInput.endsTransfer (input : ProgramInput) : Bool :=
  input.step.transferEnds?.isSome

def Upload.boot (objectPools : List ObjectPool) : Upload :=
  { program := .boot objectPools, transfer := none }

def Upload.byte (upload : Upload) (index : Nat) : Option UInt8 :=
  upload.transfer.map fun data =>
    (data.getByte upload.program.client.dataChunkCallback index).1

def Upload.events (upload : Upload) : UploadStep → List UploadEvent
  | .program input =>
    if input.endsTransfer then [] else uploadEvents (upload.program.sent input)
  | .read _ => []

def Upload.next (upload : Upload) : UploadStep → Upload
  | .program input =>
    if input.endsTransfer then
      -- Only a transfer that is open can end.
      if upload.transfer.isSome then
        { program := upload.program.next input, transfer := none }
      else upload
    else
      let lengths := begun (uploadEvents (upload.program.sent input))
      { program := upload.program.next input
        transfer :=
          (lengths.getLast?.map fun length => .create length.toNat).or upload.transfer }
  | .read index =>
    { upload with
      transfer := upload.transfer.map fun data =>
        (data.getByte upload.program.client.dataChunkCallback index).2 }

def Upload.ended (upload : Upload) : UploadStep → Bool
  | .program input => input.endsTransfer && upload.transfer.isSome
  | .read _ => false

def Upload.misses (upload : Upload) (step : UploadStep) : Bool :=
  upload.ended step && decide (upload.program.client.state ≠ .uploadObjectPool)

def Upload.run (upload : Upload) (steps : List UploadStep) : Upload :=
  steps.foldl Upload.next upload

def Upload.history (upload : Upload) : List UploadStep → List UploadEvent
  | [] => []
  | step :: steps => upload.events step ++ (upload.next step).history steps

def Upload.endings (upload : Upload) : List UploadStep → Nat
  | [] => 0
  | step :: steps => (if upload.ended step then 1 else 0) + (upload.next step).endings steps

def Upload.missed (upload : Upload) : List UploadStep → Bool
  | [] => false
  | step :: steps => upload.misses step || (upload.next step).missed steps

def Uploading.Busy (uploading : Uploading) : Prop :=
  uploading.upload = .inProgress ∧ uploading.state ≠ .sendEndOfObjectPool ∧
    ∃ pool ∈ uploading.pools, pool.needsTransfer = true ∧ pool.uploaded = false

-- A client that waits for the end of a transfer keeps waiting, and says nothing about the pool.
theorem Uploading.Move.busy {uploading next : Uploading} {events : List UploadEvent}
    (move : Uploading.Move uploading events next) (busy : uploading.Busy) :
    events = [] ∧ next.Busy := by
  obtain ⟨progress, differs, pool, member, needs, unmarked⟩ := busy
  cases move with
  | goes value other stage =>
    refine ⟨rfl, progress, ?_, pool, member, needs, unmarked⟩
    rintro rfl
    rcases stage with same | told
    · have here : uploading.state.stage = .complete := same.symm
      cases state : uploading.state <;> simp_all [StateMachineState.stage]
    · cases told
  | disconnects =>
    exact ⟨rfl, progress, by simp [Uploading.disconnected], pool.unmarked,
      List.mem_map_of_mem member, needs, rfl⟩
  | begins index other found before needed unmarked' free => simp [progress] at free
  | marks index other found before needed unmarked' success => simp [progress] at success
  | skips index other found before needless =>
    refine ⟨rfl, progress, differs, pool, ?_, needs, unmarked⟩
    obtain ⟨place, inside, rfl⟩ := List.getElem_of_mem member
    have apart : index ≠ place := by
      rintro rfl
      rw [List.getElem?_eq_getElem inside] at found
      cases found
      simp [needs] at needless
    apply List.mem_of_getElem?
    rw [Uploading.marked, List.getElem?_set_ne apart]
    exact List.getElem?_eq_getElem inside
  | givesUp failed => simp [progress] at failed
  | completes next here all same upload state =>
    have marked := all pool member needs
    simp [unmarked] at marked
  | ends here => exact absurd here differs

theorem Uploading.Move.begins_one {uploading next : Uploading} {events : List UploadEvent}
    (move : Uploading.Move uploading events next) (free : uploading.upload ≠ .inProgress) :
    (begun events = [] ∧ next.upload ≠ .inProgress) ∨
      ∃ length, begun events = [length] ∧ next.Busy := by
  cases move with
  | goes | disconnects | skips | ends => exact .inl ⟨rfl, free⟩
  | marks | givesUp => exact .inl ⟨rfl, by simp⟩
  | begins index pool found before needs unmarked =>
    refine .inr ⟨_, rfl, rfl, ?_, pool, List.mem_of_getElem? found, needs, unmarked⟩
    intro complete
    have here : uploading.state = .sendEndOfObjectPool := complete
    simp [here, StateMachineState.stage] at before
  | completes next here all same upload =>
    refine .inl ⟨rfl, ?_⟩
    rcases upload with kept | cleared
    · rwa [kept]
    · simp [cleared]

theorem path_begins {uploading next : Uploading} {events : List UploadEvent}
    (path : Path Uploading.Move uploading events next) (free : uploading.upload ≠ .inProgress) :
    (begun events = [] ∧ next.upload ≠ .inProgress) ∨
      ∃ length, begun events = [length] ∧ next.Busy := by
  induction path with
  | stay => exact .inl ⟨rfl, free⟩
  | move move path ih =>
    rw [begun_append]
    rcases move.begins_one free with ⟨none, still⟩ | ⟨length, one, busy⟩
    · rw [none, List.nil_append]
      exact ih still
    · obtain ⟨rfl, after⟩ := path.silent Uploading.Busy (fun move busy => move.busy busy) busy
      exact .inr ⟨length, by simpa [begun] using one, after⟩

theorem path_lengths {uploading next : Uploading} {events : List UploadEvent}
    (path : Path Uploading.Move uploading events next) :
    ∀ length ∈ begun events, ∃ pool ∈ uploading.pools.map ObjectPool.unmarked,
      pool.needsTransfer = true ∧ length = pool.objectPoolSize + 1 := by
  induction path with
  | stay => simp [begun]
  | move move path ih =>
    intro length member
    rw [begun_append] at member
    rcases List.mem_append.mp member with now | later
    · cases move with
      | begins index pool found before needs =>
        have one := List.mem_singleton.mp now
        exact ⟨pool.unmarked, List.mem_map_of_mem (List.mem_of_getElem? found), needs, one⟩
      | _ => simp [begun, UploadEvent.size?] at now
    · obtain ⟨pool, here, needs, same⟩ := ih length later
      exact ⟨pool, move.pools ▸ here, needs, same⟩

structure Upload.Sound (upload : Upload) : Prop where
  busy : upload.program.client.currentObjectPoolState = .inProgress →
    upload.program.client.uploading.Busy
  opened : upload.transfer.isSome = true →
    upload.program.client.currentObjectPoolState = .inProgress

def Upload.Stalled (upload : Upload) : Prop :=
  upload.program.client.currentObjectPoolState = .inProgress ∧ upload.transfer = none

inductive Upload.Turn (upload : Upload) (step : UploadStep) : Prop where
  | waits (busy : upload.program.client.uploading.Busy)
      (still : (upload.next step).program.client.uploading.Busy)
      (kept : (upload.next step).transfer.isSome = upload.transfer.isSome)
      (silent : upload.events step = []) (ended : upload.ended step = false)
  | rests (free : upload.program.client.currentObjectPoolState ≠ .inProgress)
      (still : (upload.next step).program.client.currentObjectPoolState ≠ .inProgress)
      (closed : upload.transfer = none) (kept : (upload.next step).transfer = none)
      (silent : begun (upload.events step) = []) (ended : upload.ended step = false)
  | begins (free : upload.program.client.currentObjectPoolState ≠ .inProgress)
      (busy : (upload.next step).program.client.uploading.Busy) (closed : upload.transfer = none)
      (length : UInt32) (one : begun (upload.events step) = [length])
      (opens : (upload.next step).transfer = some (.create length.toNat))
      (ended : upload.ended step = false)
  | ends (busy : upload.program.client.uploading.Busy) (opened : upload.transfer.isSome = true)
      (closed : (upload.next step).transfer = none) (silent : upload.events step = [])
      (ended : upload.ended step = true)
      (heard : upload.program.client.state = .uploadObjectPool →
        (upload.next step).program.client.currentObjectPoolState ≠ .inProgress)
      (missed : upload.program.client.state ≠ .uploadObjectPool →
        (upload.next step).program.client.uploading.Busy)

theorem Upload.Sound.free {upload : Upload} (sound : upload.Sound)
    (free : upload.program.client.currentObjectPoolState ≠ .inProgress) :
    upload.transfer = none := by
  cases transfer : upload.transfer with
  | none => rfl
  | some data => exact absurd (sound.opened (by simp [transfer])) free

theorem processCallback_state (client : VtClient) (successful : Bool) :
    (client.state = .uploadObjectPool →
        (client.processCallback successful).currentObjectPoolState ≠ .inProgress) ∧
      (client.state ≠ .uploadObjectPool → client.processCallback successful = client) := by
  unfold VtClient.processCallback
  constructor
  · intro here
    rw [if_pos here]
    cases successful <;> simp
  · intro other
    rw [if_neg other]

theorem client_ended (program : Program) {input : ProgramInput} (ends : input.endsTransfer = true) :
    ∃ successful, (program.next input).client = program.client.processCallback successful := by
  obtain ⟨step, time, accepts⟩ := input
  cases step with
  | transferEnds successful => exact ⟨successful, rfl⟩
  | _ => cases ends

theorem Upload.next_closed {upload : Upload} {input : ProgramInput}
    (ends : input.endsTransfer = true) (closed : upload.transfer.isSome = false) :
    upload.next (.program input) = upload := by
  simp [Upload.next, ends, closed]

theorem Upload.next_ended {upload : Upload} {input : ProgramInput}
    (ends : input.endsTransfer = true) (opened : upload.transfer.isSome = true) :
    upload.next (.program input) =
      { program := upload.program.next input, transfer := none } := by
  simp [Upload.next, ends, opened]

theorem Upload.next_goes (upload : Upload) {input : ProgramInput}
    (goes : input.endsTransfer = false) :
    upload.next (.program input) =
      { program := upload.program.next input
        transfer := ((begun (upload.events (.program input))).getLast?.map
          fun length => .create length.toNat).or upload.transfer } := by
  simp [Upload.next, Upload.events, goes]

theorem path_goes (upload : Upload) {input : ProgramInput} (goes : input.endsTransfer = false) :
    Path Uploading.Move upload.program.client.uploading (upload.events (.program input))
      (upload.program.next input).client.uploading := by
  have none : input.step.transferEnds? = none := by
    simpa [ProgramInput.endsTransfer] using goes
  have events : upload.events (.program input) = uploadEvents (upload.program.sent input) := by
    simp [Upload.events, goes]
  rw [events]
  exact step_uploads upload.program input none

theorem Upload.Sound.turn {upload : Upload} (sound : upload.Sound) (step : UploadStep) :
    upload.Turn step := by
  have still {next : Upload} (same : upload.next step = next)
      (program : next.program = upload.program)
      (transfer : next.transfer.isSome = upload.transfer.isSome)
      (silent : upload.events step = []) (ended : upload.ended step = false) :
      upload.Turn step := by
    by_cases free : upload.program.client.currentObjectPoolState = .inProgress
    · have busy := sound.busy free
      exact .waits busy (by rwa [same, program]) (by rw [same, transfer]) silent ended
    · have closed := sound.free free
      refine .rests free (by rwa [same, program]) closed ?_ (by rw [silent]; rfl) ended
      rw [closed] at transfer
      rw [same]
      simpa using transfer
  cases step with
  | read index =>
    refine still rfl rfl ?_ rfl rfl
    simp [Upload.next]
  | program input =>
    cases ends : input.endsTransfer with
    | true =>
      cases opened : upload.transfer.isSome with
      | false =>
        exact still (Upload.next_closed ends opened) rfl rfl (by simp [Upload.events, ends])
          (by simp [Upload.ended, opened])
      | true =>
        have next := Upload.next_ended ends opened
        obtain ⟨successful, client⟩ := client_ended upload.program ends
        obtain ⟨heard, missed⟩ := processCallback_state upload.program.client successful
        have busy := sound.busy (sound.opened opened)
        refine .ends busy opened (by rw [next]) (by simp [Upload.events, ends])
          (by simp [Upload.ended, ends, opened]) ?_ ?_
        · intro here
          rw [next, client]
          exact heard here
        · intro other
          rw [next, client, missed other]
          exact busy
    | false =>
      have path := path_goes upload ends
      have next := Upload.next_goes upload ends
      have ended : upload.ended (.program input) = false := by simp [Upload.ended, ends]
      by_cases free : upload.program.client.currentObjectPoolState = .inProgress
      · have busy := sound.busy free
        obtain ⟨silent, after⟩ :=
          path.silent Uploading.Busy (fun move busy => move.busy busy) busy
        refine .waits busy (by rwa [next]) ?_ silent ended
        rw [next, silent]
        rfl
      · have closed := sound.free free
        rcases path_begins path free with ⟨none, after⟩ | ⟨length, one, busy⟩
        · refine .rests free (by rwa [next]) closed ?_ none ended
          rw [next, none, closed]
          rfl
        · refine .begins free (by rwa [next]) closed length one ?_ ended
          rw [next, one]
          rfl

theorem Upload.Sound.next {upload : Upload} (sound : upload.Sound) (step : UploadStep) :
    (upload.next step).Sound := by
  cases sound.turn step with
  | waits busy still kept silent ended => exact ⟨fun _ => still, fun _ => still.1⟩
  | rests free still closed kept silent ended =>
    exact ⟨fun progress => absurd progress still, by simp [kept]⟩
  | begins free busy closed length one opens ended => exact ⟨fun _ => busy, fun _ => busy.1⟩
  | ends busy opened closed silent ended heard missed =>
    refine ⟨fun progress => ?_, by simp [closed]⟩
    by_cases here : upload.program.client.state = .uploadObjectPool
    · exact absurd progress (heard here)
    · exact missed here

theorem boot_sound (objectPools : List ObjectPool) : (Upload.boot objectPools).Sound :=
  ⟨nofun, nofun⟩

theorem Upload.Sound.run {upload : Upload} (sound : upload.Sound) (steps : List UploadStep) :
    (upload.run steps).Sound := by
  induction steps generalizing upload with
  | nil => exact sound
  | cons step steps ih => exact ih (sound.next step)

theorem Upload.Sound.paired {upload : Upload} (sound : upload.Sound) (step : UploadStep) :
    (begun (upload.events step)).length + (if upload.transfer.isSome then 1 else 0) =
      (if upload.ended step then 1 else 0) +
        if (upload.next step).transfer.isSome then 1 else 0 := by
  cases sound.turn step with
  | waits busy still kept silent ended => simp [silent, ended, kept, begun]
  | rests free still closed kept silent ended => simp [silent, closed, kept, ended]
  | begins free busy closed length one opens ended => simp [one, closed, opens, ended]
  | ends busy opened closed silent ended heard missed =>
    simp [silent, opened, closed, ended, begun]

/-- The transfers of a run follow each other: each one has ended, but for the one that is open. -/
theorem transfers_paired (objectPools : List ObjectPool) (steps : List UploadStep) :
    (begun ((Upload.boot objectPools).history steps)).length =
      (Upload.boot objectPools).endings steps +
        if ((Upload.boot objectPools).run steps).transfer.isSome then 1 else 0 := by
  have from_sound (upload : Upload) (sound : upload.Sound) :
      (begun (upload.history steps)).length + (if upload.transfer.isSome then 1 else 0) =
        upload.endings steps + if (upload.run steps).transfer.isSome then 1 else 0 := by
    induction steps generalizing upload with
    | nil =>
      change 0 + _ = 0 + _
      rfl
    | cons step steps ih =>
      have first := sound.paired step
      have rest := ih (upload.next step) (sound.next step)
      have run : upload.run (step :: steps) = (upload.next step).run steps := rfl
      rw [Upload.history, Upload.endings, begun_append, List.length_append, run]
      omega
  simpa [Upload.boot] using from_sound (.boot objectPools) (boot_sound objectPools)

theorem Upload.Sound.stalls {upload : Upload} (sound : upload.Sound) (step : UploadStep) :
    (upload.next step).Stalled ↔ upload.Stalled ∨ upload.misses step = true := by
  cases sound.turn step with
  | waits busy still kept silent ended =>
    have same : (upload.next step).transfer = none ↔ upload.transfer = none := by
      rw [← Option.not_isSome_iff_eq_none, ← Option.not_isSome_iff_eq_none, kept]
    have before : upload.program.client.currentObjectPoolState = .inProgress := busy.1
    have after : (upload.next step).program.client.currentObjectPoolState = .inProgress := still.1
    simp [Upload.Stalled, Upload.misses, before, after, same, ended]
  | rests free still closed kept silent ended =>
    simp [Upload.Stalled, Upload.misses, free, still, ended]
  | begins free busy closed length one opens ended =>
    simp [Upload.Stalled, Upload.misses, free, opens, ended]
  | ends busy opened closed silent ended heard missed =>
    have open' : upload.transfer ≠ none := by simpa [Option.isSome_iff_ne_none] using opened
    by_cases here : upload.program.client.state = .uploadObjectPool
    · simp [Upload.Stalled, Upload.misses, heard here, open', here]
    · have after : (upload.next step).program.client.currentObjectPoolState = .inProgress :=
        (missed here).1
      simp [Upload.Stalled, Upload.misses, after, closed, ended, here]

theorem Upload.Sound.run_stalls {upload : Upload} (sound : upload.Sound)
    (steps : List UploadStep) :
    (upload.run steps).Stalled ↔ upload.Stalled ∨ upload.missed steps = true := by
  induction steps generalizing upload with
  | nil => simp [Upload.run, Upload.missed]
  | cons step steps ih =>
    have rest := ih (sound.next step)
    have run : upload.run (step :: steps) = (upload.next step).run steps := rfl
    rw [sound.stalls step, or_assoc] at rest
    simpa [Upload.missed, run] using rest

theorem boot_idle (objectPools : List ObjectPool) : ¬ (Upload.boot objectPools).Stalled := by
  rintro ⟨progress, -⟩
  cases progress

/-- The client waits for an end that nothing will report exactly if it has missed one, in a state
other than `UploadObjectPool`. -/
theorem stalled_iff (objectPools : List ObjectPool) (steps : List UploadStep) :
    ((Upload.boot objectPools).run steps).Stalled ↔
      (Upload.boot objectPools).missed steps = true := by
  have runs := (boot_sound objectPools).run_stalls steps
  simpa [boot_idle objectPools] using runs

theorem run_append (upload : Upload) (steps more : List UploadStep) :
    upload.run (steps ++ more) = (upload.run steps).run more :=
  List.foldl_append

theorem Upload.Sound.stays {upload : Upload} (sound : upload.Sound) (stalled : upload.Stalled)
    (steps : List UploadStep) : upload.history steps = [] ∧ (upload.run steps).Stalled := by
  induction steps generalizing upload with
  | nil => exact ⟨rfl, stalled⟩
  | cons step steps ih =>
    have next : (upload.next step).Stalled := (sound.stalls step).mpr (.inl stalled)
    obtain ⟨silent, last⟩ := ih (sound.next step) next
    have here : upload.events step = [] := by
      cases sound.turn step with
      | waits busy still kept silent ended => exact silent
      | rests free => exact absurd stalled.1 free
      | begins free => exact absurd stalled.1 free
      | ends busy opened => simp [stalled.2] at opened
    refine ⟨?_, last⟩
    rw [Upload.history, here, silent]
    rfl

/-- Once the end of a transfer is missed, no pool is transferred or completed ever again. -/
theorem upload_stalls (objectPools : List ObjectPool) (steps more : List UploadStep)
    (missed : (Upload.boot objectPools).missed steps = true) :
    ((Upload.boot objectPools).run steps).history more = [] ∧
      ((Upload.boot objectPools).run (steps ++ more)).Stalled := by
  have sound := (boot_sound objectPools).run steps
  rw [run_append]
  exact sound.stays (((boot_sound objectPools).run_stalls steps).mpr (.inr missed)) more

def negativeAcknowledge : ProgramStep :=
  .receive { group := .acknowledge, data := [1, 0xFF, 0xFF, 0xFF, 0xFF, 0x00, 0xE7, 0x00]
             broadcast := false, toUs := true, fromPartner := true }

-- The terminal refuses a message during the transfer, and the transfer ends after that.
def missedSteps : List UploadStep :=
  (connectInputs.take 16).map .program ++
    [negativeAcknowledge, .transferEnds true].map fun step =>
      .program { step, time := 20, accepts := [] }

theorem upload_stalls_sample :
    ((Upload.boot [ld20]).run missedSteps).history missedSteps = [] ∧
      ((Upload.boot [ld20]).run (missedSteps ++ missedSteps)).Stalled :=
  upload_stalls [ld20] missedSteps missedSteps (by decide +kernel)

def ObjectPool.transferMessage (pool : ObjectPool) : List UInt8 :=
  objectPoolTransferMessage :: (pool.objectPoolData.getD []).take pool.objectPoolSize.toNat

theorem transferMessage_length {pool : ObjectPool} (needs : pool.needsTransfer = true) :
    pool.transferMessage.length = pool.objectPoolSize.toNat + 1 := by
  cases stored : pool.objectPoolData with
  | none => simp [ObjectPool.needsTransfer, ObjectPool.hasData, stored] at needs
  | some data =>
    have enough := pool.complete data stored
    simp [ObjectPool.transferMessage, stored, enough]

theorem gives_pool {client : VtClient} {pool : ObjectPool} (alone : client.objectPools = [pool])
    (unmarked : pool.uploaded = false) (needs : pool.needsTransfer = true)
    (fits : pool.objectPoolSize.toNat + 1 < 2 ^ 32) :
    Gives client.dataChunkCallback pool.transferMessage := by
  intro index count some_bytes within
  rw [transferMessage_length needs] at within
  have indexed : (UInt32.ofNat index).toNat = index :=
    UInt32.toNat_ofNat_of_lt' (show index < 2 ^ 32 by omega)
  have counted : (UInt32.ofNat count).toNat = count :=
    UInt32.toNat_ofNat_of_lt' (show count < 2 ^ 32 by omega)
  have asked : UInt32.ofNat count ≠ 0 := by
    intro none
    rw [none] at counted
    simp at counted
    omega
  have inside : ¬ pool.objectPoolSize + 1 < UInt32.ofNat index + UInt32.ofNat count := by
    rw [UInt32.lt_iff_toNat_lt, UInt32.toNat_add, UInt32.toNat_add, indexed, counted]
    have one : (1 : UInt32).toNat = 1 := rfl
    rw [one]
    omega
  unfold VtClient.dataChunkCallback VtClient.processInternalObjectPoolUploadCallback
  rw [if_neg asked, alone]
  simp only [List.find?_cons, unmarked, Bool.not_false, if_neg inside]
  cases index with
  | zero =>
    have less : (UInt32.ofNat count - 1).toNat = count - 1 := by
      rw [UInt32.toNat_sub_of_le _ _ (by rw [UInt32.le_iff_toNat_le, counted]; exact some_bytes),
        counted]
      rfl
    have start : UInt32.ofNat 0 = 0 := rfl
    rw [if_pos start, less]
    obtain ⟨count, rfl⟩ := Nat.exists_eq_add_one_of_ne_zero (Nat.pos_iff_ne_zero.mp some_bytes)
    simp only [ObjectPool.transferMessage, List.drop_zero, List.take_succ_cons, List.take_take]
    rw [Nat.add_sub_cancel, Nat.min_eq_left (by omega)]
  | succ index =>
    have later : UInt32.ofNat (index + 1) ≠ 0 := by
      intro none
      rw [none] at indexed
      simp at indexed
    have less : (UInt32.ofNat (index + 1) - 1).toNat = index := by
      rw [UInt32.toNat_sub_of_le _ _ (by rw [UInt32.le_iff_toNat_le, indexed]; exact Nat.succ_pos _),
        indexed]
      rfl
    rw [if_neg later, less, counted]
    simp only [ObjectPool.transferMessage, List.drop_succ_cons, List.drop_take, List.take_take]
    rw [Nat.min_eq_left (by omega)]

structure Upload.Reads (pool : ObjectPool) (upload : Upload) : Prop where
  alone : upload.program.client.objectPools.map ObjectPool.unmarked = [pool.unmarked]
  shows : ∀ data, upload.transfer = some data → data.Reflects pool.transferMessage

section OnePool

variable {pool : ObjectPool} {upload : Upload}

theorem Upload.Reads.gives (reads : upload.Reads pool) (sound : upload.Sound)
    (opened : upload.transfer.isSome = true) (fits : pool.objectPoolSize.toNat + 1 < 2 ^ 32) :
    Gives upload.program.client.dataChunkCallback pool.transferMessage := by
  obtain ⟨-, -, other, member, needs, unmarked⟩ := sound.busy (sound.opened opened)
  obtain ⟨known, alone, same⟩ := List.map_eq_singleton_iff.mp reads.alone
  have only : other = known := by
    have inside : other ∈ upload.program.client.objectPools := member
    rw [alone] at inside
    exact List.mem_singleton.mp inside
  subst only
  have message := congrArg ObjectPool.transferMessage same
  have size := congrArg ObjectPool.objectPoolSize same
  have whole : other.objectPoolSize.toNat + 1 < 2 ^ 32 := by
    change other.unmarked.objectPoolSize.toNat + 1 < 2 ^ 32
    rwa [size]
  have gives := gives_pool alone unmarked needs whole
  change Gives upload.program.client.dataChunkCallback pool.unmarked.transferMessage
  rw [← message]
  exact gives

theorem Upload.Reads.next (reads : upload.Reads pool) (sound : upload.Sound)
    (fits : pool.objectPoolSize.toNat + 1 < 2 ^ 32) (step : UploadStep) :
    (upload.next step).Reads pool := by
  cases step with
  | read index =>
    refine ⟨reads.alone, fun data read => ?_⟩
    obtain ⟨before, opened, rfl⟩ := Option.map_eq_some_iff.mp read
    have gives := reads.gives sound (by rw [opened]; rfl) fits
    exact (getByte_reflects gives (reads.shows before opened) index).2
  | program input =>
    cases ends : input.endsTransfer with
    | true =>
      cases opened : upload.transfer.isSome with
      | false =>
        rw [Upload.next_closed ends opened]
        exact reads
      | true =>
        obtain ⟨successful, client⟩ := client_ended upload.program ends
        rw [Upload.next_ended ends opened]
        refine ⟨?_, nofun⟩
        have same : (upload.program.client.processCallback successful).objectPools =
            upload.program.client.objectPools := by
          unfold VtClient.processCallback
          split <;> rfl
        have alone := reads.alone
        rwa [← same, ← client] at alone
    | false =>
      have path := path_goes upload ends
      rw [Upload.next_goes upload ends]
      refine ⟨(uploading_pools path).trans reads.alone, fun data opened => ?_⟩
      cases last : (begun (upload.events (.program input))).getLast? with
      | none =>
        simp only [last, Option.map_none, Option.none_or] at opened
        exact reads.shows data opened
      | some length =>
        simp only [last, Option.map_some, Option.some_or, Option.some.injEq] at opened
        obtain ⟨other, member, needs, same⟩ :=
          path_lengths path length (List.mem_of_getLast? last)
        have alone : upload.program.client.uploading.pools.map ObjectPool.unmarked =
            [pool.unmarked] := reads.alone
        rw [alone] at member
        obtain rfl := List.mem_singleton.mp member
        have whole : length.toNat = pool.transferMessage.length := by
          have needed : pool.needsTransfer = true := needs
          have one : (1 : UInt32).toNat = 1 := rfl
          rw [transferMessage_length needed, same, UInt32.toNat_add, one]
          exact Nat.mod_eq_of_lt fits
        rw [← opened, whole]
        exact reflects_create _

theorem run_reads (fits : pool.objectPoolSize.toNat + 1 < 2 ^ 32) (steps : List UploadStep) :
    ((Upload.boot [pool]).run steps).Reads pool := by
  have from_reads (upload : Upload) (sound : upload.Sound) (reads : upload.Reads pool) :
      (upload.run steps).Reads pool := by
    induction steps generalizing upload with
    | nil => exact reads
    | cons step steps ih => exact ih _ (sound.next step) (reads.next sound fits step)
  exact from_reads _ (boot_sound [pool]) ⟨rfl, nofun⟩

end OnePool

/-- In every run, whenever a byte of an open transfer is read, it is the byte of the pool, whatever
was read before and whatever has become of the connection. -/
theorem pool_bytes (pool : ObjectPool) (fits : pool.objectPoolSize.toNat + 1 < 2 ^ 32)
    (steps : List UploadStep) (index : Nat) :
    ((Upload.boot [pool]).run steps).byte index =
      ((Upload.boot [pool]).run steps).transfer.map fun _ =>
        pool.transferMessage.getD index 0 := by
  have reads := run_reads fits steps
  have sound := (boot_sound [pool]).run steps
  unfold Upload.byte
  cases opened : ((Upload.boot [pool]).run steps).transfer with
  | none => rfl
  | some data =>
    have gives := reads.gives sound (by rw [opened]; rfl) fits
    rw [Option.map_some, Option.map_some]
    rw [(getByte_reflects gives (reads.shows data opened) index).1]

def openSteps : List UploadStep :=
  (connectInputs.take 16).map .program ++ [.read 0, .read 1999, .read 5]

def openData : MessageDataCallback :=
  { totalSize := 2001, buffer := [4, 5, 6, 7, 8, 9, 10], dataOffset := 5, initialized := true }

theorem pool_bytes_sample :
    ((Upload.boot [ld20]).run openSteps).byte 2000 =
        (((Upload.boot [ld20]).run openSteps).transfer.map fun _ =>
          ld20.transferMessage.getD 2000 0) ∧
      ((Upload.boot [ld20]).run openSteps).byte 2000 = some 242 :=
  ⟨pool_bytes ld20 (by decide) openSteps 2000, by decide +kernel⟩

/-- The packets that the transport builds from an open transfer are those of the whole pool. -/
theorem pool_packets {κ : Type} (pool : ObjectPool)
    (fits : pool.objectPoolSize.toNat + 1 < 2 ^ 32) (steps : List UploadStep)
    {data : MessageDataCallback}
    (opened : ((Upload.boot [pool]).run steps).transfer = some data)
    (session : ExtendedTransport.Session κ) (carries : session.data = pool.transferMessage)
    (framesToSend : Nat) (effects : ExtendedTransport.Effects κ) :
    (ExtendedTransport.readPackets
        ((Upload.boot [pool]).run steps).program.client.dataChunkCallback framesToSend session data
        effects).1 =
      ExtendedTransport.sendPackets framesToSend session effects := by
  have reads := run_reads fits steps
  have sound := (boot_sound [pool]).run steps
  have gives := reads.gives sound (by rw [opened]; rfl) fits
  have shows := reads.shows data opened
  rw [← carries] at gives shows
  exact (ExtendedTransport.readPackets_reflects framesToSend gives shows effects).1

def poolSession : ExtendedTransport.Session Bool :=
  .create .transmit ld20.transferMessage ecuToVirtualTerminal 2001 true false true

theorem pool_packets_sample :
    (ExtendedTransport.readPackets
        ((Upload.boot [ld20]).run openSteps).program.client.dataChunkCallback 16 poolSession
        openData (.fresh 0 [true, true])).1 =
      ExtendedTransport.sendPackets 16 poolSession (.fresh 0 [true, true]) :=
  pool_packets ld20 (by decide) openSteps (by decide +kernel) poolSession rfl 16 _

end LittleDawn
