import LittleDawn.Isobus.Identifiers
import LittleDawn.Model.AddressClaim

set_option autoImplicit false

namespace LittleDawn.AddressClaim

def claimOf (frame : CANMessageFrame) : Option UInt8 :=
  if frame.canIdentifier.getParameterGroupNumber = addressClaim ∧ frame.data.length = 8 then
    some frame.canIdentifier.getSourceAddress
  else none

-- The last claim of the control function, and whether that address or its NAME has been claimed by
-- somebody else since it last claimed an address that can be used.
structure Account where
  claimed : UInt8
  disputed : Bool
  deriving DecidableEq, Repr

def Account.start : Account :=
  { claimed := nullCanAddress, disputed := false }

def Account.next (name : NAME) (account : Account) : Event → Account
  | .sent frame =>
    match claimOf frame with
    | none => account
    | some address =>
      { claimed := address
        disputed := account.disputed && !decide (address < nullCanAddress) }
  | .heard frame =>
    match claimOf frame with
    | none => account
    | some address =>
      { account with
        disputed := account.disputed ||
          decide (address = account.claimed ∧ address < nullCanAddress ∨
            uint64At frame.data 0 = name.rawName) }

def account (name : NAME) (log : List Event) : Account :=
  log.foldl (Account.next name) .start

theorem account_snoc (name : NAME) (log : List Event) (event : Event) :
    account name (log ++ [event]) = (account name log).next name event := by
  rw [account, List.foldl_append]
  rfl

def Event.sent? : Event → Option CANMessageFrame
  | sent frame => some frame
  | heard _ => none

def sentFrames (log : List Event) : List CANMessageFrame :=
  log.filterMap Event.sent?

theorem sentFrames_append (log more : List Event) :
    sentFrames (log ++ more) = sentFrames log ++ sentFrames more :=
  List.filterMap_append

theorem sentFrames_sent (frames : List CANMessageFrame) :
    sentFrames (frames.map .sent) = frames := by
  simp [sentFrames, List.filterMap_map, Function.comp_def, Event.sent?]

theorem broadcast_extended {source : UInt8} {group : UInt32} {data : List UInt8}
    {frame : CANMessageFrame}
    (built : constructFrame source broadcastCanAddress group priorityDefault6 data = some frame) :
    frame.canIdentifier.getIdentifierType = .extended := by
  cases format : frame.canIdentifier.getIdentifierType with
  | extended => rfl
  | standard =>
    have zero : priorityDefault6 = 0 := ((frame_standard built).mp format).1
    cases zero

theorem construct_claim (source : UInt8) (name : NAME) :
    ∃ frame, constructFrame source broadcastCanAddress addressClaim priorityDefault6 name.bytes =
      some frame ∧ claimOf frame = some source := by
  refine ⟨_, rfl, ?_⟩
  have built : constructFrame source broadcastCanAddress addressClaim priorityDefault6 name.bytes =
    some _ := rfl
  have extended := broadcast_extended built
  have group := (frame_group built extended).trans (by decide : _ = addressClaim)
  rw [claimOf, if_pos ⟨group, rfl⟩, frame_source built extended]

def requestFrame : CANMessageFrame :=
  { identifier := 0x18EAFFFE, data := [0x00, 0xEE, 0x00], isExtendedFrame := true }

theorem construct_request :
    constructFrame nullCanAddress broadcastCanAddress parameterGroupNumberRequest priorityDefault6
      [0x00, 0xEE, 0x00] = some requestFrame := by
  decide

structure Sound (ecu : InternalControlFunction) : Prop where
  preferred : ecu.preferredAddress ≠ broadcastCanAddress
  next : ecu.state = .sendPreferredAddressClaim ∨ ecu.state = .contendForPreferredAddress →
    ecu.preferredAddress < nullCanAddress
  address : ecu.address < broadcastCanAddress

def State.Early (state : State) : Prop :=
  state = .none ∨ state = .waitForClaim ∨ state = .sendRequestForClaim

def State.Held (state : State) : Prop :=
  state = .addressClaimingComplete ∨ state = .sendReclaimAddressOnRequest

instance (state : State) : Decidable state.Held :=
  inferInstanceAs (Decidable (_ ∨ _))

structure Stays (ecu next : InternalControlFunction) : Prop where
  sound : Sound next
  name : next.controlFunctionNAME = ecu.controlFunctionNAME
  address : next.address = ecu.address
  held : next.state.Held → ecu.state.Held

structure Claimed (ecu next : InternalControlFunction) (taken : UInt8) : Prop where
  sound : Sound next
  name : next.controlFunctionNAME = ecu.controlFunctionNAME
  address : next.address = taken
  held : next.state.Held → taken < nullCanAddress ∨ ecu.state.Held ∧ taken = ecu.address

inductive Follows (ecu next : InternalControlFunction) : List CANMessageFrame → Prop where
  | quiet (stays : Stays ecu next) (early : ecu.state.Early → next.state.Early) :
      Follows ecu next []
  | asks (stays : Stays ecu next) : Follows ecu next [requestFrame]
  | claims {frame : CANMessageFrame} {address : UInt8} (claim : claimOf frame = some address)
      (claimed : Claimed ecu next address) (late : ¬ ecu.state.Early) : Follows ecu next [frame]

variable {ecu : InternalControlFunction} {port : ClaimPort} {table : ControlFunctionTable}

theorem follows_self (sound : Sound ecu) : Follows ecu ecu [] :=
  .quiet ⟨sound, rfl, rfl, id⟩ id

theorem sendAddressClaim_sends {address : UInt8} (below : address < broadcastCanAddress)
    (ecu : InternalControlFunction) (port : ClaimPort) :
    ∃ sent next after, sendAddressClaim ecu port address = some (sent, next, after) ∧
      (sent = true ∧ next = { ecu with address } ∧
          (∃ frame, claimOf frame = some address ∧ after.sent = port.sent ++ [frame]) ∨
        sent = false ∧ next = ecu ∧ after.sent = port.sent) := by
  obtain ⟨frame, built, claims⟩ := construct_claim address ecu.controlFunctionNAME
  have outcome := Port.transmit_sent port frame
  unfold sendAddressClaim sendCanMessageRaw
  rw [if_pos below, built]
  dsimp only
  cases taken : port.transmit frame with
  | mk sent after =>
    rw [taken] at outcome
    cases sent with
    | true => exact ⟨_, _, _, rfl, .inl ⟨rfl, rfl, frame, claims, outcome⟩⟩
    | false => exact ⟨_, _, _, rfl, .inr ⟨rfl, rfl, outcome⟩⟩

theorem Sound.enters (sound : Sound ecu) (now : UInt32) {value : State}
    (other : value ≠ .sendPreferredAddressClaim ∧ value ≠ .contendForPreferredAddress) :
    Sound (ecu.setCurrentState now value) := by
  refine ⟨sound.preferred, ?_, sound.address⟩
  rintro (here | here)
  · exact absurd here other.1
  · exact absurd here other.2

theorem Sound.prefers (sound : Sound ecu) (valid : ecu.preferredAddress < nullCanAddress)
    (now : UInt32) (value : State) : Sound (ecu.setCurrentState now value) :=
  ⟨sound.preferred, fun _ => valid, sound.address⟩

theorem Sound.moved (sound : Sound ecu) {address : UInt8} (below : address < broadcastCanAddress) :
    Sound { ecu with address } :=
  ⟨sound.preferred, sound.next, below⟩

theorem stays_enters {now : UInt32} {value : State} (other : ¬ value.Held)
    (sound : Sound (ecu.setCurrentState now value)) :
    Stays ecu (ecu.setCurrentState now value) :=
  ⟨sound, rfl, rfl, fun held => absurd held other⟩

def Goes (ecu : InternalControlFunction) (port : ClaimPort)
    (result : Option (Bool × InternalControlFunction × ClaimPort)) : Prop :=
  ∃ flag next after sent, result = some (flag, next, after) ∧ after.sent = port.sent ++ sent ∧
    Follows ecu next sent

theorem goes_quiet {next : InternalControlFunction} (flag : Bool) (stays : Stays ecu next)
    (early : ecu.state.Early → next.state.Early) : Goes ecu port (some (flag, next, port)) :=
  ⟨flag, next, port, [], rfl, (List.append_nil _).symm, .quiet stays early⟩

-- Every claim of the source ends in one of two ways, by whether the bus takes the frame.
theorem goes_send {start : InternalControlFunction} {address : UInt8}
    (below : address < broadcastCanAddress) (late : ¬ ecu.state.Early)
    (ended failed : ClaimPort → InternalControlFunction)
    (finish : Bool × InternalControlFunction × ClaimPort →
      Bool × InternalControlFunction × ClaimPort)
    (ends : ∀ after, (finish (true, { start with address }, after)).2 = (ended after, after))
    (fails : ∀ after, (finish (false, start, after)).2 = (failed after, after))
    (claims : ∀ after, Claimed ecu (ended after) address)
    (stays : ∀ after, Stays ecu (failed after)) :
    Goes ecu port ((sendAddressClaim start port address).map finish) := by
  obtain ⟨sent, next, after, same, ⟨rfl, rfl, frame, claim, grows⟩ | ⟨rfl, rfl, quiet⟩⟩ :=
    sendAddressClaim_sends below start port
  · refine ⟨(finish (true, { start with address }, after)).1, ended after, after, [frame], ?_,
      grows, .claims claim (claims after) late⟩
    rw [same, Option.map_some, ← ends after]
  · refine ⟨(finish (false, next, after)).1, failed after, after, [], ?_, ?_,
      .quiet (stays after) fun early => absurd early late⟩
    · rw [same, Option.map_some, ← fails after]
    · rw [quiet, List.append_nil]

theorem unableToClaim_goes (sound : Sound ecu) (late : ¬ ecu.state.Early) :
    Goes ecu port (unableToClaim ecu port) := by
  have unable : ¬ State.unableToClaim.Held := by decide
  have entered := sound.enters port.now (show State.unableToClaim ≠ _ ∧ _ ≠ _ by decide)
  have below : (0xFE : UInt8) < broadcastCanAddress := by decide
  exact goes_send below late
    (fun _ => { ecu.setCurrentState port.now .unableToClaim with address := 0xFE })
    (fun _ => ecu.setCurrentState port.now .unableToClaim) _ (fun _ => rfl) (fun _ => rfl)
    (fun _ => ⟨entered.moved below, rfl, rfl, fun held => absurd held unable⟩)
    fun _ => stays_enters unable entered

theorem claimPreferredAddress_goes (sound : Sound ecu)
    (state : ecu.state = .sendPreferredAddressClaim ∨ ecu.state = .contendForPreferredAddress) :
    Goes ecu port (claimPreferredAddress ecu port) := by
  have valid := sound.next state
  have below := UInt8.lt_trans valid (by decide : nullCanAddress < broadcastCanAddress)
  have late : ¬ ecu.state.Early := by
    rcases state with state | state <;> simp [State.Early, state]
  refine goes_send below late
    (fun after => { ecu with address := ecu.preferredAddress }.setCurrentState after.now
      .addressClaimingComplete) (fun after => ecu.setCurrentState after.now .none) _
    (fun _ => rfl) (fun _ => rfl) ?_ ?_
  · intro after
    exact ⟨(sound.moved below).enters after.now (by decide), rfl, rfl, fun _ => .inl valid⟩
  · intro after
    exact stays_enters (by decide) (sound.enters after.now (by decide))

theorem reclaim_goes (sound : Sound ecu) (state : ecu.state = .sendReclaimAddressOnRequest) :
    Goes ecu port ((sendAddressClaim ecu port ecu.address).map fun (sent, ecu, port) =>
      if sent then (true, ecu.setCurrentState port.now .addressClaimingComplete, port)
      else (false, ecu, port)) := by
  have late : ¬ ecu.state.Early := by simp [State.Early, state]
  refine goes_send sound.address late
    (fun after => ecu.setCurrentState after.now .addressClaimingComplete) (fun _ => ecu) _
    (fun _ => rfl) (fun _ => rfl) ?_ fun _ => ⟨sound, rfl, rfl, id⟩
  intro after
  exact ⟨sound.enters after.now (by decide), rfl, rfl, fun _ => .inr ⟨.inr state, rfl⟩⟩

theorem endAddress_le (name : NAME) : (endAddress name).toNat ≤ 247 := by
  unfold endAddress
  split <;> decide

theorem dynamicAddresses_valid (name : NAME) :
    ∀ address ∈ dynamicAddresses name, address < nullCanAddress := by
  intro address member
  obtain ⟨number, range, rfl⟩ := List.mem_map.mp member
  have limit := endAddress_le name
  have bound := List.mem_range'_1.mp range
  have null : nullCanAddress.toNat = 254 := rfl
  rw [UInt8.lt_iff_toNat_lt, UInt8.toNat_ofNat', null]
  omega

theorem claimArbitraryAddress_goes (sound : Sound ecu) (late : ¬ ecu.state.Early)
    {addresses : List UInt8} (valid : ∀ address ∈ addresses, address < nullCanAddress) :
    Goes ecu port (claimArbitraryAddress table ecu port addresses) := by
  induction addresses generalizing port with
  | nil => exact unableToClaim_goes sound late
  | cons address rest ih =>
    have here := valid address List.mem_cons_self
    have others : ∀ address ∈ rest, address < nullCanAddress :=
      fun address member => valid address (List.mem_cons_of_mem _ member)
    have below := UInt8.lt_trans here (by decide : nullCanAddress < broadcastCanAddress)
    unfold claimArbitraryAddress
    split
    -- A claim that is refused leaves only the port behind, and the loop goes on with it.
    · obtain ⟨sent, next, after, same, ⟨rfl, rfl, frame, claim, grows⟩ | ⟨rfl, rfl, quiet⟩⟩ :=
        sendAddressClaim_sends below ecu port
      · rw [same]
        refine ⟨_, _, _, [frame], rfl, grows, .claims claim ⟨?_, ?_, ?_, fun _ => .inl here⟩ late⟩
        · refine Sound.enters ?_ after.now (by decide)
          split
          · exact ⟨UInt8.ne_of_lt below, fun _ => here, below⟩
          · exact sound.moved below
        · split <;> rfl
        · split <;> rfl
      · rw [same]
        obtain ⟨flag, final, last, sent, result, grows, follows⟩ : Goes next after
            (claimArbitraryAddress table next after rest) := ih others
        exact ⟨flag, final, last, sent, result, by rw [grows, quiet], follows⟩
    · exact ih others

theorem contend_sound (sound : Sound ecu) (now : UInt32) {next : State}
    (contends : contend table ecu = some next) :
    Sound (ecu.setCurrentState now next) ∧ ¬ next.Held := by
  have below (device : NAME) (found : (if ecu.preferredAddress ≠ nullCanAddress then
      getControlFunction table ecu.preferredAddress else none) = some device) :
      ecu.preferredAddress < nullCanAddress := by
    split at found
    · unfold getControlFunction at found
      split at found
      · assumption
      · cases found
    · cases found
  have free (valid : ecu.preferredAddress ≠ nullCanAddress) :
      ecu.preferredAddress < nullCanAddress := by
    have null : nullCanAddress.toNat = 254 := rfl
    have broadcast : broadcastCanAddress.toNat = 255 := rfl
    have top := ecu.preferredAddress.toNat_lt
    have preferred := sound.preferred
    rw [← UInt8.toNat_inj.ne] at valid preferred
    rw [UInt8.lt_iff_toNat_lt]
    omega
  unfold contend at contends
  dsimp only at contends
  generalize holder : (if ecu.preferredAddress ≠ nullCanAddress then
    getControlFunction table ecu.preferredAddress else none) = device at contends
  split at contends
  · rename_i open_address
    cases contends
    exact ⟨sound.prefers (free open_address.2) now _, by decide⟩
  split at contends
  · cases contends
    exact ⟨sound.enters now (by decide), by decide⟩
  split at contends
  · split at contends
    · cases contends
      exact ⟨sound.prefers (below _ holder) now _, by decide⟩
    · cases contends
  · cases contends

theorem update_goes (sound : Sound ecu) (table : ControlFunctionTable) (port : ClaimPort) :
    Goes ecu port (updateAddressClaiming table ecu port) := by
  have moves (now : UInt32) (value : State) (early : value.Early)
      (other : value ≠ .sendPreferredAddressClaim ∧ value ≠ .contendForPreferredAddress)
      (free : ¬ value.Held) : Goes ecu port (some (false, ecu.setCurrentState now value, port)) :=
    goes_quiet false (stays_enters free (sound.enters now other)) fun _ => early
  have stays (flag : Bool) : Goes ecu port (some (flag, ecu, port)) :=
    goes_quiet flag ⟨sound, rfl, rfl, id⟩ id
  unfold updateAddressClaiming
  cases state : ecu.state with
  | none => exact moves port.now .waitForClaim (.inr (.inl rfl)) (by decide) (by decide)
  | waitForClaim =>
    dsimp only
    split
    · exact moves port.now .sendRequestForClaim (.inr (.inr rfl)) (by decide) (by decide)
    · exact stays false
  | sendRequestForClaim =>
    have asks : sendRequestToClaim port = port.transmit requestFrame := by
      rw [sendRequestToClaim, sendCanMessageRaw, construct_request]
    have outcome := Port.transmit_sent port requestFrame
    dsimp only
    rw [asks]
    cases taken : port.transmit requestFrame with
    | mk sent after =>
      rw [taken] at outcome
      cases sent with
      | true =>
        have waits := stays_enters (by decide)
          (sound.enters after.now (show State.waitForRequestContentionPeriod ≠ _ ∧ _ ≠ _
            by decide))
        exact ⟨_, _, _, [requestFrame], rfl, outcome, .asks waits⟩
      | false =>
        exact ⟨_, _, _, [], rfl, outcome.trans (List.append_nil _).symm, follows_self sound⟩
  | waitForRequestContentionPeriod =>
    have late : ¬ ecu.state.Early := by simp [State.Early, state]
    dsimp only
    split
    · split
      · rename_i next contends
        obtain ⟨entered, free⟩ := contend_sound sound port.now contends
        exact goes_quiet false (stays_enters free entered)
          fun early => absurd early late
      · exact unableToClaim_goes sound late
    · exact stays false
  | sendPreferredAddressClaim => exact claimPreferredAddress_goes sound (.inl state)
  | contendForPreferredAddress => exact claimPreferredAddress_goes sound (.inr state)
  | sendArbitraryAddressClaim =>
    have late : ¬ ecu.state.Early := by simp [State.Early, state]
    exact claimArbitraryAddress_goes sound late (dynamicAddresses_valid _)
  | sendReclaimAddressOnRequest => exact reclaim_goes sound state
  | unableToClaim => exact stays false
  | addressClaimingComplete => exact stays false

structure Allowed (message : CANMessage) : Prop where
  request : message.identifier.getParameterGroupNumber = parameterGroupNumberRequest →
    3 ≤ message.data.length
  command : message.identifier.getParameterGroupNumber = commandedAddress →
    message.data.length = 9 → message.data.getD 8 0 < nullCanAddress

theorem late_complete (state : ecu.state = .addressClaimingComplete) : ¬ ecu.state.Early := by
  simp [State.Early, state]

theorem follows_reclaims (sound : Sound ecu) (now : UInt32)
    (state : ecu.state = .addressClaimingComplete) :
    Follows ecu (ecu.setCurrentState now .sendReclaimAddressOnRequest) [] :=
  .quiet ⟨sound.enters now (by decide), rfl, rfl, fun _ => .inl state⟩
    fun early => absurd early (late_complete state)

theorem violation_follows (sound : Sound ecu) (now : UInt32) (message : CANMessage) :
    Follows ecu (processRxMessageForAddressViolation ecu now message) [] := by
  unfold processRxMessageForAddressViolation
  dsimp only
  split
  · rename_i violated
    exact follows_reclaims sound now violated.2.2.2
  · exact follows_self sound

theorem commanded_follows (sound : Sound ecu) (table : ControlFunctionTable) (now : UInt32)
    {address : UInt8} (valid : address < nullCanAddress) :
    Follows ecu (processCommandedAddress table ecu now address) [] := by
  have commanded : Sound { ecu with preferredAddress := address } :=
    ⟨UInt8.ne_of_lt (UInt8.lt_trans valid (by decide)), fun _ => valid, sound.address⟩
  unfold processCommandedAddress
  split
  · rename_i complete
    have late := late_complete complete.1
    have quiet {next : InternalControlFunction} (stays : Stays ecu next) : Follows ecu next [] :=
      .quiet stays fun early => absurd early late
    dsimp only
    split
    · exact quiet ⟨commanded.prefers valid now _, rfl, rfl, fun _ => .inl complete.1⟩
    · split
      · exact quiet ⟨commanded.prefers valid now _, rfl, rfl, fun _ => .inl complete.1⟩
      · exact quiet ⟨commanded, rfl, rfl, id⟩
  · exact follows_self sound

theorem received_follows (sound : Sound ecu) (table : ControlFunctionTable) (now : UInt32)
    {message : CANMessage} (allowed : Allowed message) :
    ∃ next, processRxMessageForAddressClaiming table ecu now message = some next ∧
      Follows ecu next [] := by
  unfold processRxMessageForAddressClaiming
  split
  · rename_i request
    rw [if_neg (Nat.not_lt.mpr (allowed.request request))]
    split
    · rename_i asked
      exact ⟨_, rfl, follows_reclaims sound now asked.2.2⟩
    · exact ⟨_, rfl, follows_self sound⟩
  split
  · rename_i command
    split
    · rename_i named
      exact ⟨_, rfl, commanded_follows sound table now (allowed.command command named.2.1)⟩
    · exact ⟨_, rfl, follows_self sound⟩
  · exact ⟨_, rfl, follows_self sound⟩

-- Other commanded addresses are obeyed as well: the null address is then held like any other, and
-- the one for broadcasts fails the assertion.
theorem commanded_invalid (complete : ecu.state = .addressClaimingComplete)
    (capable : ecu.controlFunctionNAME.getArbitraryAddressCapable = true)
    (table : ControlFunctionTable) (now later : UInt32) (accepts : List Bool) :
    (∃ next after, updateAddressClaiming table
          (processCommandedAddress table ecu now nullCanAddress) (.fresh later (true :: accepts)) =
        some (true, next, after) ∧ next.state = .addressClaimingComplete ∧
        next.address = nullCanAddress) ∧
      updateAddressClaiming table (processCommandedAddress table ecu now broadcastCanAddress)
        (.fresh later (true :: accepts)) = none := by
  have obeys {address : UInt8} (invalid : ¬ address < nullCanAddress) :
      processCommandedAddress table ecu now address =
        { ecu with preferredAddress := address }.setCurrentState now
          .sendPreferredAddressClaim := by
    simp [processCommandedAddress, complete, capable, getControlFunction, invalid]
  rw [obeys (by decide), obeys (by decide)]
  exact ⟨⟨_, _, rfl, rfl, rfl⟩, rfl⟩

structure Contested (ecu next : InternalControlFunction) (rxFrame : CANMessageFrame)
    (claimed : UInt8) : Prop where
  claim : claimOf rxFrame = some claimed
  disputes : uint64At rxFrame.data 0 = ecu.controlFunctionNAME.rawName ∨ ecu.address = claimed
  name : next.controlFunctionNAME = ecu.controlFunctionNAME
  preferred : next.preferredAddress = ecu.preferredAddress
  state : next.state = ecu.state ∨ ecu.state = .addressClaimingComplete ∧
    (next.state = .sendReclaimAddressOnRequest ∨ next.state = .waitForRequestContentionPeriod)
  address : next.address = ecu.address ∨ next.address = nullCanAddress ∨
    next.address = claimed ∧ claimed < nullCanAddress ∧
      uint64At rxFrame.data 0 = ecu.controlFunctionNAME.rawName

theorem loseAddress_contests {rxFrame : CANMessageFrame} {claimed : UInt8}
    (claim : claimOf rxFrame = some claimed) (same : ecu.address = claimed) (now : UInt32) :
    Contested ecu (loseAddress ecu now (uint64At rxFrame.data 0)) rxFrame claimed := by
  unfold loseAddress
  split
  · split
    · rename_i won
      exact ⟨claim, .inr same, rfl, rfl, .inr ⟨won.2, .inl rfl⟩, .inl rfl⟩
    · dsimp only
      split
      · rename_i complete
        exact ⟨claim, .inr same, rfl, rfl, .inr ⟨complete, .inr rfl⟩, .inr (.inl rfl)⟩
      · exact ⟨claim, .inr same, rfl, rfl, .inl rfl, .inr (.inl rfl)⟩
  · exact ⟨claim, .inr same, rfl, rfl, .inl rfl, .inr (.inl rfl)⟩

theorem Contested.cleared {next : InternalControlFunction} {rxFrame : CANMessageFrame}
    {claimed : UInt8} (contested : Contested ecu next rxFrame claimed) :
    Contested ecu { next with address := nullCanAddress } rxFrame claimed :=
  ⟨contested.claim, contested.disputes, contested.name, contested.preferred, contested.state,
    .inr (.inl rfl)⟩

theorem heard_cases (ecu : InternalControlFunction) (now : UInt32) (kept : Bookkeeping)
    (rxFrame : CANMessageFrame) :
    updateControlFunctions ecu now kept rxFrame = ecu ∨
      ∃ claimed, Contested ecu (updateControlFunctions ecu now kept rxFrame) rxFrame claimed := by
  unfold updateControlFunctions
  split
  · rename_i claims
    have claim : claimOf rxFrame = some rxFrame.canIdentifier.getSourceAddress := if_pos claims
    generalize rxFrame.canIdentifier.getSourceAddress = claimed at claim ⊢
    dsimp only
    by_cases found : (kept.found &&
        uint64At rxFrame.data 0 = ecu.controlFunctionNAME.rawName) = true
    · have named : uint64At rxFrame.data 0 = ecu.controlFunctionNAME.rawName :=
        of_decide_eq_true (Bool.and_eq_true_iff.mp found).2
      simp only [found, not_true_eq_false, false_and, and_false, if_false, true_and]
      split
      · rename_i moves
        exact .inr ⟨claimed, claim, .inl named, rfl, rfl, .inl rfl,
          .inr (.inr ⟨rfl, moves.2, named⟩)⟩
      · exact .inl rfl
    · simp only [found, Bool.false_eq_true, not_false_eq_true, true_and, false_and, if_false]
      by_cases same : ecu.address = claimed
      · refine .inr ⟨claimed, ?_⟩
        have lost : Contested ecu (if kept.listed ∧ ecu.address = claimed then
            loseAddress ecu now (uint64At rxFrame.data 0) else ecu) rxFrame claimed := by
          split
          · exact loseAddress_contests claim same now
          · exact ⟨claim, .inr same, rfl, rfl, .inl rfl, .inl rfl⟩
        generalize (if kept.listed ∧ ecu.address = claimed then _ else _) = next at lost ⊢
        split
        · exact lost.cleared
        · exact lost
      · simp [same]
  · exact .inl rfl

structure Accounted (name : NAME) (log : List Event) (ecu : InternalControlFunction) : Prop where
  named : ecu.controlFunctionNAME = name
  agrees : (account name log).disputed = false → ecu.address = (account name log).claimed
  valid : (account name log).disputed = false → ecu.state.Held → ecu.address < nullCanAddress
  known : ecu.address = (account name log).claimed ∨ ecu.address = nullCanAddress ∨
    ∃ frame, .heard frame ∈ log ∧ claimOf frame = some ecu.address ∧
      uint64At frame.data 0 = name.rawName

section Account

variable {name : NAME} {log : List Event} {next : InternalControlFunction}

theorem Accounted.stays (accounted : Accounted name log ecu) (stays : Stays ecu next) :
    Accounted name log next := by
  refine ⟨stays.name.trans accounted.named, ?_, ?_, ?_⟩
  · rw [stays.address]
    exact accounted.agrees
  · rw [stays.address]
    exact fun calm held => accounted.valid calm (stays.held held)
  · rw [stays.address]
    exact accounted.known

theorem Accounted.later (accounted : Accounted name log ecu) {event : Event}
    (same : account name (log ++ [event]) = account name log) :
    Accounted name (log ++ [event]) ecu := by
  refine ⟨accounted.named, ?_, ?_, ?_⟩ <;> rw [same]
  · exact accounted.agrees
  · exact accounted.valid
  · rcases accounted.known with claimed | none | ⟨frame, heard, named⟩
    · exact .inl claimed
    · exact .inr (.inl none)
    · exact .inr (.inr ⟨frame, List.mem_append_left _ heard, named⟩)

theorem Accounted.claims (accounted : Accounted name log ecu) {frame : CANMessageFrame}
    {address : UInt8} (claim : claimOf frame = some address) (claimed : Claimed ecu next address) :
    Accounted name (log ++ [.sent frame]) next := by
  have told : account name (log ++ [.sent frame]) =
      { claimed := address
        disputed := (account name log).disputed && !decide (address < nullCanAddress) } := by
    rw [account_snoc, Account.next, claim]
  refine ⟨claimed.name.trans accounted.named, ?_, ?_, ?_⟩ <;> rw [told, claimed.address]
  · exact fun _ => rfl
  · intro calm held
    rcases claimed.held held with valid | ⟨before, same⟩
    · exact valid
    · rcases Bool.and_eq_false_iff.mp calm with undisputed | valid
      · rw [same]
        exact accounted.valid undisputed before
      · simpa using valid
  · exact .inl rfl

theorem Accounted.follows (accounted : Accounted name log ecu) {sent : List CANMessageFrame}
    (follows : Follows ecu next sent) : Accounted name (log ++ sent.map .sent) next := by
  cases follows with
  | quiet stays early => simpa using accounted.stays stays
  | asks stays =>
    refine (accounted.stays stays).later ?_
    have other : claimOf requestFrame = none := by decide
    rw [account_snoc, Account.next, other]
  | claims claim claimed late => exact accounted.claims claim claimed

theorem Accounted.hears (accounted : Accounted name log ecu) (sound : Sound ecu) (now : UInt32)
    (kept : Bookkeeping) (rxFrame : CANMessageFrame) :
    Accounted name (log ++ [.heard rxFrame]) (updateControlFunctions ecu now kept rxFrame) := by
  have grows : (account name (log ++ [.heard rxFrame])).claimed = (account name log).claimed ∧
      ((account name (log ++ [.heard rxFrame])).disputed = false →
        (account name log).disputed = false ∧ ∀ claimed, claimOf rxFrame = some claimed →
          ¬ (claimed = (account name log).claimed ∧ claimed < nullCanAddress) ∧
            uint64At rxFrame.data 0 ≠ name.rawName) := by
    rw [account_snoc, Account.next]
    cases claim : claimOf rxFrame with
    | none => exact ⟨rfl, fun calm => ⟨calm, nofun⟩⟩
    | some claimed =>
      refine ⟨rfl, fun calm => ?_⟩
      obtain ⟨before, quiet⟩ := Bool.or_eq_false_iff.mp calm
      refine ⟨before, fun other same => ?_⟩
      obtain rfl := Option.some.inj same
      exact not_or.mp (of_decide_eq_false quiet)
  obtain ⟨claimed_same, calms⟩ := grows
  have earlier : ecu.address = (account name log).claimed ∨ ecu.address = nullCanAddress ∨
      ∃ frame, .heard frame ∈ log ++ [.heard rxFrame] ∧ claimOf frame = some ecu.address ∧
        uint64At frame.data 0 = name.rawName := by
    rcases accounted.known with claimed | none | ⟨frame, heard, named⟩
    · exact .inl claimed
    · exact .inr (.inl none)
    · exact .inr (.inr ⟨frame, List.mem_append_left _ heard, named⟩)
  rcases heard_cases ecu now kept rxFrame with same | ⟨claimed, contested⟩
  · rw [same]
    refine ⟨accounted.named, fun calm => ?_, fun calm => accounted.valid (calms calm).1, ?_⟩
    · rw [claimed_same]
      exact accounted.agrees (calms calm).1
    · rw [claimed_same]
      exact earlier
  · generalize updateControlFunctions ecu now kept rxFrame = next at contested ⊢
    -- Without a dispute the claim is of the null address, and that is all the control function has.
    have quiet (calm : (account name (log ++ [.heard rxFrame])).disputed = false) :
        ecu.address = nullCanAddress ∧ next.address = ecu.address ∧ ¬ ecu.state.Held := by
      obtain ⟨before, undisputed⟩ := calms calm
      obtain ⟨free, other⟩ := undisputed claimed contested.claim
      rw [← accounted.named] at other
      have same := contested.disputes.resolve_left other
      have agrees := accounted.agrees before
      have invalid : ¬ ecu.address < nullCanAddress := fun valid =>
        free ⟨same.symm.trans agrees, same ▸ valid⟩
      have null : ecu.address = nullCanAddress := by
        have below := UInt8.lt_iff_toNat_lt.mp sound.address
        have least := mt UInt8.lt_iff_toNat_lt.mpr invalid
        have top : broadcastCanAddress.toNat = 255 := rfl
        have limit : nullCanAddress.toNat = 254 := rfl
        exact UInt8.toNat.inj (by omega)
      refine ⟨null, ?_, fun held => invalid (accounted.valid before held)⟩
      rcases contested.address with kept | none | ⟨-, -, named⟩
      · exact kept
      · exact none.trans null.symm
      · exact absurd named other
    refine ⟨contested.name.trans accounted.named, fun calm => ?_, fun calm held => ?_, ?_⟩
    · rw [claimed_same, (quiet calm).2.1]
      exact accounted.agrees (calms calm).1
    · have free := (quiet calm).2.2
      rcases contested.state with same | ⟨complete, -⟩
      · exact absurd (same ▸ held) free
      · exact absurd (.inl complete) free
    · rw [claimed_same]
      rcases contested.address with kept | none | ⟨moved, -, named⟩
      · rw [kept]
        exact earlier
      · exact .inr (.inl none)
      · refine .inr (.inr ⟨rxFrame, by simp, ?_, accounted.named ▸ named⟩)
        rw [moved]
        exact contested.claim

end Account

theorem Sound.hears (sound : Sound ecu) (now : UInt32) (kept : Bookkeeping)
    (rxFrame : CANMessageFrame) : Sound (updateControlFunctions ecu now kept rxFrame) := by
  rcases heard_cases ecu now kept rxFrame with same | ⟨claimed, contested⟩
  · rwa [same]
  · refine ⟨contested.preferred ▸ sound.preferred, ?_, ?_⟩
    · intro claims
      rw [contested.preferred]
      rcases contested.state with same | ⟨-, reclaims | waits⟩
      · exact sound.next (same ▸ claims)
      · simp [reclaims] at claims
      · simp [waits] at claims
    · rcases contested.address with same | none | ⟨moved, valid, -⟩
      · exact same ▸ sound.address
      · rw [none]
        decide
      · rw [moved]
        exact UInt8.lt_trans valid (by decide)

theorem hears_early (early : ecu.state.Early) (now : UInt32) (kept : Bookkeeping)
    (rxFrame : CANMessageFrame) :
    (updateControlFunctions ecu now kept rxFrame).state.Early := by
  rcases heard_cases ecu now kept rxFrame with same | ⟨claimed, contested⟩
  · rwa [same]
  · rcases contested.state with same | ⟨complete, -⟩
    · rwa [same]
    · exact absurd early (late_complete complete)

-- While it repeats its claim, a control function that loses its address ends up with none and takes
-- its claim for complete.
theorem repeated_lost (repeats : ecu.state = .sendReclaimAddressOnRequest)
    {rxFrame : CANMessageFrame} (claim : claimOf rxFrame = some ecu.address)
    (other : uint64At rxFrame.data 0 ≠ ecu.controlFunctionNAME.rawName)
    (table : ControlFunctionTable) (now later : UInt32) (accepts : List Bool) :
    ∃ next after, updateAddressClaiming table
        (updateControlFunctions ecu now { listed := true, inactive := false, found := false }
          rxFrame)
        (.fresh later (true :: accepts)) = some (true, next, after) ∧
      next.state = .addressClaimingComplete ∧ next.address = nullCanAddress := by
  have claims : rxFrame.canIdentifier.getParameterGroupNumber = addressClaim ∧
      rxFrame.data.length = 8 ∧ rxFrame.canIdentifier.getSourceAddress = ecu.address := by
    unfold claimOf at claim
    split at claim
    · rename_i claims
      exact ⟨claims.1, claims.2, Option.some.inj claim⟩
    · cases claim
  have lost : updateControlFunctions ecu now { listed := true, inactive := false, found := false }
      rxFrame = { ecu with address := nullCanAddress } := by
    simp [updateControlFunctions, claims, loseAddress, other, repeats]
  rw [lost]
  unfold updateAddressClaiming
  simp only [repeats]
  exact ⟨_, _, rfl, rfl, rfl⟩

def Input.Allowed (input : Input) : Prop :=
  match input.call with
  | .update | .hear _ _ => True
  | .receive message | .receiveFromProtocol message => AddressClaim.Allowed message

structure Reaches (name : NAME) (log : List Event) (ecu next : InternalControlFunction)
    (events : List Event) : Prop where
  sound : Sound next
  accounted : Accounted name (log ++ events) next
  early : ecu.state.Early →
    sentFrames events = [] ∧ next.state.Early ∨ sentFrames events = [requestFrame]

theorem Follows.sound {next : InternalControlFunction} {sent : List CANMessageFrame}
    (follows : Follows ecu next sent) : Sound next := by
  cases follows with
  | quiet stays | asks stays => exact stays.sound
  | claims claim claimed => exact claimed.sound

theorem Follows.reaches {name : NAME} {log : List Event} {next : InternalControlFunction}
    {sent : List CANMessageFrame} (follows : Follows ecu next sent)
    (accounted : Accounted name log ecu) : Reaches name log ecu next (sent.map .sent) := by
  refine ⟨follows.sound, accounted.follows follows, fun start => ?_⟩
  rw [sentFrames_sent]
  cases follows with
  | quiet stays early => exact .inl ⟨rfl, early start⟩
  | asks stays => exact .inr rfl
  | claims claim claimed late => exact absurd start late

theorem Follows.trans {next last : InternalControlFunction} (first : Follows ecu next [])
    (second : Follows next last []) : Follows ecu last [] := by
  cases first with
  | quiet one early =>
    cases second with
    | quiet two later =>
      exact .quiet ⟨two.sound, two.name.trans one.name, two.address.trans one.address,
        fun held => one.held (two.held held)⟩ fun start => later (early start)

theorem step_reaches {name : NAME} {log : List Event} (sound : Sound ecu)
    (accounted : Accounted name log ecu) {input : Input} (allowed : input.Allowed) :
    ∃ next events, step ecu input = some (next, events) ∧ Reaches name log ecu next events := by
  unfold Input.Allowed at allowed
  unfold step
  cases call : input.call with
  | update =>
    obtain ⟨flag, next, after, sent, result, grows, follows⟩ :=
      update_goes sound input.table (.fresh input.now input.accepts)
    have all : after.sent = sent := grows.trans (List.nil_append sent)
    dsimp only
    rw [result]
    exact ⟨next, after.sent.map .sent, rfl, by rw [all]; exact follows.reaches accounted⟩
  | hear rxFrame kept =>
    exact ⟨_, _, rfl, sound.hears input.now kept rxFrame,
      accounted.hears sound input.now kept rxFrame,
      fun early => .inl ⟨rfl, hears_early early input.now kept rxFrame⟩⟩
  | receive message =>
    rw [call] at allowed
    have violation := violation_follows sound input.now message
    obtain ⟨next, result, follows⟩ :=
      received_follows violation.sound input.table input.now allowed
    dsimp only
    rw [result]
    exact ⟨next, [], rfl, (violation.trans follows).reaches accounted⟩
  | receiveFromProtocol message =>
    rw [call] at allowed
    obtain ⟨next, result, follows⟩ := received_follows sound input.table input.now allowed
    dsimp only
    rw [result]
    exact ⟨next, [], rfl, follows.reaches accounted⟩

def sampleName : NAME :=
  { rawName := 0xA0008200AFE00001 }

def sampleUpdates (holders : List (UInt8 × NAME)) (times : List UInt32) : List Input :=
  times.map fun now =>
    { call := .update, now, accepts := [true], table := fun address => holders.lookup address }

def sampleInputs : List Input :=
  sampleUpdates [(0x80, ⟨1⟩)] [0, 100, 110, 120, 400, 410, 420] ++
    [{ call := .hear
          { identifier := 0x18EEFF81, data := [2, 0, 0, 0, 0, 0, 0, 0], isExtendedFrame := true }
          { listed := true, inactive := false, found := false }
       now := 430, accepts := [], table := fun _ => none }] ++
    sampleUpdates [(0x80, ⟨1⟩), (0x81, ⟨2⟩)] [690, 700, 710]

example : (run (.create sampleName 0x80 90) sampleInputs).map
    (fun last => (last.1.state, last.1.address, account sampleName last.2)) =
      some (.addressClaimingComplete, 0x82, { claimed := 0x82, disputed := false }) := by
  decide +kernel

end LittleDawn.AddressClaim
