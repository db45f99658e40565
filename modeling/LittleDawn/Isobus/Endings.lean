import LittleDawn.Isobus.Receiver

set_option autoImplicit false

namespace LittleDawn.ExtendedTransport

variable {κ : Type} {ours : κ → Bool} {configuration : Configuration}

def Frame.acknowledges (frame : Frame κ) : Bool :=
  frame.group = .connectionManagement ∧ frame.multiplexor = endOfMessageAcknowledgeMultiplexor

inductive Effects.Act : Effects κ → Effects κ → Prop where
  | speak (effects : Effects κ) (frame : Frame κ) (other : frame.acknowledges = false)
      (full : frame.data.length = 8) : Act effects (effects.send frame).2
  | close (effects : Effects κ) (session : Session κ) :
      Act effects (closeSession effects session false)

abbrev Effects.Acts : Effects κ → Effects κ → Prop :=
  Relation.ReflTransGen Effects.Act

theorem acts_send (effects : Effects κ) {frame : Frame κ} (other : frame.acknowledges = false)
    (full : frame.data.length = 8) : effects.Acts (effects.send frame).2 :=
  .single (.speak effects frame other full)

theorem acts_close (effects : Effects κ) (session : Session κ) :
    effects.Acts (closeSession effects session false) :=
  .single (.close effects session)

theorem other_acknowledges {source destination : κ} {multiplexor : UInt8} {bytes : List UInt8}
    {parameterGroupNumber : UInt32} (other : multiplexor ≠ endOfMessageAcknowledgeMultiplexor) :
    (connectionManagement source destination multiplexor bytes
      parameterGroupNumber).acknowledges = false :=
  decide_eq_false fun acknowledges => other acknowledges.2

theorem acts_abort (effects : Effects κ) (sender receiver : κ) (parameterGroupNumber : UInt32)
    (reason : ConnectionAbortReason) :
    effects.Acts (sendAbort effects sender receiver parameterGroupNumber reason) :=
  acts_send effects (other_acknowledges (by decide)) rfl

theorem acts_abortSession (effects : Effects κ) (session : Session κ)
    (reason : ConnectionAbortReason) : effects.Acts (abortSession effects session reason) :=
  (acts_abort effects _ _ _ reason).trans (acts_close _ session)

theorem acts_sendPackets (framesToSend : Nat) (session : Session κ) (effects : Effects κ) :
    effects.Acts (sendPackets framesToSend session effects).2 := by
  induction framesToSend generalizing session effects with
  | zero => exact .refl
  | succ framesToSend ih =>
    have first : effects.Acts (effects.send (dataTransfer session)).2 := acts_send effects rfl rfl
    unfold sendPackets
    split
    · rename_i taken after sent
      rw [sent] at first
      exact first.trans (ih _ after)
    · rename_i refused after sent
      rw [sent] at first
      exact first

theorem acts_tick (configuration : Configuration) (session : Session κ) (effects : Effects κ) :
    effects.Acts (updateStateMachine configuration session effects).2 := by
  have expects (timeout : UInt32) : effects.Acts
      (if timeout < session.getTimeSinceLastUpdate effects.port.now then
        ((none : Option (Session κ)), abortSession effects session .timeout)
      else (some session, effects)).2 := by
    split
    · exact acts_abortSession effects session .timeout
    · exact .refl
  unfold updateStateMachine
  cases session.state with
  | none => exact .refl
  | sendRequestToSend =>
    have sends : effects.Acts (sendRequestToSend session effects).2 :=
      acts_send effects (other_acknowledges (by decide)) rfl
    dsimp only
    split <;> rename_i sent <;> rwa [sent] at sends
  | waitForClearToSend =>
    dsimp only
    split
    · split
      · exact acts_abortSession effects session .timeout
      · exact acts_close effects session
    · exact .refl
  | sendClearToSend =>
    have sends : effects.Acts (sendClearToSend session effects).2.2 :=
      acts_send effects (other_acknowledges (by decide)) rfl
    dsimp only
    split <;> rename_i sent <;> rwa [sent] at sends
  | sendDataPacketOffset =>
    have sends : effects.Acts (sendDataPacketOffset configuration session effects).2.2 :=
      acts_send effects (other_acknowledges (by decide)) rfl
    dsimp only
    split <;> rename_i sent <;> rwa [sent] at sends
  | sendDataTransferPackets =>
    have sends := acts_sendPackets (min session.getDpoNumberOfPacketsRemaining
      configuration.networkManagerMaxFramesToSendPerUpdate).toNat session effects
    dsimp only
    unfold sendDataTransferPackets
    dsimp only
    split
    · exact sends
    · split <;> exact sends
  | waitForDataPacketOffset => exact expects t2T3TimeoutMs
  | waitForDataTransferPacket => exact expects t1TimeoutMs
  | waitForEndOfMessageAcknowledge => exact expects t2T3TimeoutMs

theorem acts_update (configuration : Configuration) (addressValid : κ → Bool)
    (sessions : List (Session κ)) (effects : Effects κ) :
    effects.Acts (update configuration addressValid sessions effects).2 := by
  induction sessions with
  | nil => exact .refl
  | cons session rest ih =>
    unfold update
    dsimp only
    split
    · exact ih.trans (acts_close _ session)
    · split
      · exact ih.trans (acts_close _ session)
      · split
        · exact ih.trans (acts_tick configuration session _)
        · exact ih

def Session.delivery (session : Session κ) : Delivery κ :=
  { source := session.source, destination := session.destination
    parameterGroupNumber := completedGroup session.parameterGroupNumber, data := session.data }

def Session.hand (session : Session κ) (effects : Effects κ) : Effects κ :=
  let effects := sendEndOfSessionAcknowledgement session effects
  closeSession { effects with delivered := effects.delivered ++ [session.delivery] } session true

theorem hand_port (session : Session κ) (effects : Effects κ) :
    (session.hand effects).port = (sendEndOfSessionAcknowledgement session effects).port :=
  closeSession_port ..

theorem hand_delivered (session : Session κ) (effects : Effects κ) :
    (session.hand effects).delivered = effects.delivered ++ [session.delivery] :=
  closeSession_delivered ..

theorem hand_completed {session : Session κ} (receives : session.direction = .receive)
    (effects : Effects κ) : (session.hand effects).completed = effects.completed := by
  unfold Session.hand closeSession
  rw [if_neg]
  · rfl
  · simp [receives]

section Calls

variable [DecidableEq κ]

theorem acts_request (configuration : Configuration) (sessions : List (Session κ))
    (effects : Effects κ) (source destination : κ)
    (parameterGroupNumber totalMessageSize : UInt32) :
    effects.Acts (processRequestToSend configuration sessions effects source destination
      parameterGroupNumber totalMessageSize).2 := by
  unfold processRequestToSend
  split
  · exact acts_abort effects _ _ _ _
  · have opens (before : Effects κ) (session : Session κ) (first : effects.Acts before) :
        effects.Acts (updateStateMachine configuration session before).2 :=
      first.trans (acts_tick configuration session before)
    cases getSession sessions source destination with
    | none => exact opens effects _ (.refl)
    | some session =>
      dsimp only
      split
      · exact opens _ _ (acts_abortSession effects session _)
      · exact opens _ _ (acts_close effects session)

theorem acts_clear (sessions : List (Session κ)) (effects : Effects κ) (source destination : κ)
    (parameterGroupNumber : UInt32) (packetsToBeSent : UInt8) (nextPacketNumber : UInt32) :
    effects.Acts (processClearToSend sessions effects source destination parameterGroupNumber
      packetsToBeSent nextPacketNumber).2 := by
  unfold processClearToSend
  cases getSession sessions destination source with
  | none => exact .refl
  | some session =>
    dsimp only
    split
    · exact (acts_abortSession effects session _).trans (acts_abort _ _ _ _ _)
    · split
      · exact acts_abortSession effects session _
      · split
        · exact acts_abortSession effects session _
        · exact .refl

theorem acts_offset (sessions : List (Session κ)) (effects : Effects κ) (source destination : κ)
    (parameterGroupNumber : UInt32) (numberOfPackets : UInt8) (packetOffset : UInt32) :
    effects.Acts (processDataPacketOffset sessions effects source destination
      parameterGroupNumber numberOfPackets packetOffset).2 := by
  unfold processDataPacketOffset
  cases getSession sessions source destination with
  | none => exact .refl
  | some session =>
    dsimp only
    split
    · exact (acts_abortSession effects session _).trans (acts_abort _ _ _ _ _)
    · split
      · exact acts_abortSession effects session _
      · split
        · exact acts_abortSession effects session _
        · split
          · exact acts_abortSession effects session _
          · exact .refl

theorem acts_closeAborted (sessions : List (Session κ)) (effects : Effects κ)
    (source destination : κ) (parameterGroupNumber : UInt32) :
    effects.Acts
      (closeAborted sessions effects source destination parameterGroupNumber).2 := by
  unfold closeAborted
  cases getSession sessions source destination with
  | none => exact .refl
  | some session =>
    dsimp only
    split
    · exact acts_close effects session
    · exact .refl

theorem acts_transmit (configuration : Configuration) (addressValid : κ → Bool)
    (sessions : List (Session κ)) (effects : Effects κ) (parameterGroupNumber : UInt32)
    (data : List UInt8) (source destination : κ) (notifies : Bool) :
    effects.Acts (protocolTransmitMessage configuration addressValid sessions effects
      parameterGroupNumber data source destination notifies).2.2 := by
  unfold protocolTransmitMessage
  split
  · exact .refl
  · split
    · exact .refl
    · exact acts_tick configuration _ effects

theorem acts_processAbort (sessions : List (Session κ)) (effects : Effects κ)
    (source destination : κ) (parameterGroupNumber : UInt32) :
    effects.Acts (processAbort sessions effects source destination parameterGroupNumber).2 :=
  (acts_closeAborted ..).trans (acts_closeAborted ..)

theorem getSession_mem {sessions : List (Session κ)} {source destination : κ}
    {session : Session κ} (found : getSession sessions source destination = some session) :
    session ∈ sessions ∧ session.source = source ∧ session.destination = destination := by
  obtain ⟨key, before, after, rfl, -, -⟩ := getSession_some found
  exact ⟨by simp, Prod.mk.inj key⟩

theorem acknowledge_ends (sessions : List (Session κ)) (effects : Effects κ)
    (source destination : κ) (numberOfBytesTransferred : UInt32) :
    effects.Acts (processEndOfSessionAcknowledgement sessions effects source destination
        numberOfBytesTransferred).2 ∨
      ∃ session, getSession sessions destination source = some session ∧
        numberOfBytesTransferred = session.totalMessageSize ∧
        (processEndOfSessionAcknowledgement sessions effects source destination
          numberOfBytesTransferred).2 = closeSession effects session true := by
  unfold processEndOfSessionAcknowledgement
  cases found : getSession sessions destination source with
  | none => exact .inl (.refl)
  | some session =>
    dsimp only
    split
    · by_cases size : numberOfBytesTransferred = session.totalMessageSize
      · exact .inr ⟨session, rfl, size, by rw [decide_eq_true size]⟩
      · rw [decide_eq_false size]
        exact .inl (acts_close effects session)
    · exact .inl (.refl)

theorem packet_cases (configuration : Configuration) (sessions : List (Session κ))
    (effects : Effects κ) (frame : Frame κ) :
    effects.Acts (processDataTransferMessage configuration sessions effects frame).2 ∨
      ∃ session, getSession sessions frame.source frame.destination = some session ∧
        session.state = .waitForDataTransferPacket ∧
        (processDataTransferMessage configuration sessions effects frame).2 =
          (session.received frame effects.port.now).hand effects := by
  unfold processDataTransferMessage
  split
  · exact .inl .refl
  dsimp only
  cases found : getSession sessions frame.source frame.destination with
  | none => exact .inl .refl
  | some session =>
    obtain ⟨-, source, destination⟩ := getSession_mem found
    dsimp only
    split
    · exact .inl (acts_abortSession effects session _)
    rename_i state
    split
    · exact .inl (acts_abortSession effects session _)
    split
    · split
      · refine .inr ⟨session, rfl, by simpa using state, ?_⟩
        rw [← source, ← destination]
        rfl
      · split
        · exact .inl (acts_tick configuration _ effects)
        · exact .inl .refl
    · exact .inl (acts_abortSession effects session _)

inductive Ending (sessions : List (Session κ)) (input : Input ours) (result : Effects κ) :
    Prop where
  | plain (acts : (Effects.fresh input.now input.accepts).Acts result)
  | told (frame : Frame κ) (hears : heard frame.key input = [frame])
      (acknowledges : frame.acknowledges = true) (session : Session κ)
      (found : getSession sessions frame.destination frame.source = some session)
      (size : uint32At frame.data 1 = session.totalMessageSize)
      (closed : result = closeSession (.fresh input.now input.accepts) session true)
  | hands (frame : Frame κ) (session : Session κ)
      (found : getSession sessions frame.source frame.destination = some session)
      (state : session.state = .waitForDataTransferPacket)
      (handed : result =
        (session.received frame input.now).hand (.fresh input.now input.accepts))

theorem management_ends (sessions : List (Session κ)) {input : Input ours} {frame : Frame κ}
    (hears : heard frame.key input = [frame]) (group : frame.group = .connectionManagement) :
    Ending sessions input (processConnectionManagementMessage configuration sessions
      (.fresh input.now input.accepts) frame).2 := by
  unfold processConnectionManagementMessage
  split
  · exact .plain .refl
  dsimp only
  split
  · exact .plain (acts_request configuration ..)
  split
  · exact .plain (acts_clear ..)
  split
  · exact .plain (acts_offset ..)
  split
  · rename_i acknowledges
    rcases acknowledge_ends sessions (.fresh input.now input.accepts) frame.source
      frame.destination (uint32At frame.data 1) with acts | ⟨session, found, size, closed⟩
    · exact .plain acts
    · exact .told frame hears (decide_eq_true ⟨group, acknowledges⟩) session found size closed
  split
  · exact .plain (acts_processAbort ..)
  · exact .plain .refl

theorem step_ends (configuration : Configuration) (sessions : List (Session κ))
    (input : Input ours) :
    Ending sessions input (step configuration sessions input).effects := by
  unfold step
  dsimp only
  cases call : input.call with
  | update => exact .plain (acts_update configuration ..)
  | transmit transmission => exact .plain (acts_transmit configuration ..)
  | receive frame =>
    dsimp only
    unfold processMessage
    split
    · rename_i valid
      have hears : heard frame.key input = [frame] := by simp [heard, call, valid]
      cases group : frame.group with
      | connectionManagement => exact management_ends sessions hears group
      | dataTransfer =>
        rcases packet_cases configuration sessions (.fresh input.now input.accepts)
            frame with acts | ⟨session, found, state, hands⟩
        · exact .plain acts
        · exact .hands frame session found state hands
    · exact .plain .refl

end Calls

end LittleDawn.ExtendedTransport
