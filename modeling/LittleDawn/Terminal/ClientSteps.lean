import LittleDawn.Terminal.ClientMoves

set_option autoImplicit false

namespace LittleDawn

open Emission (Path)

inductive Standing.Hears (message : RxMessage) : Standing → Standing → Prop where
  | nothing (standing : Standing) : Hears message standing standing
  | status (standing : Standing) (known : message.milestone = some .vtStatus) (seen : Bool) :
      Hears message standing { standing with seen }
  | answer (standing : Standing) {milestone : Milestone} {value : StateMachineState}
      (known : message.milestone = some milestone)
      (transition : Transition (hasLabel standing.pools) (some milestone) standing.state value) :
      Hears message standing { standing with state := value }

def Responds (message : RxMessage) (client : VtClient) (port : VtPort)
    (result : VtClient × VtPort) : Prop :=
  ∃ begun, Standing.Hears message client.standing begun ∧ Moves begun port result

theorem Moves.responds {client : VtClient} {port : VtPort} {result : VtClient × VtPort}
    (moves : Moves client.standing port result) (message : RxMessage) :
    Responds message client port result :=
  ⟨client.standing, .nothing client.standing, moves⟩

theorem responds_setState {client : VtClient} {message : RxMessage} {milestone : Milestone}
    {state value : StateMachineState} (here : client.state = state)
    (known : message.milestone = some milestone)
    (transition : Transition (hasLabel client.objectPools) (some milestone) state value)
    (port : VtPort) : Responds message client port (client.setState port.now value, port) := by
  subst here
  refine ⟨_, .answer client.standing known transition, moves_same ?_ port⟩
  exact standing_setState client port.now transition.other

theorem responds_processGetVersions {client : VtClient} {message : RxMessage}
    (here : client.state = .waitForGetVersionsResponse)
    (known : message.milestone = some .versions) (port : VtPort) :
    Responds message client port (client.processGetVersions port message) := by
  have labels (data : List UInt8) (indices : List Nat) (port : VtPort) :
      Responds message client port (client.matchLabels port data indices) := by
    induction indices generalizing port with
    | nil => exact responds_setState here known (.versionUnknown _) port
    | cons index rest ih =>
      unfold VtClient.matchLabels
      dsimp only
      split
      · exact responds_setState here known (.versionKnown _) port
      · obtain ⟨begun, hears, moves⟩ := ih (port.transmit (deleteVersion _)).2
        exact ⟨begun, hears, moves.told (by rfl)⟩
  unfold VtClient.processGetVersions
  dsimp only
  split
  · exact responds_setState here known (.versionUnknown _) port
  · split
    · exact labels ..
    · exact (moves_refl client port).responds message

theorem Responds.ite {client : VtClient} {port : VtPort} {message : RxMessage} {condition : Prop}
    [Decidable condition] {first second : VtClient × VtPort}
    (yes : condition → Responds message client port first)
    (no : ¬ condition → Responds message client port second) :
    Responds message client port (if condition then first else second) := by
  split
  · rename_i holds
    exact yes holds
  · rename_i fails
    exact no fails

theorem responds_byLabel {client : VtClient} {message : RxMessage} {milestone : Milestone}
    {state plain labelled : StateMachineState} (here : client.state = state)
    (known : message.milestone = some milestone)
    (without : Transition false (some milestone) state plain)
    (within : Transition true (some milestone) state labelled) (port : VtPort) :
    Responds message client port
      (if client.firstLabel.isEmpty then (client.setState port.now plain, port)
      else (client.setState port.now labelled, port)) := by
  apply Responds.ite
  · intro none
    have label : hasLabel client.objectPools = false := by
      simpa [hasLabel, VtClient.firstLabel] using none
    exact responds_setState here known (label ▸ without) port
  · intro some
    have label : hasLabel client.objectPools = true := by
      simpa [hasLabel, VtClient.firstLabel] using some
    exact responds_setState here known (label ▸ within) port

theorem responds_processResponse (client : VtClient) (port : VtPort) {message : RxMessage}
    (addressed : message.Addressed) (group : message.group = .virtualTerminalToECU) :
    Responds message client port (client.processResponse port message) := by
  have stay : Responds message client port (client, port) :=
    (moves_refl client port).responds message
  have counts : message.Addressed ∧ message.group = .virtualTerminalToECU := ⟨addressed, group⟩
  have goes {state value : StateMachineState} (here : client.state = state)
      (transition : Transition (hasLabel client.objectPools) none state value) :
      Responds message client port (client.setState port.now value, port) :=
    (moves_setState here transition port port.now).responds message
  unfold VtClient.processResponse
  apply Responds.ite
  · intro function
    have known : message.milestone = some .vtStatus := by
      simp [RxMessage.milestone, counts, function]
    exact ⟨_, .status client.standing known _, moves_same (by rfl) port⟩
  intro _
  apply Responds.ite
  · intro function
    refine Responds.ite (fun here => ?_) (fun _ => stay)
    refine Responds.ite (fun agreed => ?_) (fun _ => ?_)
    · have known : message.milestone = some .enoughMemory := by
        simp [RxMessage.milestone, counts, function, agreed]
      have transition : Transition (hasLabel client.standing.pools) (some .enoughMemory)
          client.standing.state .sendGetNumberSoftkeys := by
        rw [show client.standing.state = _ from here]
        exact .enoughMemory _
      exact ⟨_, .answer client.standing known transition, moves_same (by rfl) port⟩
    · have version : Moves client.standing port
          ({ client with connectedVTVersion := message.byte 1 }, port) := moves_same (by rfl) port
      exact (version.trans (moves_setState rfl (.fails _ _) port port.now)).responds message
  intro _
  apply Responds.ite
  · intro function
    refine Responds.ite (fun here => ?_) (fun _ => stay)
    have known : message.milestone = some .numberOfSoftkeys := by
      simp [RxMessage.milestone, counts, function]
    exact responds_setState here known (.numberOfSoftkeys _) port
  intro _
  apply Responds.ite
  · intro function
    refine Responds.ite (fun here => ?_) (fun _ => stay)
    have known : message.milestone = some .textFontData := by
      simp [RxMessage.milestone, counts, function]
    exact responds_setState here known (.textFontData _) port
  intro _
  apply Responds.ite
  · intro function
    refine Responds.ite (fun here => ?_) (fun _ => stay)
    have known : message.milestone = some .hardware := by
      simp [RxMessage.milestone, counts, function]
    exact responds_byLabel here known .hardware .hardwareLabelled port
  intro _
  apply Responds.ite
  · intro function
    refine Responds.ite (fun here => ?_) (fun _ => stay)
    have known : message.milestone = some .versions := by
      simp [RxMessage.milestone, counts, function]
    exact responds_processGetVersions here known port
  intro _
  apply Responds.ite
  · intro function
    refine Responds.ite (fun here => ?_) (fun _ => stay)
    refine Responds.ite (fun agreed => ?_) (fun _ => goes here (.versionRefused _))
    have known : message.milestone = some .versionLoaded := by
      simp [RxMessage.milestone, counts, function, agreed]
    exact responds_setState here known (.versionLoaded _) port
  intro _
  apply Responds.ite
  · intro function
    refine Responds.ite (fun here => ?_) (fun _ => stay)
    have known : message.milestone = some .versionStored := by
      simp [RxMessage.milestone, counts, function, here.2]
    exact responds_setState here.1 known (.versionStored _) port
  intro _
  apply Responds.ite
  · intro function
    refine Responds.ite (fun here => ?_) (fun _ => stay)
    refine Responds.ite (fun agreed => ?_) (fun _ => goes rfl (.fails _ _))
    have known : message.milestone = some .objectPoolAccepted := by
      simp [RxMessage.milestone, counts, function, agreed]
    exact responds_byLabel here known .accepted .acceptedLabelled port
  intro _
  apply Responds.ite
  · intro _
    exact Responds.ite (fun _ => stay) (fun _ => (moves_same (by rfl) port).responds message)
  intro _
  apply Responds.ite
  · intro _
    exact stay
  · intro _
    exact (moves_tells client port (by rfl)).responds message

theorem moves_processAcknowledge (client : VtClient) (port : VtPort) (message : RxMessage) :
    Moves client.standing port (client.processAcknowledge port message) := by
  unfold VtClient.processAcknowledge
  split
  · exact moves_disconnected client port port.now
  · exact moves_refl client port

def Outlet.Free (outlet : Outlet) (now : UInt32) : Prop :=
  outlet.awaiting = true → commandTimeoutMs ≤ now - outlet.timestamp

theorem sendCommand_cases (client : VtClient) (port : VtPort) (data : Command) :
    (∃ next after, client.sendCommand port data = (true, next, after) ∧
      client.getIsConnected = true ∧ client.outlet.Free port.now ∧
      next = { client with commandAwaitingResponse := true, lastCommandTimestamp := port.now } ∧
      after.sent = port.sent ++ [.command data] ∧ after.now = port.now) ∨
    (∃ next after, client.sendCommand port data = (false, next, after) ∧
      (next = client ∨ client.outlet.Free port.now ∧
        next = { client with commandAwaitingResponse := false }) ∧
      after.sent = port.sent ∧ after.now = port.now) := by
  unfold VtClient.sendCommand
  split
  · exact .inr ⟨_, _, rfl, .inl rfl, rfl, rfl⟩
  · rename_i overdue
    have free : client.outlet.Free port.now := by
      intro awaiting
      by_contra early
      exact overdue ⟨awaiting, fun expired => early (of_decide_eq_true expired)⟩
    dsimp only
    split
    · rename_i connected
      have sent := Port.transmit_sent port (.command data)
      have now := Port.transmit_now port (.command data)
      split <;> rename_i after equal <;> rw [equal] at sent now
      · exact .inl ⟨_, _, rfl, connected, free, by rw [now], by simpa using sent, now⟩
      · exact .inr ⟨_, _, rfl, .inr ⟨free, rfl⟩, by simpa using sent, now⟩
    · exact .inr ⟨_, _, rfl, .inr ⟨free, rfl⟩, rfl, rfl⟩

structure Framed (client : VtClient) (port : VtPort) (result : VtClient × VtPort) : Prop where
  changed : ∃ queue awaiting timestamp, result.1 = { client with
    commandQueue := queue, commandAwaitingResponse := awaiting, lastCommandTimestamp := timestamp }
  sends : ∃ out : List Command, result.2.sent = port.sent ++ out.map .command ∧
    (out = [] ∨ client.state = .connected)

theorem framed_refl (client : VtClient) (port : VtPort) : Framed client port (client, port) :=
  ⟨⟨_, _, _, rfl⟩, [], by simp, .inl rfl⟩

theorem Framed.trans {client next : VtClient} {port after : VtPort} {result : VtClient × VtPort}
    (first : Framed client port (next, after)) (second : Framed next after result) :
    Framed client port result := by
  obtain ⟨⟨queue, awaiting, timestamp, rfl⟩, out, sent, talks⟩ := first
  obtain ⟨⟨queue, awaiting, timestamp, equal⟩, more, later, still⟩ := second
  refine ⟨⟨queue, awaiting, timestamp, equal⟩, out ++ more, ?_, ?_⟩
  · rw [later, sent]
    simp
  · rcases still with rfl | connected
    · simpa using talks
    · exact .inr connected

theorem framed_sendCommand (client : VtClient) (port : VtPort) (data : Command) :
    Framed client port (client.sendCommand port data).2 := by
  rcases sendCommand_cases client port data with
    ⟨next, after, equal, connected, -, rfl, sent, -⟩ | ⟨next, after, equal, same, sent, -⟩
  · rw [equal]
    exact ⟨⟨_, _, _, rfl⟩, [data], by simpa using sent, .inr (of_decide_eq_true connected)⟩
  · rw [equal]
    refine ⟨?_, [], by simpa using sent, .inl rfl⟩
    rcases same with rfl | ⟨-, rfl⟩
    · exact ⟨_, _, _, rfl⟩
    · exact ⟨_, _, _, rfl⟩

theorem framed_queueCommand (client : VtClient) (port : VtPort) (data : Command) (replace : Bool) :
    Framed client port (client.queueCommand port data replace).2 := by
  have tried : Framed client port (if client.getIsConnected then client.sendCommand port data
      else (false, client, port)).2 := by
    split
    · exact framed_sendCommand client port data
    · exact framed_refl client port
  unfold VtClient.queueCommand
  split
  · exact framed_refl client port
  · generalize (if client.getIsConnected then client.sendCommand port data
      else (false, client, port)) = result at tried ⊢
    obtain ⟨sent, next, after⟩ := result
    dsimp only
    split
    · exact tried
    · obtain ⟨⟨queue, awaiting, timestamp, rfl⟩, sends⟩ := tried
      split <;> exact ⟨⟨_, _, _, rfl⟩, sends⟩

theorem framed_queueCommands (client : VtClient) (port : VtPort) (list : List Command) :
    Framed client port (client.queueCommands port list) := by
  induction list generalizing client port with
  | nil => exact framed_refl client port
  | cons data rest ih =>
    have first := framed_queueCommand client port data true
    exact first.trans (ih _ _)

theorem framed_sendQueued (queue : List Command) (client : VtClient) (port : VtPort) :
    Framed client port (VtClient.sendQueued queue client port).2 := by
  induction queue generalizing client port with
  | nil => exact framed_refl client port
  | cons data rest ih =>
    have first := framed_sendCommand client port data
    exact first.trans (ih _ _)

theorem framed_processCommandQueue (client : VtClient) (port : VtPort) :
    Framed client port (client.processCommandQueue port) := by
  unfold VtClient.processCommandQueue
  split
  · have framed := framed_sendQueued client.commandQueue client port
    generalize VtClient.sendQueued client.commandQueue client port = result at framed ⊢
    obtain ⟨left, next, after⟩ := result
    obtain ⟨⟨queue, awaiting, timestamp, rfl⟩, sends⟩ := framed
    exact ⟨⟨_, _, _, rfl⟩, sends⟩
  · exact framed_refl client port

theorem framed_answered (client : VtClient) (port : VtPort) (message : RxMessage) :
    Framed client port (client.processCommandResponse port message) := by
  unfold VtClient.processCommandResponse
  split
  · have answered : Framed client port ({ client with commandAwaitingResponse := false }, port) :=
      ⟨⟨_, _, _, rfl⟩, [], by simp, .inl rfl⟩
    exact answered.trans (framed_processCommandQueue _ _)
  · exact framed_refl client port

inductive Standing.Comes : ProgramStep → Standing → Standing → Prop where
  | nothing (step : ProgramStep) (standing : Standing) : Comes step standing standing
  | hears {message : RxMessage} {standing begun : Standing}
      (hears : Standing.Hears message standing begun) : Comes (.receive message) standing begun
  | ends (successful : Bool) (standing : Standing) (here : standing.state = .uploadObjectPool) :
      Comes (.transferEnds successful) standing
        { standing with upload := if successful then .success else .failed }

-- What a step does, in this order: something comes in, the client moves, commands go out, and in
-- the end a key is confirmed.
def Acts (step : ProgramStep) (standing : Standing) (sent : List VtMessage) (next : Standing) :
    Prop :=
  ∃ begun out moved outlet, ∃ words : List Command, ∃ told : List (List UInt8),
    Standing.Comes step standing begun ∧ Path Standing.Move begun out moved ∧
      (words = [] ∨ moved.state = .connected) ∧ next = { moved with outlet } ∧
      sent = out ++ words.map .command ++ told.map .message ∧
      ∀ data ∈ told, (VtMessage.message data).milestone = none

theorem acts_framed {step : ProgramStep} {standing begun : Standing} {client : VtClient}
    {port after : VtPort} {result : VtClient × VtPort} (fresh : port.sent = [])
    (comes : Standing.Comes step standing begun) (moves : Moves begun port (client, after))
    (framed : Framed client after result) :
    Acts step standing result.2.sent result.1.standing := by
  obtain ⟨now, out, sent, path⟩ := moves
  obtain ⟨⟨queue, awaiting, timestamp, changed⟩, words, sends, talks⟩ := framed
  refine ⟨begun, out, client.standing, result.1.outlet, words, [], comes, path, talks, ?_, ?_, ?_⟩
  · rw [changed]
    rfl
  · rw [sends, sent, fresh, List.map_nil, List.append_nil]
    rfl
  · simp

theorem acts_moves {step : ProgramStep} {standing begun : Standing} {port : VtPort}
    {result : VtClient × VtPort} (fresh : port.sent = [])
    (comes : Standing.Comes step standing begun) (moves : Moves begun port result) :
    Acts step standing result.2.sent result.1.standing :=
  acts_framed fresh comes moves (framed_refl result.1 result.2)

theorem Acts.told {step : ProgramStep} {standing next : Standing} {port : VtPort}
    {data : List UInt8} (acts : Acts step standing port.sent next)
    (plain : (VtMessage.message data).milestone = none) :
    Acts step standing (port.transmit (.message data)).2.sent next := by
  obtain ⟨begun, out, moved, outlet, words, told, comes, path, talks, same, sent, plains⟩ := acts
  have tells := Port.transmit_sent port (.message data)
  split at tells
  · refine ⟨begun, out, moved, outlet, words, told ++ [data], comes, path, talks, same, ?_, ?_⟩
    · rw [tells, sent, List.map_append, List.append_assoc]
      rfl
    · intro other member
      rcases List.mem_append.mp member with before | last
      · exact plains other before
      · rw [List.mem_singleton.mp last]
        exact plain
  · rw [tells]
    exact ⟨begun, out, moved, outlet, words, told, comes, path, talks, same, sent, plains⟩

theorem key_plain {message : RxMessage} (addressed : message.Addressed)
    (key : message.byte 0 = 0x00 ∨ message.byte 0 = 0x01) (last : UInt8) :
    (VtMessage.message (message.data.take 7 ++ [last])).milestone = none := by
  have full := addressed.1
  cases data : message.data with
  | nil => simp [data] at full
  | cons function rest =>
    have first : function = message.byte 0 := by simp [RxMessage.byte, data]
    rcases key with code | code <;> simp [VtMessage.milestone, first, code]

theorem acts_processKey (client : VtClient) {port : VtPort} (fresh : port.sent = [])
    (listener : VTKeyEvent → List Command) {message : RxMessage} (addressed : message.Addressed)
    (key : message.byte 0 = 0x00 ∨ message.byte 0 = 0x01) :
    Acts (.receive message) client.standing (client.processKey port listener message).2.sent
      (client.processKey port listener message).1.standing := by
  unfold VtClient.processKey
  cases message.keyEvent with
  | none => exact acts_moves fresh (.nothing _ _) (moves_refl client port)
  | some event =>
    have queued := framed_queueCommands client port (listener event)
    exact (acts_framed fresh (.nothing _ _) (moves_refl client port) queued).told
      (key_plain addressed key _)

theorem step_acts (program : Program) (input : ProgramInput) :
    Acts input.step program.client.standing (program.sent input)
      (program.next input).client.standing := by
  obtain ⟨step, time, accepts⟩ := input
  have fresh : (Port.fresh (UInt32.ofNat time) accepts : VtPort).sent = [] := rfl
  have framed (step : ProgramStep) {result : VtClient × VtPort}
      (framed : Framed program.client (.fresh (UInt32.ofNat time) accepts) result) :
      Acts step program.client.standing result.2.sent result.1.standing :=
    acts_framed fresh (.nothing step _) (moves_refl ..) framed
  cases step with
  | receive message =>
    dsimp only [Program.sent, Program.next, Program.step, ProgramInput.port]
    unfold VtClient.processRxMessage
    split
    · rename_i addressed
      split <;> rename_i group
      · exact acts_moves fresh (.nothing _ _) (moves_processAcknowledge ..)
      · split
        · rename_i key
          exact acts_processKey program.client fresh keyListeners.softKey addressed (.inl key)
        split
        · rename_i key
          exact acts_processKey program.client fresh keyListeners.button addressed (.inr key)
        split
        · exact framed _ (framed_answered ..)
        · obtain ⟨begun, hears, moves⟩ := responds_processResponse program.client
            (.fresh (UInt32.ofNat time) accepts) addressed group
          exact acts_moves fresh (.hears hears) moves
    · exact framed _ (framed_refl ..)
  | update partnerAddressValid =>
    have moves := (moves_updateState program.client (.fresh (UInt32.ofNat time) accepts)
      partnerAddressValid).trans (moves_updateMaintenance _ _)
    exact acts_framed fresh (.nothing _ _) moves (framed_processCommandQueue _ _)
  | transferEnds successful =>
    dsimp only [Program.sent, Program.next, Program.step, ProgramInput.port]
    unfold VtClient.processCallback
    split
    · rename_i here
      exact acts_moves fresh (.ends successful program.client.standing here)
        (moves_same (by rfl) (.fresh (UInt32.ofNat time) accepts))
    · exact framed _ (framed_refl ..)
  | refresh tickCount dawnData => exact framed _ (framed_queueCommands ..)
  | status tickCount input => exact framed _ (framed_queueCommands ..)

end LittleDawn
