import LittleDawn.Isobus.Endings

set_option autoImplicit false

namespace LittleDawn.ExtendedTransport

variable {κ : Type} {ours : κ → Bool} {configuration : Configuration}

def acknowledgements (frames : List (Frame κ)) : List (Frame κ) :=
  frames.filter Frame.acknowledges

theorem acknowledgements_append (frames more : List (Frame κ)) :
    acknowledgements (frames ++ more) = acknowledgements frames ++ acknowledgements more :=
  List.filter_append ..

def successes (completed : List (Completion κ)) : List (Completion κ) :=
  completed.filter Completion.successful

def Frame.receipt (frame : Frame κ) : (κ × κ) × UInt32 :=
  (frame.key.swap, uint32At frame.data 1)

def Delivery.receipt (delivery : Delivery κ) : (κ × κ) × UInt32 :=
  ((delivery.source, delivery.destination), delivery.message.size)

structure Effects.Plain (effects result : Effects κ) : Prop where
  acknowledged : acknowledgements result.port.sent = acknowledgements effects.port.sent
  delivered : result.delivered = effects.delivered
  succeeded : successes result.completed = successes effects.completed

theorem Effects.Plain.refl (effects : Effects κ) : effects.Plain effects :=
  ⟨rfl, rfl, rfl⟩

theorem Effects.Plain.trans {effects next result : Effects κ} (first : effects.Plain next)
    (second : next.Plain result) : effects.Plain result :=
  ⟨second.acknowledged.trans first.acknowledged, second.delivered.trans first.delivered,
    second.succeeded.trans first.succeeded⟩

theorem Effects.Act.plain {effects result : Effects κ} (act : effects.Act result) :
    effects.Plain result := by
  cases act with
  | speak frame other full =>
    refine ⟨?_, rfl, rfl⟩
    rw [send_sent]
    split
    · simp [acknowledgements, other]
    · rfl
  | close session =>
    unfold closeSession
    split
    · exact ⟨rfl, rfl, by simp [successes]⟩
    · exact .refl effects

theorem Effects.Acts.plain {effects result : Effects κ} (acts : effects.Acts result) :
    effects.Plain result := by
  induction acts with
  | refl => exact .refl effects
  | tail _ act ih => exact ih.trans act.plain

def Session.Sized (session : Session κ) : Prop :=
  session.data.length = session.totalMessageSize.toNat

theorem Session.Sized.size {session : Session κ} (sized : session.Sized) :
    UInt32.ofNat session.data.length = session.totalMessageSize := by
  rw [sized, UInt32.ofNat_toNat]

theorem setBytes_length (messageLength index : UInt32) (bytes data : List UInt8) :
    (setBytes messageLength index bytes data).length = data.length := by
  induction bytes generalizing index data with
  | nil => rfl
  | cons byte rest ih =>
    unfold setBytes
    split
    · rw [ih, List.length_set]
    · rfl

theorem Session.Sized.received {session : Session κ} (sized : session.Sized) (frame : Frame κ)
    (now : UInt32) : (session.received frame now).Sized :=
  (setBytes_length ..).trans sized

theorem Session.Sized.sendPackets {session : Session κ} (sized : session.Sized)
    (framesToSend : Nat) (effects : Effects κ) :
    (sendPackets framesToSend session effects).1.Sized := by
  induction framesToSend generalizing session effects with
  | zero => exact sized
  | succ framesToSend ih =>
    unfold ExtendedTransport.sendPackets
    split
    · refine ih ?_ _
      exact sized
    · exact sized

theorem Tick.sized {session next : Session κ} {effects result : Effects κ}
    (tick : Tick session effects next result) (sized : session.Sized) : next.Sized := by
  cases tick with
  | packets state framesToSend => exact sized.sendPackets framesToSend effects
  | _ => exact sized

theorem sized_replace {before after : List (Session κ)} {session next : Session κ}
    (sized : ∀ other ∈ before ++ session :: after, other.Sized)
    (changed : session.Sized → next.Sized) :
    ∀ other ∈ before ++ next :: after, other.Sized := by
  have here := changed (sized session (by simp))
  intro other member
  simp only [List.mem_append, List.mem_cons] at member sized
  rcases member with early | rfl | late
  · exact sized other (.inl early)
  · exact here
  · exact sized other (.inr (.inr late))

theorem sized_erase {before after : List (Session κ)} {session : Session κ}
    (sized : ∀ other ∈ before ++ session :: after, other.Sized) :
    ∀ other ∈ before ++ after, other.Sized := by
  intro other member
  apply sized
  simp only [List.mem_append, List.mem_cons] at member ⊢
  tauto

theorem Minor.sized {manager next : Manager κ} (minor : Minor configuration manager next)
    (sized : ∀ session ∈ manager.1, session.Sized) : ∀ session ∈ next.1, session.Sized := by
  cases minor with
  | speak => exact sized
  | close => exact sized_erase sized
  | tick before after session next effects result ticks =>
    exact sized_replace sized (tick_cases ticks).sized

theorem Minors.sized {manager next : Manager κ} (minors : Minors configuration manager next)
    (sized : ∀ session ∈ manager.1, session.Sized) : ∀ session ∈ next.1, session.Sized := by
  induction minors with
  | refl => exact sized
  | tail _ minor ih => exact minor.sized ih

theorem Main.sized {input : Input ours} {accepted : Bool} {manager next : Manager κ}
    (main : Main configuration input accepted manager next)
    (sized : ∀ session ∈ manager.1, session.Sized) : ∀ session ∈ next.1, session.Sized := by
  have opens {sessions : List (Session κ)} {session : Session κ} (here : session.Sized)
      (others : ∀ session ∈ sessions, session.Sized) :
      ∀ other ∈ sessions ++ [session], other.Sized := by
    intro other member
    rcases List.mem_append.mp member with inside | single
    · exact others other inside
    · rwa [List.mem_singleton.mp single]
  cases main with
  | updated | refused | ignored | absent | full => exact sized
  | begun sessions effects transmission call size fresh =>
    refine opens (UInt32.toNat_ofNat_of_lt' ?_).symm sized
    exact Nat.lt_of_le_of_lt size.2 (by decide)
  | requested sessions effects frame => exact opens List.length_replicate sized
  | cleared | offset => exact sized_replace sized id
  | packet before after session effects frame =>
    exact sized_replace sized fun here => here.received frame effects.port.now
  | finished => exact sized_erase sized

theorem Shape.sized {input : Input ours} {accepted : Bool} {start result : Manager κ}
    (shape : Shape configuration input accepted start result)
    (sized : ∀ session ∈ start.1, session.Sized) : ∀ session ∈ result.1, session.Sized := by
  obtain ⟨middle, next, first, main, last⟩ := shape
  exact Minors.sized last (main.sized (Minors.sized first sized))

theorem acknowledgement_receipt {session : Session κ} (sized : session.Sized)
    (effects : Effects κ) :
    ((acknowledgements (sendEndOfSessionAcknowledgement session effects).port.sent).map
        Frame.receipt).Sublist
      ((acknowledgements effects.port.sent).map Frame.receipt ++ [session.delivery.receipt]) := by
  have size : session.delivery.message.size = session.totalMessageSize := sized.size
  have receipt : (endOfSessionAcknowledgement session).receipt = session.delivery.receipt := by
    rw [Frame.receipt, Delivery.receipt, size]
    exact congrArg (Prod.mk _) (uint32At_byteOf rfl rfl rfl rfl)
  rw [sendEndOfSessionAcknowledgement, send_sent, ← receipt]
  split
  · rw [acknowledgements, List.filter_append, List.map_append]
    exact (List.filter_sublist.map Frame.receipt).append_left _
  · exact List.sublist_append_left _ _

section Calls

variable [DecidableEq κ]

variable {sessions : List (Session κ)} {input : Input ours} {result : Effects κ}

theorem Ending.receipts (ending : Ending sessions input result)
    (sized : ∀ session ∈ sessions, session.Sized) :
    ((acknowledgements result.port.sent).map Frame.receipt).Sublist
      (result.delivered.map Delivery.receipt) := by
  cases ending with
  | plain acts =>
    rw [acts.plain.acknowledged]
    exact List.nil_sublist _
  | told frame hears acknowledges session found size closed =>
    rw [closed, closeSession_port]
    exact List.nil_sublist _
  | hands frame session found state handed =>
    have here : (session.received frame input.now).Sized :=
      (sized session (getSession_mem found).1).received frame input.now
    rw [handed, hand_port, hand_delivered]
    exact acknowledgement_receipt here _

def confirmed (key : κ × κ) (sessions : List (Session κ)) (effects : Effects κ) :
    List (Option UInt32) :=
  ((successes effects.completed).filter fun completion =>
      (completion.source, completion.destination) = key).map
    fun _ => (getSession sessions key.1 key.2).map Session.totalMessageSize

theorem Ending.confirmed (ending : Ending sessions input result)
    (formed : WellFormed configuration ours sessions) (key : κ × κ) :
    (ExtendedTransport.confirmed key sessions result).Sublist
      ((acknowledgements (heard key.swap input)).map
        fun frame => some (uint32At frame.data 1)) := by
  unfold ExtendedTransport.confirmed
  cases ending with
  | plain acts =>
    have none : successes result.completed = [] := acts.plain.succeeded
    rw [none]
    exact List.nil_sublist _
  | hands frame session found state handed =>
    have receives : (session.received frame input.now).direction = .receive :=
      (formed.proper session (getSession_mem found).1).receives state
    have silent : result.completed = [] := by
      rw [handed]
      exact hand_completed receives _
    rw [silent]
    exact List.nil_sublist _
  | told frame hears acknowledges session found size closed =>
    obtain ⟨-, source, destination⟩ := getSession_mem found
    rw [closed, closeSession]
    split
    · by_cases same : (frame.destination, frame.source) = key
      · obtain rfl := same
        have here : heard (frame.destination, frame.source).swap input = [frame] := hears
        have told : acknowledgements [frame] = [frame] := List.filter_cons_of_pos acknowledges
        rw [here, told]
        simp [successes, Effects.fresh, source, destination, found, size]
      · simp [successes, Effects.fresh, source, destination, same]
    · exact List.nil_sublist _

theorem Ending.sizes (ending : Ending sessions input result)
    (sized : ∀ session ∈ sessions, session.Sized) (key : κ × κ) :
    ((acknowledgements (spoken key.swap result.port.sent)).map
        fun frame => uint32At frame.data 1).Sublist
      ((handed key result.delivered).map Message.size) := by
  have keyed := ((ending.receipts sized).filter fun receipt => receipt.1 = key).map Prod.snd
  have told : (acknowledgements (spoken key.swap result.port.sent)).map
      (fun frame => uint32At frame.data 1) =
      (((acknowledgements result.port.sent).map Frame.receipt).filter
        fun receipt => receipt.1 = key).map Prod.snd := by
    rw [acknowledgements, spoken, List.filter_comm, List.filter_map, List.map_map]
    congr 1
    apply List.filter_congr
    intro frame _
    simp only [Function.comp_apply, Frame.receipt, Prod.swap_eq_iff_eq_swap]
  have gone : (handed key result.delivered).map Message.size =
      ((result.delivered.map Delivery.receipt).filter
        fun receipt => receipt.1 = key).map Prod.snd := by
    rw [handed, List.filter_map, List.map_map, List.map_map]
    rfl
  rw [told, gone]
  exact keyed

def confirmedIn (configuration : Configuration) (key : κ × κ) :
    List (Session κ) → List (Input ours) → List (Option UInt32)
  | _, [] => []
  | sessions, input :: inputs =>
    let output := step configuration sessions input
    confirmed key sessions output.effects ++ confirmedIn configuration key output.sessions inputs

theorem step_sized {sessions : List (Session κ)} (formed : WellFormed configuration ours sessions)
    (sized : ∀ session ∈ sessions, session.Sized) (input : Input ours) :
    ∀ session ∈ (step configuration sessions input).sessions, session.Sized :=
  (step_shape configuration formed.unique input).sized sized

theorem run_confirms (configuration : Configuration) (key : κ × κ) (inputs : List (Input ours)) :
    (confirmedIn configuration key [] inputs).Sublist
      ((acknowledgements (heardIn key.swap inputs)).map
        fun frame => some (uint32At frame.data 1)) := by
  have from_formed (sessions : List (Session κ))
      (formed : WellFormed configuration ours sessions) :
      (confirmedIn configuration key sessions inputs).Sublist
        ((acknowledgements (heardIn key.swap inputs)).map
          fun frame => some (uint32At frame.data 1)) := by
    induction inputs generalizing sessions with
    | nil => exact List.nil_sublist _
    | cons input inputs ih =>
      have first := (step_ends configuration sessions input).confirmed formed key
      have rest := ih _ (step_wellFormed formed input)
      have heard : heardIn key.swap (input :: inputs) =
          heard key.swap input ++ heardIn key.swap inputs := List.flatMap_cons
      rw [heard, acknowledgements_append, List.map_append]
      exact first.append rest
  exact from_formed [] wellFormed_empty

theorem run_receipts (configuration : Configuration) (key : κ × κ) (inputs : List (Input ours)) :
    ((acknowledgements (said key.swap (trace configuration [] inputs))).map
        fun frame => uint32At frame.data 1).Sublist
      ((delivered key (trace configuration [] inputs)).map Message.size) := by
  have from_formed (sessions : List (Session κ)) (formed : WellFormed configuration ours sessions)
      (sized : ∀ session ∈ sessions, session.Sized) :
      ((acknowledgements (said key.swap (trace configuration sessions inputs))).map
          fun frame => uint32At frame.data 1).Sublist
        ((delivered key (trace configuration sessions inputs)).map Message.size) := by
    induction inputs generalizing sessions with
    | nil => exact List.nil_sublist _
    | cons input inputs ih =>
      have first := (step_ends configuration sessions input).sizes sized key
      have rest := ih _ (step_wellFormed formed input) (step_sized formed sized input)
      simp only [said, delivered, trace, List.flatMap_cons, acknowledgements_append,
        List.map_append]
      exact first.append rest
  exact from_formed [] wellFormed_empty (by simp)

/-- A sender reports no more successes for a size than messages of that size are handed on by the
receiver, whatever is lost, delayed or reordered between them and whatever else both of them hear:
provided that the acknowledgements that the sender hears are among those that the receiver gave. -/
theorem success_delivered {sends hears : κ → Bool} (sender receiver : Configuration) (key : κ × κ)
    (sending : List (Input sends)) (hearing : List (Input hears))
    (genuine : (acknowledgements (heardIn key.swap sending)).Subperm
      (acknowledgements (said key.swap (trace receiver [] hearing)))) :
    (confirmedIn sender key [] sending).Subperm
      ((delivered key (trace receiver [] hearing)).map fun message => some message.size) := by
  obtain ⟨heard, perm, given⟩ := genuine
  have receipts := (run_receipts receiver key hearing).map some
  simp only [List.map_map, Function.comp_def] at receipts
  have sizes := perm.map fun frame => some (uint32At frame.data 1)
  have backed := given.map fun frame => some (uint32At frame.data 1)
  exact (run_confirms sender key sending).subperm.trans
    (sizes.symm.subperm.trans (backed.trans receipts).subperm)

end Calls

theorem success_delivered_sample :
    (confirmedIn longSegments (true, false) [] sampleSending).Subperm
        ((delivered (true, false) (trace longSegments [] sampleHearing)).map
          fun message => some message.size) ∧
      confirmedIn longSegments (true, false) [] sampleSending = [some 1786] :=
  ⟨success_delivered longSegments longSegments (true, false) sampleSending sampleHearing
    (List.Perm.of_eq (by decide +kernel)).subperm, by decide +kernel⟩

end LittleDawn.ExtendedTransport
