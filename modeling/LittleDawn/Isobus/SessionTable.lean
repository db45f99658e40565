import LittleDawn.Isobus.SessionActs
import Mathlib.Data.List.Perm.Basic

set_option autoImplicit false

namespace LittleDawn.ExtendedTransport

variable {κ : Type} {ours : κ → Bool} {configuration : Configuration}

-- The side that a state belongs to; no session of the table is in the state `none`.
def StateMachineState.side : StateMachineState → Option Direction
  | .none => Option.none
  | .sendRequestToSend => some .transmit
  | .waitForClearToSend => some .transmit
  | .sendDataPacketOffset => some .transmit
  | .sendDataTransferPackets => some .transmit
  | .waitForEndOfMessageAcknowledge => some .transmit
  | .sendClearToSend => some .receive
  | .waitForDataPacketOffset => some .receive
  | .waitForDataTransferPacket => some .receive

structure Session.Proper (ours : κ → Bool) (session : Session κ) : Prop where
  side : session.state.side = some session.direction
  mine : ours session.ends.1 = true

def receiving (sessions : List (Session κ)) : Nat :=
  sessions.countP fun session => session.direction = .receive

structure WellFormed (configuration : Configuration) (ours : κ → Bool)
    (sessions : List (Session κ)) : Prop where
  unique : Unique sessions
  proper : ∀ session ∈ sessions, session.Proper ours
  bounded : receiving sessions ≤ configuration.maxNumberTransportProtocolSessions

structure Session.Keeps (session next : Session κ) : Prop where
  key : next.key = session.key
  direction : next.direction = session.direction
  notifies : next.notifies = session.notifies
  parameterGroupNumber : next.parameterGroupNumber = session.parameterGroupNumber
  side : next.state.side = session.state.side

theorem Session.Keeps.proper {session next : Session κ} (keeps : session.Keeps next)
    (proper : session.Proper ours) : next.Proper ours := by
  have ends : next.ends = session.ends := by
    obtain ⟨source, destination⟩ := Prod.mk.inj keeps.key
    simp only [Session.ends, keeps.direction, source, destination]
  refine ⟨?_, ?_⟩
  · rw [keeps.side, keeps.direction]
    exact proper.side
  · rw [ends]
    exact proper.mine

theorem wellFormed_empty : WellFormed configuration ours ([] : List (Session κ)) :=
  ⟨List.nodup_nil, by simp, Nat.zero_le _⟩

theorem wellFormed_erase {before after : List (Session κ)} {session : Session κ}
    (formed : WellFormed configuration ours (before ++ session :: after)) :
    WellFormed configuration ours (before ++ after) := by
  have less : (before ++ after).Sublist (before ++ session :: after) :=
    (List.sublist_cons_self session after).append_left before
  refine ⟨formed.unique.sublist (less.map _), ?_, ?_⟩
  · intro other member
    exact formed.proper other (less.subset member)
  · exact (less.countP_le).trans formed.bounded

theorem wellFormed_replace {before after : List (Session κ)} {session next : Session κ}
    (formed : WellFormed configuration ours (before ++ session :: after))
    (keeps : session.Keeps next) : WellFormed configuration ours (before ++ next :: after) := by
  have proper := formed.proper
  refine ⟨?_, ?_, ?_⟩
  · have unique := formed.unique
    simp only [Unique, List.map_append, List.map_cons, keeps.key] at unique ⊢
    exact unique
  · intro other member
    rcases List.mem_append.mp member with early | rest
    · exact proper other (List.mem_append_left _ early)
    · rcases List.mem_cons.mp rest with rfl | late
      · exact keeps.proper (proper session (by simp))
      · exact proper other (by simp [late])
  · have bounded := formed.bounded
    simp only [receiving, List.countP_append, List.countP_cons, keeps.direction] at bounded ⊢
    exact bounded

theorem wellFormed_append {sessions : List (Session κ)} {session : Session κ}
    (formed : WellFormed configuration ours sessions) (fresh : Fresh sessions session.key)
    (proper : session.Proper ours)
    (room : session.direction = .receive →
      sessions.length < configuration.maxNumberTransportProtocolSessions) :
    WellFormed configuration ours (sessions ++ [session]) := by
  refine ⟨?_, ?_, ?_⟩
  · rw [Unique, List.map_append]
    refine List.Nodup.append formed.unique (List.nodup_singleton _) ?_
    intro key inside single
    obtain ⟨other, member, rfl⟩ := List.mem_map.mp inside
    exact fresh other member (List.mem_singleton.mp single)
  · intro other member
    rcases List.mem_append.mp member with inside | single
    · exact formed.proper other inside
    · rw [List.mem_singleton.mp single]
      exact proper
  · have bounded := formed.bounded
    have all : receiving sessions ≤ sessions.length := List.countP_le_length
    rw [receiving, List.countP_append]
    by_cases receives : session.direction = .receive
    · have few := room receives
      simp only [receiving] at all
      simp only [List.countP_singleton, receives, decide_true, if_true]
      omega
    · simp only [List.countP_singleton, receives, decide_false, Bool.false_eq_true, if_false]
      exact bounded

theorem sendPackets_keeps (framesToSend : Nat) (session : Session κ) (effects : Effects κ) :
    session.Keeps (sendPackets framesToSend session effects).1 := by
  induction framesToSend generalizing session effects with
  | zero => exact ⟨rfl, rfl, rfl, rfl, rfl⟩
  | succ framesToSend ih =>
    unfold sendPackets
    split
    · obtain ⟨key, direction, notifies, group, side⟩ := ih
        { session with
          lastSequenceNumber := session.lastSequenceNumber + 1, timestamp := _ } _
      exact ⟨key, direction, notifies, group, side⟩
    · exact ⟨rfl, rfl, rfl, rfl, rfl⟩

theorem Tick.keeps {session next : Session κ} {effects result : Effects κ}
    (tick : Tick session effects next result) : session.Keeps next := by
  cases tick with
  | idle => exact ⟨rfl, rfl, rfl, rfl, rfl⟩
  | request state => exact ⟨rfl, rfl, rfl, rfl, by rw [state]; rfl⟩
  | clear state frame other acknowledged timestamp value next =>
    exact ⟨rfl, rfl, rfl, rfl, by rw [state]; rcases next with rfl | rfl <;> rfl⟩
  | offset state => exact ⟨rfl, rfl, rfl, rfl, by rw [state]; rfl⟩
  | packets state framesToSend timestamp value next =>
    obtain ⟨key, direction, notifies, group, -⟩ := sendPackets_keeps framesToSend session effects
    refine ⟨key, direction, notifies, group, ?_⟩
    rw [state]
    rcases next with rfl | rfl | rfl <;> rfl
  | refused => exact ⟨rfl, rfl, rfl, rfl, rfl⟩

theorem Minor.wellFormed {manager next : Manager κ} (minor : Minor configuration manager next)
    (formed : WellFormed configuration ours manager.1) :
    WellFormed configuration ours next.1 := by
  cases minor with
  | speak => exact formed
  | close => exact wellFormed_erase formed
  | tick before after session next effects result ticks =>
    exact wellFormed_replace formed (tick_cases ticks).keeps

theorem Minors.wellFormed {manager next : Manager κ} (minors : Minors configuration manager next)
    (formed : WellFormed configuration ours manager.1) :
    WellFormed configuration ours next.1 := by
  induction minors with
  | refl => exact formed
  | tail _ minor ih => exact minor.wellFormed ih

theorem Main.wellFormed {input : Input ours} {accepted : Bool} {manager next : Manager κ}
    (main : Main configuration input accepted manager next)
    (formed : WellFormed configuration ours manager.1) :
    WellFormed configuration ours next.1 := by
  cases main with
  | updated | refused | ignored | absent | full => exact formed
  | begun sessions effects transmission call size fresh =>
    refine wellFormed_append formed fresh ⟨rfl, transmission.internal⟩ ?_
    intro impossible
    cases impossible
  | requested sessions effects frame call counts request fresh room =>
    exact wellFormed_append formed fresh ⟨rfl, counts.ours⟩ fun _ => room
  | cleared before after session effects frame call other state packets number value next =>
    refine wellFormed_replace formed ⟨rfl, rfl, rfl, rfl, ?_⟩
    rw [state]
    rcases next with rfl | rfl <;> rfl
  | offset before after session effects frame call counts group key state value next =>
    refine wellFormed_replace formed ⟨rfl, rfl, rfl, rfl, ?_⟩
    rw [state]
    rcases next with rfl | rfl <;> rfl
  | packet before after session effects frame call counts expects remain value next =>
    refine wellFormed_replace formed ⟨rfl, rfl, rfl, rfl, ?_⟩
    rw [expects.state]
    rcases next with rfl | rfl <;> rfl
  | finished => exact wellFormed_erase formed

theorem Shape.wellFormed {input : Input ours} {accepted : Bool} {start result : Manager κ}
    (shape : Shape configuration input accepted start result)
    (formed : WellFormed configuration ours start.1) :
    WellFormed configuration ours result.1 := by
  obtain ⟨middle, next, first, main, last⟩ := shape
  exact Minors.wellFormed last (main.wellFormed (Minors.wellFormed first formed))

def Session.owed (session : Session κ) : Option (κ × κ × UInt32) :=
  if session.notifies ∧ session.direction = .transmit then
    some (session.source, session.destination, session.parameterGroupNumber)
  else none

def Completion.owed (completion : Completion κ) : κ × κ × UInt32 :=
  (completion.source, completion.destination, completion.parameterGroupNumber)

def reports (manager : Manager κ) : List (κ × κ × UInt32) :=
  manager.2.completed.map Completion.owed ++ manager.1.filterMap Session.owed

def asked (accepted : Bool) (input : Input ours) : List (κ × κ × UInt32) :=
  match accepted, input.call with
  | true, .transmit transmission =>
    if transmission.notifies then
      [(transmission.source, transmission.destination, transmission.parameterGroupNumber)]
    else []
  | _, _ => []

theorem Session.Keeps.owed {session next : Session κ} (keeps : session.Keeps next) :
    next.owed = session.owed := by
  obtain ⟨source, destination⟩ := Prod.mk.inj keeps.key
  simp only [Session.owed, keeps.notifies, keeps.direction, keeps.parameterGroupNumber, source,
    destination]

theorem closeSession_completed (effects : Effects κ) (session : Session κ) (successful : Bool) :
    (closeSession effects session successful).completed.map Completion.owed =
      effects.completed.map Completion.owed ++ session.owed.toList := by
  unfold closeSession Session.owed
  split
  · simp [Completion.owed]
  · simp

theorem reports_close (before after : List (Session κ)) (session : Session κ)
    (effects : Effects κ) (successful : Bool) :
    (reports (before ++ after, closeSession effects session successful)).Perm
      (reports (before ++ session :: after, effects)) := by
  have open_owed : (before ++ session :: after).filterMap Session.owed =
      before.filterMap Session.owed ++ session.owed.toList ++ after.filterMap Session.owed := by
    cases owes : session.owed <;> simp [owes]
  simp only [reports, closeSession_completed, open_owed, List.filterMap_append, List.append_assoc]
  refine List.Perm.append_left _ ?_
  simp only [← List.append_assoc]
  exact List.Perm.append_right _ List.perm_append_comm

theorem reports_replace {before after : List (Session κ)} {session next : Session κ}
    {effects result : Effects κ} (keeps : session.Keeps next)
    (same : result.completed = effects.completed) :
    reports (before ++ next :: after, result) =
      reports (before ++ session :: after, effects) := by
  simp only [reports, same, List.filterMap_append, List.filterMap_cons, keeps.owed]

theorem send_quiet {effects after : Effects κ} {frame : Frame κ} {taken : Bool}
    (sent : effects.send frame = (taken, after)) :
    ∃ port, after = { effects with port := port } := by
  obtain rfl : (effects.send frame).2 = after := congrArg Prod.snd sent
  exact ⟨_, rfl⟩

theorem sendPackets_quiet (framesToSend : Nat) (session : Session κ) (effects : Effects κ) :
    ∃ port, (sendPackets framesToSend session effects).2 = { effects with port := port } := by
  induction framesToSend generalizing session effects with
  | zero => exact ⟨effects.port, rfl⟩
  | succ framesToSend ih =>
    cases sent : effects.send (dataTransfer session) with
    | mk taken after =>
      obtain ⟨first, rfl⟩ := send_quiet sent
      cases taken with
      | true =>
        obtain ⟨port, rest⟩ := ih { session with
          lastSequenceNumber := session.lastSequenceNumber + 1, timestamp := first.now }
          { effects with port := first }
        exact ⟨port, by simp only [sendPackets, sent, rest]⟩
      | false => exact ⟨first, by simp only [sendPackets, sent]⟩

theorem Tick.quiet {session next : Session κ} {effects result : Effects κ}
    (tick : Tick session effects next result) : ∃ port, result = { effects with port := port } := by
  cases tick with
  | idle => exact ⟨effects.port, rfl⟩
  | request state result sent => exact send_quiet sent
  | clear state frame => exact ⟨_, rfl⟩
  | offset state packets result sent => exact send_quiet sent
  | packets => exact sendPackets_quiet ..
  | refused frame => exact ⟨_, rfl⟩

theorem Minor.reports {manager next : Manager κ} (minor : Minor configuration manager next) :
    (reports next).Perm (reports manager) := by
  cases minor with
  | speak => exact .refl _
  | close before after session effects successful => exact reports_close ..
  | tick before after session next effects result ticks =>
    have tick := tick_cases ticks
    obtain ⟨port, rfl⟩ := tick.quiet
    exact .of_eq (reports_replace tick.keeps rfl)

theorem Minors.reports {manager next : Manager κ} (minors : Minors configuration manager next) :
    (reports next).Perm (reports manager) := by
  induction minors with
  | refl => exact .refl _
  | tail _ minor ih => exact minor.reports.trans ih

theorem asked_receive {input : Input ours} {frame : Frame κ} (accepted : Bool)
    (call : input.call = .receive frame) : asked accepted input = [] := by
  cases accepted <;> simp [asked, call]

theorem Session.Proper.receives {session : Session κ} (proper : session.Proper ours)
    (state : session.state = .waitForDataTransferPacket) : session.direction = .receive := by
  have side := proper.side
  rw [state] at side
  exact (Option.some.inj side).symm

theorem Main.reports {input : Input ours} {accepted : Bool} {manager next : Manager κ}
    (main : Main configuration input accepted manager next)
    (formed : WellFormed configuration ours manager.1) :
    (reports next).Perm (reports manager ++ asked accepted input) := by
  cases main with
  | updated | refused => simp [asked]
  | begun sessions effects transmission call size fresh =>
    have owes : [Session.begun transmission effects.port.now].filterMap Session.owed =
        asked true input := by
      cases wants : transmission.notifies <;>
        simp [Session.owed, Session.begun, Session.create, asked, call, wants]
    simp [LittleDawn.ExtendedTransport.reports, ← owes]
  | ignored manager frame call | absent manager frame call | full manager frame call =>
    rw [asked_receive _ call, List.append_nil]
  | requested sessions effects frame call =>
    rw [asked_receive _ call, List.append_nil]
    simp [LittleDawn.ExtendedTransport.reports, Session.owed, Session.requested, Session.create]
  | cleared before after session effects frame call other state packets number value next =>
    rw [asked_receive _ call, List.append_nil]
    refine .of_eq (reports_replace ⟨rfl, rfl, rfl, rfl, ?_⟩ rfl)
    rw [state]
    rcases next with rfl | rfl <;> rfl
  | offset before after session effects frame call counts group key state value next =>
    rw [asked_receive _ call, List.append_nil]
    refine .of_eq (reports_replace ⟨rfl, rfl, rfl, rfl, ?_⟩ rfl)
    rw [state]
    rcases next with rfl | rfl <;> rfl
  | packet before after session effects frame call counts expects remain value next =>
    rw [asked_receive _ call, List.append_nil]
    refine .of_eq (reports_replace ⟨rfl, rfl, rfl, rfl, ?_⟩ rfl)
    rw [expects.state]
    rcases next with rfl | rfl <;> rfl
  | finished before after session effects frame call counts expects last =>
    rw [asked_receive _ call, List.append_nil]
    have receives := (formed.proper session (by simp)).receives expects.state
    simp [LittleDawn.ExtendedTransport.reports, closeSession, Session.received, Session.owed,
      receives]

theorem Shape.reports {input : Input ours} {accepted : Bool} {start result : Manager κ}
    (shape : Shape configuration input accepted start result)
    (formed : WellFormed configuration ours start.1) :
    (reports result).Perm (reports start ++ asked accepted input) := by
  obtain ⟨middle, next, first, main, last⟩ := shape
  have between := main.reports (Minors.wellFormed first formed)
  exact (Minors.reports last).trans (between.trans ((Minors.reports first).append_right _))

section Runs

variable [DecidableEq κ]

def trace (configuration : Configuration) (sessions : List (Session κ)) :
    List (Input ours) → List (Input ours × Output κ)
  | [] => []
  | input :: inputs =>
    let output := step configuration sessions input
    (input, output) :: trace configuration output.sessions inputs

def run (configuration : Configuration) (sessions : List (Session κ)) (inputs : List (Input ours)) :
    List (Session κ) :=
  inputs.foldl (fun sessions input => (step configuration sessions input).sessions) sessions

theorem step_wellFormed {sessions : List (Session κ)}
    (formed : WellFormed configuration ours sessions) (input : Input ours) :
    WellFormed configuration ours (step configuration sessions input).sessions :=
  (step_shape configuration formed.unique input).wellFormed formed

/-- In every run no two sessions are for the same control functions in the same roles, each is on
the side of its state, and the sessions that receive are within the limit. -/
theorem run_wellFormed (configuration : Configuration) (inputs : List (Input ours)) :
    WellFormed configuration ours (run configuration [] inputs) := by
  have from_formed (sessions : List (Session κ))
      (formed : WellFormed configuration ours sessions) :
      WellFormed configuration ours (run configuration sessions inputs) := by
    induction inputs generalizing sessions with
    | nil => exact formed
    | cons input inputs ih => exact ih _ (step_wellFormed formed input)
  exact from_formed [] wellFormed_empty

def reported (history : List (Input ours × Output κ)) : List (κ × κ × UInt32) :=
  history.flatMap fun call => call.2.effects.completed.map Completion.owed

def wanted (history : List (Input ours × Output κ)) : List (κ × κ × UInt32) :=
  history.flatMap fun call => asked call.2.accepted call.1

theorem step_reports {sessions : List (Session κ)}
    (formed : WellFormed configuration ours sessions) (input : Input ours) :
    ((step configuration sessions input).effects.completed.map Completion.owed ++
        (step configuration sessions input).sessions.filterMap Session.owed).Perm
      (sessions.filterMap Session.owed ++
        asked (step configuration sessions input).accepted input) :=
  (step_shape configuration formed.unique input).reports formed

/-- In every run each accepted transmission that asks for a report gets exactly one, except for
those whose session is still open, and no other report is made. -/
theorem run_reported (configuration : Configuration) (inputs : List (Input ours)) :
    (reported (trace configuration [] inputs) ++
        (run configuration [] inputs).filterMap Session.owed).Perm
      (wanted (trace configuration [] inputs)) := by
  have from_formed (sessions : List (Session κ))
      (formed : WellFormed configuration ours sessions) :
      (reported (trace configuration sessions inputs) ++
          (run configuration sessions inputs).filterMap Session.owed).Perm
        (sessions.filterMap Session.owed ++ wanted (trace configuration sessions inputs)) := by
    induction inputs generalizing sessions with
    | nil => simp [reported, wanted, trace, run]
    | cons input inputs ih =>
      let output := step configuration sessions input
      have first := (step_reports formed input).append_right
        (wanted (trace configuration output.sessions inputs))
      have rest := (ih _ (step_wellFormed formed input)).append_left
        (output.effects.completed.map Completion.owed)
      rw [List.append_assoc, List.append_assoc] at first
      have joined := rest.trans first
      rwa [← List.append_assoc] at joined
  exact from_formed [] wellFormed_empty

end Runs

end LittleDawn.ExtendedTransport
