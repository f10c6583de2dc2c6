import MarketConnector.Ws.Lifecycle

/-!
# Ws - Is `disconnect()` final?

`disconnect()` cancels the stored tasks.  A listen loop that a reconnect has left
unstored and that sleeps before its next attempt, or a `connect()` in progress, goes on
and opens a socket behind the user's back.

Main results:

- Theorem `final_iff`: in which states nothing is opened or started any more.
- Theorem `disconnectFinal_iff`: a run whose `disconnect()` calls are final.
- Theorem `forgotten_loop_reconnects`: a loop that `disconnect()` does not know of.
-/

namespace MarketConnector
namespace Ws

open Foundations

/-! ## The property -/

/-- The step in which a `disconnect()` completes: at once when there is no socket, or
when `ws.close()` ends. -/
def CompletesDisconnect (s : Connector) : Label → Prop
  | .disconnect => s.ws = none
  | .closed _ => True
  | _ => False

/-- The step opens no socket, starts no task and does not set `_connected`. -/
structure Inert (s : Connector) (_ : Label) (s' : Connector) : Prop where
  noSocket : s'.nextSocket = s.nextSocket
  noTask : s'.nextTask = s.nextTask
  notConnected : s'.connected = true → s.connected = true

/-- Nothing is opened or started until the user calls `connect()`. -/
def Final (refreshEnabled : Bool) (s : Connector) : Prop :=
  (connectorMachine refreshEnabled).AlwaysAfter (· ≠ .connect) Inert s

/-- A listen loop suspended in this phase comes to a `connect()` of its own. -/
def mayReconnect (connected : Bool) : Phase → Bool
  | .created => connected
  | .reading _ => connected
  | .backoff => true
  | .connecting _ => true
  | .waiting => false
  | .acting => false

/-- No `connect()` is in progress, and no listen loop will come to one. -/
structure Quiet (s : Connector) : Prop where
  calls : s.connectCalls = ∅
  loops : ∀ id task, s.live.get? id = some task → task.kind = .listen →
    mayReconnect s.connected task.phase = false

/-! ## Quiet states stay quiet -/

theorem Quiet.disconnected {s : Connector} (h : Quiet s) {id : Nat} {phase : Phase}
    (hid : s.live.get? id = some ⟨.listen, phase⟩)
    (hphase : mayReconnect s.connected phase = s.connected) : s.connected = false :=
  hphase.symm.trans (h.loops id _ hid rfl)

/-- Ending tasks and changing phases of the other loops keeps a state quiet. -/
theorem Quiet.mono {s s' : Connector} (h : Quiet s) (hcalls : s'.connectCalls = s.connectCalls)
    (hconnected : s'.connected = true → s.connected = true)
    (hlive : ∀ id task, s'.live.get? id = some task → task.kind = .listen →
      s.live.get? id = some task) : Quiet s' where
  calls := hcalls.trans h.calls
  loops id task hid hkind := by
    have hbefore := h.loops id task (hlive id task hid hkind) hkind
    cases hs' : s'.connected with
    | true =>
        rw [hconnected hs'] at hbefore
        exact hbefore
    | false => cases htask : task.phase <;> simp_all [mayReconnect]

theorem Quiet.stageOf_eq_none {s : Connector} (h : Quiet s) (caller : Caller) :
    stageOf s caller = none := by
  cases hstage : stageOf s caller with
  | none => rfl
  | some stage =>
      cases caller with
      | call id =>
          have hcall : s.connectCalls.get? id = some stage := hstage
          rw [h.calls] at hcall
          cases hcall
      | task id => cases h.loops id _ (stageOf_task hstage) rfl

theorem Quiet.endTask {s : Connector} (h : Quiet s) (id : Nat) : Quiet (endTask s id) := by
  refine h.mono rfl (fun hs => hs) fun id' task hid _ => ?_
  have hne : id' ≠ id := by
    rintro rfl
    cases (Dict.get?_pop_self s.live id').symm.trans hid
  exact (Dict.get?_pop_of_ne _ hne).symm.trans hid

theorem Quiet.setPhase {s : Connector} (h : Quiet s) (id : Nat) {kind : LoopKind}
    (hkind : kind ≠ .listen) (phase : Phase) : Quiet (setPhase s id kind phase) := by
  refine h.mono rfl (fun hs => hs) fun id' task hid hlisten => ?_
  have hne : id' ≠ id := by
    rintro rfl
    cases (Dict.get?_set_self s.live id' _).symm.trans hid
    exact hkind hlisten
  exact (Dict.get?_set_of_ne _ hne _).symm.trans hid

theorem Quiet.pauseTop {s : Connector} (h : Quiet s) (id : Nat) {kind : LoopKind}
    (hkind : kind ≠ .listen) : Quiet (pauseTop s id kind) := by
  unfold Ws.pauseTop
  split
  · exact h.setPhase id hkind .waiting
  · exact h.endTask id

theorem Quiet.afterInterval {s : Connector} (h : Quiet s) (id : Nat) {kind : LoopKind}
    (hkind : kind ≠ .listen) : Quiet (afterInterval s id kind) := by
  unfold Ws.afterInterval
  split
  · exact h.setPhase id hkind .acting
  · exact h.pauseTop id hkind

/-- A loop that finds the connector disconnected leaves. -/
theorem listenTop_of_disconnected {s : Connector} (hs : s.connected = false) (id : Nat) :
    listenTop s id = endTask s id := by
  unfold listenTop
  rw [hs]
  rfl

theorem Quiet.startDisconnect {s : Connector} (h : Quiet s) : Quiet (startDisconnect s) := by
  have hmarked : Quiet { s with connected := false, live := s.live.without (storedTasks s) } := by
    refine h.mono rfl (fun hs => ?_) fun id task hid _ => ?_
    · cases hs
    · simp only [Dict.get?_without] at hid
      split_ifs at hid
      exact hid
  unfold Ws.startDisconnect
  cases s.ws with
  | none => exact hmarked.mono rfl (fun hs => hs) fun _ _ hid _ => hid
  | some w => exact hmarked.mono rfl (fun hs => hs) fun _ _ hid _ => hid

theorem inert_pauseTop (s : Connector) (l : Label) (id : Nat) (kind : LoopKind) :
    Inert s l (pauseTop s id kind) := by
  unfold pauseTop
  split <;> exact ⟨rfl, rfl, fun hs => hs⟩

theorem inert_afterInterval (s : Connector) (l : Label) (id : Nat) (kind : LoopKind) :
    Inert s l (afterInterval s id kind) := by
  unfold afterInterval
  split
  · exact ⟨rfl, rfl, fun hs => hs⟩
  · exact inert_pauseTop s l id kind

theorem inert_startDisconnect (s : Connector) (l : Label) : Inert s l (startDisconnect s) := by
  unfold startDisconnect
  cases s.ws with
  | none => exact ⟨rfl, rfl, (fun hs => by cases hs)⟩
  | some w => exact ⟨rfl, rfl, (fun hs => by cases hs)⟩

/-- In a quiet state a step opens and starts nothing, and the next state is quiet. -/
theorem Quiet.step {r : Bool} {s s' : Connector} {l : Label} (h : Quiet s)
    (hl : l ≠ .connect) (hstep : step r s l = some s') : Inert s l s' ∧ Quiet s' := by
  have hended : ∀ id, Inert s l (Ws.endTask s id) ∧ Quiet (Ws.endTask s id) :=
    fun id => ⟨⟨rfl, rfl, fun hs => hs⟩, h.endTask id⟩
  cases step_move hstep with
  | connect => exact absurd rfl hl
  | connectFails hstage => cases (h.stageOf_eq_none _).symm.trans hstage
  | prepared hstage => cases (h.stageOf_eq_none _).symm.trans hstage
  | opened hstage => cases (h.stageOf_eq_none _).symm.trans hstage
  | loggedIn hstage => cases (h.stageOf_eq_none _).symm.trans hstage
  | disconnect => exact ⟨inert_startDisconnect s _, h.startDisconnect⟩
  | closed hid =>
      exact ⟨⟨rfl, rfl, fun hs => hs⟩, h.mono rfl (fun hs => hs) fun _ _ hid _ => hid⟩
  | listenStarts hid =>
      rw [listenTop_of_disconnected (h.disconnected hid rfl)]
      exact hended _
  | pauseStarts hid hkind => exact ⟨inert_pauseTop s _ _ _, h.pauseTop _ hkind⟩
  | readEnds hid hclosed =>
      rw [listenTop_of_disconnected (h.disconnected hid rfl)]
      exact hended _
  | readFails hid hclosed hconnected =>
      cases hconnected.symm.trans (h.disconnected hid rfl)
  | listenLeaves hid hclosed hconnected => exact hended _
  | reconnects hid => cases h.loops _ _ hid rfl
  | intervalEnds hid hkind => exact ⟨inert_afterInterval s _ _ _, h.afterInterval _ hkind⟩
  | actionEnds hid hkind => exact ⟨inert_pauseTop s _ _ _, h.pauseTop _ hkind⟩
  | socketFails hopen =>
      exact ⟨⟨rfl, rfl, fun hs => hs⟩, h.mono rfl (fun hs => hs) fun _ _ hid _ => hid⟩

/-! ## Other states do not -/

theorem Final.step {r : Bool} {s s' : Connector} {l : Label} (h : Final r s)
    (hl : l ≠ .connect) (hstep : step r s l = some s') : Inert s l s' ∧ Final r s' :=
  Machine.AlwaysAfter.step h hl hstep

theorem stageOf_setStage {s : Connector} (caller : Caller) (stage : ConnectStage) :
    stageOf (setStage s stage caller) caller = some stage := by
  cases caller <;> simp [setStage, stageOf, setPhase]

theorem nextTask_leaveConnect (s : Connector) (caller : Caller) :
    (leaveConnect s caller).nextTask = s.nextTask := by
  cases caller with
  | call id => rfl
  | task id =>
      simp only [leaveConnect, listenTop]
      split
      · cases s.ws <;> rfl
      · rfl

/-- A `connect()` in progress may yet open a socket, or start the tasks. -/
theorem not_final_of_stage {r : Bool} {s : Connector} {caller : Caller} {stage : ConnectStage}
    (hstage : stageOf s caller = some stage) : ¬ Final r s := by
  have hstep : ∀ {s : Connector} {stage : ConnectStage}, stageOf s caller = some stage →
      step r s (.connectResumes caller true) = some (resumeConnect r s caller stage true) := by
    intro s stage hstage
    simp only [step, hstage]
  have hopening : ∀ {s : Connector}, stageOf s caller = some .opening → ¬ Final r s := by
    intro s hstage hfinal
    have hsame := (hfinal.step (by simp) (hstep hstage)).1.noSocket
    have hopened := (sameSockets_setStage (openSocket s) .loggingIn caller).nextSocket
    have hnext : s.nextSocket + 1 = s.nextSocket := hopened.symm.trans hsame
    omega
  intro hfinal
  cases stage with
  | preparing =>
      have hprepared := (hfinal.step (by simp) (hstep hstage)).2
      exact hopening (stageOf_setStage caller .opening) hprepared
  | opening => exact hopening hstage hfinal
  | loggingIn =>
      have hsame := (hfinal.step (by simp) (hstep hstage)).1.noTask
      have hspawned : s.nextTask < (spawnTasks r s).nextTask := by
        unfold spawnTasks
        cases r <;> simp
      have hleft := nextTask_leaveConnect (spawnTasks r s) caller
      have hnext : (spawnTasks r s).nextTask = s.nextTask := hleft.symm.trans hsame
      omega

/-- A listen loop in its backoff comes to `connect()`. -/
theorem not_final_of_backoff {r : Bool} {s : Connector} {id : Nat}
    (hid : s.live.get? id = some ⟨.listen, .backoff⟩) : ¬ Final r s := by
  intro hfinal
  have hwakes : step r s (.taskWakes id) =
      some (setPhase s id .listen (.connecting .preparing)) := by
    simp only [step, hid]
  exact not_final_of_stage (stageOf_setStage (.task id) .preparing)
    (hfinal.step (by simp) hwakes).2

/-- On a connected connector, a listen loop that reads loses its socket at some time. -/
theorem not_final_of_reading {r : Bool} {s : Connector} {id w : Nat}
    (hid : s.live.get? id = some ⟨.listen, .reading w⟩) (hconnected : s.connected = true) :
    ¬ Final r s := by
  have hclosed : ∀ {s : Connector}, s.live.get? id = some ⟨.listen, .reading w⟩ →
      s.connected = true → w ∉ s.openSockets → ¬ Final r s := by
    intro s hid hconnected hw hfinal
    have hfails : step r s (.readEnds id false) = some (setPhase s id .listen .backoff) := by
      simp [step, hid, hw, hconnected]
    exact not_final_of_backoff (Dict.get?_set_self s.live id _) (hfinal.step (by simp) hfails).2
  intro hfinal
  by_cases hw : w ∈ s.openSockets
  · have hdrops : step r s (.socketFails w) =
        some { s with openSockets := s.openSockets.filter (· ≠ w) } := by
      simp [step, hw]
    have hfinal' := (hfinal.step (by simp) hdrops).2
    refine hclosed ?_ ?_ ?_ hfinal'
    · exact hid
    · exact hconnected
    · simp
  · exact hclosed hid hconnected hw hfinal

theorem not_final_of_created {r : Bool} {s : Connector} {id : Nat}
    (hid : s.live.get? id = some ⟨.listen, .created⟩) (hconnected : s.connected = true) :
    ¬ Final r s := by
  intro hfinal
  have hstarts : step r s (.taskStarts id) = some (listenTop s id) := by
    simp only [step, hid]
  have hfinal' := (hfinal.step (by simp) hstarts).2
  have hself : ∀ phase, (setPhase s id .listen phase).live.get? id = some ⟨.listen, phase⟩ :=
    fun phase => Dict.get?_set_self s.live id _
  unfold listenTop at hfinal'
  rw [if_pos hconnected] at hfinal'
  cases hws : s.ws with
  | some w =>
      simp only [hws] at hfinal'
      exact not_final_of_reading (hself _) hconnected hfinal'
  | none =>
      simp only [hws] at hfinal'
      exact not_final_of_backoff (hself _) hfinal'

/-- Nothing is opened or started any more exactly in the quiet states. -/
theorem final_iff (refreshEnabled : Bool) (s : Connector) :
    Final refreshEnabled s ↔ Quiet s := by
  constructor
  · intro hfinal
    constructor
    · by_contra hne
      obtain ⟨id, stage, hid⟩ := Dict.exists_get?_of_ne_empty hne
      have hstage : stageOf s (.call id) = some stage := hid
      exact not_final_of_stage hstage hfinal
    · rintro id ⟨kind, phase⟩ hid rfl
      rw [← Bool.not_eq_true]
      intro hmay
      cases phase with
      | created => exact not_final_of_created hid hmay hfinal
      | reading w => exact not_final_of_reading hid hmay hfinal
      | backoff => exact not_final_of_backoff hid hfinal
      | connecting stage =>
          have hstage : stageOf s (.task id) = some stage := by
            simp only [stageOf, hid]
          exact not_final_of_stage hstage hfinal
      | waiting => cases hmay
      | acting => cases hmay
  · intro hquiet
    exact (connectorMachine refreshEnabled).alwaysAfter_of_invariant
      (fun _ _ _ h hl hstep => h.step hl hstep) hquiet

/-! ## Runs -/

/-- A `disconnect()` that completes in this step is final. -/
def DisconnectFinal (refreshEnabled : Bool) (s : Connector) (l : Label) : Prop :=
  CompletesDisconnect s l → ∀ s', step refreshEnabled s l = some s' → Final refreshEnabled s'

/-- A `disconnect()` that completes in this step leaves a quiet state. -/
def DisconnectQuiet (refreshEnabled : Bool) (s : Connector) (l : Label) : Prop :=
  CompletesDisconnect s l → ∀ s', step refreshEnabled s l = some s' → Quiet s'

/-- The `disconnect()` calls of a run are final exactly when each leaves a quiet state. -/
theorem disconnectFinal_iff (refreshEnabled : Bool) (ls : List Label) :
    (connectorMachine refreshEnabled).AllSteps (DisconnectFinal refreshEnabled) .init ls ↔
      (connectorMachine refreshEnabled).AllSteps (DisconnectQuiet refreshEnabled) .init ls := by
  apply Machine.allSteps_congr
  intro s l _ _
  exact forall_congr' fun _ => forall_congr' fun s' => forall_congr' fun _ => final_iff _ s'

/-- After an automatic reconnect the socket fails again, and the loop that reconnected
sleeps; `disconnect()` cancels the tasks of the reconnect and closes the socket. -/
def forgottenLoopRun : List Label :=
  [.connect, .connectResumes (.call 0) true, .connectResumes (.call 0) true,
    .connectResumes (.call 0) true, .taskStarts 0, .taskStarts 1, .socketFails 0,
    .readEnds 0 false, .taskWakes 0, .connectResumes (.task 0) true,
    .connectResumes (.task 0) true, .connectResumes (.task 0) true, .socketFails 1,
    .readEnds 0 false, .disconnect]

/-- The loop that `disconnect()` does not know of opens a new socket. -/
theorem forgotten_loop_reconnects :
    ∃ s s' t, (connectorMachine false).run .init forgottenLoopRun = some s ∧
      CompletesDisconnect s (.closed 1) ∧ step false s (.closed 1) = some s' ∧
      s'.connected = false ∧ s'.nextSocket = 2 ∧
      (connectorMachine false).run s' [.taskWakes 0, .connectResumes (.task 0) true,
        .connectResumes (.task 0) true, .connectResumes (.task 0) true] = some t ∧
      t.connected = true ∧ t.nextSocket = 3 ∧
      ¬ (connectorMachine false).AllSteps (DisconnectFinal false) .init
        (forgottenLoopRun ++ [.closed 1]) := by
  refine ⟨_, _, _, rfl, trivial, rfl, rfl, rfl, rfl, rfl, rfl, fun h => ?_⟩
  have hfinal := ((h.of_append rfl) _ rfl).1 trivial _ rfl
  cases ((final_iff false _).1 hfinal).loops 0 _ rfl rfl

end Ws
end MarketConnector
