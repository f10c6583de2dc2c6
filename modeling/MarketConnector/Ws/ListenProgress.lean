import MarketConnector.Ws.SingleTaskSet

/-!
# Ws - Progress of the listen loop

A pass of the listen loop is what it does from one evaluation of its condition to the next.
The passes are followed beside the connector: the frames that a pass reads, and whether it
sleeps and then calls `connect()`.

Main results:

- Definition `listenMachine`: the connector with the passes of its listen loops.
- Definition `ListenProgress`: every pass that ends while connected has made progress.
- Theorem `listenProgress_iff`: the runs in which no stream ends cleanly while connected.
- Theorem `listen_spins`: after a clean end the loop does nothing more.
-/

namespace MarketConnector
namespace Ws

open Foundations

/-! ## Passes -/

structure ListenPass where
  frames : Nat
  /-- the backoff sleep has ended and `connect()` has been called -/
  retried : Bool
deriving DecidableEq

/-- The connector, the passes of its tasks, and those that ended while connected. -/
structure ListenState where
  connector : Connector
  /-- sockets whose iterator has ended normally -/
  drained : List Nat
  passes : Nat → ListenPass
  ended : List ListenPass

def ListenState.init : ListenState :=
  ⟨.init, [], fun _ => ⟨0, false⟩, []⟩

inductive ListenLabel where
  /-- a step of the connector -/
  | connector (l : Label)
  /-- a frame is read, and processed or logged -/
  | frame (id : Nat)
  /-- reading an open socket raises -/
  | raises (id : Nat)

/-- The socket that a listen loop reads. -/
def readSocket (c : Connector) (id : Nat) : Option Nat :=
  match c.live.get? id with
  | some ⟨.listen, .reading w⟩ => some w
  | _ => none

/-- The task that is back at the top of its loop after the step. -/
def backAtTop (c : Connector) : Label → Option Nat
  | .readEnds id true => some id
  | .connectResumes (.task id) ok =>
      if ok && stageOf c (.task id) ≠ some .loggingIn then none else some id
  | _ => none

/-- The task that comes to call `connect()`. -/
def retries (c : Connector) : Label → Option Nat
  | .taskWakes id =>
      if c.live.get? id = some ⟨.listen, .backoff⟩ then some id else none
  | _ => none

/-- A pass begins. -/
def beginPass (passes : Nat → ListenPass) (id : Nat) : Nat → ListenPass :=
  Function.update passes id ⟨0, false⟩

/-- The passes after a step of the connector. -/
def passesAfter (s : ListenState) (l : Label) : Nat → ListenPass :=
  match l with
  | .taskStarts id => beginPass s.passes id
  | l =>
      match backAtTop s.connector l, retries s.connector l with
      | some id, _ => beginPass s.passes id
      | none, some id => Function.update s.passes id { s.passes id with retried := true }
      | none, none => s.passes

/-- The socket whose iterator ends normally. -/
def drains (c : Connector) : Label → List Nat
  | .readEnds id true => (readSocket c id).toList
  | _ => []

def listenStep (refreshEnabled : Bool) (s : ListenState) : ListenLabel → Option ListenState
  | .connector l =>
      (step refreshEnabled s.connector l).map fun after =>
        { connector := after
          drained := drains s.connector l ++ s.drained
          passes := passesAfter s l
          ended :=
            match backAtTop s.connector l with
            | some id => if after.connected then s.passes id :: s.ended else s.ended
            | none => s.ended }
  | .frame id =>
      match readSocket s.connector id with
      | none => none
      | some w =>
          if w ∈ s.drained then none
          else some { s with
            passes := Function.update s.passes id
              { s.passes id with frames := (s.passes id).frames + 1 } }
  | .raises id =>
      match readSocket s.connector id with
      | none => none
      | some w =>
          if w ∈ s.connector.openSockets then
            some { s with
              connector :=
                if s.connector.connected then setPhase s.connector id .listen .backoff
                else endTask s.connector id }
          else none

/-- The connector with the passes of its listen loops. -/
def listenMachine (refreshEnabled : Bool) : Machine ListenState ListenLabel where
  init := .init
  step := listenStep refreshEnabled

/-! ## Progress -/

/-- A pass that ends while connected has read a frame, or slept and called `connect()`; and the
end of its stream is answered by calling `connect()`. -/
structure ListenProgress (s : ListenState) : Prop where
  progresses : ∀ pass ∈ s.ended, 0 < pass.frames ∨ pass.retried = true
  reconnects : ∀ pass ∈ s.ended, pass.retried = true

/-- No stream ends normally while connected. -/
def EndsWithError (s : ListenState) (l : ListenLabel) : Prop :=
  ∀ id, l = .connector (.readEnds id true) → s.connector.connected = false

/-- Whether a task in the phase has called `connect()` in its pass. -/
def Phase.retried? : Phase → Option Bool
  | .reading _ => some false
  | .connecting _ => some true
  | _ => none

/-- Passes are as the phases of their tasks say. -/
def PassesAgree (c : Connector) (passes : Nat → ListenPass) : Prop :=
  ∀ id phase b, c.live.get? id = some ⟨.listen, phase⟩ → phase.retried? = some b →
    (passes id).retried = b

theorem PassesAgree.setPhase {c : Connector} {passes passes' : Nat → ListenPass}
    (h : PassesAgree c passes) {id : Nat} (hothers : ∀ id', id' ≠ id → passes' id' = passes id')
    {kind : LoopKind} {phase : Phase}
    (hphase : ∀ b, kind = .listen → phase.retried? = some b → (passes' id).retried = b) :
    PassesAgree (Ws.setPhase c id kind phase) passes' := by
  intro id' phase' b hid' hb
  by_cases hid : id' = id
  · subst hid
    unfold Ws.setPhase at hid'
    rw [Dict.get?_set_self] at hid'
    cases hid'
    exact hphase b rfl hb
  · unfold Ws.setPhase at hid'
    rw [Dict.get?_set_of_ne _ hid] at hid'
    rw [hothers id' hid]
    exact h id' phase' b hid' hb

theorem PassesAgree.endTask {c : Connector} {passes passes' : Nat → ListenPass}
    (h : PassesAgree c passes) {id : Nat}
    (hothers : ∀ id', id' ≠ id → passes' id' = passes id') :
    PassesAgree (Ws.endTask c id) passes' := by
  intro id' phase b hid' hb
  have hne : id' ≠ id := by
    rintro rfl
    unfold Ws.endTask at hid'
    rw [Dict.get?_pop_self] at hid'
    cases hid'
  unfold Ws.endTask at hid'
  rw [Dict.get?_pop_of_ne _ hne] at hid'
  rw [hothers id' hne]
  exact h id' phase b hid' hb

/-- A task at the top of its loop begins a pass. -/
theorem PassesAgree.listenTop {c : Connector} {passes : Nat → ListenPass}
    (h : PassesAgree c passes) (id : Nat) :
    PassesAgree (Ws.listenTop c id) (beginPass passes id) := by
  have hothers : ∀ id', id' ≠ id → beginPass passes id id' = passes id' :=
    fun id' hne => Function.update_of_ne hne _ _
  unfold Ws.listenTop
  split
  · split
    · refine h.setPhase hothers ?_
      intro b _ hb
      cases hb
      simp [beginPass]
    · exact h.setPhase hothers fun b _ hb => by cases hb
  · exact h.endTask hothers

theorem PassesAgree.mono {c c' : Connector} {passes : Nat → ListenPass}
    (h : PassesAgree c passes) (hlive : ∀ id phase b, c'.live.get? id = some ⟨.listen, phase⟩ →
      phase.retried? = some b → c.live.get? id = some ⟨.listen, phase⟩) :
    PassesAgree c' passes := by
  intro id phase b hid hb
  exact h id phase b (hlive id phase b hid hb) hb

theorem PassesAgree.pauseTop {c : Connector} {passes passes' : Nat → ListenPass}
    (h : PassesAgree c passes) {id : Nat} (hothers : ∀ id', id' ≠ id → passes' id' = passes id')
    {kind : LoopKind} (hkind : kind ≠ .listen) :
    PassesAgree (Ws.pauseTop c id kind) passes' := by
  unfold Ws.pauseTop
  split
  · exact h.setPhase hothers fun b hlisten _ => absurd hlisten hkind
  · exact h.endTask hothers

theorem PassesAgree.afterInterval {c : Connector} {passes : Nat → ListenPass}
    (h : PassesAgree c passes) (id : Nat) {kind : LoopKind} (hkind : kind ≠ .listen) :
    PassesAgree (Ws.afterInterval c id kind) passes := by
  unfold Ws.afterInterval
  split
  · exact h.setPhase (fun _ _ => rfl) fun b hlisten _ => absurd hlisten hkind
  · exact h.pauseTop (fun _ _ => rfl) hkind

/-- Created tasks have not begun a pass. -/
theorem PassesAgree.spawnTasks {c : Connector} {passes : Nat → ListenPass}
    (h : PassesAgree c passes) (r : Bool) : PassesAgree (Ws.spawnTasks r c) passes := by
  refine h.mono fun id phase b hid hb => ?_
  rcases (spawnTasks_live r c id ⟨.listen, phase⟩).1 hid with
    ⟨_, _, heq⟩ | ⟨_, heq⟩ | ⟨_, heq⟩ | ⟨_, _, _, hold⟩
  · cases heq
  · cases heq
  · cases heq
    cases hb
  · exact hold

theorem PassesAgree.startDisconnect {c : Connector} {passes : Nat → ListenPass}
    (h : PassesAgree c passes) : PassesAgree (Ws.startDisconnect c) passes := by
  have hlive : (Ws.startDisconnect c).live = c.live.without (storedTasks c) := by
    unfold Ws.startDisconnect
    cases c.ws <;> rfl
  refine h.mono fun id phase b hid _ => ?_
  rw [hlive, Dict.get?_without] at hid
  split_ifs at hid
  exact hid

theorem PassesAgree.setStage {c : Connector} {passes : Nat → ListenPass}
    (h : PassesAgree c passes) {caller : Caller} {before after : ConnectStage}
    (hstage : stageOf c caller = some before) :
    PassesAgree (Ws.setStage c after caller) passes := by
  cases caller with
  | call id => exact h
  | task id =>
      refine h.setPhase (fun _ _ => rfl) fun b _ hb => ?_
      cases hb
      exact h id _ true (stageOf_task hstage) rfl

/-- Before its login a `connect()` keeps its caller from the top of the loop. -/
theorem backAtTop_of_not_loggingIn {c : Connector} {caller : Caller} {stage : ConnectStage}
    (hstage : stageOf c caller = some stage) (hne : stage ≠ .loggingIn) :
    backAtTop c (.connectResumes caller true) = none := by
  cases caller with
  | call id => rfl
  | task id => simp [backAtTop, hstage, hne]

/-- No pass begins or retries where no loop comes back to its top or wakes to connect. -/
theorem passesAfter_of_stays {s : ListenState} {l : Label} (hstarts : ∀ id, l ≠ .taskStarts id)
    (hback : backAtTop s.connector l = none) (hretries : retries s.connector l = none) :
    passesAfter s l = s.passes := by
  unfold passesAfter
  cases l with
  | taskStarts id => exact absurd rfl (hstarts id)
  | _ => simp only [hback, hretries]

/-- Passes agree with the phases after every step of the connector. -/
theorem PassesAgree.step {r : Bool} {s : ListenState} {l : Label} {after : Connector}
    (h : PassesAgree s.connector s.passes) (hstep : Ws.step r s.connector l = some after) :
    PassesAgree after (passesAfter s l) := by
  have hbegun : ∀ (passes : Nat → ListenPass) (id id' : Nat), id' ≠ id →
      beginPass passes id id' = passes id' := fun passes id id' hne => Function.update_of_ne hne _ _
  cases step_move hstep with
  | connect => exact h
  | @connectFails caller stage hstage =>
      cases caller with
      | call id => exact h
      | task id => exact h.listenTop id
  | @prepared caller hstage =>
      rw [passesAfter_of_stays (by simp) (backAtTop_of_not_loggingIn hstage (by decide)) rfl]
      exact h.setStage hstage
  | @opened caller hstage =>
      rw [passesAfter_of_stays (by simp) (backAtTop_of_not_loggingIn hstage (by decide)) rfl]
      have hopen : PassesAgree (openSocket s.connector) s.passes := h
      exact hopen.setStage (by cases caller <;> exact hstage)
  | @loggedIn caller hstage =>
      cases caller with
      | call id =>
          have hspawn := h.spawnTasks r
          exact hspawn
      | task id =>
          have hback : backAtTop s.connector (.connectResumes (.task id) true) = some id := by
            simp [backAtTop, hstage]
          unfold passesAfter
          simp only [hback]
          exact (h.spawnTasks r).listenTop id
  | disconnect => exact h.startDisconnect
  | closed hid => exact h
  | @listenStarts id hid => exact h.listenTop id
  | @pauseStarts id kind hid hkind => exact h.pauseTop (hbegun s.passes id) hkind
  | @readEnds id w hid hclosed => exact h.listenTop id
  | @readFails id w hid hclosed hconnected =>
      exact h.setPhase (fun _ _ => rfl) fun b _ hb => by cases hb
  | @listenLeaves id w hid hclosed hconnected => exact h.endTask fun _ _ => rfl
  | @reconnects id hid =>
      unfold passesAfter
      simp only [backAtTop, retries, hid, if_true]
      refine h.setPhase (fun id' hne => Function.update_of_ne hne _ _) fun b _ hb => ?_
      cases hb
      simp
  | @intervalEnds id kind hid hkind =>
      rw [passesAfter_of_stays (by simp) rfl (by simp [retries, hid])]
      exact h.afterInterval id hkind
  | @actionEnds id kind hid hkind =>
      rw [passesAfter_of_stays (by simp) rfl (by simp [retries, hid])]
      exact h.pauseTop (fun _ _ => rfl) hkind
  | socketFails hopen => exact h

/-! ## Runs -/

/-- A loop that is back at its top has ended a stream normally, or has called `connect()`. -/
theorem retried_of_backAtTop {r : Bool} {s : ListenState} {l : Label} {after : Connector} {id : Nat}
    (h : PassesAgree s.connector s.passes) (hstep : Ws.step r s.connector l = some after)
    (hback : backAtTop s.connector l = some id) :
    l = .readEnds id true ∨ (s.passes id).retried = true := by
  cases l with
  | readEnds id' clean =>
      cases clean with
      | true =>
          cases hback
          exact Or.inl rfl
      | false => cases hback
  | connectResumes caller ok =>
      cases caller with
      | call id' => cases hback
      | task id' =>
          right
          cases hstage : stageOf s.connector (.task id') with
          | none => simp [Ws.step, hstage] at hstep
          | some stage =>
              have hid : id' = id := by
                dsimp only [backAtTop] at hback
                split_ifs at hback
                exact Option.some.inj hback
              subst hid
              exact h id' _ true (stageOf_task hstage) rfl
  | _ => cases hback

/-- Passes agree with the phases, and those that ended have made progress. -/
structure ListenInv (s : ListenState) : Prop where
  agree : PassesAgree s.connector s.passes
  progress : ListenProgress s

theorem listenInv_init : ListenInv .init :=
  ⟨fun _ _ _ hid _ => (by cases hid), fun _ hpass => (by cases hpass),
    fun _ hpass => (by cases hpass)⟩

theorem ListenProgress.cons {s s' : ListenState} (h : ListenProgress s) {pass : ListenPass}
    (hpass : pass.retried = true) (hended : s'.ended = pass :: s.ended) : ListenProgress s' := by
  constructor
  · rw [hended, List.forall_mem_cons]
    exact ⟨Or.inr hpass, h.progresses⟩
  · rw [hended, List.forall_mem_cons]
    exact ⟨hpass, h.reconnects⟩

theorem ListenProgress.of_ended_eq {s s' : ListenState} (h : ListenProgress s)
    (hended : s'.ended = s.ended) : ListenProgress s' := by
  constructor
  · rw [hended]
    exact h.progresses
  · rw [hended]
    exact h.reconnects

theorem listenTop_connected (c : Connector) (id : Nat) :
    (listenTop c id).connected = c.connected := by
  unfold listenTop
  split
  · split <;> rfl
  · rfl

/-- The end of a stream leads back to the top of the loop. -/
theorem step_readEnds {r : Bool} {c after : Connector} {id : Nat}
    (h : Ws.step r c (.readEnds id true) = some after) :
    after = listenTop c id ∧ ∃ w, c.live.get? id = some ⟨.listen, .reading w⟩ := by
  cases step_move h with
  | @readEnds id w hid hclosed => exact ⟨rfl, w, hid⟩

/-- Reading frames and errors do not change what the phases say. -/
theorem PassesAgree.frame {c : Connector} {passes : Nat → ListenPass} (h : PassesAgree c passes)
    (id : Nat) (frames : Nat) :
    PassesAgree c (Function.update passes id { passes id with frames := frames }) := by
  intro id' phase b hid hb
  have hold := h id' phase b hid hb
  by_cases heq : id' = id
  · subst heq
    rw [Function.update_self]
    exact hold
  · rw [Function.update_of_ne heq]
    exact hold

theorem ListenInv.step {r : Bool} {s s' : ListenState} {l : ListenLabel} (h : ListenInv s)
    (hguard : EndsWithError s l) (hstep : listenStep r s l = some s') : ListenInv s' := by
  cases l with
  | connector l =>
      obtain ⟨after, hafter, rfl⟩ := Option.map_eq_some_iff.1 hstep
      refine ⟨h.agree.step hafter, ?_⟩
      cases hback : backAtTop s.connector l with
      | none => exact h.progress.of_ended_eq rfl
      | some id =>
          by_cases hconnected : after.connected = true
          · rcases retried_of_backAtTop h.agree hafter hback with rfl | hretried
            · -- a normal end while connected is what the guard excludes
              obtain ⟨rfl, -⟩ := step_readEnds hafter
              rw [listenTop_connected, hguard id rfl] at hconnected
              cases hconnected
            · exact h.progress.cons hretried (by simp [hconnected])
          · exact h.progress.of_ended_eq (by simp [hconnected])
  | frame id =>
      simp only [listenStep] at hstep
      split at hstep
      · cases hstep
      · split_ifs at hstep
        cases hstep
        exact ⟨h.agree.frame id _, h.progress.of_ended_eq rfl⟩
  | raises id =>
      simp only [listenStep] at hstep
      split at hstep
      · cases hstep
      · split_ifs at hstep
        · cases hstep
          refine ⟨h.agree.setPhase (fun _ _ => rfl) fun b _ hb => ?_, h.progress.of_ended_eq rfl⟩
          cases hb
        · cases hstep
          exact ⟨h.agree.endTask fun _ _ => rfl, h.progress.of_ended_eq rfl⟩

/-- A stream that ends normally while connected ends a pass without a reconnect. -/
theorem ListenInv.endsWithError {r : Bool} {s s' : ListenState} {l : ListenLabel}
    (h : ListenInv s) (hstep : listenStep r s l = some s') (hprogress : ListenProgress s') :
    EndsWithError s l := by
  rintro id rfl
  obtain ⟨after, hafter, rfl⟩ := Option.map_eq_some_iff.1 hstep
  obtain ⟨rfl, w, hid⟩ := step_readEnds hafter
  by_contra hconnected
  rw [Bool.not_eq_false] at hconnected
  have hretried := hprogress.reconnects (s.passes id)
    (by simp [backAtTop, listenTop_connected, hconnected])
  rw [h.agree id _ false hid rfl] at hretried
  cases hretried

/-- All passes make progress exactly in the runs in which no stream ends normally while
connected. -/
theorem listenProgress_iff (refreshEnabled : Bool) (ls : List ListenLabel) :
    (listenMachine refreshEnabled).AllStates ListenProgress .init ls ↔
      (listenMachine refreshEnabled).AllSteps EndsWithError .init ls :=
  Machine.allStates_iff_allSteps _ (fun _ _ _ h hguard hstep => h.step hguard hstep)
    (fun _ h => h.progress) (fun _ _ _ h hstep hprogress => h.endsWithError hstep hprogress)
    listenInv_init

/-- The server closes the connection before it has sent a frame. -/
def closedAtOnce : List ListenLabel :=
  [.connector .connect, .connector (.connectResumes (.call 0) true),
    .connector (.connectResumes (.call 0) true), .connector (.connectResumes (.call 0) true),
    .connector (.taskStarts 0), .connector (.socketFails 0), .connector (.readEnds 0 true)]

/-- The loop reads no frame, does not sleep, and is back at its top. -/
theorem clean_close_is_not_answered :
    ¬ (listenMachine false).AllStates ListenProgress .init closedAtOnce := by
  intro h
  obtain ⟨s, hrun, hended⟩ : ∃ s, (listenMachine false).run .init closedAtOnce = some s ∧
      s.ended = [⟨0, false⟩] := ⟨_, rfl, rfl⟩
  have hpass := (h.last hrun).progresses ⟨0, false⟩ (by simp [hended])
  simp at hpass

/-! ## After a normal end -/

/-- A loop that is about to end the stream of the current socket again. -/
structure Spinning (id w : Nat) (s : ListenState) : Prop where
  connected : s.connector.connected = true
  current : s.connector.ws = some w
  reads : s.connector.live.get? id = some ⟨.listen, .reading w⟩
  closed : w ∉ s.connector.openSockets
  drained : w ∈ s.drained
  begun : s.passes id = ⟨0, false⟩

/-- The stream of the current socket ends normally. -/
theorem spinning_of_readEnds {r : Bool} {s s' : ListenState} {id w : Nat}
    (hconnected : s.connector.connected = true) (hws : s.connector.ws = some w)
    (hread : s.connector.live.get? id = some ⟨.listen, .reading w⟩)
    (hstep : listenStep r s (.connector (.readEnds id true)) = some s') :
    Spinning id w s' ∧ s'.ended = s.passes id :: s.ended := by
  have htop : listenTop s.connector id = setPhase s.connector id .listen (.reading w) := by
    unfold listenTop
    rw [if_pos hconnected, hws]
  have hclosed : w ∉ s.connector.openSockets := by
    intro hopen
    simp [listenStep, Ws.step, hread, hopen] at hstep
  simp only [listenStep, Ws.step, hread, if_neg hclosed, if_true, Option.map_some, htop, drains,
    readSocket, backAtTop, passesAfter, Option.some.injEq] at hstep
  subst hstep
  refine ⟨⟨hconnected, hws, Dict.get?_set_self _ _ _, hclosed, List.mem_cons_self,
    Function.update_self ..⟩, ?_⟩
  exact if_pos hconnected

/-- A pass of it ends without a frame and without a sleep. -/
theorem Spinning.step {id w : Nat} {s : ListenState} (h : Spinning id w s) (r : Bool) :
    ∃ s', (listenMachine r).step s (.connector (.readEnds id true)) = some s' ∧
      s'.ended = ⟨0, false⟩ :: s.ended ∧ Spinning id w s' := by
  have hstep : ∃ s', listenStep r s (.connector (.readEnds id true)) = some s' := by
    simp [listenStep, Ws.step, h.reads, h.closed]
  obtain ⟨s', hs'⟩ := hstep
  obtain ⟨hspins, hended⟩ := spinning_of_readEnds h.connected h.current h.reads hs'
  exact ⟨s', hs', h.begun ▸ hended, hspins⟩

/-- Once the stream of the current socket has ended normally, the loop ends it again and again,
and no frame can be read in between. -/
theorem listen_spins {id w : Nat} {s : ListenState} (h : Spinning id w s) (r : Bool) (n : Nat) :
    ∃ s', (listenMachine r).run s (List.replicate n (.connector (.readEnds id true))) = some s' ∧
      s'.ended = List.replicate n ⟨0, false⟩ ++ s.ended ∧ listenStep r s' (.frame id) = none := by
  induction n generalizing s with
  | zero =>
      refine ⟨s, rfl, rfl, ?_⟩
      simp [listenStep, readSocket, h.reads, h.drained]
  | succ n ih =>
      obtain ⟨s₁, hstep, hended₁, hspins⟩ := h.step r
      obtain ⟨s', hrun, hended, hframe⟩ := ih hspins
      refine ⟨s', (Machine.run_cons_eq_some _).2 ⟨s₁, hstep, hrun⟩, ?_, hframe⟩
      rw [hended, hended₁, List.replicate_succ', List.append_assoc]
      rfl

end Ws
end MarketConnector
