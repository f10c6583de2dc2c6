import MarketConnector.Foundations.Backoff
import MarketConnector.Ws.ListenProgress

/-!
# Ws - Delays between reconnects

A listen loop that loses its connection sleeps, doubles its delay up to a cap and calls
`connect()`; a `connect()` of its own that returns sets the delay back.  Beside the connector
stand the delay, the sleeps and the `connect()` calls of every listen loop since then.

Main results:

- Theorem `step_paces`: what a step does to a listen loop and to its delays.
- Theorem `PacingInv.step`: the loops keep pace, and end only when disconnected.
- Theorem `listen_pacing`: the sleeps of every listen loop, in every run.
-/

namespace MarketConnector
namespace Ws

open Foundations

/-! ## Paces -/

/-- `reconnect_delay` and `max_reconnect_delay`. -/
structure ReconnectDelays where
  reconnectDelay : Rat
  maxReconnectDelay : Rat

/-- The local `delay` of a listen loop, and what it did since its delay was set. -/
structure Pace where
  delay : Rat
  sleeps : List Rat
  connects : Nat

def Pace.start (d : ReconnectDelays) : Pace :=
  ⟨d.reconnectDelay, [], 0⟩

/-- The sleep is over: the delay is doubled, and `connect()` is called. -/
def Pace.wake (d : ReconnectDelays) (p : Pace) : Pace :=
  { p with delay := min (p.delay * 2) d.maxReconnectDelay, connects := p.connects + 1 }

def Pace.sleep (p : Pace) : Pace :=
  { p with sleeps := p.sleeps ++ [p.delay] }

/-- What the loop `id` assigns in a step. -/
def Pace.next (d : ReconnectDelays) (c : Connector) (id : Nat) (p : Pace) : ListenLabel → Pace
  | .connector (.taskStarts id') => if id' = id then .start d else p
  | .connector (.taskWakes id') =>
      if id' = id ∧ c.live.get? id = some ⟨.listen, .backoff⟩ then p.wake d else p
  | .connector (.connectResumes caller true) =>
      if caller = .task id ∧ stageOf c caller = some .loggingIn then .start d else p
  | _ => p

/-- A loop sleeps when it comes to its backoff. -/
def Pace.after (p : Pace) (before after : Option LoopTask) : Pace :=
  if before ≠ some ⟨.listen, .backoff⟩ ∧ after = some ⟨.listen, .backoff⟩ then p.sleep else p

structure PacedState where
  listen : ListenState
  paces : Nat → Pace

def pacedStep (refreshEnabled : Bool) (d : ReconnectDelays) (s : PacedState) (l : ListenLabel) :
    Option PacedState :=
  (listenStep refreshEnabled s.listen l).map fun after =>
    { listen := after
      paces := fun id =>
        ((s.paces id).next d s.listen.connector id l).after
          (s.listen.connector.live.get? id) (after.connector.live.get? id) }

/-- The listen loops with their delays. -/
def pacedMachine (refreshEnabled : Bool) (d : ReconnectDelays) :
    Machine PacedState ListenLabel where
  init := ⟨.init, fun _ => .start d⟩
  step := pacedStep refreshEnabled d

/-! ## What a step does to a loop -/

/-- What a step can do to the task `id` and to its delay. -/
inductive LoopPace (d : ReconnectDelays) (connected : Bool) :
    Option LoopTask → Option LoopTask → Pace → Pace → Prop where
  /-- it is no listen loop, or a new one -/
  | other {before after : Option LoopTask} (p p' : Pace)
      (hbefore : ∀ phase, before ≠ some ⟨.listen, phase⟩)
      (hafter : ∀ phase, after = some ⟨.listen, phase⟩ → phase = .created) :
      LoopPace d connected before after p p'
  | stays (task : Option LoopTask) (p : Pace) : LoopPace d connected task task p p
  /-- it runs for the first time, or its `connect()` has returned -/
  | restarts {before after : Phase} (p : Pace) (hbefore : before ≠ .backoff) :
      LoopPace d connected (some ⟨.listen, before⟩) (some ⟨.listen, after⟩) p (.start d)
  | goesOn {before after : Phase} (p : Pace) (hbefore : before ≠ .backoff)
      (hbegun : before ≠ .created) :
      LoopPace d connected (some ⟨.listen, before⟩) (some ⟨.listen, after⟩) p p
  | wakes (p : Pace) :
      LoopPace d connected (some ⟨.listen, .backoff⟩) (some ⟨.listen, .connecting .preparing⟩) p
        (p.wake d)
  | ends (before : Option LoopTask) (p p' : Pace) (hdown : connected = false) :
      LoopPace d connected before none p p'

/-- Task numbers below the next one are in use. -/
def TasksBelow (c : Connector) : Prop :=
  ∀ id task, c.live.get? id = some task → id < c.nextTask

variable {r : Bool} {d : ReconnectDelays} {c c' : Connector} {l : ListenLabel} {id : Nat}
  {task : LoopTask}

/-- A step keeps the numbering of the tasks, and does one of these things to each of them. -/
structure StepPaces (d : ReconnectDelays) (c c' : Connector) (l : ListenLabel) : Prop where
  below : TasksBelow c'
  paces : ∀ id p,
    LoopPace d c'.connected (c.live.get? id) (c'.live.get? id) p (p.next d c id l)

theorem StepPaces.quiet (h : TasksBelow c) (hlive : c'.live = c.live)
    (hnext : c'.nextTask = c.nextTask) (hp : ∀ id p, Pace.next d c id p l = p) :
    StepPaces d c c' l where
  below id task hid := by
    rw [hlive] at hid
    rw [hnext]
    exact h id task hid
  paces id p := by
    rw [hlive, hp]
    exact .stays _ p

/-- Only the task `id` is changed. -/
theorem StepPaces.one (h : TasksBelow c) (hid : c.live.get? id = some task)
    (hnext : c'.nextTask = c.nextTask)
    (hothers : ∀ id', id' ≠ id → c'.live.get? id' = c.live.get? id')
    (hp : ∀ id' p, id' ≠ id → Pace.next d c id' p l = p)
    (hmove : ∀ p, LoopPace d c'.connected (some task) (c'.live.get? id) p (p.next d c id l)) :
    StepPaces d c c' l where
  below id' task' hid' := by
    rw [hnext]
    by_cases heq : id' = id
    · rw [heq]
      exact h id task hid
    · rw [hothers id' heq] at hid'
      exact h id' task' hid'
  paces id' p := by
    by_cases heq : id' = id
    · subst heq
      rw [hid]
      exact hmove p
    · rw [hothers id' heq, hp id' p heq]
      exact .stays _ p

/-- What the top of the loop does to the task. -/
theorem listenTop_paces (c : Connector) (id : Nat) :
    (listenTop c id).nextTask = c.nextTask ∧
      (∀ id', id' ≠ id → (listenTop c id).live.get? id' = c.live.get? id') ∧
      (((listenTop c id).connected = false ∧ (listenTop c id).live.get? id = none) ∨
        ∃ phase, phase ≠ .created ∧
          (listenTop c id).live.get? id = some ⟨.listen, phase⟩) := by
  unfold listenTop
  cases hconnected : c.connected with
  | false =>
      refine ⟨rfl, fun id' hne => Dict.get?_pop_of_ne _ hne, Or.inl ⟨hconnected, ?_⟩⟩
      exact Dict.get?_pop_self _ _
  | true =>
      cases c.ws with
      | none =>
          refine ⟨rfl, fun id' hne => Dict.get?_set_of_ne _ hne _, Or.inr ⟨.backoff, by simp, ?_⟩⟩
          exact Dict.get?_set_self _ _ _
      | some w =>
          refine ⟨rfl, fun id' hne => Dict.get?_set_of_ne _ hne _,
            Or.inr ⟨.reading w, by simp, ?_⟩⟩
          exact Dict.get?_set_self _ _ _

theorem pauseTop_paces (c : Connector) (id : Nat) {kind : LoopKind} (hkind : kind ≠ .listen) :
    (pauseTop c id kind).nextTask = c.nextTask ∧
      (∀ id', id' ≠ id → (pauseTop c id kind).live.get? id' = c.live.get? id') ∧
      ∀ phase, (pauseTop c id kind).live.get? id ≠ some ⟨.listen, phase⟩ := by
  unfold pauseTop
  split
  · refine ⟨rfl, fun id' hne => Dict.get?_set_of_ne _ hne _, fun phase hid => hkind ?_⟩
    simp only [setPhase, Dict.get?_set_self, Option.some.injEq, LoopTask.mk.injEq] at hid
    exact hid.1
  · refine ⟨rfl, fun id' hne => Dict.get?_pop_of_ne _ hne, fun phase hid => ?_⟩
    simp [endTask, Dict.get?_pop_self] at hid

theorem afterInterval_paces (c : Connector) (id : Nat) {kind : LoopKind}
    (hkind : kind ≠ .listen) :
    (afterInterval c id kind).nextTask = c.nextTask ∧
      (∀ id', id' ≠ id → (afterInterval c id kind).live.get? id' = c.live.get? id') ∧
      ∀ phase, (afterInterval c id kind).live.get? id ≠ some ⟨.listen, phase⟩ := by
  unfold afterInterval
  split
  · refine ⟨rfl, fun id' hne => Dict.get?_set_of_ne _ hne _, fun phase hid => hkind ?_⟩
    simp only [setPhase, Dict.get?_set_self, Option.some.injEq, LoopTask.mk.injEq] at hid
    exact hid.1
  · exact pauseTop_paces c id hkind

/-- A listen task comes to the top of its loop. -/
theorem StepPaces.top {phase : Phase} (h : TasksBelow c)
    (hid : c.live.get? id = some ⟨.listen, phase⟩)
    (hp : ∀ id' p, id' ≠ id → Pace.next d c id' p l = p)
    (hmove : ∀ connected after p, after ≠ .created →
      LoopPace d connected (some ⟨.listen, phase⟩) (some ⟨.listen, after⟩) p
        (p.next d c id l)) :
    StepPaces d c (listenTop c id) l := by
  obtain ⟨hnext, hothers, htop⟩ := listenTop_paces c id
  refine .one h hid hnext hothers hp fun p => ?_
  rcases htop with ⟨hdown, hnone⟩ | ⟨after, hbegun, hafter⟩
  · rw [hnone, hdown]
    exact .ends _ p _ rfl
  · rw [hafter]
    exact hmove _ after p hbegun

/-- A task that is no listen loop goes on or ends. -/
theorem StepPaces.otherTask {kind : LoopKind} {phase : Phase} (h : TasksBelow c)
    (hid : c.live.get? id = some ⟨kind, phase⟩) (hkind : kind ≠ .listen)
    (hp : ∀ id' p, id' ≠ id → Pace.next d c id' p l = p)
    (hafter : c'.nextTask = c.nextTask ∧
      (∀ id', id' ≠ id → c'.live.get? id' = c.live.get? id') ∧
      ∀ phase, c'.live.get? id ≠ some ⟨.listen, phase⟩) :
    StepPaces d c c' l := by
  obtain ⟨hnext, hothers, hother⟩ := hafter
  refine .one h hid hnext hothers hp fun p => .other p _ ?_ ?_
  · rintro phase' heq
    cases heq
    exact hkind rfl
  · intro phase' heq
    exact absurd heq (hother phase')

/-! ## New tasks -/

theorem get?_spawnTasks_of_lt (r : Bool) (hlt : id < c.nextTask) :
    (spawnTasks r c).live.get? id = c.live.get? id := by
  ext task
  rw [spawnTasks_live]
  constructor
  · rintro (⟨-, rfl, -⟩ | ⟨rfl, -⟩ | ⟨rfl, -⟩ | ⟨-, -, -, hold⟩)
    · omega
    · omega
    · omega
    · exact hold
  · intro hold
    exact Or.inr (Or.inr (Or.inr ⟨fun _ => by omega, by omega, by omega, hold⟩))

theorem TasksBelow.spawnTasks (h : TasksBelow c) (r : Bool) : TasksBelow (Ws.spawnTasks r c) := by
  intro id task hid
  have hlt : id < c.nextTask + 2 ∨ (r = true ∧ id < c.nextTask + 3) := by
    rcases (spawnTasks_live r c id task).1 hid with
      ⟨hr, rfl, -⟩ | ⟨rfl, -⟩ | ⟨rfl, -⟩ | ⟨-, -, -, hold⟩
    · exact Or.inr ⟨hr, by omega⟩
    · left
      omega
    · left
      omega
    · have hold := h id task hold
      left
      omega
  unfold Ws.spawnTasks
  cases r with
  | false =>
      have hlt' : id < c.nextTask + 2 := by simpa using hlt
      exact hlt'
  | true =>
      have hlt' : id < c.nextTask + 3 := by omega
      exact hlt'

/-- Created tasks are no loops yet. -/
theorem LoopPace.spawn (h : TasksBelow c) (r connected : Bool) (id : Nat) (p : Pace) :
    LoopPace d connected (c.live.get? id) ((spawnTasks r c).live.get? id) p p := by
  by_cases hlt : id < c.nextTask
  · rw [get?_spawnTasks_of_lt r hlt]
    exact .stays _ p
  · refine .other p p (fun phase hid => hlt (h id _ hid)) fun phase hid => ?_
    rcases (spawnTasks_live r c id _).1 hid with ⟨-, -, heq⟩ | ⟨-, heq⟩ | ⟨-, heq⟩ |
      ⟨-, -, -, hold⟩
    · cases heq
    · cases heq
    · cases heq
      rfl
    · exact absurd (h id _ hold) hlt

/-- A `connect()` returns. -/
theorem StepPaces.loggedIn {caller : Caller} (h : TasksBelow c)
    (hstage : stageOf c caller = some .loggingIn) :
    StepPaces d c (leaveConnect (spawnTasks r c) caller)
      (.connector (.connectResumes caller true)) := by
  cases caller with
  | call id =>
      refine ⟨h.spawnTasks r, fun id' p => ?_⟩
      simp only [Pace.next, reduceCtorEq, false_and, if_false]
      exact .spawn h r _ id' p
  | task id =>
      have hid := stageOf_task hstage
      have hspawned : (spawnTasks r c).live.get? id = some ⟨.listen, .connecting .loggingIn⟩ := by
        rw [get?_spawnTasks_of_lt r (h id _ hid), hid]
      obtain ⟨hnext, hothers, htop⟩ := listenTop_paces (spawnTasks r c) id
      refine ⟨fun id' task hid' => ?_, fun id' p => ?_⟩
      · show id' < (listenTop (spawnTasks r c) id).nextTask
        rw [hnext]
        by_cases heq : id' = id
        · exact h.spawnTasks r id' _ (heq ▸ hspawned)
        · refine h.spawnTasks r id' task ?_
          rw [← hothers id' heq]
          exact hid'
      · show LoopPace d (listenTop (spawnTasks r c) id).connected _
          ((listenTop (spawnTasks r c) id).live.get? id') _ _
        by_cases heq : id' = id
        · subst heq
          rw [hid]
          simp only [Pace.next, hstage, and_self, if_true]
          rcases htop with ⟨hdown, hnone⟩ | ⟨after, -, hafter⟩
          · rw [hnone, hdown]
            exact .ends _ p _ rfl
          · rw [hafter]
            exact .restarts p (by simp)
        · have hne : ¬ (Caller.task id = Caller.task id' ∧
              stageOf c (.task id) = some .loggingIn) := by
            rintro ⟨htask, -⟩
            cases htask
            exact heq rfl
          rw [hothers id' heq]
          simp only [Pace.next, if_neg hne]
          exact .spawn h r _ id' p

theorem StepPaces.disconnect (h : TasksBelow c) :
    StepPaces d c (startDisconnect c) (.connector .disconnect) := by
  have hlive : (startDisconnect c).live = c.live.without (storedTasks c) ∧
      (startDisconnect c).nextTask = c.nextTask ∧ (startDisconnect c).connected = false := by
    unfold startDisconnect
    cases c.ws <;> exact ⟨rfl, rfl, rfl⟩
  obtain ⟨hlive, hnext, hdown⟩ := hlive
  refine ⟨fun id task hid => ?_, fun id p => ?_⟩
  · rw [hlive, Dict.get?_without] at hid
    rw [hnext]
    split_ifs at hid
    exact h id task hid
  · rw [hlive, hdown, Dict.get?_without]
    split_ifs
    · exact .ends _ p _ rfl
    · exact .stays _ p

/-! ## Steps -/

/-- The stage of a task's `connect()` changes. -/
theorem StepPaces.setStage {caller : Caller} {before after : ConnectStage} (h : TasksBelow c)
    (hstage : stageOf c caller = some before) (hbefore : before ≠ .loggingIn)
    (hlive : c'.live = (Ws.setStage c after caller).live) (hnext : c'.nextTask = c.nextTask) :
    StepPaces d c c' (.connector (.connectResumes caller true)) := by
  have hp : ∀ id p, Pace.next d c id p (.connector (.connectResumes caller true)) = p := by
    intro id p
    have hne : ¬ (caller = .task id ∧ stageOf c caller = some .loggingIn) := by
      rw [hstage]
      rintro ⟨-, heq⟩
      exact hbefore (Option.some.inj heq)
    simp only [Pace.next, if_neg hne]
  cases caller with
  | call id => exact .quiet h hlive hnext hp
  | task id =>
      refine .one h (stageOf_task hstage) hnext (fun id' hne => ?_) (fun id' p _ => hp id' p)
        fun p => ?_
      · rw [hlive]
        exact Dict.get?_set_of_ne _ hne _
      · rw [hp, hlive]
        simp only [Ws.setStage, Ws.setPhase, Dict.get?_set_self]
        exact .goesOn p (by simp) (by simp)

theorem StepPaces.connector {l : Label} (h : TasksBelow c) (hstep : step r c l = some c') :
    StepPaces d c c' (.connector l) := by
  cases step_move hstep with
  | connect => exact .quiet h rfl rfl fun _ _ => rfl
  | @connectFails caller stage hstage =>
      cases caller with
      | call id => exact .quiet h rfl rfl fun _ _ => rfl
      | task id =>
          exact .top h (stageOf_task hstage) (fun _ _ _ => rfl) fun _ _ p _ =>
            .goesOn p (by simp) (by simp)
  | @prepared caller hstage =>
      exact .setStage h hstage (by decide) rfl (by cases caller <;> rfl)
  | @opened caller hstage =>
      exact .setStage h hstage (by decide) (by cases caller <;> rfl) (by cases caller <;> rfl)
  | loggedIn hstage => exact .loggedIn h hstage
  | disconnect => exact .disconnect h
  | closed hid => exact .quiet h rfl rfl fun _ _ => rfl
  | @listenStarts id hid =>
      refine .top h hid (fun id' p hne => if_neg hne.symm) fun _ _ p _ => ?_
      simp only [Pace.next, if_true]
      exact .restarts p (by simp)
  | @pauseStarts id kind hid hkind =>
      exact .otherTask h hid hkind (fun id' p hne => if_neg hne.symm) (pauseTop_paces c id hkind)
  | @readEnds id w hid hclosed =>
      exact .top h hid (fun _ _ _ => rfl) fun _ _ p _ => .goesOn p (by simp) (by simp)
  | @readFails id w hid hclosed hconnected =>
      refine .one h hid rfl (fun id' hne => Dict.get?_set_of_ne _ hne _) (fun _ _ _ => rfl)
        fun p => ?_
      simp only [setPhase, Dict.get?_set_self]
      exact .goesOn p (by simp) (by simp)
  | @listenLeaves id w hid hclosed hconnected =>
      refine .one h hid rfl (fun id' hne => Dict.get?_pop_of_ne _ hne) (fun _ _ _ => rfl)
        fun p => ?_
      simp only [endTask, Dict.get?_pop_self]
      exact .ends _ p _ hconnected
  | @reconnects id hid =>
      refine .one h hid rfl (fun id' hne => Dict.get?_set_of_ne _ hne _)
        (fun id' p hne => if_neg fun heq => hne heq.1.symm) fun p => ?_
      simp only [setPhase, Dict.get?_set_self, Pace.next, hid, and_self, if_true]
      exact .wakes p
  | @intervalEnds id kind hid hkind =>
      exact .otherTask h hid hkind (fun id' p hne => if_neg fun heq => hne heq.1.symm)
        (afterInterval_paces c id hkind)
  | @actionEnds id kind hid hkind =>
      exact .otherTask h hid hkind (fun id' p hne => if_neg fun heq => hne heq.1.symm)
        (pauseTop_paces c id hkind)
  | socketFails hopen => exact .quiet h rfl rfl fun _ _ => rfl

theorem readSocket_eq_some {w : Nat} (h : readSocket c id = some w) :
    c.live.get? id = some ⟨.listen, .reading w⟩ := by
  unfold readSocket at h
  split at h
  · rename_i heq
    rw [heq, Option.some.inj h]
  · cases h

/-- What a step does to the listen loops and to their delays. -/
theorem step_paces {s s' : ListenState} (h : TasksBelow s.connector)
    (hstep : listenStep r s l = some s') : StepPaces d s.connector s'.connector l := by
  cases l with
  | connector l =>
      obtain ⟨after, hafter, rfl⟩ := Option.map_eq_some_iff.1 hstep
      exact .connector h hafter
  | frame id =>
      simp only [listenStep] at hstep
      split at hstep
      · cases hstep
      · split_ifs at hstep
        cases hstep
        exact .quiet h rfl rfl fun _ _ => rfl
  | raises id =>
      simp only [listenStep] at hstep
      split at hstep
      · cases hstep
      · rename_i w hread
        have hid := readSocket_eq_some hread
        split_ifs at hstep with hopen hconnected
        · cases hstep
          refine .one h hid rfl (fun id' hne => Dict.get?_set_of_ne _ hne _) (fun _ _ _ => rfl)
            fun p => ?_
          simp only [setPhase, Dict.get?_set_self]
          exact .goesOn p (by simp) (by simp)
        · cases hstep
          refine .one h hid rfl (fun id' hne => Dict.get?_pop_of_ne _ hne) (fun _ _ _ => rfl)
            fun p => ?_
          simp only [endTask, Dict.get?_pop_self]
          exact .ends _ p _ (Bool.eq_false_iff.2 hconnected)

/-! ## Runs -/

/-- The pause after some `connect()` calls have failed. -/
def pauseAfter (d : ReconnectDelays) (connects : Nat) : Rat :=
  if connects = 0 then d.reconnectDelay
  else Backoff.delay d.reconnectDelay d.maxReconnectDelay connects

theorem pauseAfter_succ (hmax : 0 ≤ d.maxReconnectDelay) (n : Nat) :
    pauseAfter d (n + 1) = min (pauseAfter d n * 2) d.maxReconnectDelay := by
  cases n with
  | zero => simp [pauseAfter, Backoff.delay]
  | succ n => simp [pauseAfter, Backoff.min_two_mul_delay hmax]

/-- Each sleep is the pause after the `connect()` calls before it, and all but a sleep that is
not over are followed by one. -/
structure Paced (d : ReconnectDelays) (phase : Phase) (p : Pace) : Prop where
  sleeps : p.sleeps = (List.range p.sleeps.length).map (pauseAfter d)
  connects : p.connects + (if phase = .backoff then 1 else 0) = p.sleeps.length
  delay : p.delay = pauseAfter d p.connects

theorem paced_start {phase : Phase} (hphase : phase ≠ .backoff) : Paced d phase (.start d) where
  sleeps := rfl
  connects := by simp [Pace.start, hphase]
  delay := by simp [Pace.start, pauseAfter]

/-- A loop that is not asleep goes to another phase, maybe to sleep. -/
theorem Paced.after {before phase : Phase} {p : Pace} (h : Paced d before p)
    (hbefore : before ≠ .backoff) :
    Paced d phase (p.after (some ⟨.listen, before⟩) (some ⟨.listen, phase⟩)) := by
  have hconnects := h.connects
  rw [if_neg hbefore, Nat.add_zero] at hconnects
  by_cases hphase : phase = .backoff
  · subst hphase
    have hsleeps : p.after (some ⟨.listen, before⟩) (some ⟨.listen, .backoff⟩) = p.sleep := by
      simp [Pace.after, hbefore]
    rw [hsleeps]
    refine ⟨?_, ?_, h.delay⟩
    · simp only [Pace.sleep, List.length_append, List.length_singleton, List.range_succ,
        List.map_append, List.map_singleton, ← h.sleeps]
      rw [← hconnects, ← h.delay]
    · simp [Pace.sleep, hconnects]
  · have hstays : p.after (some ⟨.listen, before⟩) (some ⟨.listen, phase⟩) = p := by
      simp [Pace.after, hphase]
    rw [hstays]
    exact ⟨h.sleeps, by rw [if_neg hphase, hconnects, Nat.add_zero], h.delay⟩

/-- A loop wakes and calls `connect()`. -/
theorem Paced.wake (hmax : 0 ≤ d.maxReconnectDelay) {p : Pace} (h : Paced d .backoff p) :
    Paced d (.connecting .preparing) (p.wake d) where
  sleeps := h.sleeps
  connects := by simpa [Pace.wake] using h.connects
  delay := by rw [Pace.wake, pauseAfter_succ hmax, h.delay]

/-- All listen loops that have begun keep pace. -/
structure PacingInv (d : ReconnectDelays) (s : PacedState) : Prop where
  below : TasksBelow s.listen.connector
  paced : ∀ id phase, s.listen.connector.live.get? id = some ⟨.listen, phase⟩ →
    phase ≠ .created → Paced d phase (s.paces id)

theorem pacingInv_init : PacingInv d ⟨.init, fun _ => .start d⟩ :=
  ⟨fun _ _ hid => (by cases hid), fun _ _ hid => (by cases hid)⟩

theorem PacingInv.step {s s' : PacedState} (hmax : 0 ≤ d.maxReconnectDelay) (h : PacingInv d s)
    (hstep : pacedStep r d s l = some s') : PacingInv d s' := by
  obtain ⟨after, hafter, rfl⟩ := Option.map_eq_some_iff.1 hstep
  have hstep := @step_paces r d l s.listen after h.below hafter
  refine ⟨hstep.below, fun id phase hid hphase => ?_⟩
  have hpaced := h.paced id
  have hmove := hstep.paces id (s.paces id)
  dsimp only at hid ⊢
  rw [hid] at hmove ⊢
  cases hbefore : s.listen.connector.live.get? id with
  | none =>
      rw [hbefore] at hmove
      cases hmove with
      | other _ _ _ hafter => exact absurd (hafter phase rfl) hphase
  | some task =>
      rw [hbefore] at hmove
      generalize (s.paces id).next d s.listen.connector id l = p' at hmove ⊢
      cases hmove with
      | other _ _ _ hafter => exact absurd (hafter phase rfl) hphase
      | stays =>
          have hsame : (s.paces id).after (some ⟨.listen, phase⟩) (some ⟨.listen, phase⟩) =
              s.paces id := if_neg fun heq => heq.1 heq.2
          rw [hsame]
          exact hpaced phase hbefore hphase
      | restarts _ hawake => exact (paced_start hawake).after hawake
      | goesOn _ hawake hbegun => exact (hpaced _ hbefore hbegun).after hawake
      | wakes =>
          have hsame : ((s.paces id).wake d).after (some ⟨.listen, .backoff⟩)
              (some ⟨.listen, .connecting .preparing⟩) = (s.paces id).wake d :=
            if_neg fun heq => heq.1 rfl
          rw [hsame]
          exact (hpaced .backoff hbefore (by simp)).wake hmax

/-- In every run a listen loop that has begun has slept, since then or since its own `connect()`
last returned, for `reconnect_delay` and then twice as long each time, up to the cap; one
`connect()` has followed each sleep that is over; and the loop goes on as long as the connector is
connected. -/
theorem listen_pacing {d : ReconnectDelays} (hmax : 0 ≤ d.maxReconnectDelay) {s : PacedState}
    (hreach : (pacedMachine r d).Reachable s) {id : Nat} {phase : Phase}
    (hid : s.listen.connector.live.get? id = some ⟨.listen, phase⟩) (hbegun : phase ≠ .created) :
    Paced d phase (s.paces id) ∧
      ∀ l s', (pacedMachine r d).step s l = some s' → s'.listen.connector.connected = true →
        ∃ phase', s'.listen.connector.live.get? id = some ⟨.listen, phase'⟩ := by
  have hinv : PacingInv d s := by
    refine Machine.invariant_reachable _ pacingInv_init (fun _ _ _ h hstep => ?_) hreach
    exact h.step hmax hstep
  refine ⟨hinv.paced id phase hid hbegun, fun l s' hstep hconnected => ?_⟩
  obtain ⟨after, hafter, rfl⟩ := Option.map_eq_some_iff.1 hstep
  have hmove := (@step_paces r d l s.listen after hinv.below hafter).paces id (s.paces id)
  rw [hid] at hmove
  dsimp only at hconnected ⊢
  generalize after.connector.live.get? id = now at hmove ⊢
  generalize (s.paces id).next d s.listen.connector id l = p' at hmove
  cases hmove with
  | other _ _ hbefore => exact absurd rfl (hbefore phase)
  | stays => exact ⟨phase, rfl⟩
  | restarts => exact ⟨_, rfl⟩
  | goesOn => exact ⟨_, rfl⟩
  | wakes => exact ⟨_, rfl⟩
  | ends _ _ _ hdown =>
      rw [hdown] at hconnected
      cases hconnected

/-- The first reconnect of a loop fails. -/
def failedReconnect : List ListenLabel :=
  [.connector .connect, .connector (.connectResumes (.call 0) true),
    .connector (.connectResumes (.call 0) true), .connector (.connectResumes (.call 0) true),
    .connector (.taskStarts 0), .connector (.socketFails 0), .connector (.readEnds 0 false),
    .connector (.taskWakes 0), .connector (.connectResumes (.task 0) false),
    .connector (.readEnds 0 false)]

/-- The loop sleeps a second time, and goes on. -/
theorem listen_pacing_failedReconnect :
    ∃ s, (pacedMachine false ⟨1, 60⟩).run (pacedMachine false ⟨1, 60⟩).init failedReconnect =
        some s ∧
      (s.paces 0).sleeps.length = 2 ∧ Paced ⟨1, 60⟩ .backoff (s.paces 0) ∧
      ∀ l s', (pacedMachine false ⟨1, 60⟩).step s l = some s' →
        s'.listen.connector.connected = true →
        ∃ phase', s'.listen.connector.live.get? 0 = some ⟨.listen, phase'⟩ := by
  have hrun : ∃ s, (pacedMachine false ⟨1, 60⟩).run (pacedMachine false ⟨1, 60⟩).init
      failedReconnect = some s ∧ (s.paces 0).sleeps.length = 2 ∧
      s.listen.connector.live.get? 0 = some ⟨.listen, .backoff⟩ := ⟨_, rfl, rfl, rfl⟩
  obtain ⟨s, hs, hlength, hid⟩ := hrun
  exact ⟨s, hs, hlength, listen_pacing (by decide) ⟨_, hs⟩ hid (by simp)⟩

end Ws
end MarketConnector
