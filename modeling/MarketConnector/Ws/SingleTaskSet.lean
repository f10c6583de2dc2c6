import Mathlib.Tactic.ByContra
import MarketConnector.Ws.Lifecycle

/-!
# Ws - At most one task of each background loop

Every `connect()` ends by creating a task set and storing it over the previous one.
The listen loop calls `connect()` itself and goes on afterwards, so an automatic
reconnect leaves two listen loops, of which one is stored.

Main results:

- Theorem `LoopInv.step`: what a step that spawns alone preserves.
- Theorem `singleTaskSet_iff`: a run keeps a single task set exactly when every task
  set is created while no loop is alive.
- Theorem `reconnect_duplicates_loops`: one automatic reconnect breaks it.
-/

namespace MarketConnector
namespace Ws

open Foundations

/-! ## The property -/

/-- At most one loop of each kind is alive, and a live loop is the stored one. -/
structure SingleTaskSet (s : Connector) : Prop where
  unique : ∀ id id' task task', s.live.get? id = some task → s.live.get? id' = some task' →
    task.kind = task'.kind → id = id'
  stored : ∀ id task, s.live.get? id = some task → s.stored task.kind = some id

/-- A task set is only created while no loop is alive. -/
def SpawnsAlone (s : Connector) : Label → Prop
  | .connectResumes caller true => stageOf s caller = some .loggingIn → s.live = ∅
  | _ => True

/-! ## The invariant -/

/-- Live loops are stored, have started only on a connected connector, and have ids
below the next one; a refresh loop exists only when it is configured. -/
structure LoopInv (refreshEnabled : Bool) (s : Connector) : Prop where
  stored : ∀ id task, s.live.get? id = some task → s.stored task.kind = some id
  connected : ∀ id task, s.live.get? id = some task → task.phase ≠ .created →
    s.connected = true
  refresh : ∀ id task, s.live.get? id = some task → task.kind = .refresh → refreshEnabled = true
  fresh : ∀ id task, s.live.get? id = some task → id < s.nextTask

theorem LoopInv.singleTaskSet {r : Bool} {s : Connector} (h : LoopInv r s) :
    SingleTaskSet s where
  unique := by
    intro id id' task task' hid hid' hkind
    have hstored := h.stored id task hid
    have hstored' := h.stored id' task' hid'
    rw [hkind, hstored'] at hstored
    exact (Option.some.inj hstored).symm
  stored := h.stored

theorem loopInv_init (r : Bool) : LoopInv r .init where
  stored := by
    intro id task h
    cases h
  connected := by
    intro id task h
    cases h
  refresh := by
    intro id task h
    cases h
  fresh := by
    intro id task h
    cases h

/-- A state with no more live tasks, the same stored ones, and no less connected. -/
theorem LoopInv.mono {r : Bool} {s s' : Connector} (h : LoopInv r s)
    (hlive : ∀ id task, s'.live.get? id = some task → s.live.get? id = some task)
    (hstored : s'.stored = s.stored) (hnext : s'.nextTask = s.nextTask)
    (hconnected : ∀ id task, s'.live.get? id = some task → s.connected = true →
      s'.connected = true) : LoopInv r s' where
  stored := by
    intro id task hid
    rw [hstored]
    exact h.stored id task (hlive id task hid)
  connected := by
    intro id task hid hphase
    exact hconnected id task hid (h.connected id task (hlive id task hid) hphase)
  refresh := by
    intro id task hid
    exact h.refresh id task (hlive id task hid)
  fresh := by
    intro id task hid
    rw [hnext]
    exact h.fresh id task (hlive id task hid)

theorem LoopInv.endTask {r : Bool} {s : Connector} (h : LoopInv r s) (id : Nat) :
    LoopInv r (endTask s id) := by
  have hlive : ∀ id' task, (Ws.endTask s id).live.get? id' = some task →
      s.live.get? id' = some task := fun id' task hid' => Dict.get?_of_pop hid'
  exact h.mono hlive rfl rfl fun _ _ _ hc => hc

/-- A live task may enter a phase of its loop on a connected connector. -/
theorem LoopInv.setPhase {r : Bool} {s : Connector} (h : LoopInv r s) {id : Nat}
    {task : LoopTask} (hid : s.live.get? id = some task) (hconnected : s.connected = true)
    (phase : Phase) : LoopInv r (setPhase s id task.kind phase) := by
  have hget : ∀ id' task', (Ws.setPhase s id task.kind phase).live.get? id' = some task' →
      ∃ old, s.live.get? id' = some old ∧ old.kind = task'.kind := by
    intro id' task' h'
    have hset : (s.live.set id ⟨task.kind, phase⟩).get? id' = some task' := h'
    rw [Dict.get?_set] at hset
    split_ifs at hset with heq
    · cases hset
      exact ⟨task, heq ▸ hid, rfl⟩
    · exact ⟨task', hset, rfl⟩
  constructor
  · intro id' task' h'
    rcases hget id' task' h' with ⟨old, hold, hkind⟩
    rw [← hkind]
    exact h.stored id' old hold
  · intro _ _ _ _
    exact hconnected
  · intro id' task' h' hrefresh
    rcases hget id' task' h' with ⟨old, hold, hkind⟩
    exact h.refresh id' old hold (hkind.trans hrefresh)
  · intro id' task' h'
    rcases hget id' task' h' with ⟨old, hold, _⟩
    exact h.fresh id' old hold

theorem LoopInv.listenTop {r : Bool} {s : Connector} (h : LoopInv r s) {id : Nat}
    {phase : Phase} (hid : s.live.get? id = some ⟨.listen, phase⟩) :
    LoopInv r (listenTop s id) := by
  unfold Ws.listenTop
  by_cases hconnected : s.connected = true
  · rw [if_pos hconnected]
    cases s.ws with
    | some w => exact h.setPhase hid hconnected (.reading w)
    | none => exact h.setPhase hid hconnected .backoff
  · rw [if_neg hconnected]
    exact h.endTask id

theorem LoopInv.pauseTop {r : Bool} {s : Connector} (h : LoopInv r s) {id : Nat}
    {task : LoopTask} (hid : s.live.get? id = some task) :
    LoopInv r (pauseTop s id task.kind) := by
  unfold Ws.pauseTop
  by_cases hconnected : s.connected = true
  · rw [if_pos hconnected]
    exact h.setPhase hid hconnected .waiting
  · rw [if_neg hconnected]
    exact h.endTask id

theorem LoopInv.afterInterval {r : Bool} {s : Connector} (h : LoopInv r s) {id : Nat}
    {task : LoopTask} (hid : s.live.get? id = some task) :
    LoopInv r (afterInterval s id task.kind) := by
  unfold Ws.afterInterval
  by_cases hact : (s.connected && (task.kind = .refresh || s.ws.isSome)) = true
  · rw [if_pos hact]
    rw [Bool.and_eq_true] at hact
    exact h.setPhase hid hact.1 .acting
  · rw [if_neg hact]
    exact h.pauseTop hid

theorem LoopInv.openSocket {r : Bool} {s : Connector} (h : LoopInv r s) :
    LoopInv r (openSocket s) :=
  h.mono (fun _ _ hid => hid) rfl rfl fun _ _ _ _ => rfl

/-- A cancelled task set leaves no live loop. -/
theorem LoopInv.startDisconnect {r : Bool} {s : Connector} (h : LoopInv r s) :
    LoopInv r (startDisconnect s) := by
  have hnone : ∀ id task, (s.live.without (storedTasks s)).get? id ≠ some task := by
    intro id task hid
    have hmem : id ∈ (s.live.without (storedTasks s)).keys :=
      (Dict.mem_keys_iff _).2 (by simp [Dict.contains, hid])
    rw [Dict.mem_keys_without] at hmem
    have hcontains := (s.live.mem_keys_iff).1 hmem.1
    rcases Option.isSome_iff_exists.1 hcontains with ⟨old, hold⟩
    have hstored := h.stored id old hold
    apply hmem.2
    unfold storedTasks
    cases hkind : old.kind <;> simp [hkind, Connector.stored] at hstored <;> simp [hstored]
  unfold Ws.startDisconnect
  cases s.ws with
  | none =>
      refine h.mono ?_ rfl rfl ?_
      · intro id task hid
        exact absurd hid (hnone id task)
      · intro id task hid
        exact absurd hid (hnone id task)
  | some w =>
      refine h.mono ?_ rfl rfl ?_
      · intro id task hid
        exact absurd hid (hnone id task)
      · intro id task hid
        exact absurd hid (hnone id task)

/-! ## Creating a task set -/

/-- Live tasks after a task set is created. -/
theorem spawnTasks_live (r : Bool) (s : Connector) (id : Nat) (task : LoopTask) :
    (spawnTasks r s).live.get? id = some task ↔
      (r = true ∧ id = s.nextTask + 2 ∧ task = ⟨.refresh, .created⟩) ∨
      (id = s.nextTask + 1 ∧ task = ⟨.heartbeat, .created⟩) ∨
      (id = s.nextTask ∧ task = ⟨.listen, .created⟩) ∨
      ((r = true → id ≠ s.nextTask + 2) ∧ id ≠ s.nextTask + 1 ∧ id ≠ s.nextTask ∧
        s.live.get? id = some task) := by
  unfold spawnTasks
  cases r with
  | false =>
      simp only [Bool.false_eq_true, if_false, Dict.get?_set]
      split_ifs with h1 h0
      · simp [h1, eq_comm]
      · simp [h0, eq_comm]
      · simp [h1, h0]
  | true =>
      simp only [if_true, Dict.get?_set]
      split_ifs with h2 h1 h0
      · simp [h2, eq_comm]
      · simp [h1, eq_comm]
      · simp [h0, eq_comm]
      · simp [h2, h1, h0]

/-- The stored tasks after a task set is created. -/
theorem spawnTasks_stored (r : Bool) (s : Connector) :
    (spawnTasks r s).stored .listen = some s.nextTask ∧
      (spawnTasks r s).stored .heartbeat = some (s.nextTask + 1) ∧
      (r = true → (spawnTasks r s).stored .refresh = some (s.nextTask + 2)) := by
  unfold spawnTasks
  cases r <;> simp [Connector.stored]

/-- A task set created alone is a single task set. -/
theorem LoopInv.spawnTasks {r : Bool} {s : Connector} (halone : s.live = ∅) :
    LoopInv r (spawnTasks r s) := by
  have hstored := spawnTasks_stored r s
  have hcases : ∀ id task, (Ws.spawnTasks r s).live.get? id = some task →
      task.phase = .created ∧ (Ws.spawnTasks r s).stored task.kind = some id ∧
        (task.kind = .refresh → r = true) ∧ id < (Ws.spawnTasks r s).nextTask := by
    intro id task hid
    rcases (spawnTasks_live r s id task).1 hid with ⟨hr, rfl, rfl⟩ | ⟨rfl, rfl⟩ | ⟨rfl, rfl⟩ |
      ⟨_, _, _, hold⟩
    · refine ⟨rfl, hstored.2.2 hr, fun _ => hr, ?_⟩
      simp [Ws.spawnTasks, hr]
    · refine ⟨rfl, hstored.2.1, (fun h => by cases h), ?_⟩
      unfold Ws.spawnTasks
      cases r <;> simp
    · refine ⟨rfl, hstored.1, (fun h => by cases h), ?_⟩
      unfold Ws.spawnTasks
      cases r <;> simp
    · rw [halone] at hold
      cases hold
  constructor
  · intro id task hid
    exact (hcases id task hid).2.1
  · intro id task hid hphase
    exact absurd (hcases id task hid).1 hphase
  · intro id task hid
    exact (hcases id task hid).2.2.1
  · intro id task hid
    exact (hcases id task hid).2.2.2

/-! ## Steps -/

theorem LoopInv.leaveConnect {r : Bool} {s : Connector} (h : LoopInv r s) {caller : Caller}
    {stage : ConnectStage} (hstage : stageOf s caller = some stage) :
    LoopInv r (leaveConnect s caller) := by
  cases caller with
  | call id => exact h.mono (fun _ _ hid => hid) rfl rfl fun _ _ _ hc => hc
  | task id => exact h.listenTop (stageOf_task hstage)

theorem LoopInv.setStage {r : Bool} {s : Connector} (h : LoopInv r s) {caller : Caller}
    {stage : ConnectStage} (hstage : stageOf s caller = some stage) (next : ConnectStage) :
    LoopInv r (setStage s next caller) := by
  cases caller with
  | call id => exact h.mono (fun _ _ hid => hid) rfl rfl fun _ _ _ hc => hc
  | task id =>
      have hid := stageOf_task hstage
      exact h.setPhase hid (h.connected id _ hid (by simp)) (.connecting next)

/-- A step that spawns alone keeps the invariant. -/
theorem LoopInv.step {r : Bool} {s s' : Connector} {l : Label} (h : LoopInv r s)
    (halone : SpawnsAlone s l) (hstep : step r s l = some s') : LoopInv r s' := by
  cases step_move hstep with
  | connect => exact h.mono (fun _ _ hid => hid) rfl rfl fun _ _ _ hc => hc
  | connectFails hstage => exact h.leaveConnect hstage
  | prepared hstage => exact h.setStage hstage .opening
  | @opened caller hstage =>
      have hstage' : stageOf (Ws.openSocket s) caller = some .opening := by
        cases caller <;> exact hstage
      exact h.openSocket.setStage hstage' .loggingIn
  | @loggedIn caller hstage =>
      have hempty : s.live = ∅ := halone hstage
      cases caller with
      | call id =>
          have hspawn : LoopInv r (Ws.spawnTasks r s) := LoopInv.spawnTasks hempty
          exact hspawn.mono (fun _ _ hid => hid) rfl rfl fun _ _ _ hc => hc
      | task id =>
          have hid := stageOf_task hstage
          rw [hempty] at hid
          cases hid
  | disconnect => exact h.startDisconnect
  | closed hid => exact h.mono (fun _ _ hid => hid) rfl rfl fun _ _ _ hc => hc
  | listenStarts hid => exact h.listenTop hid
  | pauseStarts hid hkind => exact h.pauseTop hid
  | readEnds hid hclosed => exact h.listenTop hid
  | readFails hid hclosed hconnected => exact h.setPhase hid hconnected .backoff
  | listenLeaves hid hclosed hconnected => exact h.endTask _
  | reconnects hid =>
      exact h.setPhase hid (h.connected _ _ hid (by simp)) (.connecting .preparing)
  | intervalEnds hid hkind => exact h.afterInterval hid
  | actionEnds hid hkind => exact h.pauseTop hid
  | socketFails hopen => exact h.mono (fun _ _ hid => hid) rfl rfl fun _ _ _ hc => hc

/-! ## Exactly which runs keep a single task set -/

/-- A loop that was alive lives on next to the new task set, in whatever phase. -/
theorem live_after_spawn {r : Bool} {s : Connector} {caller : Caller} {stage : ConnectStage}
    (h : LoopInv r s) (hstage : stageOf s caller = some stage) {id : Nat} {task : LoopTask}
    (hid : s.live.get? id = some task) :
    ∃ task', (leaveConnect (spawnTasks r s) caller).live.get? id = some task' ∧
      task'.kind = task.kind := by
  have hfresh : id < s.nextTask := h.fresh id task hid
  have hspawn : (spawnTasks r s).live.get? id = some task :=
    (spawnTasks_live r s id task).2
      (Or.inr (Or.inr (Or.inr ⟨fun _ => by omega, by omega, by omega, hid⟩)))
  cases caller with
  | call c => exact ⟨task, hspawn, rfl⟩
  | task t =>
      have ht := stageOf_task hstage
      have hconnected : (spawnTasks r s).connected = true := by
        have hc := h.connected t _ ht (by simp)
        unfold spawnTasks
        cases r <;> simpa using hc
      -- the caller is suspended again; the other loops are as they were
      have hset : ∀ phase, ∃ task',
          (setPhase (spawnTasks r s) t .listen phase).live.get? id = some task' ∧
            task'.kind = task.kind := by
        intro phase
        by_cases heq : id = t
        · subst heq
          cases ht.symm.trans hid
          exact ⟨_, Dict.get?_set_self .., rfl⟩
        · exact ⟨task, (Dict.get?_set_of_ne _ heq _).trans hspawn, rfl⟩
      simp only [leaveConnect, listenTop, if_pos hconnected]
      cases (spawnTasks r s).ws with
      | some w => exact hset (.reading w)
      | none => exact hset .backoff

theorem leaveConnect_stored (s : Connector) (caller : Caller) :
    (leaveConnect s caller).stored = s.stored := by
  cases caller with
  | call id => rfl
  | task id =>
      simp only [leaveConnect, listenTop]
      split
      · cases s.ws <;> rfl
      · rfl

/-- The stored tasks are those of the new task set. -/
theorem nextTask_le_of_spawnTasks_stored {r : Bool} {s : Connector} {kind : LoopKind} {id : Nat}
    (hrefresh : kind = .refresh → r = true) (hid : (spawnTasks r s).stored kind = some id) :
    s.nextTask ≤ id := by
  obtain ⟨hlisten, hheartbeat, hstored⟩ := spawnTasks_stored r s
  cases kind with
  | listen =>
      rw [hlisten] at hid
      cases hid
      omega
  | heartbeat =>
      rw [hheartbeat] at hid
      cases hid
      omega
  | refresh =>
      rw [hstored (hrefresh rfl)] at hid
      cases hid
      omega

/-- A task set created next to a live loop breaks the property: the old loop stays
alive and is not stored any more. -/
theorem SpawnsAlone.of_singleTaskSet {r : Bool} {s s' : Connector} {l : Label}
    (h : LoopInv r s) (hstep : step r s l = some s') (hsingle : SingleTaskSet s') :
    SpawnsAlone s l := by
  cases step_move hstep with
  | @loggedIn caller hstage =>
      intro _
      by_contra hne
      obtain ⟨id, task, hid⟩ := Dict.exists_get?_of_ne_empty hne
      obtain ⟨task', hid', hkind⟩ := live_after_spawn h hstage hid
      have hstored := hsingle.stored id task' hid'
      rw [leaveConnect_stored, hkind] at hstored
      have hnew := nextTask_le_of_spawnTasks_stored (h.refresh id task hid) hstored
      have hold := h.fresh id task hid
      omega
  | prepared hstage =>
      intro hlogging
      rw [hstage] at hlogging
      cases hlogging
  | opened hstage =>
      intro hlogging
      rw [hstage] at hlogging
      cases hlogging
  | _ => trivial

/-- In every state of a run there is a single task set exactly when the run creates
every task set while no loop is alive. -/
theorem singleTaskSet_iff (refreshEnabled : Bool) (ls : List Label) :
    (connectorMachine refreshEnabled).AllStates SingleTaskSet .init ls ↔
      (connectorMachine refreshEnabled).AllSteps SpawnsAlone .init ls := by
  have hkept : ∀ s l s', LoopInv refreshEnabled s → SpawnsAlone s l →
      (connectorMachine refreshEnabled).step s l = some s' → LoopInv refreshEnabled s' :=
    fun _ _ _ h halone hstep => h.step halone hstep
  have hbroken : ∀ s l s', LoopInv refreshEnabled s →
      (connectorMachine refreshEnabled).step s l = some s' → SingleTaskSet s' → SpawnsAlone s l :=
    fun _ _ _ h hstep hsingle => SpawnsAlone.of_singleTaskSet h hstep hsingle
  exact (connectorMachine refreshEnabled).allStates_iff_allSteps hkept
    (fun _ h => h.singleTaskSet) hbroken (loopInv_init refreshEnabled)

/-- Connect, lose the socket, and reconnect automatically. -/
def reconnectRun : List Label :=
  [.connect, .connectResumes (.call 0) true, .connectResumes (.call 0) true,
    .connectResumes (.call 0) true, .taskStarts 0, .taskStarts 1, .socketFails 0,
    .readEnds 0 false, .taskWakes 0, .connectResumes (.task 0) true,
    .connectResumes (.task 0) true, .connectResumes (.task 0) true, .taskStarts 2]

/-- After one automatic reconnect two listen loops read the same socket. -/
theorem reconnect_duplicates_loops :
    ∃ s, (connectorMachine false).run .init reconnectRun = some s ∧
      s.live.get? 0 = some ⟨.listen, .reading 1⟩ ∧
      s.live.get? 2 = some ⟨.listen, .reading 1⟩ ∧
      s.listenTask = some 2 ∧ ¬ SingleTaskSet s := by
  refine ⟨_, rfl, rfl, rfl, rfl, ?_⟩
  intro h
  have hsame := h.unique 0 2 _ _ rfl rfl rfl
  cases hsame

end Ws
end MarketConnector
