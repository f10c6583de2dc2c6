import MarketConnector.Foundations.Dict
import MarketConnector.Foundations.Transitions

/-!
# Ws - Connection lifecycle of `WsConnectorBase`

The connector's fields, its background tasks and the `connect()` and `disconnect()`
calls in progress.  Every step runs one task or call from one await to the next.  A
cancelled task raises at its await and no loop catches that, so cancelling is removing.

Main results:

- Definition `connectorMachine`: the transition system.
- Definition `spawnTasks`: what the end of every `connect()` does.
- Theorem `step_move`: what one step can do.
- Theorem `step_sockets`: only `websockets.connect` makes a new current socket.
-/

namespace MarketConnector
namespace Ws

open Foundations

/-! ## State -/

/-- Background loops. -/
inductive LoopKind where
  | listen | heartbeat | refresh
deriving DecidableEq

/-- Await of `connect()` that a call is suspended in: `prepare_connection`,
`websockets.connect`, `on_connected`. -/
inductive ConnectStage where
  | preparing | opening | loggingIn
deriving DecidableEq

/-- Where a background task is suspended. -/
inductive Phase where
  /-- created and not yet run -/
  | created
  /-- listen: waiting for a frame of a socket -/
  | reading (socket : Nat)
  /-- listen: backoff before a reconnect -/
  | backoff
  /-- listen: inside its own `connect()` -/
  | connecting (stage : ConnectStage)
  /-- heartbeat and refresh: waiting for the interval -/
  | waiting
  /-- heartbeat and refresh: inside `ping()` or `refresh()` -/
  | acting
deriving DecidableEq

structure LoopTask where
  kind : LoopKind
  phase : Phase
deriving DecidableEq

/-- Fields of the connector, live tasks, calls in progress and open sockets. -/
structure Connector where
  connected : Bool
  ws : Option Nat
  listenTask : Option Nat
  heartbeatTask : Option Nat
  refreshTask : Option Nat
  live : Dict Nat LoopTask
  nextTask : Nat
  connectCalls : Dict Nat ConnectStage
  closingCalls : Dict Nat Nat
  nextCall : Nat
  openSockets : List Nat
  nextSocket : Nat

/-- The task stored for a loop. -/
def Connector.stored (s : Connector) : LoopKind → Option Nat
  | .listen => s.listenTask
  | .heartbeat => s.heartbeatTask
  | .refresh => s.refreshTask

/-- The connector after `__init__`. -/
def Connector.init : Connector where
  connected := false
  ws := none
  listenTask := none
  heartbeatTask := none
  refreshTask := none
  live := ∅
  nextTask := 0
  connectCalls := ∅
  closingCalls := ∅
  nextCall := 0
  openSockets := []
  nextSocket := 0

/-- Who runs a `connect()`. -/
inductive Caller where
  | call (id : Nat)
  | task (id : Nat)
deriving DecidableEq

inductive Label where
  /-- the user calls `connect()` -/
  | connect
  /-- the await of a `connect()` returns or raises -/
  | connectResumes (caller : Caller) (ok : Bool)
  /-- the user calls `disconnect()` -/
  | disconnect
  /-- `ws.close()` of a `disconnect()` ends -/
  | closed (id : Nat)
  /-- a task runs for the first time -/
  | taskStarts (id : Nat)
  /-- the iterator of a closed socket ends, normally or with an exception -/
  | readEnds (id : Nat) (clean : Bool)
  /-- a sleep, ping or refresh of a task ends -/
  | taskWakes (id : Nat)
  /-- a socket fails or is closed by the server -/
  | socketFails (socket : Nat)
deriving DecidableEq

/-! ## Steps -/

/-- End a task. -/
def endTask (s : Connector) (id : Nat) : Connector :=
  { s with live := s.live.pop id }

/-- Suspend a task in a phase. -/
def setPhase (s : Connector) (id : Nat) (kind : LoopKind) (phase : Phase) : Connector :=
  { s with live := s.live.set id ⟨kind, phase⟩ }

/-- Top of `_listen_loop`: leave it, or iterate the current socket; iterating no
socket raises into the backoff. -/
def listenTop (s : Connector) (id : Nat) : Connector :=
  if s.connected then
    match s.ws with
    | some w => setPhase s id .listen (.reading w)
    | none => setPhase s id .listen .backoff
  else endTask s id

/-- Top of the heartbeat and refresh loops. -/
def pauseTop (s : Connector) (id : Nat) (kind : LoopKind) : Connector :=
  if s.connected then setPhase s id kind .waiting else endTask s id

/-- After the interval: ping or refresh while connected. -/
def afterInterval (s : Connector) (id : Nat) (kind : LoopKind) : Connector :=
  if s.connected && (kind = .refresh || s.ws.isSome) then setPhase s id kind .acting
  else pauseTop s id kind

/-- End of `connect()`: create the background tasks and store them. -/
def spawnTasks (refreshEnabled : Bool) (s : Connector) : Connector :=
  let n := s.nextTask
  let live := (s.live.set n ⟨.listen, .created⟩).set (n + 1) ⟨.heartbeat, .created⟩
  if refreshEnabled then
    { s with
      listenTask := some n
      heartbeatTask := some (n + 1)
      refreshTask := some (n + 2)
      live := live.set (n + 2) ⟨.refresh, .created⟩
      nextTask := n + 3 }
  else
    { s with
      listenTask := some n
      heartbeatTask := some (n + 1)
      live := live
      nextTask := n + 2 }

/-- `websockets.connect` returned: the new socket becomes the current one. -/
def openSocket (s : Connector) : Connector :=
  { s with
    connected := true
    ws := some s.nextSocket
    openSockets := s.nextSocket :: s.openSockets
    nextSocket := s.nextSocket + 1 }

/-- Stage of a `connect()` in progress. -/
def stageOf (s : Connector) : Caller → Option ConnectStage
  | .call id => s.connectCalls.get? id
  | .task id =>
      match s.live.get? id with
      | some ⟨.listen, .connecting stage⟩ => some stage
      | _ => none

/-- Suspend a `connect()` in its next await. -/
def setStage (s : Connector) (stage : ConnectStage) : Caller → Connector
  | .call id => { s with connectCalls := s.connectCalls.set id stage }
  | .task id => setPhase s id .listen (.connecting stage)

/-- A `connect()` returned or raised: the listen loop logs and goes on. -/
def leaveConnect (s : Connector) : Caller → Connector
  | .call id => { s with connectCalls := s.connectCalls.pop id }
  | .task id => listenTop s id

/-- The await of a `connect()` ends. -/
def resumeConnect (refreshEnabled : Bool) (s : Connector) (caller : Caller) :
    ConnectStage → Bool → Connector
  | _, false => leaveConnect s caller
  | .preparing, true => setStage s .opening caller
  | .opening, true => setStage (openSocket s) .loggingIn caller
  | .loggingIn, true => leaveConnect (spawnTasks refreshEnabled s) caller

/-- The stored tasks, if any. -/
def storedTasks (s : Connector) : List Nat :=
  s.listenTask.toList ++ s.heartbeatTask.toList ++ s.refreshTask.toList

/-- Synchronous part of `disconnect()`: mark, cancel the stored tasks, and start
closing the current socket. -/
def startDisconnect (s : Connector) : Connector :=
  let s := { s with connected := false, live := s.live.without (storedTasks s) }
  match s.ws with
  | none => s
  | some w =>
      { s with closingCalls := s.closingCalls.set s.nextCall w, nextCall := s.nextCall + 1 }

/-- One step of the connector. -/
def step (refreshEnabled : Bool) (s : Connector) : Label → Option Connector
  | .connect =>
      some { s with
        connectCalls := s.connectCalls.set s.nextCall .preparing
        nextCall := s.nextCall + 1 }
  | .connectResumes caller ok =>
      match stageOf s caller with
      | none => none
      | some stage => some (resumeConnect refreshEnabled s caller stage ok)
  | .disconnect => some (startDisconnect s)
  | .closed id =>
      match s.closingCalls.get? id with
      | none => none
      | some w => some { s with
          closingCalls := s.closingCalls.pop id
          openSockets := s.openSockets.filter (· ≠ w)
          ws := none }
  | .taskStarts id =>
      match s.live.get? id with
      | some ⟨.listen, .created⟩ => some (listenTop s id)
      | some ⟨kind, .created⟩ => some (pauseTop s id kind)
      | _ => none
  | .readEnds id clean =>
      match s.live.get? id with
      | some ⟨.listen, .reading w⟩ =>
          if w ∈ s.openSockets then none
          else if clean then some (listenTop s id)
          else if s.connected then some (setPhase s id .listen .backoff)
          else some (endTask s id)
      | _ => none
  | .taskWakes id =>
      match s.live.get? id with
      | some ⟨.listen, .backoff⟩ => some (setPhase s id .listen (.connecting .preparing))
      | some ⟨.listen, _⟩ => none
      | some ⟨kind, .waiting⟩ => some (afterInterval s id kind)
      | some ⟨kind, .acting⟩ => some (pauseTop s id kind)
      | _ => none
  | .socketFails w =>
      if w ∈ s.openSockets then some { s with openSockets := s.openSockets.filter (· ≠ w) }
      else none

/-- The connector as a transition system; `refreshEnabled` says that a refresh
interval is configured. -/
def connectorMachine (refreshEnabled : Bool) : Machine Connector Label where
  init := .init
  step := step refreshEnabled

/-! ## What a step does -/

/-- The moves of the connector, each with the state it leads to. -/
inductive ConnectorMove (r : Bool) (s : Connector) : Label → Connector → Prop where
  | connect :
      ConnectorMove r s .connect { s with
        connectCalls := s.connectCalls.set s.nextCall .preparing
        nextCall := s.nextCall + 1 }
  | connectFails {caller : Caller} {stage : ConnectStage} (hstage : stageOf s caller = some stage) :
      ConnectorMove r s (.connectResumes caller false) (leaveConnect s caller)
  | prepared {caller : Caller} (hstage : stageOf s caller = some .preparing) :
      ConnectorMove r s (.connectResumes caller true) (setStage s .opening caller)
  | opened {caller : Caller} (hstage : stageOf s caller = some .opening) :
      ConnectorMove r s (.connectResumes caller true) (setStage (openSocket s) .loggingIn caller)
  | loggedIn {caller : Caller} (hstage : stageOf s caller = some .loggingIn) :
      ConnectorMove r s (.connectResumes caller true) (leaveConnect (spawnTasks r s) caller)
  | disconnect : ConnectorMove r s .disconnect (startDisconnect s)
  | closed {id w : Nat} (hid : s.closingCalls.get? id = some w) :
      ConnectorMove r s (.closed id) { s with
        closingCalls := s.closingCalls.pop id
        openSockets := s.openSockets.filter (· ≠ w)
        ws := none }
  | listenStarts {id : Nat} (hid : s.live.get? id = some ⟨.listen, .created⟩) :
      ConnectorMove r s (.taskStarts id) (listenTop s id)
  | pauseStarts {id : Nat} {kind : LoopKind} (hid : s.live.get? id = some ⟨kind, .created⟩)
      (hkind : kind ≠ .listen) :
      ConnectorMove r s (.taskStarts id) (pauseTop s id kind)
  | readEnds {id w : Nat} (hid : s.live.get? id = some ⟨.listen, .reading w⟩)
      (hclosed : w ∉ s.openSockets) :
      ConnectorMove r s (.readEnds id true) (listenTop s id)
  | readFails {id w : Nat} (hid : s.live.get? id = some ⟨.listen, .reading w⟩)
      (hclosed : w ∉ s.openSockets) (hconnected : s.connected = true) :
      ConnectorMove r s (.readEnds id false) (setPhase s id .listen .backoff)
  | listenLeaves {id w : Nat} (hid : s.live.get? id = some ⟨.listen, .reading w⟩)
      (hclosed : w ∉ s.openSockets) (hconnected : s.connected = false) :
      ConnectorMove r s (.readEnds id false) (endTask s id)
  | reconnects {id : Nat} (hid : s.live.get? id = some ⟨.listen, .backoff⟩) :
      ConnectorMove r s (.taskWakes id) (setPhase s id .listen (.connecting .preparing))
  | intervalEnds {id : Nat} {kind : LoopKind} (hid : s.live.get? id = some ⟨kind, .waiting⟩)
      (hkind : kind ≠ .listen) :
      ConnectorMove r s (.taskWakes id) (afterInterval s id kind)
  | actionEnds {id : Nat} {kind : LoopKind} (hid : s.live.get? id = some ⟨kind, .acting⟩)
      (hkind : kind ≠ .listen) :
      ConnectorMove r s (.taskWakes id) (pauseTop s id kind)
  | socketFails {w : Nat} (hopen : w ∈ s.openSockets) :
      ConnectorMove r s (.socketFails w) { s with openSockets := s.openSockets.filter (· ≠ w) }

/-- Every step is a move. -/
theorem step_move {r : Bool} {s s' : Connector} {l : Label} (h : step r s l = some s') :
    ConnectorMove r s l s' := by
  cases l with
  | connect =>
      cases h
      exact .connect
  | connectResumes caller ok =>
      unfold step at h
      cases hstage : stageOf s caller with
      | none => simp [hstage] at h
      | some stage =>
          simp only [hstage, Option.some.injEq] at h
          subst h
          cases ok with
          | false =>
              have hleave : resumeConnect r s caller stage false = leaveConnect s caller := by
                cases stage <;> rfl
              rw [hleave]
              exact .connectFails hstage
          | true =>
              cases stage with
              | preparing => exact .prepared hstage
              | opening => exact .opened hstage
              | loggingIn => exact .loggedIn hstage
  | disconnect =>
      cases h
      exact .disconnect
  | closed id =>
      unfold step at h
      cases hid : s.closingCalls.get? id with
      | none => simp [hid] at h
      | some w =>
          simp only [hid, Option.some.injEq] at h
          subst h
          exact .closed hid
  | taskStarts id =>
      unfold step at h
      cases hid : s.live.get? id with
      | none => simp [hid] at h
      | some task =>
          rcases task with ⟨kind, phase⟩
          cases phase <;> cases kind <;> simp [hid] at h <;> subst h
          · exact .listenStarts hid
          · exact .pauseStarts hid (by simp)
          · exact .pauseStarts hid (by simp)
  | readEnds id clean =>
      unfold step at h
      cases hid : s.live.get? id with
      | none => simp [hid] at h
      | some task =>
          rcases task with ⟨kind, phase⟩
          cases kind <;> cases phase <;> simp only [hid, reduceCtorEq] at h
          split_ifs at h with hopen hclean hconnected
          · cases h
            rw [hclean]
            exact .readEnds hid hopen
          · cases h
            rw [Bool.eq_false_iff.2 hclean]
            exact .readFails hid hopen hconnected
          · cases h
            rw [Bool.eq_false_iff.2 hclean]
            exact .listenLeaves hid hopen (Bool.eq_false_iff.2 hconnected)
  | taskWakes id =>
      unfold step at h
      cases hid : s.live.get? id with
      | none => simp [hid] at h
      | some task =>
          rcases task with ⟨kind, phase⟩
          cases kind <;> cases phase <;> simp [hid] at h <;> subst h
          · exact .reconnects hid
          · exact .intervalEnds hid (by simp)
          · exact .actionEnds hid (by simp)
          · exact .intervalEnds hid (by simp)
          · exact .actionEnds hid (by simp)
  | socketFails w =>
      simp only [step] at h
      split_ifs at h with hopen
      cases h
      exact .socketFails hopen

/-- The task of a `connect()` in progress. -/
theorem stageOf_task {s : Connector} {id : Nat} {stage : ConnectStage}
    (h : stageOf s (.task id) = some stage) :
    s.live.get? id = some ⟨.listen, .connecting stage⟩ := by
  unfold stageOf at h
  cases hid : s.live.get? id with
  | none => simp [hid] at h
  | some task =>
      rcases task with ⟨kind, phase⟩
      cases kind <;> cases phase <;> simp_all

/-! ## Sockets -/

/-- Two states with the same current socket and as many sockets. -/
structure SameSockets (s s' : Connector) : Prop where
  ws : s'.ws = s.ws
  nextSocket : s'.nextSocket = s.nextSocket

theorem sameSockets_listenTop (s : Connector) (id : Nat) : SameSockets s (listenTop s id) := by
  unfold listenTop
  split
  · split <;> exact ⟨rfl, rfl⟩
  · exact ⟨rfl, rfl⟩

theorem sameSockets_pauseTop (s : Connector) (id : Nat) (kind : LoopKind) :
    SameSockets s (pauseTop s id kind) := by
  unfold pauseTop
  split <;> exact ⟨rfl, rfl⟩

theorem sameSockets_afterInterval (s : Connector) (id : Nat) (kind : LoopKind) :
    SameSockets s (afterInterval s id kind) := by
  unfold afterInterval
  split
  · exact ⟨rfl, rfl⟩
  · exact sameSockets_pauseTop s id kind

theorem sameSockets_leaveConnect (s : Connector) (caller : Caller) :
    SameSockets s (leaveConnect s caller) := by
  cases caller with
  | call id => exact ⟨rfl, rfl⟩
  | task id => exact sameSockets_listenTop s id

theorem sameSockets_setStage (s : Connector) (stage : ConnectStage) (caller : Caller) :
    SameSockets s (setStage s stage caller) := by
  cases caller <;> exact ⟨rfl, rfl⟩

theorem sameSockets_spawnTasks (r : Bool) (s : Connector) : SameSockets s (spawnTasks r s) := by
  unfold spawnTasks
  cases r <;> exact ⟨rfl, rfl⟩

theorem sameSockets_startDisconnect (s : Connector) : SameSockets s (startDisconnect s) := by
  unfold startDisconnect
  cases hws : s.ws with
  | none => exact ⟨hws.symm, rfl⟩
  | some w => exact ⟨hws.symm, rfl⟩

/-- The step is the return of a `websockets.connect`. -/
def OpensSocket (s : Connector) (l : Label) : Prop :=
  ∃ caller, l = .connectResumes caller true ∧ stageOf s caller = some .opening

/-- A step opens the next socket and makes it the current one, or it makes no socket
current that was not. -/
theorem step_sockets {r : Bool} {s s' : Connector} {l : Label} (h : step r s l = some s') :
    (OpensSocket s l ∧ s'.ws = some s.nextSocket ∧ s'.nextSocket = s.nextSocket + 1) ∨
      ((s'.ws = s.ws ∨ s'.ws = none) ∧ s'.nextSocket = s.nextSocket) := by
  have hsame : ∀ {t : Connector}, SameSockets s t →
      ((t.ws = s.ws ∨ t.ws = none) ∧ t.nextSocket = s.nextSocket) :=
    fun ht => ⟨Or.inl ht.ws, ht.nextSocket⟩
  cases step_move h with
  | connect => exact Or.inr (hsame ⟨rfl, rfl⟩)
  | connectFails hstage => exact Or.inr (hsame (sameSockets_leaveConnect s _))
  | prepared hstage => exact Or.inr (hsame (sameSockets_setStage s .opening _))
  | @opened caller hstage =>
      have hset := sameSockets_setStage (openSocket s) .loggingIn caller
      exact Or.inl ⟨⟨caller, rfl, hstage⟩, hset.ws, hset.nextSocket⟩
  | @loggedIn caller hstage =>
      have hspawn := sameSockets_spawnTasks r s
      have hleave := sameSockets_leaveConnect (spawnTasks r s) caller
      right
      exact hsame ⟨hleave.ws.trans hspawn.ws, hleave.nextSocket.trans hspawn.nextSocket⟩
  | disconnect => exact Or.inr (hsame (sameSockets_startDisconnect s))
  | closed hid => exact Or.inr ⟨Or.inr rfl, rfl⟩
  | listenStarts hid => exact Or.inr (hsame (sameSockets_listenTop s _))
  | pauseStarts hid hkind => exact Or.inr (hsame (sameSockets_pauseTop s _ _))
  | readEnds hid hclosed => exact Or.inr (hsame (sameSockets_listenTop s _))
  | readFails hid hclosed hconnected => exact Or.inr (hsame ⟨rfl, rfl⟩)
  | listenLeaves hid hclosed hconnected => exact Or.inr (hsame ⟨rfl, rfl⟩)
  | reconnects hid => exact Or.inr (hsame ⟨rfl, rfl⟩)
  | intervalEnds hid hkind => exact Or.inr (hsame (sameSockets_afterInterval s _ _))
  | actionEnds hid hkind => exact Or.inr (hsame (sameSockets_pauseTop s _ _))
  | socketFails hopen => exact Or.inr (hsame ⟨rfl, rfl⟩)

end Ws
end MarketConnector
