import MarketConnector.Foundations.Dict
import MarketConnector.Foundations.PyValue
import MarketConnector.Foundations.Transitions

/-!
# Ib - Connection lifecycle of `IbGatewayTransport`

The `connect()` calls, reconnect supervisors and `disconnect()` calls in progress, the
flags they share, the router's connection flag and IB's socket.  Every step runs one
task from one await to the next, or is an event of the socket.  Requests of the
post-connect steps may raise; their exceptions are swallowed, so a step that ends such
a request says nothing about its outcome.

Main results:

- Definition `transportMachine`: the transition system.
- Theorem `transportStep_move`: what one step can do.
- Theorem `ConnectingInv.step`: `_connecting` is only set while a call is running.
- Theorem `fireDisconnected_of_handles` / `fireDisconnected_of_not_handles`: what the
  drop handler does.
-/

namespace MarketConnector
namespace Ib

open Foundations

/-! ## Errors of an attempt -/

/-- Arguments of a builtin `ConnectionError`: one list of messages, or texts. -/
inductive ConnectionArgs where
  | list (messages : List String)
  | texts (args : List String)
deriving DecidableEq

inductive ConnectError where
  | timeout
  | connection (args : ConnectionArgs)
  | readOnlyApi
  | versionIncompatible
  | accountConfig
  | other
deriving DecidableEq

/-- `_is_retryable_connect_error`. -/
def isRetryableConnectError : ConnectError → Bool
  | .timeout => true
  | .connection (.list _) => true
  | _ => false

/-- `_is_order_sync_timeout`. -/
def isOrderSyncTimeout : ConnectError → Bool
  | .connection (.list messages) => messages.any reportsOrderSync
  | .connection (.texts args) => args.any reportsOrderSync
  | _ => false
where
  reportsOrderSync (m : String) : Bool :=
    occursIn "open orders request timed out" m || occursIn "completed orders request timed out" m

/-- What `_open_socket` raises when `connectAsync` raised `exc` after the API errors
`apiMessages`. -/
def openSocketError (exc : ConnectError) (apiMessages : List String) : ConnectError :=
  if isOrderSyncTimeout exc then .readOnlyApi
  else if apiMessages.any fun m => occursIn "version must be" m.toLower then .versionIncompatible
  else exc

/-! ## State -/

/-- Fields of `IbConnectionSpec` that connecting, order calls and streams read. -/
structure IbConnectionSpec where
  clientId : Nat
  accountId : Option String
  readonly : Bool
  fetchAllOpenOrders : Bool
  connectAttempts : Nat
  marketDataLines : Nat
  connectAttempts_pos : 1 ≤ connectAttempts
  marketDataLines_pos : 1 ≤ marketDataLines

/-- The default values. -/
def IbConnectionSpec.default : IbConnectionSpec where
  clientId := 1
  accountId := none
  readonly := false
  fetchAllOpenOrders := true
  connectAttempts := 3
  marketDataLines := 100
  connectAttempts_pos := by decide
  marketDataLines_pos := by decide

/-- Await a `connect()` or a supervisor is suspended in: the sleep between attempts,
`connectAsync`, `reqExecutionsAsync`, `reqAllOpenOrdersAsync`. -/
inductive Phase where
  | sleeping | opening | reconciling | syncing
deriving DecidableEq

/-- Who runs attempts: a `connect()` in its `attempt`-th try, or a supervisor, possibly
with a cancellation on its way. -/
inductive Role where
  | connect (attempt : Nat)
  | supervise (cancelled : Bool)
deriving DecidableEq

structure Task where
  role : Role
  phase : Phase
deriving DecidableEq

/-- States on the connection topic. -/
inductive ConnectionState where
  | connected | disconnected | reconnecting | dataLost
deriving DecidableEq

/-- The transport's connection fields, the tasks that run on it, and IB's socket.
`byCode` records that the router handled a connectivity code since it was last set. -/
structure Transport where
  socketUp : Bool
  routerUp : Bool
  byCode : Bool
  account : Option String
  handlersAttached : Bool
  closing : Bool
  connecting : Bool
  supervisor : Option Nat
  tasks : Dict Nat Task
  disconnectCalls : Dict Nat Nat
  next : Nat
  published : List ConnectionState

/-- The transport after `__init__`. -/
def Transport.init (spec : IbConnectionSpec) : Transport where
  socketUp := false
  routerUp := false
  byCode := false
  account := spec.accountId
  handlersAttached := false
  closing := false
  connecting := false
  supervisor := none
  tasks := ∅
  disconnectCalls := ∅
  next := 0
  published := []

inductive Label where
  /-- the user calls `connect()` -/
  | connect
  /-- the user calls `disconnect()` -/
  | disconnect
  /-- the supervisor a `disconnect()` cancelled is done -/
  | disconnectResumes (call : Nat)
  /-- the sleep between attempts ends -/
  | wakes (id : Nat)
  /-- `connectAsync` returns; IB manages `accounts`; `reqMarketDataType` may raise -/
  | opened (id : Nat) (accounts : List String) (dataTypeRaises : Option ConnectError)
  /-- `connectAsync` raises; closing what it had opened may fire the disconnected event -/
  | openFails (id : Nat) (exc : ConnectError) (apiMessages : List String) (fires : Bool)
  /-- `reqExecutionsAsync` returns or raises -/
  | reconciled (id : Nat)
  /-- `reqAllOpenOrdersAsync` returns or raises -/
  | synced (id : Nat)
  /-- a cancellation reaches the await of a task -/
  | cancelled (id : Nat) (fires : Bool)
  /-- the socket drops and the disconnected event fires -/
  | socketDrops
  /-- IB reports an error code -/
  | errorCode (code : Int)

/-! ## Flags and handlers -/

/-- `set_connected` of the router. -/
def setConnected (s : Transport) (isUp : Bool) : Transport :=
  { s with routerUp := isUp, byCode := false }

def publishState (s : Transport) (state : ConnectionState) : Transport :=
  { s with published := s.published ++ [state] }

def attachHandlers (s : Transport) : Transport :=
  { s with handlersAttached := true }

def detachHandlers (s : Transport) : Transport :=
  { s with handlersAttached := false }

/-- The stored supervisor exists and is not done. -/
def supervisorAlive (s : Transport) : Bool :=
  match s.supervisor with
  | some id => (s.tasks.get? id).isSome
  | none => false

/-- `_on_disconnected`. -/
def onDisconnected (s : Transport) : Transport :=
  if s.closing || s.connecting then s
  else if supervisorAlive s then s
  else
    let s := publishState (setConnected s false) .disconnected
    { s with
      tasks := s.tasks.set s.next ⟨.supervise false, .sleeping⟩
      supervisor := some s.next
      next := s.next + 1 }

/-- The disconnected event fires. -/
def fireDisconnected (s : Transport) : Transport :=
  if s.handlersAttached then onDisconnected s else s

/-- The socket is closed or lost. -/
def closeSocket (s : Transport) (fires : Bool) : Transport :=
  let s := { s with socketUp := false }
  if fires then fireDisconnected s else s

/-- Connectivity codes of `_ErrorRouter.on_error`, and what they say. -/
def connectivity (code : Int) : Option Bool :=
  if code = 1102 ∨ code = 1101 then some true
  else if code = 1100 ∨ code = 2110 ∨ code = 502 ∨ code = 504 then some false
  else none

/-- `on_error`, as far as the connection goes: flag and published state. -/
def onError (s : Transport) (code : Int) : Transport :=
  match connectivity code with
  | none => s
  | some isUp =>
      let s := { s with routerUp := isUp, byCode := true }
      let s := publishState s (if isUp then .connected else .disconnected)
      if code = 1101 then publishState s .dataLost else s

/-! ## One attempt -/

/-- How `_connect_once` goes on after an await. -/
inductive Progress where
  | suspended (phase : Phase)
  | returned
  | raised (exc : ConnectError)

/-- `_resolve_account`: the account to trade on, `none` when the list rules it out. -/
def resolveAccount (configured : Option String) (accounts : List String) :
    Option (Option String) :=
  match configured with
  | none => if accounts.length > 1 then none else some accounts.head?
  | some account =>
      if accounts ≠ [] ∧ account ∉ accounts then none
      else if account = "" then some accounts.head?
      else some account

/-- `_connect_once` once `connectAsync` returned: up to the execution request. -/
def afterOpen (spec : IbConnectionSpec) (s : Transport) (accounts : List String)
    (dataTypeRaises : Option ConnectError) : Transport × Progress :=
  let s := { s with socketUp := true }
  match resolveAccount spec.accountId accounts with
  | none => (closeSocket s true, .raised .accountConfig)
  | some account =>
      let s := attachHandlers { s with account := account }
      match dataTypeRaises with
      | some exc => (detachHandlers s, .raised exc)
      | none => (s, .suspended .reconciling)

/-- `_connect_once` once the executions are reconciled: `_sync_all_open_orders` returns
at once in a read-only session or when it is switched off. -/
def afterReconcile (spec : IbConnectionSpec) (s : Transport) : Transport × Progress :=
  if spec.readonly || !spec.fetchAllOpenOrders then (setConnected s true, .returned)
  else (s, .suspended .syncing)

/-- A cancellation inside an attempt: `connectAsync` closes what it opened, and the
post-connect steps detach the handlers. -/
def cancelAttempt (s : Transport) (fires : Bool) : Phase → Transport
  | .sleeping => s
  | .opening => closeSocket s fires
  | .reconciling => detachHandlers s
  | .syncing => detachHandlers s

/-! ## The callers of an attempt -/

/-- Suspend a task in a phase. -/
def setPhase (s : Transport) (id : Nat) (role : Role) (phase : Phase) : Transport :=
  { s with tasks := s.tasks.set id ⟨role, phase⟩ }

/-- A task ends; the `finally` of `connect()` clears the flag. -/
def endTask (s : Transport) (id : Nat) : Role → Transport
  | .connect _ => { s with connecting := false, tasks := s.tasks.pop id }
  | .supervise _ => { s with tasks := s.tasks.pop id }

/-- The caller of an attempt that raised does not try again. -/
def givesUp (spec : IbConnectionSpec) (role : Role) (exc : ConnectError) : Bool :=
  match role with
  | .connect attempt => !isRetryableConnectError exc || spec.connectAttempts ≤ attempt
  | .supervise _ => exc = .accountConfig || exc = .versionIncompatible

/-- The role of the next try. -/
def Role.retry : Role → Role
  | .connect attempt => .connect (attempt + 1)
  | .supervise cancelled => .supervise cancelled

/-- An attempt raised: `connect()` raises too or sleeps, the supervisor reports
"disconnected" and ends or sleeps. -/
def attemptRaised (spec : IbConnectionSpec) (s : Transport) (id : Nat) (role : Role)
    (exc : ConnectError) : Transport :=
  if givesUp spec role exc then
    match role with
    | .connect _ => endTask s id role
    | .supervise _ => publishState (endTask s id role) .disconnected
  else setPhase s id role.retry .sleeping

/-- The caller of an attempt takes over what the attempt came to. -/
def settle (spec : IbConnectionSpec) (id : Nat) (role : Role) :
    Transport × Progress → Transport
  | (s, .suspended phase) => setPhase s id role phase
  | (s, .returned) => publishState (endTask s id role) .connected
  | (s, .raised exc) => attemptRaised spec s id role exc

/-- The role of a task that is suspended in a phase and not being cancelled. -/
def running (s : Transport) (id : Nat) (phase : Phase) : Option Role :=
  match s.tasks.get? id with
  | some ⟨role, at_⟩ => if at_ = phase ∧ role ≠ .supervise true then some role else none
  | none => none

/-- The sleep before an attempt ends. -/
def wake (s : Transport) (id : Nat) : Role → Transport
  | .connect attempt => setPhase s id (.connect attempt) .opening
  | .supervise cancelled =>
      setPhase (publishState s .reconnecting) id (.supervise cancelled) .opening

/-- End of `disconnect()`. -/
def finishDisconnect (s : Transport) : Transport :=
  { setConnected (detachHandlers s) false with socketUp := false }

/-- `disconnect()` up to its await: a live supervisor is cancelled and awaited. -/
def startDisconnect (s : Transport) : Transport :=
  let s' := { s with closing := true, supervisor := none }
  match s.supervisor.bind fun id => (s.tasks.get? id).map fun task => (id, task) with
  | some (id, ⟨.supervise _, phase⟩) =>
      { setPhase s' id (.supervise true) phase with
        disconnectCalls := s.disconnectCalls.set s.next id
        next := s.next + 1 }
  | _ => finishDisconnect s'

/-- One step of the transport. -/
def step (spec : IbConnectionSpec) (s : Transport) : Label → Option Transport
  | .connect =>
      some { s with
        closing := false
        connecting := true
        tasks := s.tasks.set s.next ⟨.connect 1, .opening⟩
        next := s.next + 1 }
  | .disconnect => some (startDisconnect s)
  | .disconnectResumes call =>
      match s.disconnectCalls.get? call with
      | none => none
      | some id =>
          if (s.tasks.get? id).isSome then none
          else some (finishDisconnect { s with disconnectCalls := s.disconnectCalls.pop call })
  | .wakes id => (running s id .sleeping).map fun role => wake s id role
  | .opened id accounts dataTypeRaises =>
      (running s id .opening).map fun role =>
        settle spec id role (afterOpen spec s accounts dataTypeRaises)
  | .openFails id exc apiMessages fires =>
      (running s id .opening).map fun role =>
        settle spec id role (closeSocket s fires, .raised (openSocketError exc apiMessages))
  | .reconciled id =>
      (running s id .reconciling).map fun role => settle spec id role (afterReconcile spec s)
  | .synced id =>
      (running s id .syncing).map fun role =>
        settle spec id role (setConnected s true, .returned)
  | .cancelled id fires =>
      match s.tasks.get? id with
      | none => none
      | some ⟨.supervise false, _⟩ => none
      | some ⟨role, phase⟩ => some (endTask (cancelAttempt s fires phase) id role)
  | .socketDrops => if s.socketUp then some (closeSocket s true) else none
  | .errorCode code => if s.handlersAttached then some (onError s code) else some s

/-- The transport as a transition system. -/
def transportMachine (spec : IbConnectionSpec) : Machine Transport Label where
  init := .init spec
  step := step spec

/-! ## What a step does -/

/-- The moves of the transport, each with the state it leads to. -/
inductive TransportMove (spec : IbConnectionSpec) (s : Transport) : Label → Transport → Prop where
  | connect :
      TransportMove spec s .connect { s with
        closing := false
        connecting := true
        tasks := s.tasks.set s.next ⟨.connect 1, .opening⟩
        next := s.next + 1 }
  | disconnect : TransportMove spec s .disconnect (startDisconnect s)
  | disconnectResumes {call id : Nat} (hcall : s.disconnectCalls.get? call = some id)
      (hdone : s.tasks.get? id = none) :
      TransportMove spec s (.disconnectResumes call)
        (finishDisconnect { s with disconnectCalls := s.disconnectCalls.pop call })
  | wakes {id : Nat} {role : Role} (hrole : running s id .sleeping = some role) :
      TransportMove spec s (.wakes id) (wake s id role)
  | accountRefused {id : Nat} {role : Role} {accounts : List String}
      {dataTypeRaises : Option ConnectError} (hrole : running s id .opening = some role)
      (haccount : resolveAccount spec.accountId accounts = none) :
      TransportMove spec s (.opened id accounts dataTypeRaises)
        (attemptRaised spec (closeSocket { s with socketUp := true } true) id role .accountConfig)
  | dataTypeFails {id : Nat} {role : Role} {accounts : List String} {account : Option String}
      {exc : ConnectError} (hrole : running s id .opening = some role)
      (haccount : resolveAccount spec.accountId accounts = some account) :
      TransportMove spec s (.opened id accounts (some exc))
        (attemptRaised spec
          (detachHandlers (attachHandlers { s with socketUp := true, account := account }))
          id role exc)
  | opened {id : Nat} {role : Role} {accounts : List String} {account : Option String}
      (hrole : running s id .opening = some role)
      (haccount : resolveAccount spec.accountId accounts = some account) :
      TransportMove spec s (.opened id accounts none)
        (setPhase (attachHandlers { s with socketUp := true, account := account })
          id role .reconciling)
  | openFails {id : Nat} {role : Role} {exc : ConnectError} {apiMessages : List String}
      {fires : Bool} (hrole : running s id .opening = some role) :
      TransportMove spec s (.openFails id exc apiMessages fires)
        (attemptRaised spec (closeSocket s fires) id role (openSocketError exc apiMessages))
  | skipsSync {id : Nat} {role : Role} (hrole : running s id .reconciling = some role)
      (hskip : (spec.readonly || !spec.fetchAllOpenOrders) = true) :
      TransportMove spec s (.reconciled id)
        (publishState (endTask (setConnected s true) id role) .connected)
  | reconciled {id : Nat} {role : Role} (hrole : running s id .reconciling = some role)
      (hskip : ¬ (spec.readonly || !spec.fetchAllOpenOrders) = true) :
      TransportMove spec s (.reconciled id) (setPhase s id role .syncing)
  | synced {id : Nat} {role : Role} (hrole : running s id .syncing = some role) :
      TransportMove spec s (.synced id)
        (publishState (endTask (setConnected s true) id role) .connected)
  | cancelled {id : Nat} {role : Role} {phase : Phase} {fires : Bool}
      (hid : s.tasks.get? id = some ⟨role, phase⟩) (hrole : role ≠ .supervise false) :
      TransportMove spec s (.cancelled id fires) (endTask (cancelAttempt s fires phase) id role)
  | socketDrops (hup : s.socketUp = true) :
      TransportMove spec s .socketDrops (closeSocket s true)
  | errorCode {code : Int} (hattached : s.handlersAttached = true) :
      TransportMove spec s (.errorCode code) (onError s code)
  | codeUnheard {code : Int} (hdetached : ¬ s.handlersAttached = true) :
      TransportMove spec s (.errorCode code) s

/-- Every step is a move. -/
theorem transportStep_move {spec : IbConnectionSpec} {s s' : Transport} {l : Label}
    (hstep : step spec s l = some s') : TransportMove spec s l s' := by
  cases l with
  | connect =>
      cases hstep
      exact .connect
  | disconnect =>
      cases hstep
      exact .disconnect
  | disconnectResumes call =>
      simp only [step] at hstep
      split at hstep
      · cases hstep
      · rename_i id hcall
        split_ifs at hstep with hdone
        cases hstep
        exact .disconnectResumes hcall (by simpa using hdone)
  | wakes id =>
      obtain ⟨role, hrole, rfl⟩ := Option.map_eq_some_iff.1 hstep
      exact .wakes hrole
  | opened id accounts dataTypeRaises =>
      obtain ⟨role, hrole, rfl⟩ := Option.map_eq_some_iff.1 hstep
      unfold afterOpen
      cases haccount : resolveAccount spec.accountId accounts with
      | none => exact .accountRefused hrole haccount
      | some account =>
          cases dataTypeRaises with
          | none => exact .opened hrole haccount
          | some exc => exact .dataTypeFails hrole haccount
  | openFails id exc apiMessages fires =>
      obtain ⟨role, hrole, rfl⟩ := Option.map_eq_some_iff.1 hstep
      exact .openFails hrole
  | reconciled id =>
      obtain ⟨role, hrole, rfl⟩ := Option.map_eq_some_iff.1 hstep
      unfold afterReconcile
      by_cases hskip : (spec.readonly || !spec.fetchAllOpenOrders) = true
      · rw [if_pos hskip]
        exact .skipsSync hrole hskip
      · rw [if_neg hskip]
        exact .reconciled hrole hskip
  | synced id =>
      obtain ⟨role, hrole, rfl⟩ := Option.map_eq_some_iff.1 hstep
      exact .synced hrole
  | cancelled id fires =>
      simp only [step] at hstep
      split at hstep
      · cases hstep
      · cases hstep
      · rename_i role phase hrole hid
        cases hstep
        exact .cancelled hid hrole
  | socketDrops =>
      simp only [step] at hstep
      split_ifs at hstep with hup
      cases hstep
      exact .socketDrops hup
  | errorCode code =>
      simp only [step] at hstep
      split_ifs at hstep with hattached
      · cases hstep
        exact .errorCode hattached
      · cases hstep
        exact .codeUnheard hattached

/-! ## The drop handler -/

/-- The drop handler is attached and will not ignore the event. -/
def handles (s : Transport) : Bool :=
  s.handlersAttached && !s.closing && !s.connecting && !supervisorAlive s

/-- An event that is not ignored takes the router down and starts a supervisor. -/
theorem fireDisconnected_of_handles {s : Transport} (h : handles s = true) :
    (fireDisconnected s).routerUp = false ∧ (fireDisconnected s).connecting = false ∧
      (fireDisconnected s).tasks = s.tasks.set s.next ⟨.supervise false, .sleeping⟩ := by
  simp only [handles, Bool.and_eq_true, Bool.not_eq_true'] at h
  obtain ⟨⟨⟨hattached, hclosing⟩, hconnecting⟩, halive⟩ := h
  simp [fireDisconnected, onDisconnected, hattached, hclosing, hconnecting, halive,
    publishState, setConnected]

/-- An ignored event changes nothing. -/
theorem fireDisconnected_of_not_handles {s : Transport} (h : handles s = false) :
    fireDisconnected s = s := by
  unfold fireDisconnected onDisconnected
  cases hattached : s.handlersAttached with
  | false => rfl
  | true =>
      cases hclosing : s.closing <;> cases hconnecting : s.connecting <;>
        cases halive : supervisorAlive s <;>
        simp_all [handles]

/-- A loss of the socket that the handler acts on. -/
theorem closeSocket_of_heard {s : Transport} {fires : Bool} (h : (fires && handles s) = true) :
    (closeSocket s fires).routerUp = false ∧ (closeSocket s fires).connecting = false ∧
      (closeSocket s fires).tasks = s.tasks.set s.next ⟨.supervise false, .sleeping⟩ := by
  simp only [Bool.and_eq_true] at h
  obtain ⟨rfl, hhandles⟩ := h
  have hdown : handles { s with socketUp := false } = true := hhandles
  exact fireDisconnected_of_handles hdown

/-- A loss of the socket that goes unheard. -/
theorem closeSocket_of_unheard {s : Transport} {fires : Bool}
    (h : (fires && handles s) = false) :
    closeSocket s fires = { s with socketUp := false } := by
  cases fires with
  | false => rfl
  | true =>
      have hhandles : handles { s with socketUp := false } = false := h
      exact fireDisconnected_of_not_handles hhandles

/-! ## The flag of `connect()` -/

/-- `_connecting` is only set while some `connect()` is running. -/
def ConnectingInv (s : Transport) : Prop :=
  s.connecting = true → ∃ id attempt phase, s.tasks.get? id = some ⟨.connect attempt, phase⟩

/-- Changes that keep the flag or clear it, and keep the running calls. -/
theorem ConnectingInv.mono {s s' : Transport} (h : ConnectingInv s)
    (hkeep : s'.connecting = true → s.connecting = true ∧
      ∀ id attempt phase, s.tasks.get? id = some ⟨.connect attempt, phase⟩ →
        ∃ attempt' phase', s'.tasks.get? id = some ⟨.connect attempt', phase'⟩) :
    ConnectingInv s' := by
  intro hconnecting
  obtain ⟨hbefore, hcalls⟩ := hkeep hconnecting
  obtain ⟨id, attempt, phase, hid⟩ := h hbefore
  obtain ⟨attempt', phase', hid'⟩ := hcalls id attempt phase hid
  exact ⟨id, attempt', phase', hid'⟩

theorem running_eq_some {s : Transport} {id : Nat} {phase : Phase} {role : Role}
    (h : running s id phase = some role) : s.tasks.get? id = some ⟨role, phase⟩ := by
  unfold running at h
  cases htask : s.tasks.get? id with
  | none => simp [htask] at h
  | some task =>
      rcases task with ⟨role', phase'⟩
      simp only [htask] at h
      split_ifs at h with hcond
      cases h
      rw [hcond.1]

/-- A task that changes its phase, and possibly its try, stays what it is. -/
theorem ConnectingInv.setPhase {s : Transport} (h : ConnectingInv s) {id : Nat}
    {role role' : Role} {before : Phase} (after : Phase)
    (hid : s.connecting = true → s.tasks.get? id = some ⟨role, before⟩)
    (hrole : role' = role ∨ role' = role.retry) :
    ConnectingInv (setPhase s id role' after) := by
  refine h.mono fun hconnecting => ⟨hconnecting, fun id' attempt phase hid' => ?_⟩
  by_cases heq : id' = id
  · subst heq
    have hsame : some (⟨role, before⟩ : Task) = some ⟨.connect attempt, phase⟩ :=
      (hid hconnecting).symm.trans hid'
    cases hsame
    rcases hrole with rfl | rfl
    · exact ⟨attempt, after, Dict.get?_set_self _ _ _⟩
    · exact ⟨attempt + 1, after, Dict.get?_set_self _ _ _⟩
  · exact ⟨attempt, phase, (Dict.get?_set_of_ne _ heq _).trans hid'⟩

theorem ConnectingInv.endTask {s : Transport} (h : ConnectingInv s) {id : Nat} {role : Role}
    {phase : Phase} (hid : s.connecting = true → s.tasks.get? id = some ⟨role, phase⟩) :
    ConnectingInv (endTask s id role) := by
  cases role with
  | connect attempt =>
      intro hconnecting
      cases hconnecting
  | supervise cancelled =>
      refine h.mono fun hconnecting => ⟨hconnecting, fun id' attempt phase' hid' => ?_⟩
      have hne : id' ≠ id := by
        rintro rfl
        rw [hid hconnecting] at hid'
        cases hid'
      exact ⟨attempt, phase', (Dict.get?_pop_of_ne _ hne).trans hid'⟩

theorem ConnectingInv.attemptRaised {spec : IbConnectionSpec} {s : Transport}
    (h : ConnectingInv s) {id : Nat} {role : Role} {phase : Phase}
    (hid : s.connecting = true → s.tasks.get? id = some ⟨role, phase⟩) (exc : ConnectError) :
    ConnectingInv (attemptRaised spec s id role exc) := by
  unfold Ib.attemptRaised
  split_ifs
  · cases role with
    | connect attempt => exact h.endTask hid
    | supervise cancelled => exact h.endTask hid
  · exact h.setPhase .sleeping hid (Or.inr rfl)

/-- Losing the socket keeps the flag and the tasks, or clears the flag. -/
theorem closeSocket_connecting {s : Transport} {fires : Bool}
    (h : (closeSocket s fires).connecting = true) :
    s.connecting = true ∧ (closeSocket s fires).tasks = s.tasks := by
  cases hheard : fires && handles s with
  | true =>
      have hclear := (closeSocket_of_heard hheard).2.1
      rw [h] at hclear
      cases hclear
  | false =>
      rw [closeSocket_of_unheard hheard] at h ⊢
      exact ⟨h, rfl⟩

theorem ConnectingInv.closeSocket {s : Transport} (h : ConnectingInv s) (fires : Bool) :
    ConnectingInv (closeSocket s fires) := by
  refine h.mono fun hconnecting => ?_
  obtain ⟨hbefore, htasks⟩ := closeSocket_connecting hconnecting
  exact ⟨hbefore, fun id attempt phase hid => ⟨attempt, phase, by rw [htasks, hid]⟩⟩

/-- The running task is found again after a loss of the socket, while the flag is set. -/
theorem get?_closeSocket {s : Transport} {id : Nat} {task : Task} (fires : Bool)
    (hid : s.tasks.get? id = some task)
    (hconnecting : (closeSocket s fires).connecting = true) :
    (closeSocket s fires).tasks.get? id = some task := by
  rw [(closeSocket_connecting hconnecting).2]
  exact hid

theorem ConnectingInv.cancelAttempt {s : Transport} (h : ConnectingInv s) (fires : Bool)
    (phase : Phase) : ConnectingInv (cancelAttempt s fires phase) := by
  cases phase with
  | sleeping => exact h
  | opening => exact h.closeSocket fires
  | reconciling => exact h
  | syncing => exact h

theorem get?_cancelAttempt {s : Transport} {id : Nat} {task : Task} (fires : Bool)
    (phase : Phase) (hid : s.tasks.get? id = some task)
    (hconnecting : (cancelAttempt s fires phase).connecting = true) :
    (cancelAttempt s fires phase).tasks.get? id = some task := by
  cases phase with
  | sleeping => exact hid
  | opening => exact get?_closeSocket fires hid hconnecting
  | reconciling => exact hid
  | syncing => exact hid

theorem ConnectingInv.startDisconnect {s : Transport} (h : ConnectingInv s) :
    ConnectingInv (startDisconnect s) := by
  unfold Ib.startDisconnect
  cases hfind : s.supervisor.bind fun id => (s.tasks.get? id).map fun task => (id, task) with
  | none => exact h
  | some found =>
      rcases found with ⟨id, role, phase⟩
      cases role with
      | connect attempt => exact h
      | supervise cancelled =>
          have hid : s.tasks.get? id = some ⟨.supervise cancelled, phase⟩ := by
            simp only [Option.bind_eq_some_iff, Option.map_eq_some_iff, Prod.mk.injEq] at hfind
            obtain ⟨id', -, task, htask, rfl, rfl⟩ := hfind
            exact htask
          refine h.mono fun hconnecting => ⟨hconnecting, fun id' attempt phase' hid' => ?_⟩
          have hne : id' ≠ id := by
            rintro rfl
            rw [hid] at hid'
            cases hid'
          exact ⟨attempt, phase', (Dict.get?_set_of_ne _ hne _).trans hid'⟩

theorem ConnectingInv.onError {s : Transport} (h : ConnectingInv s) (code : Int) :
    ConnectingInv (onError s code) := by
  unfold Ib.onError
  split
  · exact h
  · split_ifs <;> exact h

/-- Every step keeps the flag true to the running calls. -/
theorem ConnectingInv.step {spec : IbConnectionSpec} {s s' : Transport} {l : Label}
    (h : ConnectingInv s) (hstep : step spec s l = some s') : ConnectingInv s' := by
  -- none of these touches the flag or the tasks
  have hopen : ConnectingInv { s with socketUp := true } := h
  have hattached : ∀ account, ConnectingInv
      (attachHandlers { s with socketUp := true, account := account }) := fun _ => h
  have hset : ConnectingInv (setConnected s true) := h
  cases transportStep_move hstep with
  | connect =>
      intro _
      exact ⟨s.next, 1, .opening, Dict.get?_set_self _ _ _⟩
  | disconnect => exact h.startDisconnect
  | disconnectResumes hcall hdone => exact h
  | @wakes id role hrole =>
      have hid := running_eq_some hrole
      cases role with
      | connect attempt => exact h.setPhase .opening (fun _ => hid) (Or.inl rfl)
      | supervise cancelled =>
          have hpublished : ConnectingInv (publishState s .reconnecting) := h
          exact hpublished.setPhase .opening (fun _ => hid) (Or.inl rfl)
  | @accountRefused id role accounts _ hrole haccount =>
      have hid : ({ s with socketUp := true } : Transport).tasks.get? id =
          some ⟨role, .opening⟩ := running_eq_some hrole
      exact (hopen.closeSocket true).attemptRaised (get?_closeSocket true hid) _
  | @dataTypeFails id role accounts account exc hrole haccount =>
      have hdetached : ConnectingInv (detachHandlers
          (attachHandlers { s with socketUp := true, account := account })) := hattached account
      exact hdetached.attemptRaised (fun _ => running_eq_some hrole) _
  | opened hrole haccount =>
      exact (hattached _).setPhase .reconciling (fun _ => running_eq_some hrole) (Or.inl rfl)
  | openFails hrole =>
      exact (h.closeSocket _).attemptRaised (get?_closeSocket _ (running_eq_some hrole)) _
  | skipsSync hrole hskip => exact hset.endTask fun _ => running_eq_some hrole
  | reconciled hrole hskip =>
      exact h.setPhase .syncing (fun _ => running_eq_some hrole) (Or.inl rfl)
  | synced hrole => exact hset.endTask fun _ => running_eq_some hrole
  | cancelled hid hrole => exact (h.cancelAttempt _ _).endTask (get?_cancelAttempt _ _ hid)
  | socketDrops hup => exact h.closeSocket true
  | errorCode hattached => exact h.onError _
  | codeUnheard hdetached => exact h

end Ib
end MarketConnector
