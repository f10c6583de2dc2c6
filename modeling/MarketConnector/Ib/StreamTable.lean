import MarketConnector.Foundations.Decimal
import MarketConnector.Foundations.Dict

/-!
# Ib - Market-data streams and their registries

The L1, depth and trades streams of `IbGatewayTransport`: stream objects, the registries
that share them by contract key, reqIds, ticker hooks and the count of market-data lines.
IB answers every request with a ticker or an exception.

Main results:

- Definition `acquireDepth`, `acquireTrades`, `dropStream`, `resubscribeAll`.
- Theorems `StreamFrame.dropStream`, `StreamFrame.resubscribeAll`, …: what operations other
  than opening leave alone.
- Theorem `KeyedInv.findOrOpen`: a registered stream has the key it is registered under.
-/

namespace MarketConnector
namespace Ib

open Foundations

/-! ## Contracts -/

/-- `ref`, the native contract and the metadata are only ever compared with `==`; a number
stands for the class of equal ones. -/
structure ResolvedContract where
  ref : Nat
  native : Nat
  contractId : String
  metadata : Nat
deriving DecidableEq

inductive Contract where
  | resolved (c : ResolvedContract)
  | raw (native : Nat)
deriving DecidableEq

inductive StreamKey where
  | contractId (id : String)
  | object (contract : Contract)
deriving DecidableEq

/-- `_stream_key`: the contract id, or the object itself when it has none. -/
def streamKey : Contract → StreamKey
  | .resolved c => if c.contractId = "" then .object (.resolved c) else .contractId c.contractId
  | .raw native => .object (.raw native)

/-- `_native`. -/
def nativeOf : Contract → Nat
  | .resolved c => c.native
  | .raw native => native

/-! ## Streams -/

inductive StreamKind where
  | l1 | depth | trades
deriving DecidableEq

/-- `_Stream`; `subscribers` are the subscriptions whose fail callback it holds,
`waiters` the snapshots that wait on it. -/
structure Stream where
  contract : Contract
  ticker : Option Nat
  waiters : List Nat
  bids : List (Decimal × Decimal)
  asks : List (Decimal × Decimal)
  refs : Int
  idle : Bool
  subscribers : List Nat
  reqId : Option Nat
  permissionWarning : Option (Int × String)
deriving DecidableEq

def Stream.new (contract : Contract) : Stream where
  contract := contract
  ticker := none
  waiters := []
  bids := []
  asks := []
  refs := 0
  idle := false
  subscribers := []
  reqId := none
  permissionWarning := none

/-- Calls to IB. -/
inductive IbCall where
  | request (kind : StreamKind) (native : Nat)
  | cancel (kind : StreamKind) (native : Nat)
deriving DecidableEq

/-- How IB answers: a ticker, or an exception; and whether a cancel raises. -/
structure IbAnswer where
  ticker : Option Nat
  cancelRaises : Bool

/-- All stream objects made so far, and the fields of the transport that deal with them:
the registry of each kind, the two reqId maps, the hooks attached to tickers, the lines
held, and the calls made to IB. -/
structure StreamTable where
  streams : Dict Nat Stream
  registry : StreamKind → Dict StreamKey Nat
  streamByReqId : Dict Nat (Nat × Bool)
  tradesByReqId : Dict Nat Nat
  hooks : List (Nat × Nat)
  mdLines : Int
  ibCalls : List IbCall
  nextStream : Nat
  nextReqId : Nat

def StreamTable.init : StreamTable where
  streams := ∅
  registry := fun _ => ∅
  streamByReqId := ∅
  tradesByReqId := ∅
  hooks := []
  mdLines := 0
  ibCalls := []
  nextStream := 0
  nextReqId := 0

/-! ## Reading and writing -/

/-- Change a stream object. -/
def updateStream (t : StreamTable) (sid : Nat) (f : Stream → Stream) : StreamTable :=
  match t.streams.get? sid with
  | some stream => { t with streams := t.streams.set sid (f stream) }
  | none => t

def register (t : StreamTable) (kind : StreamKind) (key : StreamKey) (sid : Nat) : StreamTable :=
  { t with registry := Function.update t.registry kind ((t.registry kind).set key sid) }

def unregister (t : StreamTable) (kind : StreamKind) (key : StreamKey) : StreamTable :=
  { t with registry := Function.update t.registry kind ((t.registry kind).pop key) }

/-- `streams.get(_stream_key(stream.contract)) is stream`. -/
def isRegistered (t : StreamTable) (kind : StreamKind) (sid : Nat) : Bool :=
  match t.streams.get? sid with
  | some stream => (t.registry kind).get? (streamKey stream.contract) = some sid
  | none => false

def logCall (t : StreamTable) (call : IbCall) : StreamTable :=
  { t with ibCalls := t.ibCalls ++ [call] }

/-- `_take_line` and `_release_line`. -/
def addLines (t : StreamTable) (n : Int) : StreamTable :=
  { t with mdLines := t.mdLines + n }

/-- A new stream object. -/
def addStream (t : StreamTable) (contract : Contract) : StreamTable :=
  { t with streams := t.streams.set t.nextStream (.new contract), nextStream := t.nextStream + 1 }

/-! ## Requests -/

/-- `_request_persistent` and `_request_trades`: send the request, hook its ticker, and
remember its reqId; `false` when it raises.  Every request draws one reqId. -/
def sendRequest (t : StreamTable) (kind : StreamKind) (sid : Nat) (ticker : Option Nat) :
    StreamTable × Bool :=
  match t.streams.get? sid with
  | none => (t, false)
  | some stream =>
      let t := logCall t (.request kind (nativeOf stream.contract))
      let reqId := t.nextReqId
      let t := { t with nextReqId := reqId + 1 }
      match ticker with
      | none => (t, false)
      | some ticker =>
          let t := updateStream t sid fun s => { s with ticker := some ticker, reqId := some reqId }
          let t := { t with hooks := t.hooks ++ [(ticker, sid)] }
          match kind with
          | .trades => ({ t with tradesByReqId := t.tradesByReqId.set reqId sid }, true)
          | .depth => ({ t with streamByReqId := t.streamByReqId.set reqId (sid, true) }, true)
          | .l1 => ({ t with streamByReqId := t.streamByReqId.set reqId (sid, false) }, true)

/-- Drop a reqId from the map of its kind. -/
def forgetReqId (t : StreamTable) (kind : StreamKind) (reqId : Nat) : StreamTable :=
  match kind with
  | .trades => { t with tradesByReqId := t.tradesByReqId.pop reqId }
  | _ => { t with streamByReqId := t.streamByReqId.pop reqId }

/-- `_unhook_persistent` and `_unhook_trades`. -/
def unhook (t : StreamTable) (kind : StreamKind) (sid : Nat) : StreamTable :=
  match t.streams.get? sid with
  | none => t
  | some stream =>
      let t := match stream.ticker with
        | some ticker => { t with hooks := t.hooks.erase (ticker, sid) }
        | none => t
      let t := match stream.reqId with
        | some reqId => forgetReqId t kind reqId
        | none => t
      updateStream t sid fun s => { s with ticker := none, reqId := none }

/-- Send the cancel of a stream; whether it raises is the caller's concern. -/
def sendCancel (t : StreamTable) (kind : StreamKind) (sid : Nat) : StreamTable :=
  match t.streams.get? sid with
  | some stream => logCall t (.cancel kind (nativeOf stream.contract))
  | none => t

/-! ## Opening -/

/-- Open the stream of a contract, which is not registered: check the cap, request,
register, count the line.  `none` when there is no free line or the request raises. -/
def openStream (cap : Nat) (t : StreamTable) (kind : StreamKind) (contract : Contract)
    (ticker : Option Nat) : StreamTable × Option Nat :=
  if (cap : Int) ≤ t.mdLines then (t, none)
  else
    match sendRequest (addStream t contract) kind t.nextStream ticker with
    | (t', false) => (t', none)
    | (t', true) =>
        (addLines (register t' kind (streamKey contract) t.nextStream) 1, some t.nextStream)

/-- The registered stream of a contract, opened when there is none. -/
def findOrOpen (cap : Nat) (t : StreamTable) (kind : StreamKind) (contract : Contract)
    (ticker : Option Nat) : StreamTable × Option Nat :=
  match (t.registry kind).get? (streamKey contract) with
  | some sid => (t, some sid)
  | none => openStream cap t kind contract ticker

/-- `_acquire_depth`: one more user, no idle timer. -/
def acquireDepth (cap : Nat) (t : StreamTable) (contract : Contract) (ticker : Option Nat) :
    StreamTable × Option Nat :=
  match findOrOpen cap t .depth contract ticker with
  | (t, none) => (t, none)
  | (t, some sid) =>
      (updateStream t sid fun s => { s with idle := false, refs := s.refs + 1 }, some sid)

/-- `_acquire_trades`: one more user. -/
def acquireTrades (cap : Nat) (t : StreamTable) (contract : Contract) (ticker : Option Nat) :
    StreamTable × Option Nat :=
  match findOrOpen cap t .trades contract ticker with
  | (t, none) => (t, none)
  | (t, some sid) => (updateStream t sid fun s => { s with refs := s.refs + 1 }, some sid)

/-! ## Dropping -/

/-- The key of a stream object. -/
def keyOf (t : StreamTable) (sid : Nat) : Option StreamKey :=
  (t.streams.get? sid).map fun stream => streamKey stream.contract

/-- Take a registered stream out of its registry and free its line. -/
def forget (t : StreamTable) (kind : StreamKind) (sid : Nat) : StreamTable :=
  match keyOf t sid with
  | none => t
  | some key => if isRegistered t kind sid then addLines (unregister t kind key) (-1) else t

/-- `_drop_stream` of an L1 or depth stream; the exception of the cancel is logged. -/
def dropStream (t : StreamTable) (kind : StreamKind) (sid : Nat) : StreamTable :=
  let t := forget t kind sid
  let t := updateStream t sid fun s => { s with idle := false }
  sendCancel (unhook t kind sid) kind sid

/-- `_drop_trades`. -/
def dropTrades (t : StreamTable) (sid : Nat) : StreamTable :=
  if isRegistered t .trades sid then
    sendCancel (unhook (forget t .trades sid) .trades sid) .trades sid
  else t

/-- `_release_depth`: the last user arms the idle timer, or drops the stream when no event
loop is running. -/
def releaseDepth (t : StreamTable) (sid : Nat) (loop : Bool) : StreamTable :=
  let t := updateStream t sid fun s => { s with refs := s.refs - 1 }
  let refs := ((t.streams.get? sid).map Stream.refs).getD 0
  if 0 < refs || !isRegistered t .depth sid then t
  else if loop then updateStream t sid fun s => { s with idle := true }
  else dropStream t .depth sid

/-- `_release_trades`. -/
def releaseTrades (t : StreamTable) (sid : Nat) : StreamTable :=
  let t := updateStream t sid fun s => { s with refs := s.refs - 1 }
  let refs := ((t.streams.get? sid).map Stream.refs).getD 0
  if 0 < refs then t else dropTrades t sid

/-- `_idle_expired`. -/
def idleExpired (t : StreamTable) (sid : Nat) : StreamTable :=
  let t := updateStream t sid fun s => { s with idle := false }
  let refs := ((t.streams.get? sid).map Stream.refs).getD 0
  if refs ≤ 0 && isRegistered t .depth sid then dropStream t .depth sid else t

/-- `_release_all_streams`. -/
def releaseAll (t : StreamTable) : StreamTable :=
  let t := (t.registry .l1).values.foldl (fun t sid => dropStream t .l1 sid) t
  let t := (t.registry .depth).values.foldl (fun t sid => dropStream t .depth sid) t
  (t.registry .trades).values.foldl dropTrades t

/-! ## Resubscribing -/

/-- `_resubscribe_stream` and `_resubscribe_trades`: a cancel that raises leaves the stream
without a request. -/
def resubscribeOne (kind : StreamKind) (cancelOld : Bool) (t : StreamTable) (sid : Nat)
    (answer : IbAnswer) : StreamTable :=
  let t := unhook t kind sid
  let t := if kind = .trades then t else
    updateStream t sid fun s => { s with bids := [], asks := [], permissionWarning := none }
  if cancelOld then
    let t := sendCancel t kind sid
    if answer.cancelRaises then t else (sendRequest t kind sid answer.ticker).1
  else (sendRequest t kind sid answer.ticker).1

/-- `resubscribe_all`, as far as streams go: trades, then L1, then depth. -/
def resubscribeAll (cancelOld : Bool) (answers : Nat → IbAnswer) (t : StreamTable) :
    StreamTable :=
  [StreamKind.trades, .l1, .depth].foldl (fun t kind =>
    (t.registry kind).values.foldl (fun t sid =>
      resubscribeOne kind cancelOld t sid (answers sid)) t) t

/-! ## The book of a depth stream -/

/-- A raw row update: `side = 1` is the bid side; operations 0, 1, 2 insert, update and
delete. -/
structure DepthTick where
  side : Int
  operation : Int
  position : Int
  price : Decimal
  size : Decimal

/-- Rows kept on each side. -/
def depthRows : Nat := 10

/-- `_apply_depth_tick` on the side it is about. -/
def applyToSide (book : List (Decimal × Decimal)) (tick : DepthTick) :
    List (Decimal × Decimal) :=
  let pos := tick.position.toNat
  if tick.operation = 0 then
    if 0 ≤ tick.position ∧ tick.position ≤ book.length then
      (book.insertIdx pos (tick.price, tick.size)).take depthRows
    else book
  else if 0 ≤ tick.position ∧ tick.position < book.length then
    if tick.operation = 1 then book.set pos (tick.price, tick.size)
    else if tick.operation = 2 then book.eraseIdx pos
    else book
  else book

/-- `_apply_depth_tick`. -/
def applyDepthTick (s : Stream) (tick : DepthTick) : Stream :=
  if tick.side = 1 then { s with bids := applyToSide s.bids tick }
  else { s with asks := applyToSide s.asks tick }

/-- Depth ticks change the book only. -/
theorem foldl_applyDepthTick {β : Type*} {g : Stream → β}
    (hg : ∀ (st : Stream) bids asks, g { st with bids := bids, asks := asks } = g st)
    (ticks : List DepthTick) (st : Stream) : g (ticks.foldl applyDepthTick st) = g st := by
  induction ticks generalizing st with
  | nil => rfl
  | cons tick ticks ih =>
      rw [List.foldl_cons, ih]
      unfold applyDepthTick
      split_ifs
      · exact hg st _ st.asks
      · exact hg st st.bids _

/-- `_clear_depth_books`. -/
def clearDepthBooks (t : StreamTable) : StreamTable :=
  (t.registry .depth).values.foldl (fun t sid =>
    updateStream t sid fun s => { s with bids := [], asks := [] }) t

/-! ## What operations leave alone -/

/-- What the parts of a resubscribe keep, it keeps. -/
theorem resubscribeOne_invariant {P : StreamTable → Prop} {kind : StreamKind} {sid : Nat}
    (hunhook : ∀ t, P t → P (unhook t kind sid))
    (hreset : ∀ t, P t → P (updateStream t sid fun s =>
      { s with bids := [], asks := [], permissionWarning := none }))
    (hcancel : ∀ t, P t → P (sendCancel t kind sid))
    (hsend : ∀ t ticker, P t → P (sendRequest t kind sid ticker).1) {t : StreamTable} (h : P t)
    (cancelOld : Bool) (answer : IbAnswer) : P (resubscribeOne kind cancelOld t sid answer) := by
  have hcleared : P (if kind = .trades then unhook t kind sid else
      updateStream (unhook t kind sid) sid fun s =>
        { s with bids := [], asks := [], permissionWarning := none }) := by
    split_ifs
    · exact hunhook t h
    · exact hreset _ (hunhook t h)
  unfold resubscribeOne
  dsimp only
  cases cancelOld with
  | false => exact hsend _ answer.ticker hcleared
  | true =>
      have hcancelled := hcancel _ hcleared
      cases answer.cancelRaises with
      | true => exact hcancelled
      | false => exact hsend _ answer.ticker hcancelled

/-- No stream object is made, none changes its contract, and nothing is registered. -/
structure StreamFrame (t t' : StreamTable) : Prop where
  registry : ∀ kind key sid, (t'.registry kind).get? key = some sid →
    (t.registry kind).get? key = some sid
  keys : ∀ sid, keyOf t' sid = keyOf t sid
  next : t'.nextStream = t.nextStream

namespace StreamFrame

theorem refl (t : StreamTable) : StreamFrame t t :=
  ⟨fun _ _ _ h => h, fun _ => rfl, rfl⟩

theorem trans {t t' t'' : StreamTable} (h : StreamFrame t t') (h' : StreamFrame t' t'') :
    StreamFrame t t'' where
  registry kind key sid hsid := h.registry kind key sid (h'.registry kind key sid hsid)
  keys sid := (h'.keys sid).trans (h.keys sid)
  next := h'.next.trans h.next

theorem foldl {α : Type} {f : StreamTable → α → StreamTable}
    (hf : ∀ t x, StreamFrame t (f t x)) (xs : List α) (t : StreamTable) :
    StreamFrame t (xs.foldl f t) := by
  induction xs generalizing t with
  | nil => exact refl t
  | cons x xs ih => exact (hf t x).trans (ih (f t x))

theorem updateStream (t : StreamTable) (sid : Nat) (f : Stream → Stream)
    (hf : ∀ s, (f s).contract = s.contract) : StreamFrame t (updateStream t sid f) := by
  unfold Ib.updateStream
  cases hsid : t.streams.get? sid with
  | none => exact refl t
  | some stream =>
      refine ⟨fun _ _ _ h => h, fun sid' => ?_, rfl⟩
      by_cases heq : sid' = sid
      · subst heq
        simp [keyOf, hsid, hf stream]
      · simp [keyOf, Dict.get?_set_of_ne _ heq]

theorem logCall (t : StreamTable) (call : IbCall) : StreamFrame t (logCall t call) :=
  ⟨fun _ _ _ h => h, fun _ => rfl, rfl⟩

theorem sendCancel (t : StreamTable) (kind : StreamKind) (sid : Nat) :
    StreamFrame t (sendCancel t kind sid) := by
  unfold Ib.sendCancel
  cases t.streams.get? sid with
  | none => exact refl t
  | some stream => exact logCall t _

theorem sendRequest (t : StreamTable) (kind : StreamKind) (sid : Nat) (ticker : Option Nat) :
    StreamFrame t (sendRequest t kind sid ticker).1 := by
  unfold Ib.sendRequest
  cases t.streams.get? sid with
  | none => exact refl t
  | some stream =>
      cases ticker with
      | none => exact ⟨fun _ _ _ h => h, fun _ => rfl, rfl⟩
      | some ticker =>
          have hlog : StreamFrame t { Ib.logCall t (.request kind (nativeOf stream.contract)) with
              nextReqId := t.nextReqId + 1 } := ⟨fun _ _ _ h => h, fun _ => rfl, rfl⟩
          have hstream := hlog.trans (updateStream _ sid
            (fun s => { s with ticker := some ticker, reqId := some t.nextReqId }) fun _ => rfl)
          cases kind with
          | trades => exact ⟨hstream.registry, hstream.keys, hstream.next⟩
          | depth => exact ⟨hstream.registry, hstream.keys, hstream.next⟩
          | l1 => exact ⟨hstream.registry, hstream.keys, hstream.next⟩

theorem forgetReqId (t : StreamTable) (kind : StreamKind) (reqId : Nat) :
    StreamFrame t (forgetReqId t kind reqId) := by
  cases kind <;> exact ⟨fun _ _ _ h => h, fun _ => rfl, rfl⟩

theorem unhook (t : StreamTable) (kind : StreamKind) (sid : Nat) :
    StreamFrame t (unhook t kind sid) := by
  unfold Ib.unhook
  cases t.streams.get? sid with
  | none => exact refl t
  | some stream =>
      have hhooks : StreamFrame t (match stream.ticker with
          | some ticker => { t with hooks := t.hooks.erase (ticker, sid) }
          | none => t) := by
        cases stream.ticker with
        | none => exact refl t
        | some ticker => exact ⟨fun _ _ _ h => h, fun _ => rfl, rfl⟩
      refine trans (hhooks.trans ?_) (updateStream _ sid _ fun _ => rfl)
      cases stream.reqId with
      | none => exact refl _
      | some reqId => exact forgetReqId _ kind reqId

theorem forget (t : StreamTable) (kind : StreamKind) (sid : Nat) :
    StreamFrame t (forget t kind sid) := by
  unfold Ib.forget
  cases keyOf t sid with
  | none => exact refl t
  | some key =>
      split_ifs
      · refine ⟨fun kind' key' sid' h => ?_, fun _ => rfl, rfl⟩
        simp only [addLines, unregister, Function.update_apply] at h
        split_ifs at h with hkind
        · subst hkind
          exact Dict.get?_of_pop h
        · exact h
      · exact refl t

theorem dropStream (t : StreamTable) (kind : StreamKind) (sid : Nat) :
    StreamFrame t (dropStream t kind sid) :=
  (forget t kind sid).trans <|
    (updateStream _ sid (fun s => { s with idle := false }) fun _ => rfl).trans <|
      (unhook _ kind sid).trans (sendCancel _ kind sid)

theorem dropTrades (t : StreamTable) (sid : Nat) : StreamFrame t (dropTrades t sid) := by
  unfold Ib.dropTrades
  split_ifs
  · exact (forget t .trades sid).trans ((unhook _ .trades sid).trans (sendCancel _ .trades sid))
  · exact refl t

theorem releaseDepth (t : StreamTable) (sid : Nat) (loop : Bool) :
    StreamFrame t (releaseDepth t sid loop) := by
  have hrefs := updateStream t sid (fun s => { s with refs := s.refs - 1 }) fun _ => rfl
  unfold Ib.releaseDepth
  dsimp only
  split_ifs
  · exact hrefs
  · exact hrefs.trans (updateStream _ sid _ fun _ => rfl)
  · exact hrefs.trans (dropStream _ .depth sid)

theorem releaseTrades (t : StreamTable) (sid : Nat) : StreamFrame t (releaseTrades t sid) := by
  have hrefs := updateStream t sid (fun s => { s with refs := s.refs - 1 }) fun _ => rfl
  unfold Ib.releaseTrades
  dsimp only
  split_ifs
  · exact hrefs
  · exact hrefs.trans (dropTrades _ sid)

theorem idleExpired (t : StreamTable) (sid : Nat) : StreamFrame t (idleExpired t sid) := by
  have hidle := updateStream t sid (fun s => { s with idle := false }) fun _ => rfl
  unfold Ib.idleExpired
  dsimp only
  split_ifs
  · exact hidle.trans (dropStream _ .depth sid)
  · exact hidle

theorem releaseAll (t : StreamTable) : StreamFrame t (releaseAll t) :=
  (foldl (fun t sid => dropStream t .l1 sid) _ t).trans <|
    (foldl (fun t sid => dropStream t .depth sid) _ _).trans (foldl dropTrades _ _)

theorem resubscribeOne (kind : StreamKind) (cancelOld : Bool) (t : StreamTable) (sid : Nat)
    (answer : IbAnswer) : StreamFrame t (resubscribeOne kind cancelOld t sid answer) := by
  apply resubscribeOne_invariant (P := StreamFrame t)
  · exact fun _ h => h.trans (unhook _ kind sid)
  · exact fun _ h => h.trans (updateStream _ sid _ fun _ => rfl)
  · exact fun _ h => h.trans (sendCancel _ kind sid)
  · exact fun _ ticker h => h.trans (sendRequest _ kind sid ticker)
  · exact refl t

theorem resubscribeAll (cancelOld : Bool) (answers : Nat → IbAnswer) (t : StreamTable) :
    StreamFrame t (resubscribeAll cancelOld answers t) :=
  foldl (fun _ kind => foldl (fun t sid => resubscribeOne kind cancelOld t sid (answers sid)) _ _)
    _ t

theorem clearDepthBooks (t : StreamTable) : StreamFrame t (clearDepthBooks t) :=
  foldl (fun t sid => updateStream t sid (fun s => { s with bids := [], asks := [] }) fun _ => rfl)
    _ t

end StreamFrame

/-! ## Operations that leave registries and lines alone -/

@[simp]
theorem registry_updateStream (t : StreamTable) (sid : Nat) (f : Stream → Stream) :
    (updateStream t sid f).registry = t.registry := by
  unfold updateStream
  cases t.streams.get? sid <;> rfl

@[simp]
theorem registry_sendCancel (t : StreamTable) (kind : StreamKind) (sid : Nat) :
    (sendCancel t kind sid).registry = t.registry := by
  unfold sendCancel
  cases t.streams.get? sid <;> rfl

@[simp]
theorem registry_sendRequest (t : StreamTable) (kind : StreamKind) (sid : Nat)
    (ticker : Option Nat) : (sendRequest t kind sid ticker).1.registry = t.registry := by
  unfold sendRequest
  cases t.streams.get? sid with
  | none => rfl
  | some stream =>
      cases ticker with
      | none => rfl
      | some ticker => cases kind <;> simp [logCall]

@[simp]
theorem registry_forgetReqId (t : StreamTable) (kind : StreamKind) (reqId : Nat) :
    (forgetReqId t kind reqId).registry = t.registry := by
  cases kind <;> rfl

/-- A part of the table that hooks, reqIds and stream objects leave alone is kept by unhooking. -/
theorem unhook_unchanged {β : Type} {part : StreamTable → β}
    (hhooks : ∀ t hooks, part { t with hooks := hooks } = part t)
    (hforget : ∀ t kind reqId, part (forgetReqId t kind reqId) = part t)
    (hupdate : ∀ t sid f, part (updateStream t sid f) = part t)
    (t : StreamTable) (kind : StreamKind) (sid : Nat) : part (unhook t kind sid) = part t := by
  unfold unhook
  cases t.streams.get? sid with
  | none => rfl
  | some stream =>
      dsimp only
      rw [hupdate]
      cases stream.ticker with
      | none =>
          cases stream.reqId with
          | none => rfl
          | some reqId => exact hforget t kind reqId
      | some ticker =>
          cases stream.reqId with
          | none => exact hhooks t _
          | some reqId => exact (hforget _ kind reqId).trans (hhooks t _)

@[simp]
theorem registry_unhook (t : StreamTable) (kind : StreamKind) (sid : Nat) :
    (unhook t kind sid).registry = t.registry :=
  unhook_unchanged (fun _ _ => rfl) registry_forgetReqId registry_updateStream t kind sid

@[simp]
theorem registry_resubscribeOne (kind : StreamKind) (cancelOld : Bool) (t : StreamTable)
    (sid : Nat) (answer : IbAnswer) :
    (resubscribeOne kind cancelOld t sid answer).registry = t.registry := by
  unfold resubscribeOne
  split_ifs <;> simp

@[simp]
theorem mdLines_updateStream (t : StreamTable) (sid : Nat) (f : Stream → Stream) :
    (updateStream t sid f).mdLines = t.mdLines := by
  unfold updateStream
  cases t.streams.get? sid <;> rfl

@[simp]
theorem nextStream_updateStream (t : StreamTable) (sid : Nat) (f : Stream → Stream) :
    (updateStream t sid f).nextStream = t.nextStream := by
  unfold updateStream
  cases t.streams.get? sid <;> rfl

@[simp]
theorem mdLines_sendRequest (t : StreamTable) (kind : StreamKind) (sid : Nat)
    (ticker : Option Nat) : (sendRequest t kind sid ticker).1.mdLines = t.mdLines := by
  unfold sendRequest
  cases t.streams.get? sid with
  | none => rfl
  | some stream =>
      cases ticker with
      | none => rfl
      | some ticker => cases kind <;> simp [logCall]

/-! ## Stream objects after an operation -/

theorem get?_updateStream (t : StreamTable) (sid sid' : Nat) (f : Stream → Stream) :
    (updateStream t sid f).streams.get? sid' =
      if sid' = sid then (t.streams.get? sid).map f else t.streams.get? sid' := by
  unfold updateStream
  cases hsid : t.streams.get? sid with
  | none =>
      split_ifs with heq
      · rw [heq, hsid]
        rfl
      · rfl
  | some stream =>
      simp only [Dict.get?_set]
      rfl

@[simp]
theorem streams_sendCancel (t : StreamTable) (kind : StreamKind) (sid : Nat) :
    (sendCancel t kind sid).streams = t.streams := by
  unfold sendCancel
  cases t.streams.get? sid <;> rfl

@[simp]
theorem streams_forgetReqId (t : StreamTable) (kind : StreamKind) (reqId : Nat) :
    (forgetReqId t kind reqId).streams = t.streams := by
  cases kind <;> rfl

@[simp]
theorem streams_forget (t : StreamTable) (kind : StreamKind) (sid : Nat) :
    (forget t kind sid).streams = t.streams := by
  unfold forget
  cases keyOf t sid with
  | none => rfl
  | some key =>
      dsimp only
      split_ifs <;> rfl

theorem get?_unhook (t : StreamTable) (kind : StreamKind) (sid sid' : Nat) :
    (unhook t kind sid).streams.get? sid' =
      if sid' = sid then (t.streams.get? sid).map fun s => { s with ticker := none, reqId := none }
      else t.streams.get? sid' := by
  unfold unhook
  cases hsid : t.streams.get? sid with
  | none =>
      split_ifs with heq
      · rw [heq, hsid]
        rfl
      · rfl
  | some stream =>
      have hbase : (match stream.reqId with
          | some reqId => forgetReqId (match stream.ticker with
              | some ticker => { t with hooks := t.hooks.erase (ticker, sid) }
              | none => t) kind reqId
          | none => match stream.ticker with
              | some ticker => { t with hooks := t.hooks.erase (ticker, sid) }
              | none => t).streams = t.streams := by
        split <;> split <;> simp
      dsimp only
      rw [get?_updateStream, hbase, hsid]

theorem get?_dropStream (t : StreamTable) (kind : StreamKind) (sid sid' : Nat) :
    (dropStream t kind sid).streams.get? sid' =
      if sid' = sid then
        (t.streams.get? sid).map fun s => { s with idle := false, ticker := none, reqId := none }
      else t.streams.get? sid' := by
  unfold dropStream
  simp only [streams_sendCancel, get?_unhook, get?_updateStream, streams_forget, if_true,
    Option.map_map]
  split_ifs <;> rfl

theorem get?_sendRequest (t : StreamTable) (kind : StreamKind) (sid sid' : Nat)
    (ticker : Option Nat) :
    (sendRequest t kind sid ticker).1.streams.get? sid' =
      if sid' = sid then
        (t.streams.get? sid).map fun s => ticker.elim s fun ticker =>
          { s with ticker := some ticker, reqId := some t.nextReqId }
      else t.streams.get? sid' := by
  unfold sendRequest
  cases hsid : t.streams.get? sid with
  | none =>
      split_ifs with heq
      · rw [heq, hsid]
        rfl
      · rfl
  | some stream =>
      cases ticker with
      | none =>
          split_ifs with heq
          · exact (congrArg _ heq).trans hsid
          · rfl
      | some ticker =>
          have hupdate := get?_updateStream { logCall t (.request kind (nativeOf stream.contract))
            with nextReqId := t.nextReqId + 1 } sid sid' fun s =>
              { s with ticker := some ticker, reqId := some t.nextReqId }
          have hlogged : { logCall t (.request kind (nativeOf stream.contract)) with
              nextReqId := t.nextReqId + 1 }.streams = t.streams := rfl
          rw [hlogged, hsid] at hupdate
          cases kind <;> exact hupdate

/-! ## A new stream -/

/-- A new stream object with its request. -/
def requestNew (t : StreamTable) (kind : StreamKind) (contract : Contract)
    (ticker : Option Nat) : StreamTable :=
  (sendRequest (addStream t contract) kind t.nextStream ticker).1

/-- The same, registered and with a line. -/
def registerNew (t : StreamTable) (kind : StreamKind) (contract : Contract)
    (ticker : Option Nat) : StreamTable :=
  addLines (register (requestNew t kind contract ticker) kind (streamKey contract) t.nextStream) 1

@[simp]
theorem registry_requestNew (t : StreamTable) (kind : StreamKind) (contract : Contract)
    (ticker : Option Nat) : (requestNew t kind contract ticker).registry = t.registry :=
  registry_sendRequest (addStream t contract) kind t.nextStream ticker

theorem mdLines_requestNew (t : StreamTable) (kind : StreamKind) (contract : Contract)
    (ticker : Option Nat) : (requestNew t kind contract ticker).mdLines = t.mdLines :=
  mdLines_sendRequest (addStream t contract) kind t.nextStream ticker

theorem StreamFrame.requestNew (t : StreamTable) (kind : StreamKind) (contract : Contract)
    (ticker : Option Nat) :
    StreamFrame (addStream t contract) (requestNew t kind contract ticker) :=
  .sendRequest (addStream t contract) kind t.nextStream ticker

/-- Opening is refused at the cap; a stream whose request raises is not registered. -/
theorem openStream_eq (cap : Nat) (t : StreamTable) (kind : StreamKind) (contract : Contract)
    (ticker : Option Nat) :
    openStream cap t kind contract ticker =
      if (cap : Int) ≤ t.mdLines then (t, none)
      else if ticker.isSome = true then
        (registerNew t kind contract ticker, some t.nextStream)
      else (requestNew t kind contract ticker, none) := by
  have hanswer : (sendRequest (addStream t contract) kind t.nextStream ticker).2 =
      ticker.isSome := by
    cases ticker <;> cases kind <;> simp [sendRequest, addStream]
  unfold openStream registerNew requestNew
  rcases hsend : sendRequest (addStream t contract) kind t.nextStream ticker with ⟨t', ok⟩
  rw [hsend] at hanswer
  subst hanswer
  cases ticker <;> rfl

/-! ## Registered streams have their key -/

/-- A registered stream has the key it is registered under. -/
structure KeyedInv (t : StreamTable) : Prop where
  registered : ∀ kind key sid, (t.registry kind).get? key = some sid → keyOf t sid = some key
  fresh : ∀ sid key, keyOf t sid = some key → sid < t.nextStream

theorem keyedInv_init : KeyedInv .init where
  registered := by
    intro kind key sid h
    cases h
  fresh := by
    intro sid key h
    cases h

theorem KeyedInv.frame {t t' : StreamTable} (h : KeyedInv t) (hf : StreamFrame t t') :
    KeyedInv t' where
  registered kind key sid hsid := by
    rw [hf.keys]
    exact h.registered kind key sid (hf.registry kind key sid hsid)
  fresh sid key hkey := by
    rw [hf.keys] at hkey
    rw [hf.next]
    exact h.fresh sid key hkey

theorem keyOf_addStream (t : StreamTable) (contract : Contract) (sid : Nat) :
    keyOf (addStream t contract) sid =
      if sid = t.nextStream then some (streamKey contract) else keyOf t sid := by
  simp only [keyOf, addStream, Dict.get?_set]
  split_ifs <;> rfl

theorem KeyedInv.addStream {t : StreamTable} (h : KeyedInv t) (contract : Contract) :
    KeyedInv (addStream t contract) where
  registered kind key sid hsid := by
    have hold := h.registered kind key sid hsid
    rw [keyOf_addStream, if_neg (Nat.ne_of_lt (h.fresh sid key hold))]
    exact hold
  fresh sid key hkey := by
    rw [keyOf_addStream] at hkey
    have hnext : (Ib.addStream t contract).nextStream = t.nextStream + 1 := rfl
    split_ifs at hkey with heq
    · omega
    · have hlt := h.fresh sid key hkey
      omega

/-- Registering a stream under its own key. -/
theorem KeyedInv.register {t : StreamTable} (h : KeyedInv t) {sid : Nat} {key : StreamKey}
    (hkey : keyOf t sid = some key) (kind : StreamKind) (n : Int) :
    KeyedInv (addLines (register t kind key sid) n) where
  registered kind' key' sid' hsid := by
    simp only [addLines, Ib.register, Function.update_apply] at hsid
    split_ifs at hsid with hkind
    · rw [Dict.get?_set] at hsid
      split_ifs at hsid with heq
      · cases hsid
        rw [heq]
        exact hkey
      · subst hkind
        exact h.registered kind' key' sid' hsid
    · exact h.registered kind' key' sid' hsid
  fresh := h.fresh

theorem KeyedInv.openStream {t : StreamTable} (h : KeyedInv t) (cap : Nat) (kind : StreamKind)
    (contract : Contract) (ticker : Option Nat) :
    KeyedInv (openStream cap t kind contract ticker).1 := by
  have hframe := StreamFrame.requestNew t kind contract ticker
  have hsent := (h.addStream contract).frame hframe
  rw [openStream_eq]
  split_ifs
  · exact h
  · have hkey : keyOf (requestNew t kind contract ticker) t.nextStream =
        some (streamKey contract) := by
      rw [hframe.keys, keyOf_addStream, if_pos rfl]
    exact hsent.register hkey kind 1
  · exact hsent

theorem KeyedInv.findOrOpen {t : StreamTable} (h : KeyedInv t) (cap : Nat) (kind : StreamKind)
    (contract : Contract) (ticker : Option Nat) :
    KeyedInv (findOrOpen cap t kind contract ticker).1 := by
  unfold Ib.findOrOpen
  cases (t.registry kind).get? (streamKey contract) with
  | some sid => exact h
  | none => exact h.openStream cap kind contract ticker

/-- A stream that is held was found or opened, and keeps its contract. -/
theorem StreamFrame.acquireDepth (cap : Nat) (t : StreamTable) (contract : Contract)
    (ticker : Option Nat) :
    StreamFrame (findOrOpen cap t .depth contract ticker).1
      (acquireDepth cap t contract ticker).1 := by
  unfold Ib.acquireDepth
  rcases Ib.findOrOpen cap t .depth contract ticker with ⟨t', none | sid⟩
  · exact .refl t'
  · exact .updateStream t' sid _ fun _ => rfl

theorem StreamFrame.acquireTrades (cap : Nat) (t : StreamTable) (contract : Contract)
    (ticker : Option Nat) :
    StreamFrame (findOrOpen cap t .trades contract ticker).1
      (acquireTrades cap t contract ticker).1 := by
  unfold Ib.acquireTrades
  rcases Ib.findOrOpen cap t .trades contract ticker with ⟨t', none | sid⟩
  · exact .refl t'
  · exact .updateStream t' sid _ fun _ => rfl

theorem KeyedInv.acquireDepth {t : StreamTable} (h : KeyedInv t) (cap : Nat)
    (contract : Contract) (ticker : Option Nat) :
    KeyedInv (acquireDepth cap t contract ticker).1 :=
  (h.findOrOpen cap .depth contract ticker).frame (.acquireDepth cap t contract ticker)

theorem KeyedInv.acquireTrades {t : StreamTable} (h : KeyedInv t) (cap : Nat)
    (contract : Contract) (ticker : Option Nat) :
    KeyedInv (acquireTrades cap t contract ticker).1 :=
  (h.findOrOpen cap .trades contract ticker).frame (.acquireTrades cap t contract ticker)

end Ib
end MarketConnector
