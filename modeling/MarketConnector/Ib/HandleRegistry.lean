import MarketConnector.Foundations.SlotOwners
import MarketConnector.Foundations.Transitions
import MarketConnector.Ib.LinkedOrders

/-!
# Ib - Whose handle the registry holds

The transport keeps the latest handle of an order under its order id.  Order ids are unique
for one API client, and `open_orders` writes the orders of every client.

A trade is the reference of an `ib_async` record.  Its order id does not change, and is given
as a function.

Main results:

- Definition `orderStep`: placing calls with their waits and rollbacks, cancels, and
  `open_orders`, interleaved in any order.
- Theorem `recorded_step_iff`: which steps leave the placed orders with their own handles.
- Theorem `ownHandles_iff`: along a run the registry holds the own handles exactly when no
  other trade with the order id of a placed order is registered after it.
-/

namespace MarketConnector
namespace Ib

open Foundations

/-! ## Calls in progress -/

/-- `place_order`, `place_bracket` or `place_oca` with its arguments; `optionsError` is what
`_apply_order_options` raises, and a bracket comes with its ids from `getReqId`. -/
inductive PlaceCall where
  | order (request : HBOrder) (optionsError : Option OrderError)
  | bracket (entry takeProfit stopLoss : HBOrder) (parentId takeProfitId stopLossId : Nat)
  | oca (group : String) (ocaType : OcaType) (requests : List HBOrder)

/-- The orders a call hands to IB, or what it raises before that. -/
def PlaceCall.orders (session : Session) : PlaceCall → Except OrderError (List IbOrder)
  | .order request optionsError => do
      requireReady session "place_order"
      let order ← hbToIbOrder request
      match optionsError with
      | some exc => .error exc
      | none => .ok [order]
  | .bracket entry takeProfit stopLoss parentId takeProfitId stopLossId =>
      bracketOrders session entry takeProfit stopLoss parentId takeProfitId stopLossId
  | .oca group ocaType requests => ocaOrders session group ocaType requests

/-- The call goes through `_settle_legs`. -/
def PlaceCall.isGroup : PlaceCall → Bool
  | .order .. => false
  | .bracket .. => true
  | .oca .. => true

/-- A leg with the trade IB returned for it, and how its wait ended. -/
structure PlacedLeg where
  trade : Nat
  quantity : Decimal
  result : Option (Except OrderError OrderHandle)

/-- Where a placing call is suspended: in the waits of its legs, between two cancels of its
rollback, or in one. -/
inductive CallPhase where
  | waiting | rollingBack | cancelling
deriving DecidableEq

/-- A placing call; `targets` are the legs its rollback has still to cancel, each with the
handle it passes to `cancel_order`. -/
structure PlacingCall where
  isGroup : Bool
  legs : List PlacedLeg
  phase : CallPhase
  targets : List (Nat × OrderHandle)

/-- What order calls read and write.  `placed` are the trades `IB.placeOrder` returned, and
the order ids handed out so far are below `nextReqId`. -/
structure OrderTransport where
  session : Session
  handleRegistry : Dict Int OrderHandle
  placed : List Nat
  nextReqId : Int
  calls : Dict Nat PlacingCall
  nextCall : Nat
  cancels : Dict Nat OrderHandle
  nextCancel : Nat

def OrderTransport.init (spec : IbConnectionSpec) : OrderTransport where
  session := ⟨spec, none, false⟩
  handleRegistry := ∅
  placed := []
  nextReqId := 1
  calls := ∅
  nextCall := 0
  cancels := ∅
  nextCancel := 0

inductive OrderLabel where
  /-- the connection comes or goes, and `connect()` resolves the account -/
  | session (account : Option String) (routerUp : Bool)
  /-- a placing call up to its waits: IB takes the first orders as these trades and raises at
  the next one, if there is one -/
  | place (call : PlaceCall) (trades : List Nat)
  /-- the wait of a leg ends -/
  | legEnds (id leg : Nat) (events : List WaitEvent)
  /-- the waits of a group are over -/
  | settle (id : Nat)
  /-- the rollback calls `cancel_order` for its next leg, or is over -/
  | rollbackCancel (id : Nat) (raises : Option OrderError)
  /-- the wait of a rollback cancel ends -/
  | rollbackWaited (id : Nat) (events : List Trade)
  /-- the task of a placing call is cancelled -/
  | callLeft (id : Nat)
  /-- `cancel_order` up to its wait -/
  | cancelOrder (handle : OrderHandle) (raises : Option OrderError)
  /-- the wait of `cancel_order` ends -/
  | cancelWaited (id : Nat) (events : List Trade)
  /-- the task of `cancel_order` is cancelled -/
  | cancelLeft (id : Nat)
  /-- `open_orders`, with the trades `openTrades()` lists and their values -/
  | openOrders (trades : List (Nat × Trade))

section HandleRegistry

variable (orderIdOf : Nat → Int)

/-! ## Placing -/

/-- The trade `IB.placeOrder` returns for a new order. -/
def newTrade (session : Session) (trade : Nat) (order : IbOrder) : Trade where
  orderId := orderIdOf trade
  permId := 0
  clientId := session.spec.clientId
  totalQuantity := order.totalQuantity
  status := .pendingSubmit
  filled := none
  avgFillPrice := none
  advancedError := ""
  log := [⟨.pendingSubmit, 0⟩]

/-- `_submit_leg`.  `getReqId` hands out every id once, for this order or for the bracket it
is a leg of; a new trade always has a snapshot. -/
def submitLeg (t : OrderTransport) (order : IbOrder) (trade : Nat) : Option OrderTransport :=
  if t.nextReqId ≤ orderIdOf trade ∧ (order.orderId ≠ 0 → orderIdOf trade = order.orderId) then
    match OrderHandle.fromTrade trade (newTrade orderIdOf t.session trade order)
        (some t.session.spec.clientId) with
    | .error _ => none
    | .ok handle =>
        some { t with
          handleRegistry := t.handleRegistry.set (orderIdOf trade) handle
          placed := trade :: t.placed
          nextReqId := orderIdOf trade + 1 }
  else none

/-- The legs one after the other; the flag says that IB took all of them. -/
def handOver (t : OrderTransport) :
    List IbOrder → List Nat → Option (OrderTransport × List PlacedLeg × Bool)
  | [], [] => some (t, [], true)
  | [], _ :: _ => none
  | _ :: _, [] => some (t, [], false)
  | order :: orders, trade :: trades =>
      match submitLeg orderIdOf t order trade with
      | none => none
      | some t' =>
          (handOver t' orders trades).map fun r =>
            (r.1, ⟨trade, order.totalQuantity, none⟩ :: r.2.1, r.2.2)

/-- A placing call up to its waits. -/
def placeStep (t : OrderTransport) (call : PlaceCall) (trades : List Nat) :
    Option OrderTransport :=
  match call.orders t.session with
  | .error _ => if trades = [] then some t else none
  | .ok orders =>
      (handOver orderIdOf t orders trades).map fun r =>
        if r.2.2 then
          { r.1 with
            calls := r.1.calls.set r.1.nextCall ⟨call.isGroup, r.2.1, .waiting, []⟩
            nextCall := r.1.nextCall + 1 }
        else r.1

/-! ## Waits and rollbacks -/

/-- A wait that returned a handle records it under the order id of its trade. -/
def recordAnswer (registry : Dict Int OrderHandle) (trade : Nat) :
    Except OrderError OrderHandle → Dict Int OrderHandle
  | .ok handle => registry.set (orderIdOf trade) handle
  | .error _ => registry

/-- What `_await_leg` makes of the end of its wait. -/
def legResult (quantity : Decimal) :
    Except (OrderError × String) OrderHandle → Except OrderError OrderHandle
  | .ok handle => .ok handle
  | .error (.orderRejected code message _ _, advancedError) =>
      .error (.orderRejected code message (if advancedError = "" then none else some advancedError)
        (some quantity.positional))
  | .error (exc, _) => .error exc

theorem awaitLeg_eq (session : Session) (interrupted : Bool) (l : HandedLeg) :
    awaitLeg session interrupted l = legResult l.trade.totalQuantity
      (waitFirstStatusUpdate session l.leg.ref interrupted l.leg.events) := by
  unfold awaitLeg
  cases waitFirstStatusUpdate session l.leg.ref interrupted l.leg.events with
  | ok handle => rfl
  | error failure =>
      rcases failure with ⟨exc, advancedError⟩
      cases exc <;> rfl

/-- `_await_leg`; `place_order` returns with its only leg. -/
def legEnds (t : OrderTransport) (id leg : Nat) (events : List WaitEvent) :
    Option OrderTransport :=
  match t.calls.get? id with
  | some ⟨isGroup, legs, .waiting, targets⟩ =>
      match legs[leg]? with
      | some ⟨trade, quantity, none⟩ =>
          let result := legResult quantity (waitFirstStatusUpdate t.session trade false events)
          some { t with
            handleRegistry := recordAnswer orderIdOf t.handleRegistry trade result
            calls :=
              if isGroup then
                t.calls.set id
                  ⟨isGroup, legs.set leg ⟨trade, quantity, some result⟩, .waiting, targets⟩
              else t.calls.pop id }
      | _ => none
  | _ => none

/-- Handle of a leg whose wait is over: the awaited one, else the registered one. -/
def settledHandle (registry : Dict Int OrderHandle) (leg : PlacedLeg) : Option OrderHandle :=
  match leg.result with
  | some (.ok handle) => some handle
  | _ => registry.get? (orderIdOf leg.trade)

/-- The legs the rollback cancels, with their handles: all but the rejected ones.  Every leg
needs a handle. -/
def rollbackPlan (registry : Dict Int OrderHandle) :
    List PlacedLeg → Option (List (Nat × OrderHandle))
  | [] => some []
  | leg :: legs =>
      match settledHandle orderIdOf registry leg, rollbackPlan registry legs with
      | some handle, some targets =>
          some (if leg.result.any isRejected then targets else (leg.trade, handle) :: targets)
      | _, _ => none

/-- `_settle_legs` after the waits: it returns, starts its rollback, or fails on a leg without
a registered handle. -/
def settleStep (t : OrderTransport) (id : Nat) : Option OrderTransport :=
  match t.calls.get? id with
  | some ⟨true, legs, .waiting, _⟩ =>
      if legs.all fun leg => leg.result.isSome then
        if legs.any fun leg => leg.result.any fun result => !result.isOk then
          match rollbackPlan orderIdOf t.handleRegistry legs with
          | some targets =>
              some { t with calls := t.calls.set id ⟨true, legs, .rollingBack, targets⟩ }
          | none => some { t with calls := t.calls.pop id }
        else some { t with calls := t.calls.pop id }
      else none
  | _ => none

/-- The rollback goes on with its next leg; without one the call raises. -/
def rollbackCancel (t : OrderTransport) (id : Nat) (raises : Option OrderError) :
    Option OrderTransport :=
  match t.calls.get? id with
  | some ⟨_, _, .rollingBack, []⟩ => some { t with calls := t.calls.pop id }
  | some ⟨isGroup, legs, .rollingBack, target :: rest⟩ =>
      if reachesIb t.session target.2 && raises.isNone then
        some { t with calls := t.calls.set id ⟨isGroup, legs, .cancelling, target :: rest⟩ }
      else some { t with calls := t.calls.set id ⟨isGroup, legs, .rollingBack, rest⟩ }
  | _ => none

def rollbackWaited (t : OrderTransport) (id : Nat) (events : List Trade) :
    Option OrderTransport :=
  match t.calls.get? id with
  | some ⟨isGroup, legs, .cancelling, target :: rest⟩ =>
      some { t with
        handleRegistry := recordAnswer orderIdOf t.handleRegistry target.2.trade
          (awaitDecisive t.session target.2.trade false events)
        calls := t.calls.set id ⟨isGroup, legs, .rollingBack, rest⟩ }
  | _ => none

/-! ## Cancels and open orders -/

def cancelStart (t : OrderTransport) (handle : OrderHandle) (raises : Option OrderError) :
    OrderTransport :=
  if reachesIb t.session handle && raises.isNone then
    { t with
      cancels := t.cancels.set t.nextCancel handle
      nextCancel := t.nextCancel + 1 }
  else t

def cancelWaited (t : OrderTransport) (id : Nat) (events : List Trade) : Option OrderTransport :=
  match t.cancels.get? id with
  | some handle =>
      some { t with
        handleRegistry := recordAnswer orderIdOf t.handleRegistry handle.trade
          (awaitDecisive t.session handle.trade false events)
        cancels := t.cancels.pop id }
  | none => none

/-- The loop of `open_orders`; an unknown status raises. -/
def registerOpen (session : Session) (registry : Dict Int OrderHandle) :
    List (Nat × Trade) → Dict Int OrderHandle
  | [] => registry
  | (trade, value) :: rest =>
      match OrderHandle.fromTrade trade value (some session.spec.clientId) with
      | .error _ => registry
      | .ok handle => registerOpen session (registry.set (orderIdOf trade) handle) rest

/-! ## The machine -/

def orderStep (t : OrderTransport) : OrderLabel → Option OrderTransport
  | .session account routerUp => some { t with session := ⟨t.session.spec, account, routerUp⟩ }
  | .place call trades => placeStep orderIdOf t call trades
  | .legEnds id leg events => legEnds orderIdOf t id leg events
  | .settle id => settleStep orderIdOf t id
  | .rollbackCancel id raises => rollbackCancel t id raises
  | .rollbackWaited id events => rollbackWaited orderIdOf t id events
  | .callLeft id => some { t with calls := t.calls.pop id }
  | .cancelOrder handle raises => some (cancelStart t handle raises)
  | .cancelWaited id events => cancelWaited orderIdOf t id events
  | .cancelLeft id => some { t with cancels := t.cancels.pop id }
  | .openOrders trades =>
      if t.session.routerUp then
        some { t with handleRegistry := registerOpen orderIdOf t.session t.handleRegistry trades }
      else some t

def orderMachine (spec : IbConnectionSpec) : Machine OrderTransport OrderLabel where
  init := .init spec
  step := orderStep orderIdOf

/-- The registry holds, for every order that was placed, a handle of the trade IB returned for
it; a rollback cancels legs of its own group, each by a handle of its own trade. -/
structure OwnHandles (t : OrderTransport) : Prop where
  registered : ∀ trade ∈ t.placed, ∃ handle,
    t.handleRegistry.get? (orderIdOf trade) = some handle ∧ handle.trade = trade
  rollback : ∀ id call, t.calls.get? id = some call → ∀ target ∈ call.targets,
    target.2.trade = target.1 ∧ target.1 ∈ call.legs.map PlacedLeg.trade

/-- The trades `open_orders` registers: those listed before the first unknown status. -/
def listedTrades (trades : List (Nat × Trade)) : List Nat :=
  (trades.takeWhile fun x => (orderState x.2).isSome).map Prod.fst

/-- Of the trades listed with the order id of a placed order, the last one is the order's own;
a cancel that is answered is of no other trade with the order id of a placed order. -/
def KeepsOwnHandles (t : OrderTransport) : OrderLabel → Prop
  | .openOrders trades => t.session.routerUp = true → ∀ trade ∈ t.placed,
      ∀ last ∈ ((listedTrades trades).filter fun x => orderIdOf x = orderIdOf trade).getLast?,
        last = trade
  | .cancelWaited id events => ∀ handle, t.cancels.get? id = some handle →
      (awaitDecisive t.session handle.trade false events).isOk = true →
        ∀ trade ∈ t.placed, orderIdOf handle.trade = orderIdOf trade → handle.trade = trade
  | _ => True

/-! ## Handles and their trades -/

theorem fromTrade_newTrade (session : Session) (trade : Nat) (order : IbOrder) :
    ∃ handle, OrderHandle.fromTrade trade (newTrade orderIdOf session trade order)
      (some session.spec.clientId) = .ok handle ∧ handle.trade = trade := by
  have hstate : orderState (newTrade orderIdOf session trade order) = some .pending := by
    simp [orderState, isSyntheticCancel, effectiveStatus, newTrade, tradeStatusMap]
  obtain ⟨handle, hsnap, _⟩ :=
    fromTrade_of_orderState trade (some (session.spec.clientId : Int)) hstate
  exact ⟨handle, hsnap, (fromTrade_status hsnap).2.2⟩

/-- A wait for the first status answers with a handle of its trade. -/
theorem waitFirstStatusUpdate_trade {session : Session} {trade : Nat} {interrupted : Bool}
    {events : List WaitEvent} {handle : OrderHandle}
    (h : waitFirstStatusUpdate session trade interrupted events = .ok handle) :
    handle.trade = trade := by
  induction events with
  | nil => cases h
  | cons event rest ih =>
      cases event with
      | fails exc advancedError => cases h
      | status value =>
          unfold waitFirstStatusUpdate at h
          split_ifs at h
          · exact ih h
          · exact ih h
          · split at h
            · exact ih h
            · rename_i hsnap
              cases h
              exact (fromTrade_status hsnap).2.2

/-- So does the wait of a cancel. -/
theorem awaitDecisive_trade {session : Session} {trade : Nat} {interrupted : Bool}
    {events : List Trade} {handle : OrderHandle}
    (h : awaitDecisive session trade interrupted events = .ok handle) : handle.trade = trade := by
  induction events with
  | nil => cases h
  | cons value rest ih =>
      unfold awaitDecisive at h
      split at h
      · exact ih h
      · rename_i hsnap
        split_ifs at h
        · exact ih h
        · cases h
          exact (fromTrade_status hsnap).2.2

theorem legResult_trade {session : Session} {trade : Nat} {events : List WaitEvent}
    {quantity : Decimal} {handle : OrderHandle}
    (h : legResult quantity (waitFirstStatusUpdate session trade false events) = .ok handle) :
    handle.trade = trade := by
  unfold legResult at h
  split at h
  · rename_i hwait
    cases h
    exact waitFirstStatusUpdate_trade hwait
  · cases h
  · cases h

/-! ## What a step writes -/

variable {orderIdOf}

/-- The own handles are registered. -/
abbrev HandlesRecorded (orderIdOf : Nat → Int) (placed : List Nat)
    (registry : Dict Int OrderHandle) : Prop :=
  Recorded orderIdOf OrderHandle.trade placed registry

section Writes

variable {placed : List Nat} {registry : Dict Int OrderHandle} {trade : Nat}

/-- An answer is harmless when no other trade of the order id was placed. -/
theorem recorded_recordAnswer_iff (h : HandlesRecorded orderIdOf placed registry)
    {answer : Except OrderError OrderHandle}
    (htrade : ∀ handle, answer = .ok handle → handle.trade = trade) :
    HandlesRecorded orderIdOf placed (recordAnswer orderIdOf registry trade answer) ↔
      (answer.isOk = true → ∀ own ∈ placed, orderIdOf trade = orderIdOf own → trade = own) := by
  cases answer with
  | error exc => exact iff_of_true h (fun hok => by cases hok)
  | ok handle =>
      have hown := htrade handle rfl
      subst hown
      exact (h.record_iff handle).trans (imp_iff_right rfl).symm

theorem recorded_recordAnswer_own (h : HandlesRecorded orderIdOf placed registry)
    {answer : Except OrderError OrderHandle}
    (htrade : ∀ handle, answer = .ok handle → handle.trade = trade) (hplaced : trade ∈ placed) :
    HandlesRecorded orderIdOf placed (recordAnswer orderIdOf registry trade answer) :=
  (recorded_recordAnswer_iff h htrade).mpr fun _ _ hown hid => h.eq_of_slot hplaced hown hid

/-- The handles `open_orders` registers, in order. -/
def listedHandles (session : Session) : List (Nat × Trade) → List OrderHandle
  | [] => []
  | (trade, value) :: rest =>
      match OrderHandle.fromTrade trade value (some session.spec.clientId) with
      | .error _ => []
      | .ok handle => handle :: listedHandles session rest

theorem listedHandles_trades (session : Session) (trades : List (Nat × Trade)) :
    (listedHandles session trades).map OrderHandle.trade = listedTrades trades := by
  induction trades with
  | nil => rfl
  | cons x rest ih =>
      rcases x with ⟨trade, value⟩
      cases hstate : orderState value with
      | none => simp [listedHandles, listedTrades, OrderHandle.fromTrade, hstate]
      | some state =>
          obtain ⟨handle, hsnap, _⟩ :=
            fromTrade_of_orderState trade (some (session.spec.clientId : Int)) hstate
          simp only [listedHandles, hsnap, listedTrades, List.takeWhile_cons, hstate,
            Option.isSome_some, if_true, List.map_cons, (fromTrade_status hsnap).2.2, ih]

theorem registerOpen_eq (session : Session) (registry : Dict Int OrderHandle)
    (trades : List (Nat × Trade)) :
    registerOpen orderIdOf session registry trades =
      (listedHandles session trades).foldl (record orderIdOf OrderHandle.trade) registry := by
  induction trades generalizing registry with
  | nil => rfl
  | cons x rest ih =>
      rcases x with ⟨trade, value⟩
      unfold registerOpen listedHandles
      split
      · rfl
      · rename_i handle hsnap
        rw [ih, List.foldl_cons, record, (fromTrade_status hsnap).2.2]

theorem recorded_registerOpen_iff (h : HandlesRecorded orderIdOf placed registry)
    (session : Session) (trades : List (Nat × Trade)) :
    HandlesRecorded orderIdOf placed (registerOpen orderIdOf session registry trades) ↔
      ∀ own ∈ placed,
        ∀ last ∈ ((listedTrades trades).filter fun x => orderIdOf x = orderIdOf own).getLast?,
          last = own := by
  rw [registerOpen_eq]
  refine (h.foldl_iff (listedHandles session trades)).trans ?_
  refine forall_congr' fun own => forall_congr' fun _ => ?_
  have hfilter : ((listedTrades trades).filter fun x => orderIdOf x = orderIdOf own) =
      ((listedHandles session trades).filter fun handle =>
        orderIdOf handle.trade = orderIdOf own).map OrderHandle.trade := by
    rw [← listedHandles_trades session trades, List.filter_map]
    rfl
  rw [hfilter, List.getLast?_map]
  simp

end Writes

/-! ## Placing calls keep the own handles -/

/-- Placed orders have ids that were handed out, and their own handles. -/
structure PlacedInv (orderIdOf : Nat → Int) (t : OrderTransport) : Prop where
  ids : ∀ trade ∈ t.placed, orderIdOf trade < t.nextReqId
  recorded : HandlesRecorded orderIdOf t.placed t.handleRegistry

theorem PlacedInv.submitLeg {t t' : OrderTransport} (h : PlacedInv orderIdOf t) {order : IbOrder}
    {trade : Nat} (hstep : submitLeg orderIdOf t order trade = some t') :
    PlacedInv orderIdOf t' ∧ t'.placed = trade :: t.placed ∧ t'.calls = t.calls := by
  unfold Ib.submitLeg at hstep
  split_ifs at hstep with hid
  obtain ⟨handle, hsnap, hown⟩ := fromTrade_newTrade orderIdOf t.session trade order
  rw [hsnap] at hstep
  cases hstep
  refine ⟨⟨?_, ?_⟩, rfl, rfl⟩
  · intro own hmem
    rcases List.mem_cons.mp hmem with rfl | hold
    · exact Int.lt_succ _
    · have hlt := h.ids own hold
      have hle := hid.1
      show orderIdOf own < orderIdOf trade + 1
      omega
  · subst hown
    apply h.recorded.cons
    intro own hmem hsame
    have hlt := h.ids own hmem
    have hle := hid.1
    omega

/-- The legs that were handed over are placed, and wait. -/
theorem PlacedInv.handOver {t : OrderTransport} (h : PlacedInv orderIdOf t)
    {orders : List IbOrder} {trades : List Nat} {r : OrderTransport × List PlacedLeg × Bool}
    (hstep : handOver orderIdOf t orders trades = some r) :
    PlacedInv orderIdOf r.1 ∧ t.placed ⊆ r.1.placed ∧ r.1.calls = t.calls ∧
      ∀ leg ∈ r.2.1, leg.trade ∈ r.1.placed ∧ leg.result = none := by
  induction orders generalizing t trades r with
  | nil =>
      cases trades with
      | nil =>
          cases hstep
          exact ⟨h, List.Subset.refl _, rfl, by simp⟩
      | cons trade trades => cases hstep
  | cons order orders ih =>
      cases trades with
      | nil =>
          cases hstep
          exact ⟨h, List.Subset.refl _, rfl, by simp⟩
      | cons trade trades =>
          unfold Ib.handOver at hstep
          split at hstep
          · cases hstep
          · rename_i t₁ hsubmit
            obtain ⟨r₁, hrest, rfl⟩ := Option.map_eq_some_iff.mp hstep
            obtain ⟨hinv, hplaced, hcalls⟩ := h.submitLeg hsubmit
            obtain ⟨hinv', hsub, hcalls', hlegs⟩ := ih hinv hrest
            rw [hplaced] at hsub
            refine ⟨hinv', fun own hmem => hsub (List.mem_cons_of_mem _ hmem),
              hcalls'.trans hcalls, ?_⟩
            intro leg hleg
            rcases List.mem_cons.mp hleg with rfl | hleg
            · exact ⟨hsub List.mem_cons_self, rfl⟩
            · exact hlegs leg hleg

/-! ## Calls in progress -/

/-- The legs of a call were placed and their answers are of their own trades; its rollback
goes through legs of its own, each by a handle of its own trade. -/
structure CallInv (placed : List Nat) (call : PlacingCall) : Prop where
  legs : ∀ leg ∈ call.legs, leg.trade ∈ placed ∧
    ∀ handle, leg.result = some (.ok handle) → handle.trade = leg.trade
  targets : ∀ target ∈ call.targets,
    target.2.trade = target.1 ∧ target.1 ∈ call.legs.map PlacedLeg.trade

/-- Every call in progress is in order. -/
def CallsInv (placed : List Nat) (calls : Dict Nat PlacingCall) : Prop :=
  ∀ id call, calls.get? id = some call → CallInv placed call

section Calls

variable {placed placed' : List Nat} {calls : Dict Nat PlacingCall} {call : PlacingCall}

theorem CallsInv.mono (h : CallsInv placed calls) (hsub : placed ⊆ placed') :
    CallsInv placed' calls := by
  intro id call hget
  have hcall := h id call hget
  exact ⟨fun leg hleg => ⟨hsub (hcall.legs leg hleg).1, (hcall.legs leg hleg).2⟩, hcall.targets⟩

theorem CallsInv.set (h : CallsInv placed calls) (id : Nat) (hcall : CallInv placed call) :
    CallsInv placed (calls.set id call) :=
  Dict.forall_get?_set h hcall

theorem CallsInv.pop (h : CallsInv placed calls) (id : Nat) : CallsInv placed (calls.pop id) :=
  fun id' call' hget => h id' call' (Dict.get?_of_pop hget)

/-- A target of a call is a placed trade. -/
theorem CallInv.placed_of_target (h : CallInv placed call) {target : Nat × OrderHandle}
    (htarget : target ∈ call.targets) : target.2.trade ∈ placed := by
  obtain ⟨hown, hleg⟩ := h.targets target htarget
  obtain ⟨leg, hmem, hsame⟩ := List.mem_map.mp hleg
  rw [hown, ← hsame]
  exact (h.legs leg hmem).1

/-- A leg that is answered by a handle of its own trade. -/
theorem CallInv.set_leg {isGroup : Bool} {legs : List PlacedLeg} {phase : CallPhase}
    {targets : List (Nat × OrderHandle)} (h : CallInv placed ⟨isGroup, legs, phase, targets⟩)
    {k trade : Nat} {quantity : Decimal} {before after : Option (Except OrderError OrderHandle)}
    (hleg : legs[k]? = some ⟨trade, quantity, before⟩)
    (hafter : ∀ handle, after = some (.ok handle) → handle.trade = trade) :
    CallInv placed ⟨isGroup, legs.set k ⟨trade, quantity, after⟩, phase, targets⟩ := by
  have hold : (⟨trade, quantity, before⟩ : PlacedLeg) ∈ legs := List.mem_of_getElem? hleg
  have htrades : (legs.set k ⟨trade, quantity, after⟩).map PlacedLeg.trade =
      legs.map PlacedLeg.trade := by
    obtain ⟨hk, hget⟩ := List.getElem?_eq_some_iff.mp hleg
    apply List.ext_getElem?
    intro i
    by_cases hi : k = i
    · subst hi
      simp [hk, hget]
    · simp [List.getElem?_set_ne hi]
  constructor
  · intro leg hmem
    rcases List.mem_or_eq_of_mem_set hmem with hmem | rfl
    · exact h.legs leg hmem
    · exact ⟨(h.legs _ hold).1, hafter⟩
  · intro target hmem
    have htarget := h.targets target hmem
    exact ⟨htarget.1, by rw [htrades]; exact htarget.2⟩

/-- Fewer targets. -/
theorem CallInv.rest {isGroup : Bool} {legs : List PlacedLeg} {phase phase' : CallPhase}
    {targets rest : List (Nat × OrderHandle)} (h : CallInv placed ⟨isGroup, legs, phase, targets⟩)
    (hsub : rest ⊆ targets) : CallInv placed ⟨isGroup, legs, phase', rest⟩ :=
  ⟨h.legs, fun target hmem => h.targets target (hsub hmem)⟩

/-- The rollback plans to cancel the legs that were not rejected, each by its own handle. -/
theorem rollbackPlan_spec {registry : Dict Int OrderHandle}
    (h : HandlesRecorded orderIdOf placed registry) {legs : List PlacedLeg}
    (hlegs : ∀ leg ∈ legs, leg.trade ∈ placed ∧
      ∀ handle, leg.result = some (.ok handle) → handle.trade = leg.trade)
    {targets : List (Nat × OrderHandle)}
    (hplan : rollbackPlan orderIdOf registry legs = some targets) :
    (targets.map Prod.fst = (legs.filter fun leg => !leg.result.any isRejected).map
        PlacedLeg.trade) ∧ ∀ target ∈ targets, target.2.trade = target.1 := by
  induction legs generalizing targets with
  | nil =>
      cases hplan
      simp
  | cons leg legs ih =>
      rw [List.forall_mem_cons] at hlegs
      unfold rollbackPlan at hplan
      split at hplan
      · rename_i handle rest hhandle hrest
        cases hplan
        obtain ⟨htrades, howned⟩ := ih hlegs.2 hrest
        have hown : handle.trade = leg.trade := by
          unfold settledHandle at hhandle
          split at hhandle
          · rename_i answered hresult
            cases hhandle
            exact hlegs.1.2 _ hresult
          · obtain ⟨own, hget, htrade⟩ := h leg.trade hlegs.1.1
            rw [hget] at hhandle
            cases hhandle
            exact htrade
        cases hrejected : leg.result.any isRejected with
        | true =>
            simp only [if_true]
            exact ⟨by simp [htrades, hrejected], howned⟩
        | false =>
            simp only [Bool.false_eq_true, if_false, List.forall_mem_cons]
            exact ⟨by simp [htrades, hrejected], hown, howned⟩
      · cases hplan

end Calls

/-! ## Steps -/

structure TransportInv (orderIdOf : Nat → Int) (t : OrderTransport) : Prop where
  placed : PlacedInv orderIdOf t
  calls : CallsInv t.placed t.calls

theorem transportInv_init (spec : IbConnectionSpec) : TransportInv orderIdOf (.init spec) := by
  refine ⟨⟨?_, ?_⟩, ?_⟩
  · simp [OrderTransport.init]
  · intro trade hmem
    simp [OrderTransport.init] at hmem
  · intro id call hget
    simp [OrderTransport.init] at hget

theorem TransportInv.ownHandles {t : OrderTransport} (h : TransportInv orderIdOf t) :
    OwnHandles orderIdOf t :=
  ⟨h.placed.recorded, fun id call hget => (h.calls id call hget).targets⟩

/-- Ids and calls are in order after a step, and the placed orders have their own handles
exactly when the step keeps them. -/
def RecordedWhen (orderIdOf : Nat → Int) (t' : OrderTransport) (keeps : Prop) : Prop :=
  (∀ trade ∈ t'.placed, orderIdOf trade < t'.nextReqId) ∧ CallsInv t'.placed t'.calls ∧
    (HandlesRecorded orderIdOf t'.placed t'.handleRegistry ↔ keeps)

theorem TransportInv.recordedWhen {t : OrderTransport} (h : TransportInv orderIdOf t)
    {keeps : Prop} (hkeeps : keeps) : RecordedWhen orderIdOf t keeps :=
  ⟨h.placed.ids, h.calls, iff_of_true h.placed.recorded hkeeps⟩

/-- Only the calls change. -/
theorem TransportInv.setCalls {t : OrderTransport} (h : TransportInv orderIdOf t)
    {calls : Dict Nat PlacingCall} (hcalls : CallsInv t.placed calls) :
    TransportInv orderIdOf { t with calls := calls } :=
  ⟨⟨h.placed.ids, h.placed.recorded⟩, hcalls⟩

theorem TransportInv.placeStep {t t' : OrderTransport} (h : TransportInv orderIdOf t)
    {call : PlaceCall} {trades : List Nat}
    (hstep : placeStep orderIdOf t call trades = some t') : TransportInv orderIdOf t' := by
  unfold Ib.placeStep at hstep
  split at hstep
  · split_ifs at hstep
    cases hstep
    exact h
  · obtain ⟨r, hr, rfl⟩ := Option.map_eq_some_iff.mp hstep
    obtain ⟨hinv, hsub, hcalls, hlegs⟩ := h.placed.handOver hr
    have hold : CallsInv r.1.placed r.1.calls := by
      rw [hcalls]
      exact h.calls.mono hsub
    have hnew : CallInv r.1.placed ⟨call.isGroup, r.2.1, .waiting, []⟩ := by
      refine ⟨fun leg hmem => ⟨(hlegs leg hmem).1, fun handle hresult => ?_⟩, by simp⟩
      rw [(hlegs leg hmem).2] at hresult
      cases hresult
    split_ifs
    · exact ⟨⟨hinv.ids, hinv.recorded⟩, hold.set _ hnew⟩
    · exact ⟨hinv, hold⟩

theorem TransportInv.legEnds {t t' : OrderTransport} (h : TransportInv orderIdOf t) {id leg : Nat}
    {events : List WaitEvent} (hstep : legEnds orderIdOf t id leg events = some t') :
    TransportInv orderIdOf t' := by
  unfold Ib.legEnds at hstep
  split at hstep
  · rename_i isGroup legs targets hcall
    split at hstep
    · rename_i trade quantity hleg
      cases hstep
      have hinv := h.calls id _ hcall
      have hmem : (⟨trade, quantity, none⟩ : PlacedLeg) ∈ legs := List.mem_of_getElem? hleg
      refine ⟨⟨h.placed.ids, ?_⟩, ?_⟩
      · exact recorded_recordAnswer_own h.placed.recorded (fun handle => legResult_trade)
          (hinv.legs _ hmem).1
      · show CallsInv t.placed (if isGroup then _ else _)
        split_ifs
        · apply h.calls.set id
          apply hinv.set_leg hleg
          intro handle hresult
          exact legResult_trade (Option.some.inj hresult)
        · exact h.calls.pop id
    · cases hstep
  · cases hstep

theorem TransportInv.settleStep {t t' : OrderTransport} (h : TransportInv orderIdOf t) {id : Nat}
    (hstep : settleStep orderIdOf t id = some t') : TransportInv orderIdOf t' := by
  unfold Ib.settleStep at hstep
  split at hstep
  · rename_i legs targets hcall
    have hinv := h.calls id _ hcall
    have hpop : TransportInv orderIdOf { t with calls := t.calls.pop id } :=
      h.setCalls (h.calls.pop id)
    split_ifs at hstep
    · split at hstep
      · rename_i plan hplan
        cases hstep
        apply h.setCalls
        apply h.calls.set id
        obtain ⟨htrades, howned⟩ := rollbackPlan_spec h.placed.recorded hinv.legs hplan
        refine ⟨hinv.legs, fun target hmem => ⟨howned target hmem, ?_⟩⟩
        have hfst : target.1 ∈ plan.map Prod.fst := List.mem_map_of_mem hmem
        rw [htrades] at hfst
        exact (List.filter_sublist.map PlacedLeg.trade).subset hfst
      · cases hstep
        exact hpop
    · cases hstep
      exact hpop
  · cases hstep

theorem TransportInv.rollbackCancel {t t' : OrderTransport} (h : TransportInv orderIdOf t)
    {id : Nat} {raises : Option OrderError} (hstep : rollbackCancel t id raises = some t') :
    TransportInv orderIdOf t' := by
  unfold Ib.rollbackCancel at hstep
  split at hstep
  · cases hstep
    exact h.setCalls (h.calls.pop id)
  · rename_i isGroup legs target rest hcall
    have hinv := h.calls id _ hcall
    split_ifs at hstep
    · cases hstep
      exact h.setCalls (h.calls.set id (hinv.rest (List.Subset.refl _)))
    · cases hstep
      exact h.setCalls (h.calls.set id (hinv.rest (List.subset_cons_self target rest)))
  · cases hstep

theorem TransportInv.rollbackWaited {t t' : OrderTransport} (h : TransportInv orderIdOf t)
    {id : Nat} {events : List Trade} (hstep : rollbackWaited orderIdOf t id events = some t') :
    TransportInv orderIdOf t' := by
  unfold Ib.rollbackWaited at hstep
  split at hstep
  · rename_i isGroup legs target rest hcall
    cases hstep
    have hinv := h.calls id _ hcall
    refine ⟨⟨h.placed.ids, ?_⟩, ?_⟩
    · exact recorded_recordAnswer_own h.placed.recorded (fun handle => awaitDecisive_trade)
        (hinv.placed_of_target List.mem_cons_self)
    · exact h.calls.set id (hinv.rest (List.subset_cons_self target rest))
  · cases hstep

/-- Which steps leave the placed orders with their own handles. -/
theorem recorded_step_iff {t t' : OrderTransport} {l : OrderLabel} (h : TransportInv orderIdOf t)
    (hstep : orderStep orderIdOf t l = some t') :
    RecordedWhen orderIdOf t' (KeepsOwnHandles orderIdOf t l) := by
  cases l with
  | session account routerUp =>
      cases hstep
      exact ⟨h.placed.ids, h.calls, iff_of_true h.placed.recorded trivial⟩
  | place call trades => exact (h.placeStep hstep).recordedWhen trivial
  | legEnds id leg events => exact (h.legEnds hstep).recordedWhen trivial
  | settle id => exact (h.settleStep hstep).recordedWhen trivial
  | rollbackCancel id raises => exact (h.rollbackCancel hstep).recordedWhen trivial
  | rollbackWaited id events => exact (h.rollbackWaited hstep).recordedWhen trivial
  | callLeft id =>
      cases hstep
      exact (h.setCalls (h.calls.pop id)).recordedWhen trivial
  | cancelOrder handle raises =>
      cases hstep
      unfold cancelStart
      split_ifs
      · exact ⟨h.placed.ids, h.calls, iff_of_true h.placed.recorded trivial⟩
      · exact h.recordedWhen trivial
  | cancelWaited id events =>
      simp only [orderStep, Ib.cancelWaited] at hstep
      split at hstep
      · rename_i handle hget
        cases hstep
        refine ⟨h.placed.ids, h.calls, ?_⟩
        refine (recorded_recordAnswer_iff h.placed.recorded fun _ => awaitDecisive_trade).trans ?_
        simp [KeepsOwnHandles, hget]
      · cases hstep
  | cancelLeft id =>
      cases hstep
      exact ⟨h.placed.ids, h.calls, iff_of_true h.placed.recorded trivial⟩
  | openOrders trades =>
      simp only [orderStep] at hstep
      split_ifs at hstep with hup
      · cases hstep
        refine ⟨h.placed.ids, h.calls, ?_⟩
        refine (recorded_registerOpen_iff h.placed.recorded t.session trades).trans ?_
        exact (imp_iff_right hup).symm
      · cases hstep
        exact h.recordedWhen fun hup' => absurd hup' hup

/-! ## Runs -/

/-- Along a run the registry holds the own handles exactly when `open_orders` lists no other
trade with the order id of a placed order after the order's own, and no other trade with such
an id is cancelled. -/
theorem ownHandles_iff (orderIdOf : Nat → Int) (spec : IbConnectionSpec)
    (ls : List OrderLabel) :
    (orderMachine orderIdOf spec).AllStates (OwnHandles orderIdOf) (.init spec) ls ↔
      (orderMachine orderIdOf spec).AllSteps (KeepsOwnHandles orderIdOf) (.init spec) ls := by
  have hkept : ∀ t l t', TransportInv orderIdOf t → KeepsOwnHandles orderIdOf t l →
      (orderMachine orderIdOf spec).step t l = some t' → TransportInv orderIdOf t' := by
    intro t l t' hinv hkeeps hstep
    obtain ⟨hids, hcalls, hiff⟩ := recorded_step_iff hinv hstep
    exact ⟨⟨hids, hiff.mpr hkeeps⟩, hcalls⟩
  apply (orderMachine orderIdOf spec).allStates_iff_allSteps hkept
  · exact fun t hinv => hinv.ownHandles
  · intro t l t' hinv hstep hown
    obtain ⟨_, _, hiff⟩ := recorded_step_iff hinv hstep
    exact hiff.mp hown.registered
  · exact transportInv_init spec

end HandleRegistry

/-! ## A foreign order in the registry -/

/-- Order ids of three trades; the last one is of another client. -/
def sampleOrderId : Nat → Int
  | 0 => 1
  | 1 => 2
  | _ => 1

/-- A working order of another client. -/
def foreignTrade : Trade :=
  { pendingTrade 1 with permId := 9, clientId := 2, status := .submitted }

/-- An OCA group of two is placed, `open_orders` lists its trades and the foreign one, no
status arrives, and the rollback begins. -/
def foreignOrderRun : List OrderLabel :=
  [.session (some "DU1") true,
    .place (.oca "hb-oca-0" .cancelWithBlock [sampleRequest, sampleRequest]) [0, 1],
    .openOrders [(0, pendingTrade 1), (1, pendingTrade 2), (2, foreignTrade)],
    .legEnds 0 0 [], .legEnds 0 1 [], .settle 0]

/-- The rollback passes the foreign order to `cancel_order`, which refuses it, and leaves the
first member alone. -/
theorem rollback_takes_foreign_order :
    ∃ t call handle rest,
      (orderMachine sampleOrderId .default).run (.init .default) foreignOrderRun = some t ∧
      t.calls.get? 0 = some call ∧ call.targets = (0, handle) :: rest ∧
      handle.trade = 2 ∧ handle.owned = false ∧ ¬ OwnHandles sampleOrderId t := by
  have hrun : ∃ t call handle rest,
      (orderMachine sampleOrderId .default).run (.init .default) foreignOrderRun = some t ∧
      t.calls.get? 0 = some call ∧ call.targets = (0, handle) :: rest ∧
      handle.trade = 2 ∧ handle.owned = false := ⟨_, _, _, _, rfl, rfl, rfl, rfl, rfl⟩
  obtain ⟨t, call, handle, rest, hrun, hcall, htargets, htrade, howned⟩ := hrun
  refine ⟨t, call, handle, rest, hrun, hcall, htargets, htrade, howned, ?_⟩
  intro hown
  have htarget := hown.rollback 0 call hcall (0, handle) (by simp [htargets])
  rw [htrade] at htarget
  cases htarget.1

end Ib
end MarketConnector
