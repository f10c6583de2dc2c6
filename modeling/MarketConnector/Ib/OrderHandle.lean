import MarketConnector.Foundations.Decimal

/-!
# Ib - Order handles and trade statuses

A trade is the mutable record `ib_async` keeps for an order; an `OrderHandle` is a frozen
snapshot of it.  A trade is passed as its current value together with the reference by
which handles remember it.

Main results:

- Definition `OrderHandle.fromTrade`: the snapshot.
- Theorem `fromTrade_status`: a snapshot shows the order state of its trade.
- Theorem `isFinished_of_pendingCancel`: a pending cancel is not finished.
-/

namespace MarketConnector
namespace Ib

open Foundations

/-! ## Errors of order calls -/

/-- What order calls raise.  `cancelledError` is the cancellation of the calling task,
`other` whatever an IB call raises. -/
inductive OrderError where
  | connectionLost (code : Int) (message : String)
  | connectionTerminated (code : Int) (message : String)
  | orderRejected (code : Int) (message : String) (advancedReject quantity : Option String)
  | orderCancelled (code : Int) (message reason : String)
  | readOnlyMode (op : String)
  | valueError (message : String)
  | notImplemented (message : String)
  | timeout
  | cancelledError
  | other (message : String)
deriving DecidableEq

/-- `isinstance(exc, Exception)`: a cancellation is only a `BaseException`. -/
def OrderError.isException : OrderError → Bool
  | .cancelledError => false
  | _ => true

/-- `isinstance(exc, OrderRejectedError)`. -/
def OrderError.isRejection : OrderError → Bool
  | .orderRejected .. => true
  | _ => false

/-! ## Statuses -/

inductive IBOrderState where
  | pending | submitted | partiallyFilled | filled | cancelled | rejected
deriving DecidableEq

/-- FILLED, CANCELLED and REJECTED. -/
def IBOrderState.isTerminal : IBOrderState → Bool
  | .filled | .cancelled | .rejected => true
  | _ => false

/-- Texts of `orderStatus.status`: IB's, the overlay of `ib_async`, and any other. -/
inductive RawStatus where
  | pendingSubmit | preSubmitted | pendingCancel | submitted | apiPending
  | filled | cancelled | apiCancelled | inactive
  | validationError
  | other (text : String)
deriving DecidableEq

def RawStatus.text : RawStatus → String
  | .pendingSubmit => "PendingSubmit"
  | .preSubmitted => "PreSubmitted"
  | .pendingCancel => "PendingCancel"
  | .submitted => "Submitted"
  | .apiPending => "ApiPending"
  | .filled => "Filled"
  | .cancelled => "Cancelled"
  | .apiCancelled => "ApiCancelled"
  | .inactive => "Inactive"
  | .validationError => "ValidationError"
  | .other text => text

/-- `_TRADE_STATUS_MAP`. -/
def tradeStatusMap : RawStatus → Option IBOrderState
  | .pendingSubmit => some .pending
  | .preSubmitted => some .submitted
  | .pendingCancel => some .pending
  | .submitted => some .submitted
  | .apiPending => some .pending
  | .filled => some .filled
  | .cancelled => some .cancelled
  | .apiCancelled => some .cancelled
  | .inactive => some .rejected
  | .validationError => none
  | .other _ => none

/-- `_UNACKNOWLEDGED_STATUSES`. -/
def unacknowledgedStatuses : List RawStatus :=
  [.pendingSubmit, .apiPending]

/-- `INFORMATIONAL_ORDER_CODES`. -/
def informationalOrderCodes : List Int :=
  [10349]

structure LogEntry where
  status : RawStatus
  errorCode : Int
deriving DecidableEq

/-- Fields of a trade the transport reads; `permId = 0` and `none` are IB's unset values. -/
structure Trade where
  orderId : Int
  permId : Int
  clientId : Int
  totalQuantity : Decimal
  status : RawStatus
  filled : Option Decimal
  avgFillPrice : Option Decimal
  advancedError : String
  log : List LogEntry
deriving DecidableEq

/-- Latest real status in the log of a trade under the `ValidationError` overlay. -/
def priorStatus (log : List LogEntry) : RawStatus :=
  match log.reverse.find? fun entry => (tradeStatusMap entry.status).isSome with
  | some entry => entry.status
  | none => .pendingSubmit

/-- `_effective_status`. -/
def effectiveStatus (t : Trade) : RawStatus :=
  if t.status ≠ .validationError then t.status
  else if priorStatus t.log ∈ unacknowledgedStatuses ∧ t.permId ≠ 0 then .submitted
  else priorStatus t.log

/-- `is_unacknowledged`. -/
def isUnacknowledged (t : Trade) : Bool :=
  effectiveStatus t ∈ unacknowledgedStatuses

/-- `is_synthetic_cancel`. -/
def isSyntheticCancel (t : Trade) : Bool :=
  if t.status ≠ .cancelled ∨ t.permId ≠ 0 then false
  else t.log.any fun entry => entry.errorCode ∈ informationalOrderCodes

/-- `filled` as a number, `0` when unset. -/
def filledQty (t : Trade) : Decimal :=
  t.filled.getD (.ofNat 0)

/-- State a snapshot shows: the mapped status, promoted when fills are present; `none`
for a status that is not in the map. -/
def orderState (t : Trade) : Option IBOrderState :=
  let base := if isSyntheticCancel t then some .pending else tradeStatusMap (effectiveStatus t)
  base.map fun state =>
    if state = .submitted ∧ 0 < (filledQty t).value then .partiallyFilled else state

/-- The order of the trade is finished. -/
def isFinished (t : Trade) : Bool :=
  (orderState t).any IBOrderState.isTerminal

/-! ## Handles -/

structure OrderHandle where
  orderId : Int
  status : IBOrderState
  rawStatus : RawStatus
  filledQty : Decimal
  avgFillPrice : Option Decimal
  trade : Nat
  clientId : Int
  owned : Bool
  manual : Bool
deriving DecidableEq

/-- `OrderHandle.from_trade` of the trade `ref` with value `t`. -/
def OrderHandle.fromTrade (ref : Nat) (t : Trade) (ownClientId : Option Int) :
    Except OrderError OrderHandle :=
  match orderState t with
  | none => .error (.valueError ("Unknown IB order status: " ++ t.status.text))
  | some status => .ok {
      orderId := if t.permId ≠ 0 then t.permId else t.orderId
      status := status
      rawStatus := t.status
      filledQty := Ib.filledQty t
      avgFillPrice := t.avgFillPrice.filter fun price => price.value ≠ 0
      trade := ref
      clientId := t.clientId
      owned := match ownClientId with
        | none => true
        | some own => t.clientId = own
      manual := t.clientId = 0 ∧ t.orderId ≤ 0 }

/-- A snapshot shows the order state of its trade, and refers to it. -/
theorem fromTrade_status {ref : Nat} {t : Trade} {own : Option Int} {h : OrderHandle}
    (hsnap : OrderHandle.fromTrade ref t own = .ok h) :
    orderState t = some h.status ∧ h.rawStatus = t.status ∧ h.trade = ref := by
  unfold OrderHandle.fromTrade at hsnap
  cases hstate : orderState t with
  | none =>
      rw [hstate] at hsnap
      cases hsnap
  | some status =>
      rw [hstate] at hsnap
      cases hsnap
      exact ⟨rfl, rfl, rfl⟩

/-- A trade whose order state is known has a snapshot. -/
theorem fromTrade_of_orderState (ref : Nat) {t : Trade} (own : Option Int) {state : IBOrderState}
    (hstate : orderState t = some state) :
    ∃ h, OrderHandle.fromTrade ref t own = .ok h ∧ h.status = state ∧ h.rawStatus = t.status := by
  simp [OrderHandle.fromTrade, hstate]

theorem isFinished_iff {t : Trade} :
    isFinished t = true ↔ ∃ state, orderState t = some state ∧ state.isTerminal = true := by
  simp [isFinished, Option.any_eq_true]

/-- A pending cancel is no terminal state. -/
theorem isFinished_of_pendingCancel {t : Trade} (h : t.status = .pendingCancel) :
    isFinished t = false := by
  have hbase : orderState t = some .pending := by
    simp [orderState, isSyntheticCancel, effectiveStatus, h, tradeStatusMap]
  simp [isFinished, hbase, IBOrderState.isTerminal]

end Ib
end MarketConnector
