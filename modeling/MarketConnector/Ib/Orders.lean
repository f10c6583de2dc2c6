import MarketConnector.Ib.OrderHandle

/-!
# Ib - Order requests and their IB form

The order model of the framework, the mapping to the order IB takes, and the checks of
linked orders.  All of it runs before any IB call.

Main results:

- Definition `hbToIbOrder`: `_hb_to_ib_order`.
- Definition `validateBracket`: `_validate_bracket`.
- Theorem `hbToIbOrder_exact`: the IB order carries the requested numbers.
-/

namespace MarketConnector
namespace Ib

open Foundations

/-! ## Requests -/

inductive OrderType where
  | limit | market | limitMaker | stopLoss | stopLossLimit
deriving DecidableEq

def OrderType.text : OrderType → String
  | .limit => "LIMIT"
  | .market => "MARKET"
  | .limitMaker => "LIMIT_MAKER"
  | .stopLoss => "STOP_LOSS"
  | .stopLossLimit => "STOP_LOSS_LIMIT"

inductive TradeType where
  | buy | sell
deriving DecidableEq

inductive TimeInForce where
  | day | gtc | ioc | opg
deriving DecidableEq

def TimeInForce.text : TimeInForce → String
  | .day => "DAY"
  | .gtc => "GTC"
  | .ioc => "IOC"
  | .opg => "OPG"

structure HBOrder where
  orderType : OrderType
  side : TradeType
  amount : Decimal
  price : Option Decimal
  stopPrice : Option Decimal
  timeInForce : TimeInForce
  outsideRth : Bool
deriving DecidableEq

/-- How an OCA group reacts to a fill of a member. -/
inductive OcaType where
  | cancelWithBlock | reduceWithBlock | reduceNoBlock
deriving DecidableEq

/-- `int(oca_type)`. -/
def OcaType.code : OcaType → Nat
  | .cancelWithBlock => 1
  | .reduceWithBlock => 2
  | .reduceNoBlock => 3

/-- Fields of an `ib_async` order the transport sets; the others keep their defaults. -/
structure IbOrder where
  action : String
  orderType : String
  totalQuantity : Decimal
  lmtPrice : Option Decimal
  auxPrice : Option Decimal
  tif : String
  outsideRth : Bool
  account : String
  orderId : Nat
  parentId : Nat
  transmit : Bool
  ocaGroup : String
  ocaType : Nat
deriving DecidableEq

/-! ## The mapping -/

/-- The IB order of a request, with the type and the prices its order type calls for. -/
def ibOrderOf (order : HBOrder) (orderType : String) (lmtPrice auxPrice : Option Decimal) :
    IbOrder where
  action := if order.side = .buy then "BUY" else "SELL"
  orderType := orderType
  totalQuantity := order.amount
  lmtPrice := lmtPrice
  auxPrice := auxPrice
  tif := order.timeInForce.text
  outsideRth := order.outsideRth
  account := ""
  orderId := 0
  parentId := 0
  transmit := true
  ocaGroup := ""
  ocaType := 0

/-- `_hb_to_ib_order`. -/
def hbToIbOrder (order : HBOrder) : Except OrderError IbOrder :=
  if order.stopPrice.isSome ∧ (order.orderType = .market ∨ order.orderType = .limit) then
    .error (.valueError ("stop_price is only valid for STOP_LOSS/STOP_LOSS_LIMIT orders, not " ++
      order.orderType.text))
  else
    match order.orderType, order.price, order.stopPrice with
    | .market, _, _ => .ok (ibOrderOf order "MKT" none none)
    | .limit, none, _ => .error (.valueError "LIMIT order requires non-None price")
    | .limit, some price, _ => .ok (ibOrderOf order "LMT" (some price) none)
    | .stopLoss, _, none => .error (.valueError "STOP_LOSS order requires non-None stop_price")
    | .stopLoss, _, some stop => .ok (ibOrderOf order "STP" none (some stop))
    | .stopLossLimit, _, none =>
        .error (.valueError "STOP_LOSS_LIMIT order requires non-None stop_price")
    | .stopLossLimit, none, some _ =>
        .error (.valueError "STOP_LOSS_LIMIT order requires non-None price")
    | .stopLossLimit, some price, some stop =>
        .ok (ibOrderOf order "STP LMT" (some price) (some stop))
    | .limitMaker, _, _ => .error (.notImplemented
        ("LIMIT_MAKER (post-only) is not supported by Interactive Brokers; " ++
          "place a LIMIT order instead."))

/-- The IB order carries the requested amount, and no price that was not requested. -/
theorem hbToIbOrder_exact {order : HBOrder} {ib : IbOrder} (h : hbToIbOrder order = .ok ib) :
    ib.totalQuantity = order.amount ∧
      (ib.lmtPrice = none ∨ ib.lmtPrice = order.price) ∧
      (ib.auxPrice = none ∨ ib.auxPrice = order.stopPrice) := by
  unfold hbToIbOrder at h
  split_ifs at h
  split at h <;> cases h <;> simp_all [ibOrderOf]

/-! ## Linked orders -/

/-- `_validate_bracket`: the text of the `ValueError` it raises. -/
def validateBracket (entry takeProfit stopLoss : HBOrder) : Option String :=
  if entry.orderType ≠ .market ∧ entry.orderType ≠ .limit then
    some ("bracket entry must be MARKET or LIMIT, not " ++ entry.orderType.text)
  else if takeProfit.orderType ≠ .limit then
    some ("bracket take_profit must be LIMIT, not " ++ takeProfit.orderType.text)
  else if stopLoss.orderType ≠ .stopLoss ∧ stopLoss.orderType ≠ .stopLossLimit then
    some ("bracket stop_loss must be STOP_LOSS or STOP_LOSS_LIMIT, not " ++
      stopLoss.orderType.text)
  else if takeProfit.side = entry.side ∨ stopLoss.side = entry.side then
    some "bracket children must be on the opposite side of the entry"
  else if takeProfit.amount.value ≠ entry.amount.value ∨
      stopLoss.amount.value ≠ entry.amount.value then
    some "bracket children must have the same amount as the entry"
  else none

/-- One leg of a bracket: the children name the parent. -/
def linkLeg (parentId : Nat) (order : IbOrder) (orderId : Nat) (transmit : Bool) : IbOrder :=
  { order with
    orderId := orderId
    parentId := if orderId = parentId then 0 else parentId
    transmit := transmit }

/-- The legs of a bracket: only the last one is transmitted. -/
def linkBracket (entry takeProfit stopLoss : IbOrder) (parentId takeProfitId stopLossId : Nat) :
    List IbOrder :=
  [linkLeg parentId entry parentId false, linkLeg parentId takeProfit takeProfitId false,
    linkLeg parentId stopLoss stopLossId true]

/-- The members of an OCA group. -/
def linkOca (group : String) (ocaType : OcaType) (orders : List IbOrder) : List IbOrder :=
  orders.map fun order =>
    { order with ocaGroup := group, ocaType := ocaType.code, transmit := true }

end Ib
end MarketConnector
