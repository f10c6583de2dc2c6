import MarketConnector.Ib.LinkedOrders

/-!
# Ib - What an order tells IB

A request is mapped to the order IB takes, and the options of IB are applied to it.  Reading the
fields of that order the way IB does gives the request back.

Main results:

- Definition `applyOrderOptions`: `_apply_order_options`.
- Definition `readOrder`: the request that the fields of an order stand for.
- Theorem `applyOrderOptions_eq_ok`: the options that fit.
- Theorem `prepareOrder_faithful`: which requests reach IB, and what arrives.
-/

namespace MarketConnector
namespace Ib

open Foundations

/-! ## Options -/

inductive AdaptivePriority where
  | patient | normal | urgent
deriving DecidableEq

/-- `AdaptivePriority.value` -/
def AdaptivePriority.text : AdaptivePriority → String
  | .patient => "Patient"
  | .normal => "Normal"
  | .urgent => "Urgent"

/-- `Literal["close"]` -/
inductive Auction where
  | close
deriving DecidableEq

structure IbOrderOptions where
  adaptivePriority : Option AdaptivePriority
  auction : Option Auction
deriving DecidableEq

def IbOrderOptions.default : IbOrderOptions :=
  ⟨none, none⟩

/-- What the options read of a native contract. -/
structure OrderContract where
  secType : String
  exchange : String

/-- An order with its algo. -/
structure AlgoOrder where
  order : IbOrder
  algoStrategy : String
  algoParams : List (String × String)
deriving DecidableEq

/-- The checks of auction and OPG orders; `repr` is `repr` on texts. -/
def checkAuction (repr : String → String) (contract : OrderContract) (request : HBOrder)
    (options : IbOrderOptions) : Except OrderError Unit :=
  let isOpg := request.timeInForce = .opg
  let label := if isOpg then "OPG time-in-force" else "auction=" ++ repr "close"
  if isOpg ∨ options.auction.isSome then
    if isOpg ∧ options.auction.isSome then
      .error (.valueError "OPG time-in-force and auction='close' are mutually exclusive")
    else if contract.secType ≠ "STK" then
      .error (.valueError (label ++ " requires secType STK, got " ++ repr contract.secType))
    else if request.orderType ≠ .market ∧ request.orderType ≠ .limit then
      .error (.valueError (label ++ " supports only MARKET and LIMIT orders, got " ++
        request.orderType.text))
    else if request.outsideRth then
      .error (.valueError (label ++ " cannot be combined with outside_rth"))
    else if options.adaptivePriority.isSome ∧ options.auction.isSome then
      .error (.valueError "auction orders cannot be combined with the Adaptive algo")
    else .ok ()
  else .ok ()

/-- The checks of the Adaptive algo. -/
def checkAdaptive (repr : String → String) (contract : OrderContract) (request : HBOrder) :
    Except OrderError Unit :=
  if contract.secType ≠ "STK" then
    .error (.valueError ("Adaptive algo requires secType STK, got " ++ repr contract.secType))
  else if contract.exchange ≠ "SMART" then
    .error (.valueError ("Adaptive algo requires exchange SMART, got " ++ repr contract.exchange))
  else if request.orderType ≠ .market ∧ request.orderType ≠ .limit then
    .error (.valueError ("Adaptive algo supports only MARKET and LIMIT orders, got " ++
      request.orderType.text))
  else .ok ()

/-- The order type of an auction order. -/
def auctionType (request : HBOrder) (options : IbOrderOptions) (orderType : String) : String :=
  match options.auction with
  | none => orderType
  | some .close => if request.orderType = .market then "MOC" else "LOC"

/-- `_apply_order_options`; no options are the default ones. -/
def applyOrderOptions (repr : String → String) (order : IbOrder) (contract : OrderContract)
    (request : HBOrder) (options : IbOrderOptions) : Except OrderError AlgoOrder :=
  match checkAuction repr contract request options with
  | .error e => .error e
  | .ok _ =>
      let order := { order with orderType := auctionType request options order.orderType }
      match options.adaptivePriority with
      | none => .ok ⟨order, "", []⟩
      | some priority =>
          match checkAdaptive repr contract request with
          | .error e => .error e
          | .ok _ => .ok ⟨order, "Adaptive", [("adaptivePriority", priority.text)]⟩

/-- `place_order` up to `IB.placeOrder`, which gets the order with the account. -/
def prepareOrder (repr : String → String) (session : Session) (contract : OrderContract)
    (request : HBOrder) (options : Option IbOrderOptions) : Except OrderError AlgoOrder := do
  requireReady session "place_order"
  let order ← hbToIbOrder request
  let sent ← applyOrderOptions repr order contract request (options.getD .default)
  .ok { sent with order.account := session.account.getD sent.order.account }

/-! ## Reading an order -/

/-- What IB does with an order type. -/
def readOrderType (orderType : String) : Option (OrderType × Option Auction) :=
  if orderType = "MKT" then some (.market, none)
  else if orderType = "LMT" then some (.limit, none)
  else if orderType = "STP" then some (.stopLoss, none)
  else if orderType = "STP LMT" then some (.stopLossLimit, none)
  else if orderType = "MOC" then some (.market, some .close)
  else if orderType = "LOC" then some (.limit, some .close)
  else none

def readTimeInForce (tif : String) : Option TimeInForce :=
  [.day, .gtc, .ioc, .opg].find? fun t => t.text = tif

def readSide (action : String) : Option TradeType :=
  if action = "BUY" then some .buy else if action = "SELL" then some .sell else none

/-- The Adaptive algo of an order, if it has no other one. -/
def readAlgo (strategy : String) (params : List (String × String)) :
    Option (Option AdaptivePriority) :=
  if strategy = "" then some none
  else if strategy = "Adaptive" then
    match params with
    | [("adaptivePriority", text)] =>
        ([.patient, .normal, .urgent].find? fun p : AdaptivePriority => p.text = text).map some
    | _ => none
  else none

/-- The request and the options that an order stands for. -/
def readOrder (sent : AlgoOrder) : Option (HBOrder × IbOrderOptions) := do
  let (orderType, auction) ← readOrderType sent.order.orderType
  let side ← readSide sent.order.action
  let timeInForce ← readTimeInForce sent.order.tif
  let priority ← readAlgo sent.algoStrategy sent.algoParams
  some (⟨orderType, side, sent.order.totalQuantity, sent.order.lmtPrice, sent.order.auxPrice,
    timeInForce, sent.order.outsideRth⟩, ⟨priority, auction⟩)

/-! ## Requests that fit -/

/-- The order types that take a limit price. -/
def OrderType.isLimit (t : OrderType) : Bool :=
  t = .limit || t = .stopLossLimit

def OrderType.isStop (t : OrderType) : Bool :=
  t = .stopLoss || t = .stopLossLimit

/-- The order type is one that IB has, and the prices fit it: there is a limit price where one is
needed, and a stop price where one is taken and nowhere else.  `LIMIT_MAKER` never reaches IB. -/
structure WellFormed (request : HBOrder) : Prop where
  postOnly : request.orderType ≠ .limitMaker
  price : request.orderType.isLimit → request.price.isSome
  stop : request.orderType.isStop ↔ request.stopPrice.isSome

/-- A stock order at the market or at a limit. -/
structure PlainStock (contract : OrderContract) (request : HBOrder) : Prop where
  stock : contract.secType = "STK"
  plain : request.orderType = .market ∨ request.orderType = .limit

/-- The options fit the contract and the request. -/
structure OptionsFit (contract : OrderContract) (request : HBOrder) (options : IbOrderOptions) :
    Prop where
  auction : request.timeInForce = .opg ∨ options.auction.isSome →
    PlainStock contract request ∧ request.outsideRth = false
  oneAuction : options.auction.isSome →
    request.timeInForce ≠ .opg ∧ options.adaptivePriority = none
  adaptive : options.adaptivePriority.isSome →
    PlainStock contract request ∧ contract.exchange = "SMART"

/-- The request without a price that its order type does not take. -/
def sentRequest (request : HBOrder) : HBOrder :=
  { request with price := if request.orderType.isLimit then request.price else none }

/-! ## The mapping -/

/-- The order type of a request at IB. -/
def OrderType.ibText : OrderType → String
  | .market => "MKT"
  | .limit => "LMT"
  | .stopLoss => "STP"
  | .stopLossLimit => "STP LMT"
  | .limitMaker => ""

theorem hbToIbOrder_eq_ok {request : HBOrder} {order : IbOrder} :
    hbToIbOrder request = .ok order ↔ WellFormed request ∧
      order = ibOrderOf request request.orderType.ibText (sentRequest request).price
        request.stopPrice := by
  obtain ⟨orderType, side, amount, price, stop, tif, rth⟩ := request
  constructor
  · intro h
    cases orderType <;> cases price <;> cases stop <;> simp [hbToIbOrder] at h <;> subst h <;>
      exact ⟨⟨by simp, by simp [OrderType.isLimit], by simp [OrderType.isStop]⟩, rfl⟩
  · rintro ⟨⟨hpost, hprice, hstop⟩, rfl⟩
    cases orderType <;> cases price <;> cases stop <;>
      simp_all [hbToIbOrder, OrderType.isLimit, OrderType.isStop] <;> rfl

theorem plainStock_iff {contract : OrderContract} {request : HBOrder} :
    PlainStock contract request ↔ contract.secType = "STK" ∧
      (request.orderType = .market ∨ request.orderType = .limit) :=
  ⟨fun h => ⟨h.stock, h.plain⟩, fun h => ⟨h.1, h.2⟩⟩

theorem checkAuction_eq_ok {repr : String → String} {contract : OrderContract}
    {request : HBOrder} {options : IbOrderOptions} :
    checkAuction repr contract request options = .ok () ↔
      (request.timeInForce = .opg ∨ options.auction.isSome →
        PlainStock contract request ∧ request.outsideRth = false) ∧
      (options.auction.isSome →
        request.timeInForce ≠ .opg ∧ options.adaptivePriority = none) := by
  rw [plainStock_iff]
  simp only [checkAuction]
  split_ifs with hauction hboth hstock htype hrth hadaptive
  · simp [hboth]
  · simp [hauction, hstock]
  · simp [hauction, htype]
  · simp [hauction, hrth]
  · have hpriority : options.adaptivePriority ≠ none := Option.isSome_iff_ne_none.1 hadaptive.1
    simp [hadaptive.2, hpriority]
  · refine iff_of_true rfl ⟨fun _ => ⟨⟨by tauto, by tauto⟩, by simpa using hrth⟩, fun hsome => ?_⟩
    refine ⟨fun hopg => hboth ⟨hopg, hsome⟩, ?_⟩
    by_contra hpriority
    exact hadaptive ⟨Option.isSome_iff_ne_none.2 hpriority, hsome⟩
  · refine iff_of_true rfl ⟨fun h => absurd h hauction, fun h => absurd (Or.inr h) hauction⟩

theorem checkAdaptive_eq_ok {repr : String → String} {contract : OrderContract}
    {request : HBOrder} : checkAdaptive repr contract request = .ok () ↔
      PlainStock contract request ∧ contract.exchange = "SMART" := by
  rw [plainStock_iff]
  unfold checkAdaptive
  split_ifs with hstock hsmart htype
  · simp [hstock]
  · simp [hsmart]
  · simp [htype]
  · refine iff_of_true rfl ⟨⟨by tauto, by tauto⟩, by tauto⟩

/-- The algo fields of an order. -/
def algoOf : Option AdaptivePriority → String × List (String × String)
  | none => ("", [])
  | some priority => ("Adaptive", [("adaptivePriority", priority.text)])

/-- The options that fit, and what they change. -/
theorem applyOrderOptions_eq_ok {repr : String → String} {order : IbOrder}
    {contract : OrderContract} {request : HBOrder} {options : IbOrderOptions} {sent : AlgoOrder} :
    applyOrderOptions repr order contract request options = .ok sent ↔
      OptionsFit contract request options ∧
        sent = ⟨{ order with orderType := auctionType request options order.orderType },
          (algoOf options.adaptivePriority).1, (algoOf options.adaptivePriority).2⟩ := by
  have hfit : OptionsFit contract request options ↔
      checkAuction repr contract request options = .ok () ∧
        (options.adaptivePriority.isSome → checkAdaptive repr contract request = .ok ()) := by
    rw [checkAuction_eq_ok, checkAdaptive_eq_ok]
    exact ⟨fun h => ⟨⟨h.auction, h.oneAuction⟩, h.adaptive⟩, fun h => ⟨h.1.1, h.1.2, h.2⟩⟩
  rw [hfit]
  unfold applyOrderOptions
  cases checkAuction repr contract request options with
  | error e => simp
  | ok u =>
      cases options.adaptivePriority with
      | none => simp [algoOf, eq_comm]
      | some priority =>
          cases checkAdaptive repr contract request <;> simp [algoOf, eq_comm]

/-! ## Reading what was sent -/

theorem readTimeInForce_text (t : TimeInForce) : readTimeInForce t.text = some t := by
  cases t <;> decide

theorem readAlgo_algoOf (priority : Option AdaptivePriority) :
    readAlgo (algoOf priority).1 (algoOf priority).2 = some priority := by
  rcases priority with _ | _ | _ | _ <;> decide

theorem readSide_action (side : TradeType) :
    readSide (if side = .buy then "BUY" else "SELL") = some side := by
  cases side <;> decide

/-- The order type tells the type of the request and its auction. -/
theorem readOrderType_auctionType {contract : OrderContract} {request : HBOrder}
    {options : IbOrderOptions} (hformed : WellFormed request)
    (hfit : OptionsFit contract request options) :
    readOrderType (auctionType request options request.orderType.ibText) =
      some (request.orderType, options.auction) := by
  have hpost := hformed.postOnly
  unfold auctionType
  cases hauction : options.auction with
  | none => cases htype : request.orderType <;> first | rfl | exact absurd htype hpost
  | some auction =>
      have hplain := (hfit.auction (Or.inr (by simp [hauction]))).1.plain
      cases auction
      rcases hplain with htype | htype <;> simp [htype, readOrderType]

/-- An order reads as the request it was made of. -/
theorem readOrder_sent {contract : OrderContract} {request : HBOrder} {options : IbOrderOptions}
    (hformed : WellFormed request) (hfit : OptionsFit contract request options)
    (account : String) :
    readOrder ⟨{ ibOrderOf request (auctionType request options request.orderType.ibText)
        (sentRequest request).price request.stopPrice with account := account },
      (algoOf options.adaptivePriority).1, (algoOf options.adaptivePriority).2⟩ =
      some (sentRequest request, options) := by
  simp [readOrder, ibOrderOf, readOrderType_auctionType hformed hfit, readSide_action,
    readTimeInForce_text, readAlgo_algoOf, sentRequest]

/-- The order that `IB.placeOrder` gets. -/
def sentOrder (session : Session) (request : HBOrder) (options : IbOrderOptions) : AlgoOrder :=
  ⟨{ ibOrderOf request (auctionType request options request.orderType.ibText)
      (sentRequest request).price request.stopPrice with account := session.account.getD "" },
    (algoOf options.adaptivePriority).1, (algoOf options.adaptivePriority).2⟩

theorem requireReady_eq_ok {session : Session} {op : String} :
    requireReady session op = .ok () ↔
      session.spec.readonly = false ∧ session.routerUp = true := by
  unfold requireReady
  split_ifs with hreadonly hdown
  · simp [hreadonly]
  · simp [hdown]
  · simp_all

theorem prepareOrder_eq_ok {repr : String → String} {session : Session}
    {contract : OrderContract} {request : HBOrder} {options : Option IbOrderOptions}
    {sent : AlgoOrder} : prepareOrder repr session contract request options = .ok sent ↔
      (session.spec.readonly = false ∧ session.routerUp = true) ∧ WellFormed request ∧
        OptionsFit contract request (options.getD .default) ∧
        sent = sentOrder session request (options.getD .default) := by
  simp only [prepareOrder, bind_eq_ok, applyOrderOptions_eq_ok, hbToIbOrder_eq_ok]
  constructor
  · rintro ⟨⟨⟩, hready, order, ⟨hformed, rfl⟩, prepared, ⟨hfit, rfl⟩, hsent⟩
    cases hsent
    exact ⟨requireReady_eq_ok.1 hready, hformed, hfit, rfl⟩
  · rintro ⟨hready, hformed, hfit, rfl⟩
    exact ⟨(), requireReady_eq_ok.2 hready, _, ⟨hformed, rfl⟩, _, ⟨hfit, rfl⟩, rfl⟩

/-- A request reaches IB exactly when the session is writable and connected, its prices fit its
type and its options fit the contract; the order on the account then reads as the request. -/
theorem prepareOrder_faithful (repr : String → String) (session : Session)
    (contract : OrderContract) (request : HBOrder) (options : Option IbOrderOptions) :
    match prepareOrder repr session contract request options with
    | .ok sent => session.spec.readonly = false ∧ session.routerUp = true ∧
        WellFormed request ∧ OptionsFit contract request (options.getD .default) ∧
        sent.order.account = session.account.getD "" ∧
        readOrder sent = some (sentRequest request, options.getD .default)
    | .error _ => session.spec.readonly = true ∨ session.routerUp = false ∨
        ¬ WellFormed request ∨ ¬ OptionsFit contract request (options.getD .default) := by
  cases hprepared : prepareOrder repr session contract request options with
  | ok sent =>
      obtain ⟨⟨hreadonly, hup⟩, hformed, hfit, rfl⟩ := prepareOrder_eq_ok.1 hprepared
      exact ⟨hreadonly, hup, hformed, hfit, rfl, readOrder_sent hformed hfit _⟩
  | error e =>
      by_contra hnone
      simp only [not_or, not_not, Bool.not_eq_true, Bool.not_eq_false] at hnone
      obtain ⟨hreadonly, hup, hformed, hfit⟩ := hnone
      rw [prepareOrder_eq_ok.2 ⟨⟨hreadonly, hup⟩, hformed, hfit, rfl⟩] at hprepared
      cases hprepared

end Ib
end MarketConnector
