import MarketConnector.Coinbase.RestClient
import MarketConnector.Coinbase.Streaming
import MarketConnector.Foundations.DecimalText
import MarketConnector.Kraken.RestReplies
import MarketConnector.Transport.Retries
import MarketConnector.Wire.OrderFields

/-!
# Coinbase - Orders from placement to listing

An order is placed with a configuration whose amount and price are texts.  The exchange lists
its orders with their configurations, and the mixin reads type, amount and price from them.

Main results:

- Definition `placeOrder`: `place_order`, from the checks to the reply.
- Definition `openOrders`: the orders `get_open_orders` reads from a listing.
- Theorem `openOrders_of_placed`: placed orders are read back as they were placed.
-/

namespace MarketConnector
namespace Coinbase

open Foundations Transport
open Kraken (optionalField requiredField)

/-! ## Schemas -/

/-- Validation of a truth value: 0, 1 and some texts are converted. -/
def requireBool : PyValue → Except PyError Bool
  | .bool b => .ok b
  | .int n => if n = 1 then .ok true else if n = 0 then .ok false else .error .validationError
  | .float q => if q = 1 then .ok true else if q = 0 then .ok false else .error .validationError
  | .str s =>
      if s.toLower ∈ ["1", "true", "t", "yes", "y", "on"] then .ok true
      else if s.toLower ∈ ["0", "false", "f", "no", "n", "off"] then .ok false
      else .error .validationError
  | _ => .error .validationError

/-- Validation of a truth value that is false by default. -/
def boolField (kvs : List (String × PyValue)) (key : String) : Except PyError Bool :=
  match PyValue.field? kvs key with
  | none => .ok false
  | some v => requireBool v

/-- Validation of a member of an enumeration, given by its value. -/
def requireMember {M : Type} (member? : String → Option M) (v : PyValue) : Except PyError M :=
  match v with
  | .str s =>
      match member? s with
      | some m => .ok m
      | none => .error .validationError
  | _ => .error .validationError

structure MarketIOCConfig where
  quoteSize : Option String
  baseSize : Option String

structure LimitGTCConfig where
  baseSize : String
  limitPrice : String
  postOnly : Bool

structure LimitGTDConfig (Time : Type) extends LimitGTCConfig where
  endTime : Time

structure StopLimitGTCConfig where
  baseSize : String
  limitPrice : String
  stopPrice : String
  stopDirection : String

structure OrderConfiguration (Time : Type) where
  marketMarketIoc : Option MarketIOCConfig
  limitLimitGtc : Option LimitGTCConfig
  limitLimitGtd : Option (LimitGTDConfig Time)
  stopLimitStopLimitGtc : Option StopLimitGTCConfig

inductive CoinbaseOrderSide where
  | buy | sell | unknown
deriving DecidableEq

def CoinbaseOrderSide.value : CoinbaseOrderSide → String
  | .buy => "BUY"
  | .sell => "SELL"
  | .unknown => "UNKNOWN_ORDER_SIDE"

def CoinbaseOrderSide.ofValue? (text : String) : Option CoinbaseOrderSide :=
  [.buy, .sell, .unknown].find? fun side => side.value = text

/-- Values of `CoinbaseOrderStatus`, `CoinbaseTimeInForce` and `CoinbaseOrderType`. -/
def orderStatuses : List String :=
  ["OPEN", "FILLED", "CANCELLED", "EXPIRED", "FAILED", "PENDING", "UNKNOWN_ORDER_STATUS"]

def timesInForce : List String :=
  ["GOOD_UNTIL_CANCELLED", "GOOD_UNTIL_DATE_TIME", "IMMEDIATE_OR_CANCEL", "FILL_OR_KILL"]

def orderTypes : List String :=
  ["MARKET", "LIMIT", "STOP", "STOP_LIMIT", "UNKNOWN_ORDER_TYPE"]

/-- A value of an enumeration that is only passed on. -/
def requireOneOf (values : List String) : PyValue → Except PyError String :=
  requireMember fun text => values.find? fun value => value = text

structure Order (Time : Type) where
  orderId : String
  clientOrderId : String
  productId : String
  userId : Option String
  orderConfiguration : Option (OrderConfiguration Time)
  side : CoinbaseOrderSide
  status : String
  timeInForce : Option String
  createdTime : Option Time
  filledSize : String
  averageFilledPrice : String
  totalFees : String
  filledValue : String
  completionPercentage : String
  numberOfFills : String
  pendingCancel : Bool
  settled : Bool
  rejectReason : Option String
  orderType : Option String

structure ListOrdersResponse (Time : Type) where
  orders : List (Order Time)
  sequence : Option String
  hasNext : Bool
  cursor : Option String

structure CreateOrderSuccess where
  orderId : String
  productId : String
  side : CoinbaseOrderSide
  clientOrderId : String

structure CreateOrderResponse where
  success : Bool
  orderId : Option String
  failureReason : Option String
  successResponse : Option CreateOrderSuccess

def MarketIOCConfig.modelValidate : PyValue → Except PyError MarketIOCConfig
  | .dict kvs => do
      let quoteSize ← optionalField PyValue.requireStr kvs "quote_size"
      let baseSize ← optionalField PyValue.requireStr kvs "base_size"
      return ⟨quoteSize, baseSize⟩
  | _ => .error .validationError

def LimitGTCConfig.modelValidate : PyValue → Except PyError LimitGTCConfig
  | .dict kvs => do
      let baseSize ← PyValue.requiredStr kvs "base_size"
      let limitPrice ← PyValue.requiredStr kvs "limit_price"
      let postOnly ← boolField kvs "post_only"
      return ⟨baseSize, limitPrice, postOnly⟩
  | _ => .error .validationError

def StopLimitGTCConfig.modelValidate : PyValue → Except PyError StopLimitGTCConfig
  | .dict kvs => do
      let baseSize ← PyValue.requiredStr kvs "base_size"
      let limitPrice ← PyValue.requiredStr kvs "limit_price"
      let stopPrice ← PyValue.requiredStr kvs "stop_price"
      let stopDirection ← PyValue.requiredStr kvs "stop_direction"
      return ⟨baseSize, limitPrice, stopPrice, stopDirection⟩
  | _ => .error .validationError

def CreateOrderSuccess.modelValidate : PyValue → Except PyError CreateOrderSuccess
  | .dict kvs => do
      let orderId ← PyValue.requiredStr kvs "order_id"
      let productId ← PyValue.requiredStr kvs "product_id"
      let side ← requiredField (requireMember CoinbaseOrderSide.ofValue?) kvs "side"
      let clientOrderId ← PyValue.requiredStr kvs "client_order_id"
      return ⟨orderId, productId, side, clientOrderId⟩
  | _ => .error .validationError

def CreateOrderResponse.modelValidate : PyValue → Except PyError CreateOrderResponse
  | .dict kvs => do
      let success ← requiredField requireBool kvs "success"
      let orderId ← optionalField PyValue.requireStr kvs "order_id"
      let failureReason ← optionalField PyValue.requireStr kvs "failure_reason"
      let successResponse ← optionalField CreateOrderSuccess.modelValidate kvs "success_response"
      return ⟨success, orderId, failureReason, successResponse⟩
  | _ => .error .validationError

section Validation

variable {Time : Type} (datetime : PyValue → Except PyError Time)

def LimitGTDConfig.modelValidate : PyValue → Except PyError (LimitGTDConfig Time)
  | .dict kvs => do
      let gtc ← LimitGTCConfig.modelValidate (.dict kvs)
      let endTime ← requiredField datetime kvs "end_time"
      return ⟨gtc, endTime⟩
  | _ => .error .validationError

def OrderConfiguration.modelValidate : PyValue → Except PyError (OrderConfiguration Time)
  | .dict kvs => do
      let marketMarketIoc ← optionalField MarketIOCConfig.modelValidate kvs "market_market_ioc"
      let limitLimitGtc ← optionalField LimitGTCConfig.modelValidate kvs "limit_limit_gtc"
      let limitLimitGtd ←
        optionalField (LimitGTDConfig.modelValidate datetime) kvs "limit_limit_gtd"
      let stopLimitStopLimitGtc ←
        optionalField StopLimitGTCConfig.modelValidate kvs "stop_limit_stop_limit_gtc"
      return ⟨marketMarketIoc, limitLimitGtc, limitLimitGtd, stopLimitStopLimitGtc⟩
  | _ => .error .validationError

def Order.modelValidate : PyValue → Except PyError (Order Time)
  | .dict kvs => do
      let orderId ← PyValue.requiredStr kvs "order_id"
      let clientOrderId ← PyValue.requiredStr kvs "client_order_id"
      let productId ← PyValue.requiredStr kvs "product_id"
      let userId ← optionalField PyValue.requireStr kvs "user_id"
      let orderConfiguration ←
        optionalField (OrderConfiguration.modelValidate datetime) kvs "order_configuration"
      let side ← requiredField (requireMember CoinbaseOrderSide.ofValue?) kvs "side"
      let status ← requiredField (requireOneOf orderStatuses) kvs "status"
      let timeInForce ← optionalField (requireOneOf timesInForce) kvs "time_in_force"
      let createdTime ← optionalField datetime kvs "created_time"
      let filledSize ← PyValue.strField kvs "filled_size" "0"
      let averageFilledPrice ← PyValue.strField kvs "average_filled_price" "0"
      let totalFees ← PyValue.strField kvs "total_fees" "0"
      let filledValue ← PyValue.strField kvs "filled_value" "0"
      let completionPercentage ← PyValue.strField kvs "completion_percentage" "0"
      let numberOfFills ← PyValue.strField kvs "number_of_fills" "0"
      let pendingCancel ← boolField kvs "pending_cancel"
      let settled ← boolField kvs "settled"
      let rejectReason ← optionalField PyValue.requireStr kvs "reject_reason"
      let orderType ← optionalField (requireOneOf orderTypes) kvs "order_type"
      return ⟨orderId, clientOrderId, productId, userId, orderConfiguration, side, status,
        timeInForce, createdTime, filledSize, averageFilledPrice, totalFees, filledValue,
        completionPercentage, numberOfFills, pendingCancel, settled, rejectReason, orderType⟩
  | _ => .error .validationError

def ListOrdersResponse.modelValidate : PyValue → Except PyError (ListOrdersResponse Time)
  | .dict kvs => do
      let orders ← PyValue.requiredList kvs "orders"
      let orders ← orders.mapM (Order.modelValidate datetime)
      let sequence ← optionalField PyValue.requireStr kvs "sequence"
      let hasNext ← boolField kvs "has_next"
      let cursor ← optionalField PyValue.requireStr kvs "cursor"
      return ⟨orders, sequence, hasNext, cursor⟩
  | _ => .error .validationError

end Validation

/-! ## Placing -/

/-- `OrderType(text)`. -/
def orderTypeOf? (text : String) : Option Ib.OrderType :=
  [.limit, .market, .limitMaker, .stopLoss, .stopLossLimit].find? fun t => t.text = text

/-- A configuration as a value of the body. -/
def configValue (config : Dict String (Dict String PyValue)) : PyValue :=
  .dict (config.entries.map fun entry => (entry.1, .dict entry.2.entries))

/-- What an order is placed with. -/
structure Placement where
  clientId : String
  tradingPair : String
  orderType : Ib.OrderType
  side : String
  amount : Decimal
  price : Option Decimal

/-- The body of a `place_order` request, or the text of the `ValueError` raised before it. -/
def Placement.body (p : Placement) : Except String (Dict String PyValue) :=
  (buildOrderConfig p.orderType p.amount p.price).map fun config =>
    .ofList
      [("client_order_id", .str p.clientId), ("product_id", .str p.tradingPair),
        ("side", .str p.side), ("order_configuration", configValue config)]

/-- Exceptions that leave the gateway. -/
inductive GatewayError where
  | notStarted (message : String)
  | value (message : String)
  | request (e : RequestError)
  | python (e : PyError)
  | rejected (message : String)

/-- The reply to a placement: the id of the order, unless it was rejected. -/
def placed (clientId : String) (raw : PyValue) : Except GatewayError String :=
  match CreateOrderResponse.modelValidate raw with
  | .error e => .error (.python e)
  | .ok parsed =>
      if parsed.success then .ok clientId
      else
        let reason := parsed.failureReason.getD ""
        .error (.rejected (if reason = "" then "order rejected" else reason))

/-- Arguments of `place_order`. -/
structure PlaceOrderArgs where
  tradingPair : String
  orderType : String
  side : String
  amount : Decimal
  price : Option Decimal

/-- The order that is placed under a fresh UUID. -/
def PlaceOrderArgs.placement (args : PlaceOrderArgs) (uuid : String) (type : Ib.OrderType) :
    Placement :=
  ⟨"coinbase-" ++ uuid, args.tradingPair, type, args.side, args.amount, args.price⟩

/-- `place_order`; `uuid` is the text of a fresh UUID. -/
def placeOrder {L Charge : Type} (env : Env L Charge) (client : CoinbaseRestClient) (ready : Bool)
    (uuid : String) (args : PlaceOrderArgs) (st : CallState L) :
    CallState L × Except GatewayError String :=
  if ready = false then (st, .error (.notStarted "Gateway not started"))
  else
    match orderTypeOf? args.orderType with
    | none => (st, .error (.value ("'" ++ args.orderType ++ "' is not a valid OrderType")))
    | some type =>
        let placement := args.placement uuid type
        match placement.body with
        | .error message => (st, .error (.value message))
        | .ok body =>
            match client.request env { endpointName := "place_order", data := some body } st with
            | (st, .error e) => (st, .error (.request e))
            | (st, .ok response) => (st, placed placement.clientId (response.raw.getD .none))

/-! ## Listing -/

/-- `OpenOrder` -/
structure OpenOrder where
  clientOrderId : String
  exchangeOrderId : String
  tradingPair : String
  orderType : Ib.OrderType
  side : TradeType
  amount : Decimal
  price : Decimal
  filledAmount : Decimal
  status : String

/-- `Decimal(text)`. -/
def readDecimal (text : String) : Except PyError Numeral :=
  match Numeral.ofText? text with
  | some n => .ok n
  | none => .error .arithmeticError

/-- Validation of a `Decimal` field: infinities and NaNs are refused. -/
def requireFinite (n : Numeral) : Except PyError Decimal :=
  match n.finite? with
  | some d => .ok d
  | none => .error .validationError

/-- `first or second`, for texts. -/
def orText (first second : Option String) : Option String :=
  match first with
  | none => second
  | some text => if text = "" then second else some text

section Listing

variable {Time : Type} (datetime : PyValue → Except PyError Time)

/-- `_extract_order_details`. -/
def extractOrderDetails (cfg : OrderConfiguration Time) :
    Except PyError (Ib.OrderType × Numeral × Numeral) :=
  match cfg.limitLimitGtc, cfg.limitLimitGtd, cfg.marketMarketIoc with
  | some c, _, _ => do
      let amount ← readDecimal c.baseSize
      let price ← readDecimal c.limitPrice
      return (if c.postOnly then .limitMaker else .limit, amount, price)
  | none, some c, _ => do
      let amount ← readDecimal c.baseSize
      let price ← readDecimal c.limitPrice
      return (.limit, amount, price)
  | none, none, some mc => do
      let amount ← readDecimal ((orText mc.baseSize (orText mc.quoteSize (some "0"))).getD "")
      return (.market, amount, .finite (.ofNat 0))
  | none, none, none => .error .valueError

/-- `to_open_order`. -/
def toOpenOrder (order : Order Time) : Except PyError OpenOrder := do
  let (orderType, amount, price) ←
    match order.orderConfiguration with
    | some cfg => extractOrderDetails cfg
    | none => .ok (.limit, .finite (.ofNat 0), .finite (.ofNat 0))
  let side ← sideMap order.side.value
  let filledAmount ← readDecimal order.filledSize
  let amount ← requireFinite amount
  let price ← requireFinite price
  let filledAmount ← requireFinite filledAmount
  return ⟨order.clientOrderId, order.orderId, order.productId, orderType, side, amount, price,
    filledAmount, order.status⟩

/-- The orders `get_open_orders` returns for a reply. -/
def openOrders (raw : PyValue) : Except PyError (List OpenOrder) := do
  let parsed ← ListOrdersResponse.modelValidate datetime raw
  parsed.orders.mapM toOpenOrder

end Listing

/-! ## Configurations read back -/

/-- What is read of the text of a number that an order was placed with. -/
def readNumber (d : Decimal) : Except PyError Numeral :=
  if d.InRange then .ok (.finite d) else .error .arithmeticError

/-- The price of a listed order: none that was given for a market order. -/
def Placement.listedPrice (p : Placement) : Option Decimal :=
  if p.orderType = .market then some (.ofNat 0) else p.price

/-- What is read of the configuration of an order: a limit price that was `None` is no number. -/
def Placement.details (p : Placement) : Except PyError (Ib.OrderType × Numeral × Numeral) := do
  let amount ← readNumber p.amount
  match p.listedPrice with
  | none => .error .arithmeticError
  | some price =>
      let price ← readNumber price
      return (p.orderType, amount, price)

theorem readNumber_eq_ok {d : Decimal} {n : Numeral} :
    readNumber d = .ok n ↔ d.InRange ∧ n = .finite d := by
  unfold readNumber
  split_ifs with hrange
  · simp [hrange, eq_comm]
  · simp [hrange]

theorem requireFinite_eq_ok {n : Numeral} {d : Decimal} :
    requireFinite n = .ok d ↔ n = .finite d := by
  cases n <;> simp [requireFinite, Numeral.finite?]

theorem readDecimal_toText (d : Decimal) : readDecimal d.toText = readNumber d := by
  rw [readDecimal, Numeral.ofText?_toText, readNumber]
  split_ifs <;> rfl

theorem readDecimal_finite {text : String} {d : Decimal} :
    readDecimal text = .ok (.finite d) ↔ Decimal.ofText? text = some d := by
  unfold readDecimal Decimal.ofText?
  cases Numeral.ofText? text with
  | none => simp
  | some n => cases n <;> simp [Numeral.finite?]

theorem readDecimal_priceText (price : Option Decimal) :
    readDecimal (priceText price) =
      match price with
      | none => .error .arithmeticError
      | some price => readNumber price := by
  cases price with
  | none => decide
  | some price => exact readDecimal_toText price

/-- A limit configuration is valid, and amount and price are read from its texts. -/
theorem extractOrderDetails_limit {Time : Type} (datetime : PyValue → Except PyError Time)
    (postOnly : Bool) (amount : Decimal) (price : Option Decimal) :
    ∃ cfg, OrderConfiguration.modelValidate datetime (.dict [("limit_limit_gtc", .dict
        [("base_size", .str amount.toText), ("limit_price", .str (priceText price)),
          ("post_only", .bool postOnly)])]) = .ok cfg ∧
      extractOrderDetails cfg = do
        let amount ← readNumber amount
        match price with
        | none => .error .arithmeticError
        | some price =>
            let price ← readNumber price
            return (if postOnly then .limitMaker else .limit, amount, price) := by
  refine ⟨⟨none, some ⟨amount.toText, priceText price, postOnly⟩, none, none⟩, rfl, ?_⟩
  simp only [extractOrderDetails, readDecimal_toText, readDecimal_priceText]
  cases price <;> rfl

/-- A market configuration is valid, and the amount is read from its text. -/
theorem extractOrderDetails_market {Time : Type} (datetime : PyValue → Except PyError Time)
    (amount : Decimal) :
    ∃ cfg, OrderConfiguration.modelValidate datetime (.dict [("market_market_ioc", .dict
        [("base_size", .str amount.toText)])]) = .ok cfg ∧
      extractOrderDetails cfg = do
        let amount ← readNumber amount
        return (.market, amount, .finite (.ofNat 0)) := by
  refine ⟨⟨some ⟨none, some amount.toText⟩, none, none, none⟩, rfl, ?_⟩
  simp only [extractOrderDetails, orText, if_neg amount.toText_ne_empty, Option.getD_some,
    readDecimal_toText]

/-- The configuration of an order is valid, and its details are read from it. -/
theorem extractOrderDetails_built {Time : Type} (datetime : PyValue → Except PyError Time)
    (p : Placement) {config : Dict String (Dict String PyValue)}
    (h : buildOrderConfig p.orderType p.amount p.price = .ok config) :
    ∃ cfg, OrderConfiguration.modelValidate datetime (configValue config) = .ok cfg ∧
      extractOrderDetails cfg = p.details := by
  obtain ⟨clientId, tradingPair, orderType, side, amount, price⟩ := p
  cases orderType with
  | limit =>
      cases h
      exact extractOrderDetails_limit datetime false amount price
  | limitMaker =>
      cases h
      exact extractOrderDetails_limit datetime true amount price
  | market =>
      cases h
      exact extractOrderDetails_market datetime amount
  | stopLoss => cases h
  | stopLossLimit => cases h

/-! ## Listed orders -/

def TradeType.text : TradeType → String
  | .buy => "BUY"
  | .sell => "SELL"

/-- An entry of a listing that has the fields of an order as they were sent. -/
def Echoes (p : Placement) (entry : PyValue) : Prop :=
  ∃ kvs body, entry = .dict kvs ∧ p.body = .ok body ∧
    ∀ key v, body.get? key = some v → PyValue.field? kvs key = some v

/-- Orders that can be read back: those with a price, if they are limit orders, and with numbers
in the range of decimals. -/
def Placement.Readable (p : Placement) : Prop :=
  p.amount.InRange ∧ (∃ price ∈ p.listedPrice, price.InRange) ∧
    (p.side = "BUY" ∨ p.side = "SELL")

instance (p : Placement) : Decidable p.Readable :=
  inferInstanceAs (Decidable (_ ∧ (∃ price ∈ p.listedPrice, price.InRange) ∧ _))

/-- An open order that is the placed one. -/
structure ReadBack (p : Placement) (o : OpenOrder) : Prop where
  clientOrderId : o.clientOrderId = p.clientId
  tradingPair : o.tradingPair = p.tradingPair
  orderType : o.orderType = p.orderType
  side : o.side.text = p.side
  amount : o.amount = p.amount
  price : some o.price = p.listedPrice

section Listed

variable {Time : Type} {datetime : PyValue → Except PyError Time}

/-- The fields of a valid entry that the mixin reads. -/
theorem Order.modelValidate_fields {kvs : List (String × PyValue)} {order : Order Time}
    (h : Order.modelValidate datetime (.dict kvs) = .ok order) :
    PyValue.requiredStr kvs "client_order_id" = .ok order.clientOrderId ∧
      PyValue.requiredStr kvs "product_id" = .ok order.productId ∧
      optionalField (OrderConfiguration.modelValidate datetime) kvs "order_configuration" =
        .ok order.orderConfiguration ∧
      requiredField (requireMember CoinbaseOrderSide.ofValue?) kvs "side" = .ok order.side := by
  simp only [Order.modelValidate, bind_eq_ok] at h
  obtain ⟨_, _, _, hclient, _, hproduct, _, _, _, hconfig, _, hside, h⟩ := h
  obtain ⟨_, _, _, _, _, _, _, _, _, _, _, _, _, _, h⟩ := h
  obtain ⟨_, _, _, _, _, _, _, _, _, _, _, _, hreturn⟩ := h
  cases hreturn
  exact ⟨hclient, hproduct, hconfig, hside⟩

theorem CoinbaseOrderSide.value_of_ofValue? {text : String} {side : CoinbaseOrderSide}
    (h : CoinbaseOrderSide.ofValue? text = some side) : side.value = text := by
  have hfound := List.find?_some h
  simpa using hfound

/-- A valid entry with the fields of a placed order. -/
theorem Echoes.order {p : Placement} {entry : PyValue} {order : Order Time}
    (hechoes : Echoes p entry) (hvalid : Order.modelValidate datetime entry = .ok order) :
    order.clientOrderId = p.clientId ∧ order.productId = p.tradingPair ∧
      order.side.value = p.side ∧
      ∃ cfg, order.orderConfiguration = some cfg ∧ extractOrderDetails cfg = p.details := by
  obtain ⟨kvs, body, rfl, hbody, hfields⟩ := hechoes
  obtain ⟨hclient, hproduct, hconfig, hside⟩ := Order.modelValidate_fields hvalid
  obtain ⟨config, hbuilt, rfl⟩ := map_eq_ok.1 hbody
  obtain ⟨cfg, hcfg, hdetails⟩ := extractOrderDetails_built datetime p hbuilt
  rw [PyValue.requiredStr, hfields "client_order_id" (.str p.clientId) rfl] at hclient
  rw [PyValue.requiredStr, hfields "product_id" (.str p.tradingPair) rfl] at hproduct
  rw [requiredField, hfields "side" (.str p.side) rfl] at hside
  rw [optionalField, hfields "order_configuration" (configValue config) rfl] at hconfig
  refine ⟨(Except.ok.inj hclient).symm, (Except.ok.inj hproduct).symm, ?_, cfg, ?_, hdetails⟩
  · simp only [requireMember] at hside
    split at hside
    · rename_i side hvalue
      cases hside
      exact CoinbaseOrderSide.value_of_ofValue? hvalue
    · cases hside
  · have hsome : (OrderConfiguration.modelValidate datetime (configValue config)).map some =
        .ok order.orderConfiguration := hconfig
    rw [hcfg] at hsome
    exact (Except.ok.inj hsome).symm

theorem sideMap_value {side : CoinbaseOrderSide} {t : TradeType} :
    sideMap side.value = .ok t ↔ t.text = side.value := by
  cases side <;> cases t <;> decide

theorem details_eq_ok {p : Placement} {t : Ib.OrderType} {amount price : Numeral} :
    p.details = .ok (t, amount, price) ↔ t = p.orderType ∧
      (p.amount.InRange ∧ amount = .finite p.amount) ∧
        ∃ d ∈ p.listedPrice, d.InRange ∧ price = .finite d := by
  unfold Placement.details
  rw [bind_eq_ok]
  constructor
  · rintro ⟨read, hamount, h⟩
    cases hprice : p.listedPrice with
    | none => simp [hprice] at h
    | some d =>
        simp only [hprice, bind_eq_ok] at h
        obtain ⟨price', hread, hreturn⟩ := h
        cases hreturn
        exact ⟨rfl, readNumber_eq_ok.1 hamount, d, rfl, readNumber_eq_ok.1 hread⟩
  · rintro ⟨rfl, hamount, d, hprice, hread⟩
    refine ⟨amount, readNumber_eq_ok.2 hamount, ?_⟩
    rw [Option.mem_def.1 hprice]
    exact bind_eq_ok.2 ⟨price, readNumber_eq_ok.2 hread, rfl⟩

/-- An open order is read of an entry when its numbers can be read and are finite. -/
theorem toOpenOrder_eq_ok {p : Placement} {entry : PyValue} {order : Order Time} {o : OpenOrder}
    (hechoes : Echoes p entry) (hvalid : Order.modelValidate datetime entry = .ok order) :
    toOpenOrder order = .ok o ↔
      ∃ side price filled, sideMap order.side.value = .ok side ∧ p.amount.InRange ∧
        price ∈ p.listedPrice ∧ price.InRange ∧
          Decimal.ofText? order.filledSize = some filled ∧
            o = ⟨order.clientOrderId, order.orderId, order.productId, p.orderType, side, p.amount,
              price, filled, order.status⟩ := by
  obtain ⟨-, -, -, cfg, hcfg, hdetails⟩ := hechoes.order hvalid
  simp only [toOpenOrder, hcfg, hdetails, bind_eq_ok]
  constructor
  · rintro ⟨⟨t, amount, price⟩, hread, side, hmapped, filled, hfilled, amount', hamount', price',
      hprice', filled', hfilled', hreturn⟩
    cases hreturn
    obtain ⟨rfl, ⟨hrange, rfl⟩, d, hd, hdrange, rfl⟩ := details_eq_ok.1 hread
    cases hamount'
    cases hprice'
    refine ⟨side, price', filled', hmapped, hrange, hd, hdrange, ?_, rfl⟩
    rw [requireFinite_eq_ok.1 hfilled'] at hfilled
    exact readDecimal_finite.1 hfilled
  · rintro ⟨side, price, filled, hmapped, hrange, hd, hdrange, hfilled, rfl⟩
    exact ⟨_, details_eq_ok.2 ⟨rfl, ⟨hrange, rfl⟩, price, hd, hdrange, rfl⟩, side, hmapped, _,
      readDecimal_finite.2 hfilled, _, rfl, _, rfl, _, rfl, rfl⟩

/-- The entry of a placed order is read as an open order that is the placed one. -/
theorem toOpenOrder_of_echoes {p : Placement} {entry : PyValue} {order : Order Time}
    (hechoes : Echoes p entry) (hvalid : Order.modelValidate datetime entry = .ok order)
    {o : OpenOrder} (hopen : toOpenOrder order = .ok o) : ReadBack p o := by
  obtain ⟨hclient, hproduct, hside, -⟩ := hechoes.order hvalid
  obtain ⟨side, price, filled, hmapped, -, hprice, -, -, rfl⟩ :=
    (toOpenOrder_eq_ok hechoes hvalid).1 hopen
  exact ⟨hclient, hproduct, rfl, (sideMap_value.1 hmapped).trans hside, rfl, hprice.symm⟩

/-- It is read when the order can be read back and its filled size is a number. -/
theorem toOpenOrder_isOk_iff {p : Placement} {entry : PyValue} {order : Order Time}
    (hechoes : Echoes p entry) (hvalid : Order.modelValidate datetime entry = .ok order) :
    (∃ o, toOpenOrder order = .ok o) ↔
      p.Readable ∧ (Decimal.ofText? order.filledSize).isSome := by
  obtain ⟨-, -, hside, -⟩ := hechoes.order hvalid
  simp only [toOpenOrder_eq_ok hechoes hvalid, Placement.Readable, ← hside]
  constructor
  · rintro ⟨o, side, price, filled, hmapped, hrange, hprice, hpriceRange, hfilled, -⟩
    refine ⟨⟨hrange, ⟨price, hprice, hpriceRange⟩, ?_⟩, Option.isSome_of_eq_some hfilled⟩
    rw [← sideMap_value.1 hmapped]
    cases side <;> simp [TradeType.text]
  · rintro ⟨⟨hrange, ⟨price, hprice, hpriceRange⟩, hsides⟩, hfilled⟩
    obtain ⟨filled, hfilled⟩ := Option.isSome_iff_exists.1 hfilled
    obtain ⟨side, hmapped⟩ : ∃ side, sideMap order.side.value = .ok side := by
      rcases hsides with hbuy | hsell
      · exact ⟨.buy, by rw [hbuy]; rfl⟩
      · exact ⟨.sell, by rw [hsell]; rfl⟩
    exact ⟨_, side, price, filled, hmapped, hrange, hprice, hpriceRange, hfilled, rfl⟩

/-- The entries of a valid reply are its orders. -/
theorem ListOrdersResponse.modelValidate_orders {kvs : List (String × PyValue)}
    {entries : List PyValue} {parsed : ListOrdersResponse Time}
    (hentries : PyValue.field? kvs "orders" = some (.list entries))
    (h : ListOrdersResponse.modelValidate datetime (.dict kvs) = .ok parsed) :
    List.Forall₂ (fun entry order => Order.modelValidate datetime entry = .ok order) entries
      parsed.orders := by
  simp only [ListOrdersResponse.modelValidate, bind_eq_ok, PyValue.requiredList, hentries] at h
  obtain ⟨listed, hlisted, orders, horders, _, _, _, _, _, _, hreturn⟩ := h
  cases hlisted
  cases hreturn
  exact mapM_eq_ok.1 horders

/-- The orders of a listing are read one by one. -/
theorem forall₂_toOpenOrder {placements : List Placement} {entries : List PyValue}
    {orders : List (Order Time)} (hplaced : List.Forall₂ Echoes placements entries)
    (hvalid : List.Forall₂ (fun entry order => Order.modelValidate datetime entry = .ok order)
      entries orders) :
    ((∃ opened, List.Forall₂ (fun order o => toOpenOrder order = .ok o) orders opened) ↔
      (∀ p ∈ placements, p.Readable) ∧
        ∀ order ∈ orders, (Decimal.ofText? order.filledSize).isSome) ∧
    ∀ opened, List.Forall₂ (fun order o => toOpenOrder order = .ok o) orders opened →
      List.Forall₂ ReadBack placements opened := by
  induction hplaced generalizing orders with
  | nil =>
      cases hvalid
      refine ⟨iff_of_true ⟨[], .nil⟩ (by simp), fun opened h => ?_⟩
      cases h
      exact .nil
  | cons hechoes _ ih =>
      cases hvalid with
      | cons hfirst hrest =>
          obtain ⟨hreadable, hback⟩ := ih hrest
          have hone := toOpenOrder_isOk_iff hechoes hfirst
          constructor
          · simp only [List.forall_mem_cons]
            constructor
            · rintro ⟨opened, hopened⟩
              cases hopened with
              | cons ho hothers =>
                  obtain ⟨hp, hsize⟩ := hone.1 ⟨_, ho⟩
                  obtain ⟨hps, hsizes⟩ := hreadable.1 ⟨_, hothers⟩
                  exact ⟨⟨hp, hps⟩, hsize, hsizes⟩
            · rintro ⟨⟨hp, hps⟩, hsize, hsizes⟩
              obtain ⟨o, ho⟩ := hone.2 ⟨hp, hsize⟩
              obtain ⟨opened, hothers⟩ := hreadable.2 ⟨hps, hsizes⟩
              exact ⟨o :: opened, .cons ho hothers⟩
          · intro opened hopened
            cases hopened with
            | cons ho hothers =>
                exact .cons (toOpenOrder_of_echoes hechoes hfirst ho) (hback _ hothers)

/-- A listing of placed orders is read when each of them can be, and then it gives each order
back as it was placed, in the order of the listing. -/
theorem openOrders_of_placed {placements : List Placement} {kvs : List (String × PyValue)}
    {entries : List PyValue} {parsed : ListOrdersResponse Time}
    (hplaced : List.Forall₂ Echoes placements entries)
    (hentries : PyValue.field? kvs "orders" = some (.list entries))
    (hvalid : ListOrdersResponse.modelValidate datetime (.dict kvs) = .ok parsed) :
    ((∃ orders, openOrders datetime (.dict kvs) = .ok orders) ↔
      (∀ p ∈ placements, p.Readable) ∧
        ∀ order ∈ parsed.orders, (Decimal.ofText? order.filledSize).isSome) ∧
    ∀ orders, openOrders datetime (.dict kvs) = .ok orders →
      List.Forall₂ ReadBack placements orders := by
  have hread : ∀ orders, openOrders datetime (.dict kvs) = .ok orders ↔
      List.Forall₂ (fun order o => toOpenOrder order = .ok o) parsed.orders orders := by
    intro orders
    simp only [openOrders, hvalid]
    exact mapM_eq_ok
  simp only [hread]
  exact forall₂_toOpenOrder hplaced (ListOrdersResponse.modelValidate_orders hentries hvalid)

end Listed

/-- A limit order and a market order. -/
def limitPlacement : Placement :=
  ⟨"coinbase-1", "BTC-USD", .limit, "BUY", ⟨false, 15, -1⟩, some ⟨false, 30000, 0⟩⟩

def marketPlacement : Placement :=
  ⟨"coinbase-2", "ETH-USD", .market, "SELL", ⟨false, 1, -7⟩, none⟩

/-- The entry of an order in a listing. -/
def listingEntry (p : Placement) : PyValue :=
  match p.body with
  | .ok body => .dict (body.entries ++ [("order_id", .str "X"), ("status", .str "OPEN")])
  | .error _ => .none

/-- A listing of both is read, and gives both back. -/
theorem openOrders_of_placed_two :
    (∃ orders, openOrders (fun _ => .ok ()) (.dict [("orders",
        .list [listingEntry limitPlacement, listingEntry marketPlacement])]) = .ok orders) ∧
      ∀ orders, openOrders (fun _ => .ok ()) (.dict [("orders",
          .list [listingEntry limitPlacement, listingEntry marketPlacement])]) = .ok orders →
        List.Forall₂ ReadBack [limitPlacement, marketPlacement] orders := by
  have hechoes : ∀ p : Placement, ∀ body, p.body = .ok body → Echoes p (listingEntry p) := by
    intro p body hbody
    refine ⟨body.entries ++ [("order_id", .str "X"), ("status", .str "OPEN")], body, ?_, hbody,
      fun key v hkey => Dict.lookupEntries_append hkey _⟩
    rw [listingEntry, hbody]
  have hplaced : List.Forall₂ Echoes [limitPlacement, marketPlacement]
      [listingEntry limitPlacement, listingEntry marketPlacement] :=
    .cons (hechoes _ _ rfl) (.cons (hechoes _ _ rfl) .nil)
  have hparsed : ∃ parsed : ListOrdersResponse Unit,
      ListOrdersResponse.modelValidate (fun _ => .ok ()) (.dict [("orders",
        .list [listingEntry limitPlacement, listingEntry marketPlacement])]) = .ok parsed ∧
      parsed.orders.map Order.filledSize = ["0", "0"] := ⟨_, rfl, rfl⟩
  obtain ⟨parsed, hvalid, hsizes⟩ := hparsed
  obtain ⟨hreads, hback⟩ := openOrders_of_placed hplaced rfl hvalid
  refine ⟨hreads.2 ⟨by decide, fun order horder => ?_⟩, hback⟩
  have hsize := List.mem_map_of_mem (f := Order.filledSize) horder
  rw [hsizes] at hsize
  simp only [List.mem_cons, List.not_mem_nil, or_false, or_self] at hsize
  rw [hsize]
  decide

/-! ## One body for all attempts -/

/-- A request with data and a signer sends the text of its data. -/
theorem plannedCall_content {L Charge : Type} {env : Env L Charge} {client : Client}
    {args : CallArgs} {st : CallState L} {call : HttpCall} {sign : Signer}
    {data : Dict String PyValue} (hsigner : args.signer = some sign) (hdata : args.data = some data)
    (hsize : data.size ≠ 0) (h : plannedCall env client args st = some call) :
    ∃ text, env.jsonDumps data = .ok text ∧ call.content = some text := by
  unfold plannedCall at h
  split at h
  · cases h
  split at h
  · cases h
  split at h
  · cases h
  split at h
  · unfold chargedCall at h
    cases hdumps : env.jsonDumps data with
    | error e =>
        have hbody : bodyStr env args = .error (.notSerializable e) := by
          simp [bodyStr, hsigner, hdata, hsize, hdumps]
        simp [hbody] at h
    | ok text =>
        have hbody : bodyStr env args = .ok (some text) := by
          simp [bodyStr, hsigner, hdata, hsize, hdumps]
        simp only [hbody] at h
        obtain ⟨req, -, rfl⟩ := Option.map_eq_some_iff.1 h
        exact ⟨text, rfl, rfl⟩
  · cases h

/-- The body of an order is not empty. -/
theorem Placement.size_body {p : Placement} {body : Dict String PyValue}
    (h : p.body = .ok body) : body.size = 4 := by
  obtain ⟨config, -, rfl⟩ := map_eq_ok.1 h
  rfl

/-- What the client sends for a body: one call, once or more often. -/
theorem request_sends_body {L Charge : Type} (env : Env L Charge) (client : CoinbaseRestClient)
    {body : Dict String PyValue} (hsize : body.size ≠ 0) (limiter : L)
    (registered : List String) :
    sentCalls (client.request env { endpointName := "place_order", data := some body }
        (.start limiter registered)).1.actions = [] ∨
      ∃ call made text, env.jsonDumps body = .ok text ∧ call.content = some text ∧
        made ≤ (client.base.maxRetries + 1).toNat ∧
        sentCalls (client.request env { endpointName := "place_order", data := some body }
          (.start limiter registered)).1.actions = List.replicate made call := by
  unfold CoinbaseRestClient.request
  cases client.base.endpoints.get? "place_order" with
  | none => exact Or.inl rfl
  | some endpoint =>
      dsimp only
      rw [request_sends]
      cases hplanned : plannedCall env client.base (client.superArgs endpoint
          { endpointName := "place_order", data := some body }) (.start limiter registered) with
      | none => exact Or.inl rfl
      | some call =>
          obtain ⟨text, htext, hcontent⟩ := plannedCall_content rfl rfl hsize hplanned
          exact Or.inr ⟨call, _, text, htext, hcontent, attemptsMade_le .., rfl⟩

/-- A placement sends one body however often it is attempted, or nothing. -/
structure SendsOneBody {L Charge : Type} (env : Env L Charge) (client : CoinbaseRestClient)
    (uuid : String) (args : PlaceOrderArgs) (calls : List HttpCall) : Prop where
  once : calls = [] ∨ ∃ type body call made text,
    orderTypeOf? args.orderType = some type ∧ (args.placement uuid type).body = .ok body ∧
      env.jsonDumps body = .ok text ∧ call.content = some text ∧
      made ≤ (client.base.maxRetries + 1).toNat ∧ calls = List.replicate made call

/-- The last of some attempts was answered with success. -/
def Acknowledged {L Charge : Type} (env : Env L Charge) (calls : List HttpCall) : Prop :=
  ∃ call made reply raw parsed, calls = List.replicate (made + 1) call ∧
    env.reply made call = .returned reply ∧ decodeBody reply = .ok raw ∧
    CreateOrderResponse.modelValidate (raw.getD .none) = .ok parsed ∧ parsed.success = true

theorem placed_eq_ok {clientId id : String} {raw : PyValue} (h : placed clientId raw = .ok id) :
    id = clientId ∧ ∃ parsed, CreateOrderResponse.modelValidate raw = .ok parsed ∧
      parsed.success = true := by
  unfold placed at h
  cases hparsed : CreateOrderResponse.modelValidate raw with
  | error e => simp [hparsed] at h
  | ok parsed =>
      simp only [hparsed] at h
      split_ifs at h with hsuccess
      cases h
      exact ⟨rfl, parsed, rfl, hsuccess⟩

/-- `place_order` sends one body, under one client id, however often the request is attempted;
it returns that id only if the exchange acknowledged the last attempt. -/
theorem placeOrder_sends {L Charge : Type} (env : Env L Charge) (client : CoinbaseRestClient)
    (ready : Bool) (uuid : String) (args : PlaceOrderArgs) (limiter : L)
    (registered : List String) :
    SendsOneBody env client uuid args
        (sentCalls (placeOrder env client ready uuid args (.start limiter registered)).1.actions) ∧
      ∀ id, (placeOrder env client ready uuid args (.start limiter registered)).2 = .ok id →
        id = "coinbase-" ++ uuid ∧ Acknowledged env
          (sentCalls (placeOrder env client ready uuid args
            (.start limiter registered)).1.actions) := by
  have hquiet : sentCalls (CallState.start limiter registered).actions = [] := rfl
  unfold placeOrder
  split_ifs with hready
  · exact ⟨⟨Or.inl hquiet⟩, fun id h => by cases h⟩
  cases htype : orderTypeOf? args.orderType with
  | none => exact ⟨⟨Or.inl hquiet⟩, fun id h => by cases h⟩
  | some type =>
  dsimp only
  cases hbody : (args.placement uuid type).body with
  | error message => exact ⟨⟨Or.inl hquiet⟩, fun id h => by cases h⟩
  | ok body =>
  have hsize : body.size ≠ 0 := by
    rw [Placement.size_body hbody]
    decide
  have hsends := request_sends_body env client hsize limiter registered
  have hanswered : ∀ response, (client.request env
      { endpointName := "place_order", data := some body } (.start limiter registered)).2 =
        .ok response → ∃ call made reply,
          sentCalls (client.request env { endpointName := "place_order", data := some body }
            (.start limiter registered)).1.actions = List.replicate (made + 1) call ∧
          env.reply made call = .returned reply ∧ decodeBody reply = .ok response.raw := by
    intro response hok
    unfold CoinbaseRestClient.request at hok ⊢
    split at hok
    · cases hok
    · exact request_ok hok
  dsimp only
  rcases hrun : client.request env { endpointName := "place_order", data := some body }
    (.start limiter registered) with ⟨after, result⟩
  rw [hrun] at hsends hanswered
  have hone : SendsOneBody env client uuid args (sentCalls after.actions) := by
    refine ⟨hsends.imp_right ?_⟩
    rintro ⟨call, made, text, htext, hcontent, hmade, hcalls⟩
    exact ⟨type, body, call, made, text, htype, hbody, htext, hcontent, hmade, hcalls⟩
  cases result with
  | error e => exact ⟨hone, fun id h => by cases h⟩
  | ok response =>
      refine ⟨hone, fun id h => ?_⟩
      obtain ⟨hid, parsed, hparsed, hsuccess⟩ := placed_eq_ok h
      obtain ⟨call, made, reply, hcalls, hreply, hraw⟩ := hanswered response rfl
      exact ⟨hid, call, made, reply, response.raw, parsed, hcalls, hreply, hraw, hparsed, hsuccess⟩

end Coinbase
end MarketConnector
