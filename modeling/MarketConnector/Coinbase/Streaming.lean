import MarketConnector.Ws.Routing

/-!
# Coinbase - From an envelope to a callback

The mixin registers its handlers under a channel and a product.  The decoder reads the
channel of an envelope and no pair, so routing looks for a channel-wide registration.

Main results:

- Theorem `tableOf_pairsRegistered`: the mixin registers nothing channel-wide.
- Theorem `deliversMatching_iff`: an envelope is delivered as it should be exactly
  when it contains nothing to deliver.
-/

namespace MarketConnector
namespace Coinbase

open Foundations Ws

/-! ## Schemas -/

/-- One level of an order-book event. -/
structure Level2Update where
  side : String
  eventTime : String
  priceLevel : String
  newQuantity : String
deriving DecidableEq

structure Level2Event where
  type : String
  productId : String
  updates : List Level2Update
deriving DecidableEq

structure MarketTrade where
  tradeId : String
  productId : String
  price : String
  size : String
  side : String
  time : String
deriving DecidableEq

structure MarketTradesEvent where
  type : String
  trades : List MarketTrade
deriving DecidableEq

def Level2Update.modelValidate : PyValue → Except PyError Level2Update
  | .dict kvs => do
      return {
        side := ← PyValue.requiredStr kvs "side"
        eventTime := ← PyValue.requiredStr kvs "event_time"
        priceLevel := ← PyValue.requiredStr kvs "price_level"
        newQuantity := ← PyValue.requiredStr kvs "new_quantity" }
  | _ => .error .validationError

def Level2Event.modelValidate : PyValue → Except PyError Level2Event
  | .dict kvs => do
      let type ← PyValue.requiredStr kvs "type"
      let productId ← PyValue.requiredStr kvs "product_id"
      let updates ← PyValue.requiredList kvs "updates"
      let updates ← updates.mapM Level2Update.modelValidate
      return { type := type, productId := productId, updates := updates }
  | _ => .error .validationError

def MarketTrade.modelValidate : PyValue → Except PyError MarketTrade
  | .dict kvs => do
      return {
        tradeId := ← PyValue.requiredStr kvs "trade_id"
        productId := ← PyValue.requiredStr kvs "product_id"
        price := ← PyValue.requiredStr kvs "price"
        size := ← PyValue.requiredStr kvs "size"
        side := ← PyValue.requiredStr kvs "side"
        time := ← PyValue.requiredStr kvs "time" }
  | _ => .error .validationError

def MarketTradesEvent.modelValidate : PyValue → Except PyError MarketTradesEvent
  | .dict kvs => do
      let type ← PyValue.requiredStr kvs "type"
      let trades ← PyValue.requiredList kvs "trades"
      let trades ← trades.mapM MarketTrade.modelValidate
      return { type := type, trades := trades }
  | _ => .error .validationError

/-! ## Converters -/

/-- Readers of decimal texts and ISO timestamps. -/
structure Numerals (Dec Time : Type) where
  decimal : String → Option Dec
  isoTimestamp : String → Option Time

inductive TradeType where
  | buy | sell
deriving DecidableEq

/-- Incremental order book delta. -/
structure OrderBookUpdate (Dec : Type) where
  tradingPair : String
  bids : List (Dec × Dec)
  asks : List (Dec × Dec)
  updateId : Nat

/-- A single public trade. -/
structure TradeEvent (Dec Time : Type) where
  exchangeTradeId : String
  tradingPair : String
  price : Dec
  amount : Dec
  side : TradeType
  timestamp : Time

section Converters

variable {Dec Time : Type} (num : Numerals Dec Time)

/-- `Decimal(text)`. -/
def toDecimal (text : String) : Except PyError Dec :=
  match num.decimal text with
  | some d => .ok d
  | none => .error .arithmeticError

/-- Price and quantity of the updates of one side. -/
def sideLevels (side : String) (updates : List Level2Update) :
    Except PyError (List (Dec × Dec)) :=
  (updates.filter fun u => u.side = side).mapM fun u => do
    let price ← toDecimal num u.priceLevel
    let quantity ← toDecimal num u.newQuantity
    return (price, quantity)

/-- `to_orderbook_update`. -/
def toOrderbookUpdate (event : Level2Event) (updateId : Nat) :
    Except PyError (OrderBookUpdate Dec) := do
  let bids ← sideLevels num "bid" event.updates
  let asks ← sideLevels num "offer" event.updates
  return { tradingPair := event.productId, bids := bids, asks := asks, updateId := updateId }

/-- `_SIDE_MAP[side]`. -/
def sideMap (side : String) : Except PyError TradeType :=
  if side = "BUY" then .ok .buy
  else if side = "SELL" then .ok .sell
  else .error .keyError

/-- `to_trade_event`. -/
def toTradeEvent (trade : MarketTrade) : Except PyError (TradeEvent Dec Time) := do
  let timestamp ← match num.isoTimestamp (trade.time.replace "Z" "+00:00") with
    | some t => .ok t
    | none => .error .valueError
  let price ← toDecimal num trade.price
  let amount ← toDecimal num trade.size
  let side ← sideMap trade.side
  return {
    exchangeTradeId := trade.tradeId
    tradingPair := trade.productId
    price := price
    amount := amount
    side := side
    timestamp := timestamp }

end Converters

/-! ## Subscriptions -/

/-- Subscriptions of the mixin, for one product. -/
inductive Subscription where
  | orderbook (productId : String)
  | trades (productId : String)
deriving DecidableEq

def Subscription.channel : Subscription → String
  | .orderbook _ => "level2"
  | .trades _ => "market_trades"

def Subscription.productId : Subscription → String
  | .orderbook p => p
  | .trades p => p

/-- Values handed to callbacks. -/
inductive Event (Dec Time : Type) where
  | orderbook (update : OrderBookUpdate Dec)
  | trade (event : TradeEvent Dec Time)

/-- A registered handler: subscription, callback, and the update counter it closes
over. -/
structure Handler where
  subscription : Subscription
  callback : Nat
  updateId : Nat

section Handlers

variable {Dec Time : Type} (num : Numerals Dec Time)

/-- Order-book dispatch over the events of a message. -/
def dispatchBook (h : Handler) : List PyValue → HandlerRun Handler (Nat × Event Dec Time)
  | [] => ⟨h, [], none⟩
  | evt :: events =>
      match evt.items with
      | .error e => ⟨h, [], some e⟩
      | .ok kvs =>
          if (PyValue.get? kvs "product_id").asStr? ≠ some h.subscription.productId then
            dispatchBook h events
          else match Level2Event.modelValidate evt with
            | .error e => ⟨h, [], some e⟩
            | .ok level2 =>
                let h := { h with updateId := h.updateId + 1 }
                match toOrderbookUpdate num level2 h.updateId with
                | .error e => ⟨h, [], some e⟩
                | .ok update =>
                    let rest := dispatchBook h events
                    ⟨rest.handler, (h.callback, .orderbook update) :: rest.delivered,
                      rest.error⟩

/-- Dispatch of the trades of one event. -/
def dispatchTrades (h : Handler) :
    List MarketTrade → List (Nat × Event Dec Time) × Option PyError
  | [] => ([], none)
  | trade :: trades =>
      if trade.productId ≠ h.subscription.productId then dispatchTrades h trades
      else match toTradeEvent num trade with
        | .error e => ([], some e)
        | .ok event =>
            let rest := dispatchTrades h trades
            ((h.callback, .trade event) :: rest.1, rest.2)

/-- Trade dispatch over the events of a message. -/
def dispatchTradeEvents (h : Handler) :
    List PyValue → List (Nat × Event Dec Time) × Option PyError
  | [] => ([], none)
  | evt :: events =>
      match MarketTradesEvent.modelValidate evt with
      | .error e => ([], some e)
      | .ok mte =>
          match dispatchTrades num h mte.trades with
          | (delivered, some e) => (delivered, some e)
          | (delivered, none) =>
              let rest := dispatchTradeEvents h events
              (delivered ++ rest.1, rest.2)

/-- `_dispatch(msg)`; anything but an object has no `get`. -/
def runHandler (h : Handler) (msg : PyValue) : HandlerRun Handler (Nat × Event Dec Time) :=
  match msg.items with
  | .error e => ⟨h, [], some e⟩
  | .ok kvs =>
      match ((PyValue.field? kvs "events").getD (.list [])).iterate with
      | .error e => ⟨h, [], some e⟩
      | .ok events =>
          match h.subscription with
          | .orderbook _ => dispatchBook num h events
          | .trades _ =>
              let out := dispatchTradeEvents num h events
              ⟨h, out.1, out.2⟩

end Handlers

/-! ## Decoder -/

/-- The decoder built from `COINBASE_WS_SHAPE_DECODER_SPEC`. -/
def coinbaseWsDecoder : JsonEnvelopeDecoder where
  channelField := .key "channel"
  pairField := none
  payloadField := "events"
  kindDispatch := Dict.ofList
    [("heartbeats", .heartbeat), ("subscriptions", .subscribeAck), ("l2_data", .data),
      ("market_trades", .data), ("user", .data)]
  errorField := none

/-- Channels of the envelopes with market data. -/
inductive DataChannel where
  | l2Data | marketTrades
deriving DecidableEq

def DataChannel.name : DataChannel → String
  | .l2Data => "l2_data"
  | .marketTrades => "market_trades"

/-- An envelope `{channel, timestamp, events, ...}`. -/
structure Envelope where
  channel : DataChannel
  timestamp : String
  events : List PyValue
  extra : List (String × PyValue) := []

def Envelope.raw (envelope : Envelope) : PyValue :=
  .dict ([("channel", .str envelope.channel.name), ("timestamp", .str envelope.timestamp),
    ("events", .list envelope.events)] ++ envelope.extra)

/-! ## Runs of the gateway -/

/-- Operations of the mixin, and frames that arrive. -/
inductive GatewayOp where
  | enter (callback : Nat) (sub : Subscription)
  | leave (sub : Subscription)
  | frame (raw : PyValue)
  | clear

section Gateway

variable {Dec Time : Type} (num : Numerals Dec Time) (reprText : PyValue → String)

/-- Decode and route one frame. -/
def feed (t : WsRoutingTable Handler) (raw : PyValue) :
    FrameOutcome Handler (Nat × Event Dec Time) :=
  processFrame (runHandler num) (coinbaseWsDecoder.decode reprText) t raw

def applyOp (t : WsRoutingTable Handler) : GatewayOp → WsRoutingTable Handler
  | .enter callback sub => t.subscribe sub.channel (some sub.productId) ⟨sub, callback, 0⟩
  | .leave sub => t.unsubscribe sub.channel (some sub.productId)
  | .frame raw => (feed num reprText t raw).table
  | .clear => t.clear

/-- Routing table after a sequence of operations. -/
def tableOf (ops : List GatewayOp) : WsRoutingTable Handler :=
  ops.foldl (applyOp num reprText) .empty

end Gateway

/-! ## Nothing is registered channel-wide -/

/-- Every registration has a pair. -/
def PairsRegistered (t : WsRoutingTable Handler) : Prop :=
  ∀ k ∈ t.subscriptions.keys, k.2 ≠ none

section Delivery

variable {Dec Time : Type} (num : Numerals Dec Time) (reprText : PyValue → String)

theorem PairsRegistered.applyOp {t : WsRoutingTable Handler} (h : PairsRegistered t)
    (op : GatewayOp) : PairsRegistered (applyOp num reprText t op) := by
  intro k hk
  cases op with
  | enter callback sub =>
      rcases WsRoutingTable.mem_keys_subscribe hk with hnew | hold
      · rw [hnew]
        exact Option.some_ne_none _
      · exact h k hold
  | leave sub => exact h k (WsRoutingTable.mem_keys_unsubscribe hk)
  | frame raw =>
      have hsame : (Coinbase.applyOp num reprText t (.frame raw)).subscriptions =
          t.subscriptions := processFrame_subscriptions ..
      exact h k (hsame ▸ hk)
  | clear => exact h k (WsRoutingTable.mem_keys_clear hk)

/-- The mixin registers nothing channel-wide. -/
theorem tableOf_pairsRegistered (ops : List GatewayOp) :
    PairsRegistered (tableOf num reprText ops) := by
  have hempty : PairsRegistered .empty := by
    intro k hk
    cases hk
  exact List.foldlRecOn ops (Coinbase.applyOp num reprText) hempty fun _ ht op _ =>
    ht.applyOp num reprText op

/-- Without a pair there is nothing to route to. -/
theorem PairsRegistered.route_none {t : WsRoutingTable Handler} (h : PairsRegistered t)
    (channel : String) : t.route channel none = none := by
  unfold WsRoutingTable.route
  have hnot : t.subscriptions.contains (channel, none) ≠ true := by
    intro hcontains
    exact h _ (t.subscriptions.mem_keys_iff.2 hcontains) rfl
  simp [hnot]

/-- No envelope reaches a callback of the mixin. -/
theorem feed_envelope (ops : List GatewayOp) (envelope : Envelope) :
    (feed num reprText (tableOf num reprText ops) envelope.raw).delivered = [] := by
  apply processFrame_delivered_nil
  intro msg key hdecode _ hroute
  have hkeys : msg.channel = .str envelope.channel.name ∧ msg.pair = .none := by
    cases hdecode
    cases envelope.channel <;> exact ⟨rfl, rfl⟩
  rw [hkeys.1, hkeys.2] at hroute
  have hnone : (tableOf num reprText ops).routeValue
      (if (PyValue.str envelope.channel.name).truthy then .str envelope.channel.name
        else .str "") .none = .ok none := by
    have hchannel : (PyValue.str envelope.channel.name).truthy = true := by
      cases envelope.channel <;> decide
    rw [if_pos hchannel]
    show Except.ok ((tableOf num reprText ops).route envelope.channel.name none) = .ok none
    rw [(tableOf_pairsRegistered num reprText ops).route_none]
  rw [hnone] at hroute
  cases hroute

/-! ## What should be delivered -/

/-- The value has this text under `product_id`. -/
def hasProduct (productId : String) : PyValue → Bool
  | .dict kvs => (PyValue.get? kvs "product_id").asStr? = some productId
  | _ => false

/-- Trades of an event. -/
def tradesOf : PyValue → List PyValue
  | .dict kvs =>
      match PyValue.get? kvs "trades" with
      | .list trades => trades
      | _ => []
  | _ => []

/-- Events, or trades, of an envelope that a subscription is about. -/
def matching (sub : Subscription) (envelope : Envelope) : List PyValue :=
  match sub, envelope.channel with
  | .orderbook productId, .l2Data => envelope.events.filter (hasProduct productId)
  | .trades productId, .marketTrades =>
      (envelope.events.flatMap tradesOf).filter (hasProduct productId)
  | _, _ => []

/-- The value a callback gets is built from an event or trade. -/
def BuiltFrom (raw : PyValue) : Event Dec Time → Prop
  | .orderbook update => ∃ event updateId, Level2Event.modelValidate raw = .ok event ∧
      toOrderbookUpdate num event updateId = .ok update
  | .trade event => ∃ trade, MarketTrade.modelValidate raw = .ok trade ∧
      toTradeEvent num trade = .ok event

/-- The callback is invoked once for every matching event or trade, in order, with a
value built from it, and for no other. -/
def DeliversMatching (ops : List GatewayOp) (callback : Nat) (sub : Subscription)
    (envelope : Envelope) : Prop :=
  List.Forall₂ (BuiltFrom num) (matching sub envelope)
    (((feed num reprText (tableOf num reprText ops) envelope.raw).delivered.filter
      fun d => d.1 = callback).map Prod.snd)

/-- Whatever is subscribed, an envelope is delivered as it should be exactly when
nothing in it is about the product. -/
theorem deliversMatching_iff (ops : List GatewayOp) (callback : Nat) (sub : Subscription)
    (envelope : Envelope) :
    DeliversMatching num reprText ops callback sub envelope ↔ matching sub envelope = [] := by
  unfold DeliversMatching
  rw [feed_envelope]
  exact List.forall₂_nil_right_iff

end Delivery

/-- Decimals and timestamps kept as texts. -/
def textNumerals : Numerals String String where
  decimal := some
  isoTimestamp := some

/-- An order-book update of one product. -/
def btcUpdate : Envelope where
  channel := .l2Data
  timestamp := "2024-01-01T00:00:00Z"
  events := [.dict [("type", .str "update"), ("product_id", .str "BTC-USD"),
    ("updates", .list [.dict [("side", .str "bid"), ("event_time", .str "t"),
      ("price_level", .str "1"), ("new_quantity", .str "2")]])]]

/-- An update of a subscribed product is not delivered. -/
theorem btcUpdate_not_delivered :
    (matching (.orderbook "BTC-USD") btcUpdate).length = 1 ∧
      (tableOf textNumerals (fun _ => "") [.enter 7 (.orderbook "BTC-USD")]).size = 1 ∧
      (feed textNumerals (fun _ => "")
        (tableOf textNumerals (fun _ => "") [.enter 7 (.orderbook "BTC-USD")])
        btcUpdate.raw).delivered = [] ∧
      ¬ DeliversMatching textNumerals (fun _ => "") [.enter 7 (.orderbook "BTC-USD")] 7
        (.orderbook "BTC-USD") btcUpdate := by
  refine ⟨rfl, rfl, rfl, ?_⟩
  intro h
  cases h

end Coinbase
end MarketConnector
