import MarketConnector.Kraken.WsSchemas
import MarketConnector.Ws.Routing

/-!
# Kraken - From a data frame to a callback

A subscription registers a handler under its channel and pair.  The transport decodes
a frame, routes it and hands the decoded payload to the handler, and the handler
decodes what it gets as if it were the frame.

Main results:

- Theorem `krakenWsDecoder_dict`: no object decodes to data.
- Theorem `tableOf_keysMatch`: handlers stay under the key of their subscription.
- Theorem `not_deliversOnce`: no data frame of any channel reaches its callback.
-/

namespace MarketConnector
namespace Kraken

open Foundations Ws

/-! ## Decoder -/

/-- `raw.get("event") == event` for an object. -/
def isEvent (event : String) : PyValue → Bool
  | .dict kvs => (PyValue.get? kvs "event").asStr? = some event
  | _ => false

/-- The positional decoder behind `KrakenWsDecoder`. -/
def krakenInnerDecoder : PositionalArrayDecoder where
  channelIndex := -2
  pairIndex := some (-1)
  payloadIndex := 1
  heartbeatPredicate := none
  subscribeAckPredicate := some (isEvent "subscriptionStatus")

/-- `KrakenWsDecoder.decode`. -/
def krakenWsDecoder (raw : PyValue) : Except PyError NormalizedWsMessage :=
  if isEvent "heartbeat" raw then
    .ok { kind := .heartbeat, channel := .none, pair := .none, payload := raw, error := .none }
  else if isEvent "systemStatus" raw then
    .ok { kind := .unknown, channel := .none, pair := .none, payload := raw, error := .none }
  else krakenInnerDecoder.decode raw

/-- No object decodes to data. -/
theorem krakenWsDecoder_dict {kvs : List (String × PyValue)} {msg : NormalizedWsMessage}
    (h : krakenWsDecoder (.dict kvs) = .ok msg) : msg.kind ≠ .data := by
  unfold krakenWsDecoder PositionalArrayDecoder.decode at h
  split_ifs at h <;> cases h <;> simp

/-- An array frame is read by position. -/
theorem krakenWsDecoder_list (xs : List PyValue) :
    krakenWsDecoder (.list xs) = krakenInnerDecoder.readFrame .data xs := by
  unfold krakenWsDecoder
  rw [if_neg (by simp [isEvent]), if_neg (by simp [isEvent])]
  exact PositionalArrayDecoder.decode_list (by simp [krakenInnerDecoder, isEvent])
    (by simp [krakenInnerDecoder])

/-! ## Subscriptions -/

/-- Subscriptions of the mixin. -/
inductive Subscription where
  | orderbook (pair : String) (depth : Int)
  | trades (pair : String)
  | ownTrades
  | openOrders
deriving DecidableEq

/-- Channel a subscription registers its handler under. -/
def Subscription.channel : Subscription → String
  | .orderbook _ depth => "book-" ++ toString depth
  | .trades _ => "trade"
  | .ownTrades => "ownTrades"
  | .openOrders => "openOrders"

/-- Pair a subscription registers its handler under. -/
def Subscription.pair : Subscription → Option String
  | .orderbook pair _ => some pair
  | .trades pair => some pair
  | .ownTrades => none
  | .openOrders => none

/-- Events handed to callbacks. -/
inductive Event where
  | book (snapshot : BookSnapshot)
  | trade (event : TradeEvent)
  | ownTrades (event : OwnTradesEvent)
  | openOrders (event : OpenOrdersEvent)

/-- A registered handler: the subscription and the callback it closes over. -/
structure Handler where
  subscription : Subscription
  callback : Nat

/-- Event a handler builds from a raw value that decoded to data; the order-book
handler ignores payloads that are no objects. -/
def handlerEvent (parseInt : String → Option Int) (sub : Subscription) (raw payload : PyValue) :
    Except PyError (Option Event) :=
  match sub with
  | .orderbook _ _ =>
      match payload with
      | .dict kvs => (BookSnapshot.fromPayload kvs).map fun e => some (.book e)
      | _ => .ok none
  | .trades _ => (TradeEvent.fromFrame raw).map fun e => some (.trade e)
  | .ownTrades => (OwnTradesEvent.fromRawFrame parseInt raw).map fun e => some (.ownTrades e)
  | .openOrders => (OpenOrdersEvent.fromRawFrame parseInt raw).map fun e => some (.openOrders e)

/-- `_handler(raw)`. -/
def runHandler (parseInt : String → Option Int) (h : Handler) (raw : PyValue) :
    HandlerRun Handler (Nat × Event) :=
  match krakenWsDecoder raw with
  | .error e => ⟨h, [], some e⟩
  | .ok normalized =>
      if normalized.kind ≠ .data then ⟨h, [], none⟩
      else match handlerEvent parseInt h.subscription raw normalized.payload with
        | .error e => ⟨h, [], some e⟩
        | .ok none => ⟨h, [], none⟩
        | .ok (some event) => ⟨h, [(h.callback, event)], none⟩

/-- Operations of the mixin and the transport on the routing table. -/
inductive TableOp where
  | enter (callback : Nat) (sub : Subscription)
  | leave (sub : Subscription)
  | clear

def applyOp (t : WsRoutingTable Handler) : TableOp → WsRoutingTable Handler
  | .enter callback sub => t.subscribe sub.channel sub.pair ⟨sub, callback⟩
  | .leave sub => t.unsubscribe sub.channel sub.pair
  | .clear => t.clear

/-- Routing table after a sequence of operations. -/
def tableOf (ops : List TableOp) : WsRoutingTable Handler :=
  ops.foldl applyOp .empty

/-! ## Keys of the registered handlers -/

/-- Every handler is registered under the key of its subscription. -/
def KeysMatch (t : WsRoutingTable Handler) : Prop :=
  ∀ r ∈ t.bus, r.key = routingKey r.handler.subscription.channel r.handler.subscription.pair

theorem KeysMatch.unsubscribe {t : WsRoutingTable Handler} (h : KeysMatch t) (channel : String)
    (pair : Option String) : KeysMatch (t.unsubscribe channel pair) := by
  intro r hr
  unfold WsRoutingTable.unsubscribe at hr
  cases hget : t.subscriptions.get? (channel, pair) with
  | none =>
      simp only [hget] at hr
      exact h r hr
  | some id =>
      simp only [hget] at hr
      exact h r (List.mem_of_mem_filter hr)

theorem KeysMatch.applyOp {t : WsRoutingTable Handler} (h : KeysMatch t) (op : TableOp) :
    KeysMatch (applyOp t op) := by
  cases op with
  | enter callback sub =>
      intro r hr
      rcases List.mem_append.1 hr with hold | hnew
      · exact h.unsubscribe sub.channel sub.pair r hold
      · rw [List.mem_singleton.1 hnew]
  | leave sub => exact h.unsubscribe sub.channel sub.pair
  | clear => exact WsRoutingTable.clear_of_unsubscribe h fun _ channel pair ht =>
      ht.unsubscribe channel pair

/-- Handlers stay under the key of their subscription. -/
theorem tableOf_keysMatch (ops : List TableOp) : KeysMatch (tableOf ops) := by
  have hempty : KeysMatch .empty := by
    intro r hr
    cases hr
  exact List.foldlRecOn ops Kraken.applyOp hempty fun _ ht op _ => ht.applyOp op

/-! ## Data frames -/

/-- Data frames in the documented shapes. -/
inductive DataFrame where
  | book (channelId : PyValue) (payload : List (String × PyValue)) (depth : Int) (pair : String)
  | trade (channelId : PyValue) (trades : List (List PyValue)) (pair : String)
  | ownTrades (trades : List PyValue) (sequence : Int)
  | openOrders (orders : List PyValue) (sequence : Int)

/-- Subscription whose channel sends the frame. -/
def DataFrame.subscription : DataFrame → Subscription
  | .book _ _ depth pair => .orderbook pair depth
  | .trade _ _ pair => .trades pair
  | .ownTrades _ _ => .ownTrades
  | .openOrders _ _ => .openOrders

/-- The frame on the wire. -/
def DataFrame.raw (frame : DataFrame) : PyValue :=
  let channel := PyValue.str frame.subscription.channel
  match frame with
  | .book channelId payload _ pair => .list [channelId, .dict payload, channel, .str pair]
  | .trade channelId trades pair =>
      .list [channelId, .list (trades.map .list), channel, .str pair]
  | .ownTrades entries sequence
  | .openOrders entries sequence =>
      .list [.list entries, channel, .dict [("sequence", .int sequence)]]

/-- The event a frame stands for. -/
def DataFrame.event (parseInt : String → Option Int) (frame : DataFrame) :
    Except PyError Event :=
  match frame with
  | .book _ payload _ _ => (BookSnapshot.fromPayload payload).map .book
  | .trade .. => (TradeEvent.fromFrame frame.raw).map .trade
  | .ownTrades .. => (OwnTradesEvent.fromRawFrame parseInt frame.raw).map .ownTrades
  | .openOrders .. => (OpenOrdersEvent.fromRawFrame parseInt frame.raw).map .openOrders

/-- Only the trade subscription has a key that starts like the trade channel's. -/
theorem subscription_of_trade_key {sub : Subscription} {pair : Option String}
    (h : routingKey "trade" pair = routingKey sub.channel sub.pair) :
    ∃ p, sub = .trades p := by
  have hhead : (routingKey "trade" pair).toList.head? = some 't' := by
    cases pair <;> simp [routingKey]
  rw [h] at hhead
  cases sub with
  | orderbook p depth => simp [routingKey, Subscription.channel, Subscription.pair] at hhead
  | trades p => exact ⟨p, rfl⟩
  | ownTrades => simp [routingKey, Subscription.channel, Subscription.pair] at hhead
  | openOrders => simp [routingKey, Subscription.channel, Subscription.pair] at hhead

/-- A handler that is given an object invokes no callback. -/
theorem runHandler_dict (parseInt : String → Option Int) (h : Handler)
    (kvs : List (String × PyValue)) : (runHandler parseInt h (.dict kvs)).delivered = [] := by
  unfold runHandler
  cases hdecode : krakenWsDecoder (.dict kvs) with
  | error e => rfl
  | ok msg =>
      simp only
      rw [if_pos (krakenWsDecoder_dict hdecode)]

/-- A trade handler that is given the list of trades invokes no callback. -/
theorem runHandler_trade_lists (parseInt : String → Option Int) (pair : String) (callback : Nat)
    (trades : List (List PyValue)) :
    (runHandler parseInt ⟨.trades pair, callback⟩ (.list (trades.map .list))).delivered = [] := by
  unfold runHandler
  cases krakenWsDecoder (.list (trades.map PyValue.list)) with
  | error e => rfl
  | ok msg =>
      simp only
      split_ifs
      · rfl
      · unfold handlerEvent
        cases hframe : TradeEvent.fromFrame (.list (trades.map .list)) with
        | error e => rfl
        | ok event => exact absurd hframe (TradeEvent.fromFrame_trade_lists trades event)

/-- Fields of a public frame. -/
theorem krakenWsDecoder_public (channelId payload : PyValue) (channel pair : String) :
    krakenWsDecoder (.list [channelId, payload, .str channel, .str pair]) =
      .ok { kind := .data
            channel := .str channel
            pair := .str pair
            payload := payload
            error := .none } := by
  rw [krakenWsDecoder_list]
  rfl

/-- Fields of a private frame: the sequence record stands where a pair is expected. -/
theorem krakenWsDecoder_private (entries : PyValue) (channel : String) (sequence : Int) :
    krakenWsDecoder (.list [entries, .str channel, .dict [("sequence", .int sequence)]]) =
      .ok { kind := .data
            channel := .str channel
            pair := .dict [("sequence", .int sequence)]
            payload := .str channel
            error := .none } := by
  rw [krakenWsDecoder_list]
  rfl

/-- No documented frame reaches a callback. -/
theorem processFrame_dataFrame (parseInt : String → Option Int) (ops : List TableOp)
    (frame : DataFrame) :
    (processFrame (runHandler parseInt) krakenWsDecoder (tableOf ops) frame.raw).delivered =
      [] := by
  apply processFrame_delivered_nil
  intro msg key hdecode _ hroute r hr hkey
  cases frame with
  | book channelId payload depth pair =>
      -- the handler decodes the payload again, and no object is data
      cases (krakenWsDecoder_public ..).symm.trans hdecode
      exact runHandler_dict parseInt r.handler payload
  | trade channelId trades pair =>
      -- the handler looks for channel and pair inside the list of trades
      cases (krakenWsDecoder_public ..).symm.trans hdecode
      have hrouted : (tableOf ops).route "trade" (some pair) = some key := Except.ok.inj hroute
      have hsub : ∃ p, r.handler.subscription = .trades p := by
        have hmatch := tableOf_keysMatch ops r hr
        rw [hkey] at hmatch
        rcases WsRoutingTable.route_eq_some hrouted with hk | hk
        · exact subscription_of_trade_key (hk ▸ hmatch)
        · exact subscription_of_trade_key (hk ▸ hmatch)
      rcases hsub with ⟨p, hp⟩
      have hhandler : r.handler = ⟨.trades p, r.handler.callback⟩ := by
        rw [← hp]
      rw [hhandler]
      exact runHandler_trade_lists parseInt p r.handler.callback trades
  | ownTrades entries sequence =>
      -- the sequence record cannot be looked up
      cases (krakenWsDecoder_private ..).symm.trans hdecode
      cases hroute
  | openOrders entries sequence =>
      cases (krakenWsDecoder_private ..).symm.trans hdecode
      cases hroute

/-! ## Delivery -/

/-- Feeding the frame invokes the callback exactly once, with the frame's event. -/
def DeliversOnce (parseInt : String → Option Int) (ops : List TableOp) (callback : Nat)
    (frame : DataFrame) : Prop :=
  ∃ event, frame.event parseInt = .ok event ∧
    (processFrame (runHandler parseInt) krakenWsDecoder (tableOf ops) frame.raw).delivered =
      [(callback, event)]

/-- Whatever is subscribed, no frame is delivered. -/
theorem not_deliversOnce (parseInt : String → Option Int) (ops : List TableOp) (callback : Nat)
    (frame : DataFrame) : ¬ DeliversOnce parseInt ops callback frame := by
  intro h
  rcases h with ⟨event, _, hdelivered⟩
  rw [processFrame_dataFrame] at hdelivered
  cases hdelivered

/-- One ask and no bids. -/
def xbtSnapshot : List (String × PyValue) :=
  [("as", .list [.list [.str "5541.3", .str "2.5", .str "1534614248.1"]]), ("bs", .list [])]

/-- A book snapshot of a subscribed pair is routed to its handler and gets lost there. -/
theorem xbtSnapshot_not_delivered :
    ∃ event,
      (tableOf [.enter 7 (.orderbook "XBT/USD" 25)]).route "book-25" (some "XBT/USD") =
        some "book-25:XBT/USD" ∧
      (DataFrame.book (.int 0) xbtSnapshot 25 "XBT/USD").event String.toInt? = .ok event ∧
      (processFrame (runHandler String.toInt?) krakenWsDecoder
        (tableOf [.enter 7 (.orderbook "XBT/USD" 25)])
        (DataFrame.book (.int 0) xbtSnapshot 25 "XBT/USD").raw).delivered = [] ∧
      ¬ DeliversOnce String.toInt? [.enter 7 (.orderbook "XBT/USD" 25)] 7
        (.book (.int 0) xbtSnapshot 25 "XBT/USD") := by
  refine ⟨_, rfl, rfl, rfl, ?_⟩
  intro h
  rcases h with ⟨event, _, hdelivered⟩
  cases hdelivered

end Kraken
end MarketConnector
