import MarketConnector.Ws.Decoder

/-!
# Ws - Routing table and the decode-and-route step

Handlers are registered under a channel and an optional pair.  The table keeps, for
each of these, the id of one event-bus subscription; the bus delivers by a text key
made of both.  `processFrame` is what the listen loop does with one frame.

Main results:

- Definition `processFrame`: decode one frame, route it, run the handlers.
- Theorem `processFrame_delivered_nil`: a frame reaches no callback if no handler on
  the published key delivers anything.
-/

namespace MarketConnector
namespace Ws

open Foundations

/-! ## Routing table -/

/-- One subscription of the event bus. -/
structure Registration (H : Type) where
  id : Nat
  key : String
  handler : H

/-- `(channel, pair) → handler` routing table backed by an event bus. -/
structure WsRoutingTable (H : Type) where
  bus : List (Registration H)
  nextId : Nat
  subscriptions : Dict (String × Option String) Nat

/-- Event-bus key of a `(channel, pair)` routing slot. -/
def routingKey (channel : String) : Option String → String
  | some pair => channel ++ ":" ++ pair
  | none => channel ++ ":*"

namespace WsRoutingTable

variable {H E : Type}

def empty : WsRoutingTable H :=
  ⟨[], 0, ∅⟩

/-- `len(table)`. -/
def size (t : WsRoutingTable H) : Nat :=
  t.subscriptions.size

/-- Remove the handler registered for `(channel, pair)`. -/
def unsubscribe (t : WsRoutingTable H) (channel : String) (pair : Option String) :
    WsRoutingTable H :=
  match t.subscriptions.get? (channel, pair) with
  | none => t
  | some id =>
      { t with
        bus := t.bus.filter fun r => r.id ≠ id
        subscriptions := t.subscriptions.pop (channel, pair) }

/-- Register a handler for the `(channel, pair)` routing key. -/
def subscribe (t : WsRoutingTable H) (channel : String) (pair : Option String) (handler : H) :
    WsRoutingTable H :=
  let t := t.unsubscribe channel pair
  { bus := t.bus ++ [⟨t.nextId, routingKey channel pair, handler⟩]
    nextId := t.nextId + 1
    subscriptions := t.subscriptions.set (channel, pair) t.nextId }

/-- Unsubscribe all registered handlers. -/
def clear (t : WsRoutingTable H) : WsRoutingTable H :=
  t.subscriptions.keys.foldl (fun t k => t.unsubscribe k.1 k.2) t

/-- Bus key a payload is published under: the exact slot, else the channel-wide one. -/
def route (t : WsRoutingTable H) (channel : String) (pair : Option String) : Option String :=
  if pair ≠ none ∧ t.subscriptions.contains (channel, pair) = true then
    some (routingKey channel pair)
  else if t.subscriptions.contains (channel, none) = true then some (routingKey channel none)
  else none

/-- `route` on decoded keys.  A key that cannot be hashed raises, and a key that is no
text matches no registration. -/
def routeValue (t : WsRoutingTable H) (channel pair : PyValue) :
    Except PyError (Option String) :=
  if channel.hashable && pair.hashable then
    match channel, pair with
    | .str c, .str p => .ok (t.route c (some p))
    | .str c, _ => .ok (t.route c none)
    | _, _ => .ok none
  else .error .typeError

/-- Unsubscribing registers nothing. -/
theorem mem_keys_unsubscribe {t : WsRoutingTable H} {channel : String} {pair : Option String}
    {k : String × Option String} (h : k ∈ (t.unsubscribe channel pair).subscriptions.keys) :
    k ∈ t.subscriptions.keys := by
  unfold unsubscribe at h
  cases hget : t.subscriptions.get? (channel, pair) with
  | none =>
      simp only [hget] at h
      exact h
  | some id =>
      simp only [hget] at h
      exact (List.filter_sublist.map Prod.fst).subset h

theorem mem_keys_subscribe {t : WsRoutingTable H} {channel : String} {pair : Option String}
    {handler : H} {k : String × Option String}
    (h : k ∈ (t.subscribe channel pair handler).subscriptions.keys) :
    k = (channel, pair) ∨ k ∈ t.subscriptions.keys := by
  rcases (Dict.mem_keys_set _).1 h with hk | hk
  · exact Or.inl hk
  · exact Or.inr (mem_keys_unsubscribe hk)

/-- What every single unsubscribe keeps, `clear` keeps. -/
theorem clear_of_unsubscribe {P : WsRoutingTable H → Prop} {t : WsRoutingTable H} (h : P t)
    (hkeep : ∀ t channel pair, P t → P (t.unsubscribe channel pair)) : P t.clear :=
  List.foldlRecOn _ _ h fun t ht k _ => hkeep t k.1 k.2 ht

theorem mem_keys_clear {t : WsRoutingTable H} {k : String × Option String}
    (h : k ∈ t.clear.subscriptions.keys) : k ∈ t.subscriptions.keys := by
  have hsub : ∀ k', k' ∈ t.clear.subscriptions.keys → k' ∈ t.subscriptions.keys :=
    clear_of_unsubscribe (P := fun t' => ∀ k', k' ∈ t'.subscriptions.keys →
      k' ∈ t.subscriptions.keys) (fun _ hk => hk) fun t' _ _ ht k' hk =>
        ht k' (mem_keys_unsubscribe hk)
  exact hsub k h

/-- A payload is published under the exact slot or the channel-wide one. -/
theorem route_eq_some {t : WsRoutingTable H} {channel key : String} {pair : Option String}
    (h : t.route channel pair = some key) :
    key = routingKey channel pair ∨ key = routingKey channel none := by
  unfold route at h
  split_ifs at h
  · exact Or.inl (Option.some.inj h).symm
  · exact Or.inr (Option.some.inj h).symm

end WsRoutingTable

/-! ## Delivery -/

/-- What a handler did with one payload: the handler's next state, the callback
invocations in order, and the exception that ended it. -/
structure HandlerRun (H E : Type) where
  handler : H
  delivered : List E
  error : Option PyError

/-- What one frame led to: the next table, the callback invocations, the management
messages, and the exception that was logged. -/
structure FrameOutcome (H E : Type) where
  table : WsRoutingTable H
  delivered : List E
  management : List NormalizedWsMessage
  error : Option PyError

section Delivery

variable {H E : Type} (run : H → PyValue → HandlerRun H E)

/-- `EventBus.publish`: run the handlers registered under the key; their exceptions
are swallowed. -/
def publish (t : WsRoutingTable H) (key : String) (payload : PyValue) :
    WsRoutingTable H × List E :=
  ({ t with
      bus := t.bus.map fun r =>
        if r.key = key then { r with handler := (run r.handler payload).handler } else r },
    (t.bus.filter fun r => r.key = key).flatMap fun r => (run r.handler payload).delivered)

/-- `WsConnectorBase._route_message`. -/
def routeMessage (t : WsRoutingTable H) (msg : NormalizedWsMessage) : FrameOutcome H E :=
  match msg.kind with
  | .data =>
      let channel := if msg.channel.truthy then msg.channel else .str ""
      match t.routeValue channel msg.pair with
      | .error e => ⟨t, [], [], some e⟩
      | .ok none => ⟨t, [], [], none⟩
      | .ok (some key) =>
          let published := publish run t key msg.payload
          ⟨published.1, published.2, [], none⟩
  | .heartbeat => ⟨t, [], [], none⟩
  | .subscribeAck | .error => ⟨t, [], [msg], none⟩
  | .unknown => ⟨t, [], [], none⟩

/-- Body of the listen loop for one frame: decode, route, and log what is raised. -/
def processFrame (decode : PyValue → Except PyError NormalizedWsMessage)
    (t : WsRoutingTable H) (raw : PyValue) : FrameOutcome H E :=
  match decode raw with
  | .error e => ⟨t, [], [], some e⟩
  | .ok msg => routeMessage run t msg

/-- A frame changes no registration. -/
theorem processFrame_subscriptions (decode : PyValue → Except PyError NormalizedWsMessage)
    (t : WsRoutingTable H) (raw : PyValue) :
    (processFrame run decode t raw).table.subscriptions = t.subscriptions := by
  unfold processFrame
  cases decode raw with
  | error e => rfl
  | ok msg =>
      simp only
      unfold routeMessage
      cases msg.kind with
      | heartbeat => rfl
      | subscribeAck => rfl
      | error => rfl
      | unknown => rfl
      | data =>
          simp only
          cases t.routeValue (if msg.channel.truthy then msg.channel else .str "") msg.pair with
          | error e => rfl
          | ok routed => cases routed <;> rfl

/-- A frame reaches no callback if no handler delivers anything for its payload. -/
theorem processFrame_delivered_nil {decode : PyValue → Except PyError NormalizedWsMessage}
    {t : WsRoutingTable H} {raw : PyValue}
    (h : ∀ msg key, decode raw = .ok msg → msg.kind = .data →
      t.routeValue (if msg.channel.truthy then msg.channel else .str "") msg.pair =
        .ok (some key) →
      ∀ r ∈ t.bus, r.key = key → (run r.handler msg.payload).delivered = []) :
    (processFrame run decode t raw).delivered = [] := by
  unfold processFrame
  cases hdecode : decode raw with
  | error e => rfl
  | ok msg =>
      simp only
      unfold routeMessage
      cases hkind : msg.kind with
      | heartbeat => rfl
      | subscribeAck => rfl
      | error => rfl
      | unknown => rfl
      | data =>
          simp only
          cases hroute : t.routeValue (if msg.channel.truthy then msg.channel else .str "")
              msg.pair with
          | error e => rfl
          | ok routed =>
              cases routed with
              | none => rfl
              | some key =>
                  simp only [publish, List.flatMap_eq_nil_iff, List.mem_filter,
                    decide_eq_true_eq]
                  intro r hr
                  exact h msg key hdecode hkind hroute r hr.1 hr.2

end Delivery

end Ws
end MarketConnector
