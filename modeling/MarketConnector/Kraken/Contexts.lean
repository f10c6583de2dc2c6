import Mathlib.Data.List.Basic
import MarketConnector.Kraken.Streaming
import MarketConnector.Ws.Lifecycle

/-!
# Kraken - Subscription contexts over a reconnecting connector

Entering a context registers its handler and sends a subscribe message; leaving it
sends an unsubscribe message and removes the handler.  The connector reconnects on its
own, keeps the routing table, and sends nothing.

Main results:

- Theorem `subscribe_sent_by_entry`: a subscribe message on the wire was sent by a
  context that was being entered.
- Theorem `survivesReconnects_iff`: an open context is subscribed on a later socket
  exactly when the caller enters another context for the same subscription there.
- Theorem `reconnect_forgets_subscription`: otherwise it is not.
-/

namespace MarketConnector
namespace Kraken

open Foundations Ws

/-! ## Wire messages -/

inductive WireEvent where
  | subscribe | unsubscribe
deriving DecidableEq

/-- `{"event": ..., "pair": [...], "subscription": {"name": ..., "depth": ...}}`. -/
structure WireMessage where
  event : WireEvent
  pair : Option (List String)
  name : String
  depth : Option Int
deriving DecidableEq

/-- Message of a subscription for an event. -/
def Subscription.message (event : WireEvent) : Subscription → WireMessage
  | .orderbook pair depth => ⟨event, some [pair], "book", some depth⟩
  | .trades pair => ⟨event, some [pair], "trade", none⟩
  | .ownTrades => ⟨event, none, "ownTrades", none⟩
  | .openOrders => ⟨event, none, "openOrders", none⟩

/-- A message names its subscription. -/
theorem message_injective {event : WireEvent} {sub sub' : Subscription}
    (h : sub.message event = sub'.message event) : sub = sub' := by
  cases sub <;> cases sub' <;> simp_all [Subscription.message]

/-! ## Gateway state -/

/-- Where a context is: sending its subscribe message, open, or sending its
unsubscribe message. -/
inductive ContextPhase where
  | entering | opened | leaving
deriving DecidableEq

structure Context where
  subscription : Subscription
  phase : ContextPhase
deriving DecidableEq

/-- The gateway: connector, routing table, contexts, and the messages handed to each
socket in order. -/
structure Gateway where
  ready : Bool
  connector : Connector
  table : WsRoutingTable Handler
  contexts : Dict Nat Context
  nextContext : Nat
  wire : List (Nat × WireMessage)

def Gateway.init : Gateway where
  ready := false
  connector := .init
  table := .empty
  contexts := ∅
  nextContext := 0
  wire := []

inductive Label where
  /-- a step of the connector -/
  | connector (l : Ws.Label)
  /-- `start()` or `stop()` sets the flag -/
  | ready (started : Bool)
  /-- `subscribe_*` and entry into its context -/
  | enter (sub : Subscription)
  /-- the subscribe message is sent, or sending it raises -/
  | entrySent (id : Nat) (ok : Bool)
  /-- the caller leaves an open context -/
  | leave (id : Nat)
  /-- the unsubscribe message is sent, or sending it raises -/
  | leaveSent (id : Nat) (ok : Bool)

/-- `send()` finds a connected socket. -/
def canSend (g : Gateway) : Bool :=
  g.connector.connected && g.connector.ws.isSome

/-- The socket a raw send writes to: the current one, if it is up. -/
def sendSocket (g : Gateway) : Option Nat :=
  match g.connector.ws with
  | some w => if w ∈ g.connector.openSockets then some w else none
  | none => none

/-- Hand a message to the current socket; without one, sending raises. -/
def sendMessage (g : Gateway) (m : WireMessage) : Option Gateway :=
  (sendSocket g).map fun w => { g with wire := g.wire ++ [(w, m)] }

/-- End of a context: its handler is removed. -/
def endContext (g : Gateway) (id : Nat) (sub : Subscription) : Gateway :=
  { g with
    table := g.table.unsubscribe sub.channel sub.pair
    contexts := g.contexts.pop id }

/-- Entry: the handler is registered first; without a connection the send raises and
leaves it registered. -/
def enterContext (g : Gateway) (sub : Subscription) : Gateway :=
  let table := g.table.subscribe sub.channel sub.pair ⟨sub, g.nextContext⟩
  if canSend g then
    { g with
      table := table
      contexts := g.contexts.set g.nextContext ⟨sub, .entering⟩
      nextContext := g.nextContext + 1 }
  else { g with table := table, nextContext := g.nextContext + 1 }

/-- Exit: the unsubscribe message is best effort. -/
def leaveContext (g : Gateway) (id : Nat) (sub : Subscription) : Gateway :=
  if canSend g then { g with contexts := g.contexts.set id ⟨sub, .leaving⟩ }
  else endContext g id sub

/-- One step of the gateway. -/
def gatewayStep (refreshEnabled : Bool) (g : Gateway) : Label → Option Gateway
  | .connector l =>
      match Ws.step refreshEnabled g.connector l with
      | none => none
      | some connector =>
          some { g with
            connector := connector
            table := if l = .disconnect then g.table.clear else g.table }
  | .ready started => some { g with ready := started }
  | .enter sub => if g.ready then some (enterContext g sub) else none
  | .entrySent id ok =>
      match g.contexts.get? id with
      | some ⟨sub, .entering⟩ =>
          if ok then
            sendMessage { g with contexts := g.contexts.set id ⟨sub, .opened⟩ }
              (sub.message .subscribe)
          else some { g with contexts := g.contexts.pop id }
      | _ => none
  | .leave id =>
      match g.contexts.get? id with
      | some ⟨sub, .opened⟩ => some (leaveContext g id sub)
      | _ => none
  | .leaveSent id ok =>
      match g.contexts.get? id with
      | some ⟨sub, .leaving⟩ =>
          if ok then (sendMessage g (sub.message .unsubscribe)).map fun g => endContext g id sub
          else some (endContext g id sub)
      | _ => none

def gatewayMachine (refreshEnabled : Bool) : Machine Gateway Label where
  init := .init
  step := gatewayStep refreshEnabled

/-! ## What a step does -/

/-- The moves of the gateway, each with the state it leads to. -/
inductive Move (r : Bool) (g : Gateway) : Label → Gateway → Prop where
  | connector {l : Ws.Label} {connector : Connector}
      (hstep : Ws.step r g.connector l = some connector) :
      Move r g (.connector l) { g with
        connector := connector
        table := if l = .disconnect then g.table.clear else g.table }
  | ready (started : Bool) : Move r g (.ready started) { g with ready := started }
  | enter (sub : Subscription) : Move r g (.enter sub) (enterContext g sub)
  | entrySent {id w : Nat} {sub : Subscription}
      (hid : g.contexts.get? id = some ⟨sub, .entering⟩) (hws : g.connector.ws = some w) :
      Move r g (.entrySent id true) { g with
        contexts := g.contexts.set id ⟨sub, .opened⟩
        wire := g.wire ++ [(w, sub.message .subscribe)] }
  | entryFails {id : Nat} {sub : Subscription}
      (hid : g.contexts.get? id = some ⟨sub, .entering⟩) :
      Move r g (.entrySent id false) { g with contexts := g.contexts.pop id }
  | leave {id : Nat} {sub : Subscription} (hid : g.contexts.get? id = some ⟨sub, .opened⟩) :
      Move r g (.leave id) (leaveContext g id sub)
  | leaveSent {id w : Nat} {sub : Subscription}
      (hid : g.contexts.get? id = some ⟨sub, .leaving⟩) (hws : g.connector.ws = some w) :
      Move r g (.leaveSent id true)
        (endContext { g with wire := g.wire ++ [(w, sub.message .unsubscribe)] } id sub)
  | leaveFails {id : Nat} {sub : Subscription}
      (hid : g.contexts.get? id = some ⟨sub, .leaving⟩) :
      Move r g (.leaveSent id false) (endContext g id sub)

theorem sendSocket_eq_some {g : Gateway} {w : Nat} (h : sendSocket g = some w) :
    g.connector.ws = some w := by
  unfold sendSocket at h
  cases hws : g.connector.ws with
  | none => simp [hws] at h
  | some w' =>
      simp only [hws] at h
      split at h
      · exact h
      · cases h

/-- A message sent is the last one on the current socket. -/
theorem sendMessage_eq_some {g g' : Gateway} {m : WireMessage}
    (h : sendMessage g m = some g') :
    ∃ w, g.connector.ws = some w ∧ g' = { g with wire := g.wire ++ [(w, m)] } := by
  unfold sendMessage at h
  rcases Option.map_eq_some_iff.1 h with ⟨w, hw, rfl⟩
  exact ⟨w, sendSocket_eq_some hw, rfl⟩

/-- Every step is a move. -/
theorem gatewayStep_move {r : Bool} {g g' : Gateway} {l : Label}
    (h : gatewayStep r g l = some g') : Move r g l g' := by
  cases l with
  | connector l =>
      unfold gatewayStep at h
      cases hstep : Ws.step r g.connector l with
      | none => simp [hstep] at h
      | some connector =>
          simp only [hstep, Option.some.injEq] at h
          subst h
          exact .connector hstep
  | ready started =>
      cases h
      exact .ready started
  | enter sub =>
      simp only [gatewayStep] at h
      split at h
      · cases h
        exact .enter sub
      · cases h
  | entrySent id ok =>
      unfold gatewayStep at h
      cases hid : g.contexts.get? id with
      | none => simp [hid] at h
      | some context =>
          rcases context with ⟨sub, phase⟩
          cases phase <;> simp only [hid, reduceCtorEq] at h
          cases ok with
          | false =>
              cases h
              exact .entryFails hid
          | true =>
              rcases sendMessage_eq_some h with ⟨w, hws, rfl⟩
              exact .entrySent hid hws
  | leave id =>
      unfold gatewayStep at h
      cases hid : g.contexts.get? id with
      | none => simp [hid] at h
      | some context =>
          rcases context with ⟨sub, phase⟩
          cases phase <;> simp only [hid, reduceCtorEq, Option.some.injEq] at h
          subst h
          exact .leave hid
  | leaveSent id ok =>
      unfold gatewayStep at h
      cases hid : g.contexts.get? id with
      | none => simp [hid] at h
      | some context =>
          rcases context with ⟨sub, phase⟩
          cases phase <;> simp only [hid, reduceCtorEq] at h
          cases ok with
          | false =>
              cases h
              exact .leaveFails hid
          | true =>
              rcases Option.map_eq_some_iff.1 h with ⟨g₁, hsend, rfl⟩
              rcases sendMessage_eq_some hsend with ⟨w, hws, rfl⟩
              exact .leaveSent hid hws

theorem enterContext_same (g : Gateway) (sub : Subscription) :
    (enterContext g sub).connector = g.connector ∧ (enterContext g sub).wire = g.wire := by
  unfold enterContext
  split <;> exact ⟨rfl, rfl⟩

theorem leaveContext_same (g : Gateway) (id : Nat) (sub : Subscription) :
    (leaveContext g id sub).connector = g.connector ∧ (leaveContext g id sub).wire = g.wire := by
  unfold leaveContext
  split <;> exact ⟨rfl, rfl⟩

/-- What a move leaves on the wire: nothing new, the subscribe message of an entry, or
an unsubscribe message. -/
theorem Move.wire {r : Bool} {g g' : Gateway} {l : Label} (h : Move r g l g') :
    g'.wire = g.wire ∨
      ∃ w sub event, g.connector.ws = some w ∧ g'.wire = g.wire ++ [(w, sub.message event)] ∧
        (event = .subscribe →
          ∃ id, l = .entrySent id true ∧ g.contexts.get? id = some ⟨sub, .entering⟩) := by
  cases h with
  | connector hstep => exact Or.inl rfl
  | ready started => exact Or.inl rfl
  | enter sub => exact Or.inl (enterContext_same g sub).2
  | entrySent hid hws => exact Or.inr ⟨_, _, .subscribe, hws, rfl, fun _ => ⟨_, rfl, hid⟩⟩
  | entryFails hid => exact Or.inl rfl
  | leave hid => exact Or.inl (leaveContext_same g _ _).2
  | leaveSent hid hws => exact Or.inr ⟨_, _, .unsubscribe, hws, rfl, fun h => by cases h⟩
  | leaveFails hid => exact Or.inl rfl

/-- The connector takes its own steps only. -/
theorem Move.connector_eq {r : Bool} {g g' : Gateway} {l : Label} (h : Move r g l g') :
    g'.connector = g.connector ∨
      ∃ l', l = .connector l' ∧ Ws.step r g.connector l' = some g'.connector := by
  cases h with
  | connector hstep => exact Or.inr ⟨_, rfl, hstep⟩
  | ready started => exact Or.inl rfl
  | enter sub => exact Or.inl (enterContext_same g sub).1
  | entrySent hid hws => exact Or.inl rfl
  | entryFails hid => exact Or.inl rfl
  | leave hid => exact Or.inl (leaveContext_same g _ _).1
  | leaveSent hid hws => exact Or.inl rfl
  | leaveFails hid => exact Or.inl rfl

/-- Where a context comes from: it was there in this phase, it is entered under the next
id, or it was there and is past its entry. -/
theorem Move.contexts {r : Bool} {g g' : Gateway} {l : Label} (h : Move r g l g') {id : Nat}
    {context : Context} (hid : g'.contexts.get? id = some context) :
    g.contexts.get? id = some context ∨
      (id = g.nextContext ∧ g'.nextContext = g.nextContext + 1) ∨
      (context.phase ≠ .entering ∧ ∃ old, g.contexts.get? id = some old) := by
  have hpop : ∀ id', (g.contexts.pop id').get? id = some context →
      g.contexts.get? id = some context := fun id' hget => Dict.get?_of_pop hget
  have hset : ∀ id' sub phase old, phase ≠ .entering → g.contexts.get? id' = some old →
      (g.contexts.set id' ⟨sub, phase⟩).get? id = some context →
      g.contexts.get? id = some context ∨
        (context.phase ≠ .entering ∧ ∃ old, g.contexts.get? id = some old) := by
    intro id' sub phase old hphase hold hget
    rw [Dict.get?_set] at hget
    split at hget
    · rename_i heq
      cases hget
      exact Or.inr ⟨hphase, old, heq ▸ hold⟩
    · exact Or.inl hget
  cases h with
  | connector hstep => exact Or.inl hid
  | ready started => exact Or.inl hid
  | enter sub =>
      unfold enterContext at hid ⊢
      split at hid
      · rw [Dict.get?_set] at hid
        split at hid
        · rename_i heq
          exact Or.inr (Or.inl ⟨heq, by split <;> rfl⟩)
        · exact Or.inl hid
      · exact Or.inl hid
  | entrySent hold hws =>
      exact (hset _ _ .opened _ (by simp) hold hid).imp_right Or.inr
  | entryFails hold => exact Or.inl (hpop _ hid)
  | leave hold =>
      unfold leaveContext at hid
      split at hid
      · exact (hset _ _ .leaving _ (by simp) hold hid).imp_right Or.inr
      · exact Or.inl (hpop _ hid)
  | leaveSent hold hws => exact Or.inl (hpop _ hid)
  | leaveFails hold => exact Or.inl (hpop _ hid)

/-- Context ids are used once. -/
theorem Move.nextContext_le {r : Bool} {g g' : Gateway} {l : Label} (h : Move r g l g') :
    g.nextContext ≤ g'.nextContext := by
  cases h with
  | enter sub =>
      unfold enterContext
      split <;> exact Nat.le_succ _
  | leave hid =>
      unfold leaveContext
      split <;> exact Nat.le_refl _
  | connector hstep => exact Nat.le_refl _
  | ready started => exact Nat.le_refl _
  | entrySent hid hws => exact Nat.le_refl _
  | entryFails hid => exact Nat.le_refl _
  | leaveSent hid hws => exact Nat.le_refl _
  | leaveFails hid => exact Nat.le_refl _

/-! ## Invariants -/

/-- Messages are on sockets that exist, as is the current socket, and contexts have ids
that are used. -/
structure WireInv (g : Gateway) : Prop where
  wire : ∀ w m, (w, m) ∈ g.wire → w < g.connector.nextSocket
  ws : ∀ w, g.connector.ws = some w → w < g.connector.nextSocket
  contexts : ∀ id context, g.contexts.get? id = some context → id < g.nextContext

/-- The context is not being entered, and its id will not be used again. -/
structure Entered (id : Nat) (g : Gateway) : Prop where
  used : id < g.nextContext
  phase : ∀ sub, g.contexts.get? id ≠ some ⟨sub, .entering⟩

theorem wireInv_init : WireInv .init where
  wire := by
    intro w m h
    cases h
  ws := by
    intro w h
    cases h
  contexts := by
    intro id context h
    cases h

theorem WireInv.step {r : Bool} {g g' : Gateway} {l : Label} (hinv : WireInv g)
    (h : gatewayStep r g l = some g') : WireInv g' := by
  have hmove := gatewayStep_move h
  have hsockets : g.connector.nextSocket ≤ g'.connector.nextSocket ∧
      ∀ w, g'.connector.ws = some w → w < g'.connector.nextSocket := by
    rcases hmove.connector_eq with hsame | ⟨l', _, hstep⟩
    · rw [hsame]
      exact ⟨Nat.le_refl _, hinv.ws⟩
    · rcases step_sockets hstep with ⟨_, hws, hnext⟩ | ⟨hws, hnext⟩
      · refine ⟨by omega, ?_⟩
        intro w hw
        rw [hws] at hw
        cases hw
        omega
      · refine ⟨by omega, ?_⟩
        intro w hw
        rw [hnext]
        rcases hws with hsame | hnone
        · exact hinv.ws w (hsame ▸ hw)
        · rw [hnone] at hw
          cases hw
  constructor
  · intro w m hmem
    rcases hmove.wire with hwire | ⟨w', sub, event, hws, hwire, _⟩
    · rw [hwire] at hmem
      have := hinv.wire w m hmem
      omega
    · rw [hwire] at hmem
      rcases List.mem_append.1 hmem with hold | hnew
      · have := hinv.wire w m hold
        omega
      · cases List.mem_singleton.1 hnew
        have := hinv.ws w hws
        omega
  · exact hsockets.2
  · intro id context hid
    have hle := hmove.nextContext_le
    rcases hmove.contexts hid with hold | ⟨hid, hnext⟩ | ⟨_, old, hold⟩
    · have := hinv.contexts id context hold
      omega
    · omega
    · have := hinv.contexts id old hold
      omega

/-- A context that has been entered is not entered again. -/
theorem Entered.step {r : Bool} {g g' : Gateway} {l : Label} {id : Nat} (hinv : Entered id g)
    (h : gatewayStep r g l = some g') : Entered id g' := by
  have hmove := gatewayStep_move h
  have hused := hinv.used
  have hle := hmove.nextContext_le
  refine ⟨by omega, ?_⟩
  intro sub hid
  rcases hmove.contexts hid with hold | ⟨hid, _⟩ | ⟨hphase, _⟩
  · exact hinv.phase sub hold
  · omega
  · exact hphase rfl

/-! ## Subscriptions on later sockets -/

/-- A socket of the run, opened while the context was open, and still up, with the
context still open, when the run ends in `g`. -/
def OpenedDuring (r : Bool) (ls : List Label) (g : Gateway) (id : Nat) (sub : Subscription)
    (w : Nat) : Prop :=
  ∃ pre l post g₀, ls = pre ++ .connector l :: post ∧
    (gatewayMachine r).run .init pre = some g₀ ∧
    (gatewayMachine r).run .init ls = some g ∧
    OpensSocket g₀.connector l ∧ w = g₀.connector.nextSocket ∧
    g₀.contexts.get? id = some ⟨sub, .opened⟩ ∧
    g.contexts.get? id = some ⟨sub, .opened⟩ ∧ w ∈ g.connector.openSockets

/-- On every socket opened while a context is open, a subscribe message of the context
is sent. -/
def SurvivesReconnects (r : Bool) (ls : List Label) : Prop :=
  ∀ g id sub w, OpenedDuring r ls g id sub w → (w, sub.message .subscribe) ∈ g.wire

/-- For every socket opened while a context is open, the caller enters another context
for the same channel and pair whose subscribe message goes out on that socket. -/
def CallerResubscribes (r : Bool) (ls : List Label) : Prop :=
  ∀ g id sub w, OpenedDuring r ls g id sub w →
    ∃ pre id' post g₁, ls = pre ++ .entrySent id' true :: post ∧
      (gatewayMachine r).run .init pre = some g₁ ∧ id' ≠ id ∧
      g₁.contexts.get? id' = some ⟨sub, .entering⟩ ∧ g₁.connector.ws = some w

/-- A subscribe message that appears on the wire along a run was sent by a context that
was being entered. -/
theorem subscribe_sent_by_entry {r : Bool} {g g' : Gateway} {ls : List Label} {w : Nat}
    {sub : Subscription} (hrun : (gatewayMachine r).run g ls = some g')
    (hbefore : (w, sub.message .subscribe) ∉ g.wire)
    (hafter : (w, sub.message .subscribe) ∈ g'.wire) :
    ∃ pre id post g₁, ls = pre ++ .entrySent id true :: post ∧
      (gatewayMachine r).run g pre = some g₁ ∧
      g₁.contexts.get? id = some ⟨sub, .entering⟩ ∧ g₁.connector.ws = some w := by
  obtain ⟨pre, l, post, g₁, g₂, hls, hpre, hstep, hnot, hin⟩ :=
    (gatewayMachine r).exists_step_of_run (fun g => (w, sub.message .subscribe) ∈ g.wire) hrun
      hbefore hafter
  rcases (gatewayStep_move hstep).wire with hsame | ⟨w', sub', event, hws, hwire, hentry⟩
  · rw [hsame] at hin
    exact absurd hin hnot
  · rw [hwire] at hin
    rcases List.mem_append.1 hin with hold | hnew
    · exact absurd hold hnot
    · have hpair : w = w' ∧ sub.message .subscribe = sub'.message event := by
        simpa using List.mem_singleton.1 hnew
      have hevent : event = .subscribe := by
        have := congrArg WireMessage.event hpair.2
        cases sub <;> cases sub' <;> exact this.symm
      subst hevent
      rcases hentry rfl with ⟨id, rfl, hid⟩
      have hsub : sub = sub' := message_injective hpair.2
      exact ⟨pre, id, post, g₁, hls, hpre, hsub ▸ hid, hpair.1 ▸ hws⟩

/-- The message of a successful entry is on the wire at the end of the run. -/
theorem wire_of_entry {r : Bool} {g : Gateway} {pre post : List Label} {id w : Nat}
    {sub : Subscription} {g₀ g₁ : Gateway}
    (hrun : (gatewayMachine r).run g₀ (pre ++ .entrySent id true :: post) = some g)
    (hpre : (gatewayMachine r).run g₀ pre = some g₁)
    (hid : g₁.contexts.get? id = some ⟨sub, .entering⟩) (hws : g₁.connector.ws = some w) :
    (w, sub.message .subscribe) ∈ g.wire := by
  rw [(gatewayMachine r).run_append, hpre] at hrun
  rcases (gatewayMachine r).run_cons_eq_some.1 hrun with ⟨g₂, hstep, hrest⟩
  have hsent : (w, sub.message .subscribe) ∈ g₂.wire := by
    generalize hl : Label.entrySent id true = l at hstep
    cases gatewayStep_move hstep with
    | entrySent hid' hws' =>
        cases hl
        cases hid.symm.trans hid'
        cases hws.symm.trans hws'
        exact List.mem_append_right _ (List.mem_singleton_self _)
    | _ => cases hl
  have hkept : ∀ s l s', (w, sub.message .subscribe) ∈ s.wire →
      (gatewayMachine r).step s l = some s' → (w, sub.message .subscribe) ∈ s'.wire := by
    intro s l s' hs hl
    rcases (gatewayStep_move hl).wire with hsame | ⟨_, _, _, _, hwire, _⟩
    · rw [hsame]
      exact hs
    · rw [hwire]
      exact List.mem_append_left _ hs
  exact (gatewayMachine r).invariant_run hkept hsent hrest

/-- An open context is subscribed on every later socket exactly when the caller enters
another context for the same subscription there. -/
theorem survivesReconnects_iff (refreshEnabled : Bool) (ls : List Label) :
    SurvivesReconnects refreshEnabled ls ↔ CallerResubscribes refreshEnabled ls := by
  constructor
  · intro h g id sub w hopened
    have hsent := h g id sub w hopened
    rcases hopened with ⟨pre, l, post, g₀, rfl, hpre, hrun, _, hw, hid, _, _⟩
    have hinv : WireInv g₀ :=
      (gatewayMachine refreshEnabled).invariant_run (fun _ _ _ hs hl => hs.step hl) wireInv_init
        hpre
    have hnot : (w, sub.message .subscribe) ∉ g₀.wire := by
      intro hmem
      have := hinv.wire w _ hmem
      omega
    rw [(gatewayMachine refreshEnabled).run_append, hpre] at hrun
    rcases subscribe_sent_by_entry hrun hnot hsent with
      ⟨pre', id', post', g₁, hls, hpre', hid', hws⟩
    refine ⟨pre ++ pre', id', post', g₁, by rw [hls, List.append_assoc], ?_, ?_, hid', hws⟩
    · rw [(gatewayMachine refreshEnabled).run_append, hpre]
      exact hpre'
    · rintro rfl
      have hentered : Entered id' g₀ :=
        ⟨hinv.contexts id' _ hid, fun sub' hsub => by cases hid.symm.trans hsub⟩
      have hlater : Entered id' g₁ :=
        (gatewayMachine refreshEnabled).invariant_run (fun _ _ _ hs hl => hs.step hl) hentered
          hpre'
      exact hlater.phase sub hid'
  · intro h g id sub w hopened
    rcases h g id sub w hopened with ⟨pre, id', post, g₁, hls, hpre, _, hid', hws⟩
    rcases hopened with ⟨_, _, _, _, _, _, hrun, _⟩
    rw [hls] at hrun
    exact wire_of_entry hrun hpre hid' hws

/-- Connect, open a trade context, and lose the socket. -/
def lossRun : List Label :=
  [.connector .connect, .connector (.connectResumes (.call 0) true),
    .connector (.connectResumes (.call 0) true), .connector (.connectResumes (.call 0) true),
    .ready true, .connector (.taskStarts 0), .enter (.trades "XBT/USD"), .entrySent 0 true,
    .connector (.socketFails 0), .connector (.readEnds 0 false), .connector (.taskWakes 0),
    .connector (.connectResumes (.task 0) true)]

/-- The automatic reconnect after the loss. -/
def recoveryRun : List Label :=
  [.connector (.connectResumes (.task 0) true), .connector (.connectResumes (.task 0) true)]

/-- After an automatic reconnect the context is open and its handler registered, and
its only subscribe message was sent on the lost socket. -/
theorem reconnect_forgets_subscription :
    ∃ g, OpenedDuring false (lossRun ++ recoveryRun) g 0 (.trades "XBT/USD") 1 ∧
      g.table.route "trade" (some "XBT/USD") = some "trade:XBT/USD" ∧
      g.wire = [(0, (Subscription.trades "XBT/USD").message .subscribe)] ∧
      ¬ SurvivesReconnects false (lossRun ++ recoveryRun) := by
  have hopened : ∃ g, OpenedDuring false (lossRun ++ recoveryRun) g 0 (.trades "XBT/USD") 1 ∧
      g.table.route "trade" (some "XBT/USD") = some "trade:XBT/USD" ∧
      g.wire = [(0, (Subscription.trades "XBT/USD").message .subscribe)] :=
    ⟨_, ⟨lossRun, _, _, _, rfl, rfl, rfl, ⟨_, rfl, rfl⟩, rfl, rfl, rfl, List.mem_cons_self⟩, rfl,
      rfl⟩
  rcases hopened with ⟨g, howed, hroute, hwire⟩
  refine ⟨g, howed, hroute, hwire, ?_⟩
  intro h
  have hsent := h g 0 (.trades "XBT/USD") 1 howed
  rw [hwire] at hsent
  simp at hsent

end Kraken
end MarketConnector
