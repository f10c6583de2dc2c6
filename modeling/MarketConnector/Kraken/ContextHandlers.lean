import MarketConnector.Foundations.SlotOwners
import MarketConnector.Kraken.Contexts
import MarketConnector.Ws.RoutingLaw

/-!
# Kraken - Who the registered handlers belong to

A context registers its handler under its channel and pair and takes the handler out at
its end, by channel and pair only.  Two contexts for one pair share that place, and an end
that is not reached leaves a handler behind.

Main results:

- Definition `ContextsOwn`: the table holds the handlers of the open contexts, each context
  receives its frames, and no other handler is held.
- Theorem `contextStep_owned`: which steps keep it.
- Theorem `contextsOwn_iff`: the contexts own their handlers along a run exactly when each
  entry finds its place free and sends its message, no exit is cut short, and no exit that
  comes after a disconnect meets a newer context in its place.
-/

namespace MarketConnector
namespace Kraken

open Foundations Ws

/-! ## Open contexts -/

/-- The gateway, and the contexts that a disconnect has ended: `stop()` implicitly exits
all active subscriptions. -/
structure ContextState where
  gateway : Gateway
  ended : List Nat

/-- Place of a handler in the routing table. -/
def Handler.slot (h : Handler) : Slot :=
  (h.subscription.channel, h.subscription.pair)

/-- Handlers of the open contexts: a context is open from its entry, which registers the
handler first, to the end of its exit or to a disconnect. -/
def openHandlers (contexts : Dict Nat Context) (ended : List Nat) : Set Handler :=
  {h | (∃ phase, contexts.get? h.callback = some ⟨h.subscription, phase⟩) ∧ h.callback ∉ ended}

def ContextState.openHandlers (s : ContextState) : Set Handler :=
  Kraken.openHandlers s.gateway.contexts s.ended

/-- The table has a handler for a channel and pair exactly when a context for it is open,
and a frame for an open context runs the handler of the context. -/
structure ContextsOwn (s : ContextState) : Prop where
  registered : ∀ slot, s.gateway.table.subscriptions.contains slot = true ↔
    ∃ h ∈ s.openHandlers, h.slot = slot
  receives : ∀ h ∈ s.openHandlers,
    h ∈ s.gateway.table.invoked h.subscription.channel h.subscription.pair

/-! ## Steps -/

inductive ContextLabel where
  /-- a step of the gateway -/
  | gateway (l : Label)
  /-- the task of an exit is cancelled while its unsubscribe message is being sent; only an
  `Exception` is suppressed there, so the rest of the exit is not run -/
  | leaveCancelled (id : Nat)

/-- Contexts ended after a step of the gateway. -/
def endedAfter (s : ContextState) : Label → List Nat
  | .connector .disconnect => s.gateway.contexts.keys ++ s.ended
  | _ => s.ended

def contextStep (refreshEnabled : Bool) (s : ContextState) : ContextLabel → Option ContextState
  | .gateway l => (gatewayStep refreshEnabled s.gateway l).map fun g => ⟨g, endedAfter s l⟩
  | .leaveCancelled id =>
      match s.gateway.contexts.get? id with
      | some ⟨_, .leaving⟩ =>
          some { s with gateway := { s.gateway with contexts := s.gateway.contexts.pop id } }
      | _ => none

def contextMachine (refreshEnabled : Bool) : Machine ContextState ContextLabel where
  init := ⟨.init, []⟩
  step := contextStep refreshEnabled

/-- If a disconnect has ended the context, no context for its channel and pair is open. -/
def LeavesAlone (s : ContextState) (id : Nat) : Prop :=
  id ∈ s.ended → ∀ context, s.gateway.contexts.get? id = some context →
    ∀ h ∈ s.openHandlers, h.slot ≠ (context.subscription.channel, context.subscription.pair)

/-- A context is entered on a connected socket, while no other context for its channel and
pair is open, and its subscribe message is sent; its exit is not cancelled at its message,
and comes before a disconnect or leaves the contexts opened after it alone. -/
def KeepsOwners (s : ContextState) : ContextLabel → Prop
  | .gateway (.connector _) => True
  | .gateway (.ready _) => True
  | .gateway (.enter sub) =>
      canSend s.gateway = true ∧ ∀ h ∈ s.openHandlers, h.slot ≠ (sub.channel, sub.pair)
  | .gateway (.entrySent id ok) => ok = true ∨ id ∈ s.ended
  | .gateway (.leave id) => canSend s.gateway = true ∨ LeavesAlone s id
  | .gateway (.leaveSent id _) => LeavesAlone s id
  | .leaveCancelled id => id ∈ s.ended

/-! ## Open handlers of the changed contexts -/

section OpenHandlers

variable {contexts : Dict Nat Context} {ended : List Nat} {id : Nat} {sub : Subscription}
  {phase : ContextPhase}

theorem mem_openHandlers (hid : contexts.get? id = some ⟨sub, phase⟩) (hlive : id ∉ ended) :
    ⟨sub, id⟩ ∈ openHandlers contexts ended :=
  ⟨⟨phase, hid⟩, hlive⟩

theorem not_mem_openHandlers (hid : contexts.get? id = none) :
    ⟨sub, id⟩ ∉ openHandlers contexts ended := by
  rintro ⟨⟨phase, hget⟩, _⟩
  rw [hid] at hget
  cases hget

/-- A context that moves on stays open. -/
theorem openHandlers_set_phase (hid : contexts.get? id = some ⟨sub, phase⟩)
    (phase' : ContextPhase) :
    openHandlers (contexts.set id ⟨sub, phase'⟩) ended = openHandlers contexts ended := by
  ext h
  simp only [openHandlers, Set.mem_ofPred_eq, Dict.get?_set]
  split_ifs with hsame
  · rw [hsame, hid]
    simp
  · rfl

/-- A new context brings its handler. -/
theorem openHandlers_set_new (hid : contexts.get? id = none) (hlive : id ∉ ended) :
    openHandlers (contexts.set id ⟨sub, phase⟩) ended =
      insert ⟨sub, id⟩ (openHandlers contexts ended) := by
  ext h
  rcases h with ⟨sub', id'⟩
  simp only [openHandlers, Set.mem_ofPred_eq, Dict.get?_set, Set.mem_insert_iff,
    Handler.mk.injEq]
  split_ifs with hsame
  · simp [hsame, hid, hlive, eq_comm]
  · simp [hsame]

/-- A context that is gone takes its handler along. -/
theorem openHandlers_pop (hid : contexts.get? id = some ⟨sub, phase⟩) :
    openHandlers (contexts.pop id) ended = openHandlers contexts ended \ {⟨sub, id⟩} := by
  ext h
  rcases h with ⟨sub', id'⟩
  simp only [openHandlers, Set.mem_ofPred_eq, Dict.get?_pop, Set.mem_sdiff,
    Set.mem_singleton_iff, Handler.mk.injEq]
  split_ifs with hsame
  · refine iff_of_false (by simp) ?_
    rintro ⟨⟨⟨phase', hget⟩, _⟩, hne⟩
    rw [hsame, hid] at hget
    cases hget
    exact hne ⟨rfl, hsame⟩
  · simp [hsame]

/-- An ended context has no open handler to take along. -/
theorem openHandlers_pop_ended (hended : id ∈ ended) :
    openHandlers (contexts.pop id) ended = openHandlers contexts ended := by
  ext h
  simp only [openHandlers, Set.mem_ofPred_eq, Dict.get?_pop]
  split_ifs with hsame
  · simp [hsame, hended]
  · rfl

/-- A disconnect leaves no context open. -/
theorem openHandlers_all_ended :
    openHandlers contexts (contexts.keys ++ ended) = ∅ := by
  ext h
  simp only [openHandlers, Set.mem_ofPred_eq, Set.mem_empty_iff_false, iff_false, not_and,
    not_not]
  rintro ⟨phase, hget⟩
  exact List.mem_append_left _ (by simp [Dict.mem_keys_iff, Dict.contains, hget])

end OpenHandlers

/-! ## The table holds the open handlers -/

/-- A frame for a handler runs it exactly when the handler has its place. -/
theorem mem_invoked_iff {t : WsRoutingTable Handler} {slots : SlotTable Handler}
    (hholds : Holds t slots) (hplaced : Placed Handler.slot slots) {h : Handler} :
    h ∈ t.invoked h.subscription.channel h.subscription.pair ↔
      slots.get? h.slot = some h := by
  constructor
  · intro hmem
    unfold WsRoutingTable.invoked at hmem
    split at hmem
    · simp at hmem
    · obtain ⟨r, hr, rfl⟩ := List.mem_map.mp hmem
      obtain ⟨slot, hget, _⟩ := hholds.slot_of_mem (List.mem_of_mem_filter hr)
      rw [hplaced slot _ hget]
      exact hget
  · intro hget
    obtain ⟨id, _, hmem⟩ := hholds.registered _ _ hget
    have hroute : t.route h.subscription.channel h.subscription.pair = some (slotKey h.slot) :=
      hholds.route_registered hget
    simp only [WsRoutingTable.invoked, hroute, List.mem_map, List.mem_filter, decide_eq_true_eq]
    exact ⟨_, ⟨hmem, rfl⟩, rfl⟩

theorem contextsOwn_iff_owned {s : ContextState} {slots : SlotTable Handler}
    (hholds : Holds s.gateway.table slots) (hplaced : Placed Handler.slot slots) :
    ContextsOwn s ↔ Owned Handler.slot s.openHandlers slots := by
  rw [owned_iff]
  have hslots : ∀ slot, s.gateway.table.subscriptions.contains slot = slots.contains slot :=
    hholds.listed
  constructor
  · rintro ⟨hregistered, hreceives⟩
    refine ⟨fun slot => ?_, fun h hopen => ?_⟩
    · rw [← hslots slot]
      exact hregistered slot
    · exact (mem_invoked_iff hholds hplaced).mp (hreceives h hopen)
  · rintro ⟨hregistered, hown⟩
    refine ⟨fun slot => ?_, fun h hopen => ?_⟩
    · rw [hslots slot]
      exact hregistered slot
    · exact (mem_invoked_iff hholds hplaced).mpr (hown h hopen)

/-- The registered handlers are those of the open contexts. -/
def HandlersOwned (s : ContextState) : Prop :=
  ∃ slots, Holds s.gateway.table slots ∧ Owned Handler.slot s.openHandlers slots

theorem HandlersOwned.contextsOwn {s : ContextState} (h : HandlersOwned s) : ContextsOwn s := by
  obtain ⟨slots, hholds, howned⟩ := h
  exact (contextsOwn_iff_owned hholds howned.placed).mpr howned

/-! ## What a step keeps -/

/-- After a step the table still holds a dictionary of handlers in their places, and the
open contexts own it exactly when the step keeps the owners. -/
def OwnedWhen (s' : ContextState) (keeps : Prop) : Prop :=
  ∃ slots', Holds s'.gateway.table slots' ∧ Placed Handler.slot slots' ∧
    (Owned Handler.slot s'.openHandlers slots' ↔ keeps)

theorem OwnedWhen.congr {s' : ContextState} {keeps keeps' : Prop} (h : OwnedWhen s' keeps)
    (hiff : keeps ↔ keeps') : OwnedWhen s' keeps' := by
  obtain ⟨slots', hholds', hplaced', howned'⟩ := h
  exact ⟨slots', hholds', hplaced', howned'.trans hiff⟩

/-- Neither the table nor the open contexts change. -/
theorem HandlersOwned.same {s s' : ContextState} (h : HandlersOwned s) {keeps : Prop}
    (hkeeps : keeps) (htable : s'.gateway.table = s.gateway.table)
    (hopen : s'.openHandlers = s.openHandlers) : OwnedWhen s' keeps := by
  obtain ⟨slots, hholds, howned⟩ := h
  refine ⟨slots, by rw [htable]; exact hholds, howned.placed, iff_of_true ?_ hkeeps⟩
  rw [hopen]
  exact howned

/-- An entry or an exit that is cut short leaves a handler in the table, unless the context
had been ended before. -/
theorem HandlersOwned.cutShort {s s' : ContextState} (h : HandlersOwned s) {id : Nat}
    {sub : Subscription} {phase : ContextPhase}
    (hid : s.gateway.contexts.get? id = some ⟨sub, phase⟩)
    (htable : s'.gateway.table = s.gateway.table) (hended : s'.ended = s.ended)
    (hcontexts : s'.gateway.contexts = s.gateway.contexts.pop id) :
    OwnedWhen s' (id ∈ s.ended) := by
  by_cases hlive : id ∈ s.ended
  · apply h.same hlive htable
    rw [ContextState.openHandlers, hcontexts, hended]
    exact openHandlers_pop_ended hlive
  · obtain ⟨slots, hholds, howned⟩ := h
    refine ⟨slots, by rw [htable]; exact hholds, howned.placed, iff_of_false ?_ hlive⟩
    rw [ContextState.openHandlers, hcontexts, hended, openHandlers_pop hid]
    exact howned.not_owned_sdiff (mem_openHandlers hid hlive)

/-- A context at the end of its exit leaves with its place; one that had been ended before
clears it for others. -/
theorem HandlersOwned.endContext {s s' : ContextState} (h : HandlersOwned s) {id : Nat}
    {sub : Subscription} {phase : ContextPhase}
    (hid : s.gateway.contexts.get? id = some ⟨sub, phase⟩)
    (htable : s'.gateway.table = s.gateway.table.unsubscribe sub.channel sub.pair)
    (hended : s'.ended = s.ended)
    (hcontexts : s'.gateway.contexts = s.gateway.contexts.pop id) :
    OwnedWhen s' (LeavesAlone s id) := by
  obtain ⟨slots, hholds, howned⟩ := h
  refine ⟨slots.pop (sub.channel, sub.pair), ?_, howned.placed.pop _, ?_⟩
  · rw [htable]
    exact hholds.unsubscribe _ _
  · rw [ContextState.openHandlers, hcontexts, hended]
    by_cases hlive : id ∈ s.ended
    · rw [openHandlers_pop_ended hlive]
      have hclears : LeavesAlone s id ↔
          ∀ h ∈ s.openHandlers, h.slot ≠ (sub.channel, sub.pair) := by
        simp [LeavesAlone, hlive, hid]
      rw [hclears]
      exact howned.pop_iff (sub.channel, sub.pair)
    · rw [openHandlers_pop hid]
      refine iff_of_true ?_ (fun hmem => absurd hmem hlive)
      exact howned.remove (mem_openHandlers hid hlive)

/-- An entry takes its place over; it keeps the owners exactly when the place was free and
the message can be sent. -/
theorem HandlersOwned.enterContext {s : ContextState} (h : HandlersOwned s)
    (hfresh : s.gateway.contexts.get? s.gateway.nextContext = none)
    (hlive : s.gateway.nextContext ∉ s.ended) (sub : Subscription) :
    OwnedWhen ⟨enterContext s.gateway sub, s.ended⟩ (KeepsOwners s (.gateway (.enter sub))) := by
  obtain ⟨slots, hholds, howned⟩ := h
  have hnew : (⟨sub, s.gateway.nextContext⟩ : Handler) ∉ s.openHandlers :=
    not_mem_openHandlers hfresh
  have htable : (Kraken.enterContext s.gateway sub).table =
      s.gateway.table.subscribe sub.channel sub.pair ⟨sub, s.gateway.nextContext⟩ := by
    unfold Kraken.enterContext
    split <;> rfl
  refine ⟨slots.set (sub.channel, sub.pair) ⟨sub, s.gateway.nextContext⟩, ?_, ?_, ?_⟩
  · rw [htable]
    exact hholds.subscribe _ _ _
  · exact howned.placed.set ⟨sub, s.gateway.nextContext⟩
  · by_cases hsend : canSend s.gateway = true
    · have hopen : ContextState.openHandlers ⟨Kraken.enterContext s.gateway sub, s.ended⟩ =
          insert ⟨sub, s.gateway.nextContext⟩ s.openHandlers := by
        rw [Kraken.enterContext, if_pos hsend]
        exact openHandlers_set_new hfresh hlive
      rw [hopen]
      simp only [KeepsOwners, hsend, true_and]
      exact howned.insert_iff hnew
    · have hopen : ContextState.openHandlers ⟨Kraken.enterContext s.gateway sub, s.ended⟩ =
          s.openHandlers := by
        rw [Kraken.enterContext, if_neg hsend]
        rfl
      rw [hopen]
      refine iff_of_false ?_ (fun hkeeps => hsend hkeeps.1)
      exact not_owned_set hnew

/-- Ids of contexts, ended or not, are used. -/
structure ContextIds (s : ContextState) : Prop where
  wire : WireInv s.gateway
  ended : ∀ id ∈ s.ended, id < s.gateway.nextContext

/-- Which steps keep every handler with its open context. -/
theorem contextStep_owned {r : Bool} {s s' : ContextState} {l : ContextLabel}
    (hids : ContextIds s) (howners : HandlersOwned s) (hstep : contextStep r s l = some s') :
    OwnedWhen s' (KeepsOwners s l) := by
  cases l with
  | leaveCancelled id =>
      simp only [contextStep] at hstep
      split at hstep
      · rename_i hid
        cases hstep
        exact howners.cutShort hid rfl rfl rfl
      · cases hstep
  | gateway l =>
      obtain ⟨g, hg, rfl⟩ := Option.map_eq_some_iff.mp hstep
      cases gatewayStep_move hg with
      | connector hconnector =>
          rename_i l connector
          by_cases hl : l = .disconnect
          · subst hl
            obtain ⟨slots, hholds, _⟩ := howners
            refine ⟨∅, hholds.clear, placed_empty, iff_of_true ?_ trivial⟩
            exact owned_empty_iff.mpr openHandlers_all_ended
          · have hended : endedAfter s (.connector l) = s.ended := by
              cases l <;> first | rfl | exact absurd rfl hl
            apply howners.same trivial (by simp [hl])
            simp [ContextState.openHandlers, hended]
      | ready started => exact howners.same trivial rfl rfl
      | enter sub =>
          have hfresh : s.gateway.contexts.get? s.gateway.nextContext = none := by
            cases hget : s.gateway.contexts.get? s.gateway.nextContext with
            | none => rfl
            | some context => exact absurd (hids.wire.contexts _ _ hget) (Nat.lt_irrefl _)
          have hlive : s.gateway.nextContext ∉ s.ended := fun hmem =>
            absurd (hids.ended _ hmem) (Nat.lt_irrefl _)
          exact howners.enterContext hfresh hlive sub
      | entrySent hid hws =>
          exact howners.same (Or.inl rfl) rfl (openHandlers_set_phase hid .opened)
      | entryFails hid =>
          exact OwnedWhen.congr (howners.cutShort hid rfl rfl rfl) (by simp [KeepsOwners])
      | leave hid =>
          by_cases hsend : canSend s.gateway = true
          · rw [leaveContext, if_pos hsend]
            exact howners.same (Or.inl hsend) rfl (openHandlers_set_phase hid .leaving)
          · rw [leaveContext, if_neg hsend]
            exact OwnedWhen.congr (howners.endContext hid rfl rfl rfl)
              (by simp [KeepsOwners, hsend])
      | leaveSent hid hws => exact howners.endContext hid rfl rfl rfl
      | leaveFails hid => exact howners.endContext hid rfl rfl rfl

/-! ## Runs -/

structure ContextInv (s : ContextState) : Prop where
  ids : ContextIds s
  owned : HandlersOwned s

theorem contextInv_init (r : Bool) : ContextInv (contextMachine r).init := by
  refine ⟨⟨wireInv_init, by simp [contextMachine]⟩, ∅, holds_empty, ?_⟩
  rw [owned_empty_iff]
  ext h
  simp [ContextState.openHandlers, openHandlers, contextMachine, Gateway.init]

/-- Ids are used once, and a disconnect ends contexts that have one. -/
theorem ContextIds.step {r : Bool} {s s' : ContextState} {l : ContextLabel} (h : ContextIds s)
    (hstep : contextStep r s l = some s') : ContextIds s' := by
  cases l with
  | leaveCancelled id =>
      simp only [contextStep] at hstep
      split at hstep
      · cases hstep
        refine ⟨⟨h.wire.wire, h.wire.ws, fun id' context hid' => ?_⟩, h.ended⟩
        exact h.wire.contexts id' context (Dict.get?_of_pop hid')
      · cases hstep
  | gateway l =>
      obtain ⟨g, hg, rfl⟩ := Option.map_eq_some_iff.mp hstep
      refine ⟨h.wire.step hg, fun id hid => ?_⟩
      apply Nat.lt_of_lt_of_le _ (gatewayStep_move hg).nextContext_le
      unfold endedAfter at hid
      split at hid
      · rcases List.mem_append.mp hid with hkey | hold
        · rw [Dict.mem_keys_iff, Dict.contains, Option.isSome_iff_exists] at hkey
          obtain ⟨context, hget⟩ := hkey
          exact h.wire.contexts id context hget
        · exact h.ended id hold
      · exact h.ended id hid

/-- The open contexts own the registered handlers all along a run exactly when every entry
finds its channel and pair free and sends its message, no exit is cancelled, and no exit
after a disconnect meets a newer context for its channel and pair. -/
theorem contextsOwn_iff (refreshEnabled : Bool) (ls : List ContextLabel) :
    (contextMachine refreshEnabled).AllStates ContextsOwn
        (contextMachine refreshEnabled).init ls ↔
      (contextMachine refreshEnabled).AllSteps KeepsOwners
        (contextMachine refreshEnabled).init ls := by
  have hkept : ∀ s l s', ContextInv s → KeepsOwners s l →
      (contextMachine refreshEnabled).step s l = some s' → ContextInv s' := by
    intro s l s' hinv hkeeps hstep
    obtain ⟨slots', hholds', _, hiff⟩ := contextStep_owned hinv.ids hinv.owned hstep
    exact ⟨hinv.ids.step hstep, slots', hholds', hiff.mpr hkeeps⟩
  apply (contextMachine refreshEnabled).allStates_iff_allSteps hkept
  · exact fun s hinv => hinv.owned.contextsOwn
  · intro s l s' hinv hstep hown
    obtain ⟨slots', hholds', hplaced', hiff⟩ := contextStep_owned hinv.ids hinv.owned hstep
    exact hiff.mp ((contextsOwn_iff_owned hholds' hplaced').mp hown)
  · exact contextInv_init refreshEnabled

/-- Connect, then open two trade contexts for one pair, and leave the second. -/
def sharedPairRun : List ContextLabel :=
  ([.connector .connect, .connector (.connectResumes (.call 0) true),
    .connector (.connectResumes (.call 0) true), .connector (.connectResumes (.call 0) true),
    .ready true, .enter (.trades "XBT/USD"), .entrySent 0 true, .enter (.trades "XBT/USD"),
    .entrySent 1 true, .leave 1, .leaveSent 1 true] : List Label).map .gateway

/-- Leaving the second context takes the handler away from the pair of the first, which is
open and receives nothing. -/
theorem second_exit_removes_handler :
    ∃ s, (contextMachine false).run (contextMachine false).init sharedPairRun = some s ∧
      s.gateway.contexts.get? 0 = some ⟨.trades "XBT/USD", .opened⟩ ∧
      s.gateway.table.invoked "trade" (some "XBT/USD") = [] ∧ ¬ ContextsOwn s := by
  have hrun : ∃ s, (contextMachine false).run (contextMachine false).init sharedPairRun = some s ∧
      s.gateway.contexts.get? 0 = some ⟨.trades "XBT/USD", .opened⟩ ∧ s.ended = [] ∧
      s.gateway.table.invoked "trade" (some "XBT/USD") = [] := ⟨_, rfl, rfl, rfl, rfl⟩
  obtain ⟨s, hrun, hopen, hended, hnone⟩ := hrun
  refine ⟨s, hrun, hopen, hnone, ?_⟩
  intro hown
  have hreceives := hown.receives ⟨.trades "XBT/USD", 0⟩
    (mem_openHandlers hopen (by simp [hended]))
  have hempty : s.gateway.table.invoked (Subscription.trades "XBT/USD").channel
      (Subscription.trades "XBT/USD").pair = [] := hnone
  rw [hempty] at hreceives
  simp at hreceives

end Kraken
end MarketConnector
