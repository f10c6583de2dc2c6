import MarketConnector.Foundations.Transitions
import MarketConnector.Ws.Routing

/-!
# Ws - The routing table against the dictionary it replaces

`WsRoutingTable` stands in for a dictionary from `(channel, pair)` slots to handlers.  Its
bus knows only one text per slot, and two slots may have the same text.

Main results:

- Definition `SlotTable.target`: the handler a frame is meant for.
- Theorem `routingLaw_iff`: the table routes like the dictionary along a run exactly when no
  subscription meets the text of another registered slot.
- Theorem `routingLaw_of_plainNames`: it does when no channel contains a colon and no pair
  is `*`.
-/

namespace MarketConnector
namespace Ws

open Foundations

/-! ## The dictionary -/

/-- A routing slot: channel and optional pair. -/
abbrev Slot := String × Option String

/-- Last handler registered for each slot. -/
abbrev SlotTable (H : Type) := Dict Slot H

/-- The handler of the most specific registered slot. -/
def SlotTable.target {H : Type} (slots : SlotTable H) (channel : String) (pair : Option String) :
    Option H :=
  match slots.get? (channel, pair) with
  | some handler => some handler
  | none => slots.get? (channel, none)

/-- Bus key of a slot. -/
def slotKey (slot : Slot) : String :=
  routingKey slot.1 slot.2

section RoutingLaw

variable {H : Type}

/-- Handlers invoked by `route`, in order. -/
def WsRoutingTable.invoked (t : WsRoutingTable H) (channel : String) (pair : Option String) :
    List H :=
  match t.route channel pair with
  | none => []
  | some key => (t.bus.filter fun r => r.key = key).map Registration.handler

/-- The table routes like the dictionary: `route` invokes the target alone and once, returns
`True` exactly when there is one, and `len` counts the registered slots. -/
structure RoutesLike (t : WsRoutingTable H) (slots : SlotTable H) : Prop where
  invoked : ∀ channel pair, t.invoked channel pair = (slots.target channel pair).toList
  routed : ∀ channel pair, (t.route channel pair).isSome = (slots.target channel pair).isSome
  size : t.size = slots.size

/-! ## Runs of table operations -/

inductive RoutingLabel (H : Type) where
  | subscribe (channel : String) (pair : Option String) (handler : H)
  | unsubscribe (channel : String) (pair : Option String)
  | clear

/-- The table, and the dictionary beside it. -/
structure RoutingState (H : Type) where
  table : WsRoutingTable H
  slots : SlotTable H

def routingStep (s : RoutingState H) : RoutingLabel H → Option (RoutingState H)
  | .subscribe channel pair handler =>
      some ⟨s.table.subscribe channel pair handler, s.slots.set (channel, pair) handler⟩
  | .unsubscribe channel pair =>
      some ⟨s.table.unsubscribe channel pair, s.slots.pop (channel, pair)⟩
  | .clear => some ⟨s.table.clear, ∅⟩

def routingMachine : Machine (RoutingState H) (RoutingLabel H) where
  init := ⟨.empty, ∅⟩
  step := routingStep

/-- The table routes like the dictionary. -/
def RoutingLaw (s : RoutingState H) : Prop :=
  RoutesLike s.table s.slots

/-- A subscription finds no other registered slot with its bus key. -/
def KeyFree (s : RoutingState H) (l : RoutingLabel H) : Prop :=
  ∀ channel pair handler, l = .subscribe channel pair handler →
    ∀ slot ∈ s.slots.keys, slot ≠ (channel, pair) → slotKey slot ≠ routingKey channel pair

/-! ## The table holds the dictionary -/

/-- Each slot of the dictionary has one subscription of its own on the bus, and the bus has
no other. -/
structure Holds (t : WsRoutingTable H) (slots : SlotTable H) : Prop where
  registered : ∀ slot handler, slots.get? slot = some handler →
    ∃ id, t.subscriptions.get? slot = some id ∧ ⟨id, slotKey slot, handler⟩ ∈ t.bus
  listed : ∀ slot, t.subscriptions.contains slot = slots.contains slot
  owned : ∀ r ∈ t.bus, ∃ slot, t.subscriptions.get? slot = some r.id ∧ r.key = slotKey slot
  unique : ∀ slot slot' id, t.subscriptions.get? slot = some id →
    t.subscriptions.get? slot' = some id → slot = slot'
  fresh : ∀ r ∈ t.bus, r.id < t.nextId
  nodup : (t.bus.map Registration.id).Nodup

/-- No two registered slots share a bus key. -/
def KeysDistinct (slots : SlotTable H) : Prop :=
  ∀ slot ∈ slots.keys, ∀ slot' ∈ slots.keys, slotKey slot = slotKey slot' → slot = slot'

structure RoutingInv (s : RoutingState H) : Prop where
  holds : Holds s.table s.slots
  distinct : KeysDistinct s.slots

theorem holds_empty : Holds (WsRoutingTable.empty : WsRoutingTable H) ∅ := by
  constructor <;> simp [WsRoutingTable.empty, Dict.contains]

/-- Only the lookups of the dictionary count. -/
theorem Holds.congr {t : WsRoutingTable H} {slots slots' : SlotTable H} (h : Holds t slots)
    (heq : ∀ slot, slots'.get? slot = slots.get? slot) : Holds t slots' := by
  refine ⟨fun slot handler hget => h.registered slot handler ((heq slot).symm.trans hget), ?_,
    h.owned, h.unique, h.fresh, h.nodup⟩
  intro slot
  rw [h.listed slot, Dict.contains, Dict.contains, heq slot]

/-- Removing a slot removes its subscription and no other. -/
theorem Holds.unsubscribe {t : WsRoutingTable H} {slots : SlotTable H} (h : Holds t slots)
    (channel : String) (pair : Option String) :
    Holds (t.unsubscribe channel pair) (slots.pop (channel, pair)) := by
  unfold WsRoutingTable.unsubscribe
  cases hget : t.subscriptions.get? (channel, pair) with
  | none =>
      have habsent : slots.get? (channel, pair) = none := by
        simpa [Dict.contains, hget] using h.listed (channel, pair)
      refine h.congr fun slot => ?_
      rw [Dict.get?_pop]
      split_ifs with hslot
      · rw [hslot, habsent]
      · rfl
  | some id =>
      refine ⟨?_, ?_, ?_, ?_, ?_, ?_⟩
      · intro slot handler hslot
        rw [Dict.get?_pop] at hslot
        split_ifs at hslot with hne
        obtain ⟨id', hget', hmem⟩ := h.registered slot handler hslot
        have hid : id' ≠ id := by
          rintro rfl
          exact hne (h.unique slot (channel, pair) id' hget' hget)
        exact ⟨id', by simp [Dict.get?_pop, hne, hget'], by simp [hmem, hid]⟩
      · intro slot
        have hold := h.listed slot
        simp only [Dict.contains, Dict.get?_pop] at hold ⊢
        split_ifs with hslot
        · rfl
        · exact hold
      · intro r hr
        simp only [List.mem_filter, decide_eq_true_eq] at hr
        obtain ⟨slot, hslot, hkey⟩ := h.owned r hr.1
        have hne : slot ≠ (channel, pair) := by
          rintro rfl
          exact hr.2 (Option.some.inj (hslot.symm.trans hget))
        exact ⟨slot, by simp [Dict.get?_pop, hne, hslot], hkey⟩
      · intro slot slot' id' hslot hslot'
        simp only [Dict.get?_pop] at hslot hslot'
        split_ifs at hslot hslot'
        exact h.unique slot slot' id' hslot hslot'
      · intro r hr
        exact h.fresh r (List.mem_of_mem_filter hr)
      · exact h.nodup.sublist (List.filter_sublist.map Registration.id)

/-- Subscriptions have ids from before. -/
theorem Holds.id_lt {t : WsRoutingTable H} {slots : SlotTable H} (h : Holds t slots) {slot : Slot}
    {id : Nat} (hid : t.subscriptions.get? slot = some id) : id < t.nextId := by
  have hlisted : (slots.get? slot).isSome = true := by
    simpa [Dict.contains, hid] using (h.listed slot).symm
  obtain ⟨handler, hget⟩ := Option.isSome_iff_exists.mp hlisted
  obtain ⟨id', hid', hmem⟩ := h.registered slot handler hget
  rw [hid] at hid'
  cases hid'
  exact h.fresh _ hmem

/-- A subscription of a slot that is not registered. -/
theorem Holds.add {t : WsRoutingTable H} {slots : SlotTable H} (h : Holds t slots) {slot : Slot}
    (hnew : slots.get? slot = none) (handler : H) :
    Holds ⟨t.bus ++ [⟨t.nextId, slotKey slot, handler⟩], t.nextId + 1,
      t.subscriptions.set slot t.nextId⟩ (slots.set slot handler) := by
  have hsub : t.subscriptions.get? slot = none := by
    simpa [Dict.contains, hnew] using h.listed slot
  refine ⟨?_, ?_, ?_, ?_, ?_, ?_⟩
  · intro slot' handler' hget
    rw [Dict.get?_set] at hget
    split_ifs at hget with hslot
    · cases hget
      exact ⟨t.nextId, by simp [hslot], by simp [hslot]⟩
    · obtain ⟨id, hid, hmem⟩ := h.registered slot' handler' hget
      exact ⟨id, by simp [Dict.get?_set, hslot, hid], by simp [hmem]⟩
  · intro slot'
    have hlisted := h.listed slot'
    simp only [Dict.contains, Dict.get?_set] at hlisted ⊢
    split_ifs with hslot
    · rfl
    · exact hlisted
  · intro r hr
    rcases List.mem_append.mp hr with hr | hr
    · obtain ⟨slot', hget, hkey⟩ := h.owned r hr
      have hne : slot' ≠ slot := by
        rintro rfl
        rw [hsub] at hget
        cases hget
      exact ⟨slot', by simp [Dict.get?_set, hne, hget], hkey⟩
    · rw [List.mem_singleton] at hr
      exact ⟨slot, by simp [hr], by simp [hr]⟩
  · intro slot₁ slot₂ id h₁ h₂
    simp only [Dict.get?_set] at h₁ h₂
    split_ifs at h₁ h₂ with hs₁ hs₂ hs₂
    · rw [hs₁, hs₂]
    · cases h₁
      exact absurd (h.id_lt h₂) (Nat.lt_irrefl _)
    · cases h₂
      exact absurd (h.id_lt h₁) (Nat.lt_irrefl _)
    · exact h.unique slot₁ slot₂ id h₁ h₂
  · intro r hr
    rcases List.mem_append.mp hr with hr | hr
    · exact Nat.lt_succ_of_lt (h.fresh r hr)
    · rw [List.mem_singleton] at hr
      simp [hr]
  · rw [List.map_append, List.nodup_append]
    refine ⟨h.nodup, by simp, ?_⟩
    intro id hid id' hid' heq
    obtain ⟨r, hr, rfl⟩ := List.mem_map.mp hid
    simp only [List.map_cons, List.map_nil, List.mem_singleton] at hid'
    have hlt := h.fresh r hr
    omega

theorem Holds.subscribe {t : WsRoutingTable H} {slots : SlotTable H} (h : Holds t slots)
    (channel : String) (pair : Option String) (handler : H) :
    Holds (t.subscribe channel pair handler) (slots.set (channel, pair) handler) := by
  have hpopped := h.unsubscribe channel pair
  have hnew : (slots.pop (channel, pair)).get? (channel, pair) = none := by simp
  have hadded := hpopped.add hnew handler
  refine hadded.congr fun slot => ?_
  simp only [Dict.get?_set, Dict.get?_pop]
  split_ifs <;> rfl

/-- `clear` takes the registered slots out one by one. -/
theorem Holds.clear {t : WsRoutingTable H} {slots : SlotTable H} (h : Holds t slots) :
    Holds t.clear ∅ := by
  have hfold : ∀ (ks : List Slot) (t : WsRoutingTable H) (slots : SlotTable H), Holds t slots →
      Holds (ks.foldl (fun t k => t.unsubscribe k.1 k.2) t)
        (ks.foldl (fun slots k => slots.pop k) slots) := by
    intro ks
    induction ks with
    | nil => exact fun _ _ h => h
    | cons k ks ih => exact fun t slots h => ih _ _ (h.unsubscribe k.1 k.2)
  have hempty : t.subscriptions.keys.foldl (fun slots k => slots.pop k) slots = ∅ := by
    apply Dict.eq_empty_of_keys
    intro slot hslot
    obtain ⟨hmem, hnot⟩ := Dict.mem_keys_foldl_pop.mp hslot
    rw [Dict.mem_keys_iff, h.listed slot, ← Dict.mem_keys_iff] at hnot
    exact hnot hmem
  have hcleared := hfold t.subscriptions.keys t slots h
  rw [hempty] at hcleared
  exact hcleared

/-- Every step keeps the dictionary in the table. -/
theorem routingStep_holds {s s' : RoutingState H} {l : RoutingLabel H}
    (h : Holds s.table s.slots) (hstep : routingStep s l = some s') :
    Holds s'.table s'.slots := by
  cases l with
  | subscribe channel pair handler =>
      cases hstep
      exact h.subscribe channel pair handler
  | unsubscribe channel pair =>
      cases hstep
      exact h.unsubscribe channel pair
  | clear =>
      cases hstep
      exact h.clear

/-! ## Distinct keys -/

/-- What `route` finds in the dictionary. -/
theorem Holds.route_eq {t : WsRoutingTable H} {slots : SlotTable H} (h : Holds t slots)
    (channel : String) (pair : Option String) :
    (∃ slot handler, t.route channel pair = some (slotKey slot) ∧
      slots.get? slot = some handler ∧ slots.target channel pair = some handler) ∨
      (t.route channel pair = none ∧ slots.target channel pair = none) := by
  have hcontains : ∀ slot, t.subscriptions.contains slot = (slots.get? slot).isSome := h.listed
  cases hexact : slots.get? (channel, pair) with
  | some handler =>
      refine Or.inl ⟨(channel, pair), handler, ?_, hexact, by simp [SlotTable.target, hexact]⟩
      cases pair with
      | none => simp [WsRoutingTable.route, hcontains, hexact, slotKey]
      | some p => simp [WsRoutingTable.route, hcontains, hexact, slotKey]
  | none =>
      cases hwide : slots.get? (channel, none) with
      | some handler =>
          refine Or.inl ⟨(channel, none), handler, ?_, hwide, ?_⟩
          · simp [WsRoutingTable.route, hcontains, hexact, hwide, slotKey]
          · simp [SlotTable.target, hexact, hwide]
      | none =>
          refine Or.inr ⟨?_, by simp [SlotTable.target, hexact, hwide]⟩
          simp [WsRoutingTable.route, hcontains, hexact, hwide]

/-- A payload for a registered slot is published under the key of the slot. -/
theorem Holds.route_registered {t : WsRoutingTable H} {slots : SlotTable H} (h : Holds t slots)
    {slot : Slot} {handler : H} (hget : slots.get? slot = some handler) :
    t.route slot.1 slot.2 = some (slotKey slot) := by
  have hcontains : t.subscriptions.contains slot = true := by
    rw [h.listed slot, Dict.contains, hget]
    rfl
  rcases slot with ⟨channel, pair⟩
  cases pair with
  | none => simp [WsRoutingTable.route, hcontains, slotKey]
  | some p => simp [WsRoutingTable.route, hcontains, slotKey]

/-- Every subscription on the bus is the one of a registered slot. -/
theorem Holds.slot_of_mem {t : WsRoutingTable H} {slots : SlotTable H} (h : Holds t slots)
    {r : Registration H} (hr : r ∈ t.bus) :
    ∃ slot, slots.get? slot = some r.handler ∧ t.subscriptions.get? slot = some r.id ∧
      r.key = slotKey slot := by
  obtain ⟨slot, hid, hkey⟩ := h.owned r hr
  have hlisted : (slots.get? slot).isSome = true := by
    simpa [Dict.contains, hid] using (h.listed slot).symm
  obtain ⟨handler, hget⟩ := Option.isSome_iff_exists.mp hlisted
  obtain ⟨id, hid', hmem⟩ := h.registered slot handler hget
  have hsame : r = ⟨id, slotKey slot, handler⟩ :=
    List.inj_on_of_nodup_map h.nodup hr hmem (Option.some.inj (hid.symm.trans hid'))
  exact ⟨slot, by rw [hsame, hget], hid, hkey⟩

/-- With distinct keys a registered slot has its key to itself. -/
theorem Holds.filter_bus {t : WsRoutingTable H} {slots : SlotTable H} (h : Holds t slots)
    (hdistinct : KeysDistinct slots) {slot : Slot} {handler : H}
    (hget : slots.get? slot = some handler) :
    (t.bus.filter fun r => r.key = slotKey slot).map Registration.handler = [handler] := by
  obtain ⟨id, hid, hmem⟩ := h.registered slot handler hget
  have hsingle : (t.bus.filter fun r => r.key = slotKey slot) =
      [⟨id, slotKey slot, handler⟩] := by
    rw [← List.perm_singleton]
    rw [List.perm_ext_iff_of_nodup ((h.nodup.of_map _).filter _) (List.nodup_singleton _)]
    intro r
    simp only [List.mem_filter, decide_eq_true_eq, List.mem_singleton]
    constructor
    · rintro ⟨hr, hkey⟩
      obtain ⟨slot', hlookup, hget', hkey'⟩ := h.slot_of_mem hr
      have hslot : slot' = slot :=
        hdistinct slot' (by simp [Dict.mem_keys_iff, Dict.contains, hlookup])
          slot (by simp [Dict.mem_keys_iff, Dict.contains, hget]) (hkey'.symm.trans hkey)
      rw [hslot, hid] at hget'
      exact List.inj_on_of_nodup_map h.nodup hr hmem (Option.some.inj hget').symm
    · rintro rfl
      exact ⟨hmem, rfl⟩
  rw [hsingle]
  rfl

/-- A table that holds a dictionary routes like it exactly when the registered slots have
distinct bus keys. -/
theorem routesLike_iff {t : WsRoutingTable H} {slots : SlotTable H} (h : Holds t slots) :
    RoutesLike t slots ↔ KeysDistinct slots := by
  constructor
  · intro hroutes slot hslot slot' hslot' hkey
    rw [Dict.mem_keys_iff, Dict.contains, Option.isSome_iff_exists] at hslot hslot'
    obtain ⟨handler, hget⟩ := hslot
    obtain ⟨handler', hget'⟩ := hslot'
    obtain ⟨id, hid, hmem⟩ := h.registered slot handler hget
    obtain ⟨id', hid', hmem'⟩ := h.registered slot' handler' hget'
    -- the exact slot is found, so its key is published and one handler answers
    have hroute := h.route_registered hget
    have hone := hroutes.invoked slot.1 slot.2
    simp only [WsRoutingTable.invoked, hroute, SlotTable.target, hget, Option.toList_some] at hone
    have hlength : (t.bus.filter fun r => r.key = slotKey slot).length = 1 := by
      simpa using congrArg List.length hone
    obtain ⟨r, hr⟩ := List.length_eq_one_iff.mp hlength
    have hfirst : (⟨id, slotKey slot, handler⟩ : Registration H) ∈
        t.bus.filter fun r => r.key = slotKey slot := by
      simp [hmem]
    have hsecond : (⟨id', slotKey slot', handler'⟩ : Registration H) ∈
        t.bus.filter fun r => r.key = slotKey slot := by
      simp [hmem', hkey]
    rw [hr, List.mem_singleton] at hfirst hsecond
    have hids : id = id' := by
      rw [← hsecond] at hfirst
      exact (Registration.mk.inj hfirst).1
    exact h.unique slot slot' id hid (hids ▸ hid')
  · intro hdistinct
    refine ⟨fun channel pair => ?_, fun channel pair => ?_, ?_⟩
    · rcases h.route_eq channel pair with ⟨slot, handler, hroute, hget, htarget⟩ | ⟨hroute, htarget⟩
      · simp [WsRoutingTable.invoked, hroute, htarget, h.filter_bus hdistinct hget]
      · simp [WsRoutingTable.invoked, hroute, htarget]
    · rcases h.route_eq channel pair with ⟨slot, handler, hroute, hget, htarget⟩ | ⟨hroute, htarget⟩
      · simp [hroute, htarget]
      · simp [hroute, htarget]
    · apply Dict.size_eq_of_keys
      intro slot
      rw [Dict.mem_keys_iff, Dict.mem_keys_iff, h.listed slot]

/-! ## Runs -/

/-- A step keeps the keys distinct exactly when its subscription finds its key free. -/
theorem keysDistinct_step_iff {s s' : RoutingState H} {l : RoutingLabel H}
    (h : KeysDistinct s.slots) (hstep : routingStep s l = some s') :
    KeysDistinct s'.slots ↔ KeyFree s l := by
  cases l with
  | subscribe channel pair handler =>
      cases hstep
      constructor
      · rintro hdistinct _ _ _ ⟨rfl, rfl, rfl⟩ slot hslot hne hkey
        exact hne (hdistinct slot ((Dict.mem_keys_set _).mpr (Or.inr hslot)) (channel, pair)
          ((Dict.mem_keys_set _).mpr (Or.inl rfl)) hkey)
      · intro hfree slot hslot slot' hslot' hkey
        have hfree' := hfree channel pair handler rfl
        rcases (Dict.mem_keys_set _).mp hslot with rfl | hold <;>
          rcases (Dict.mem_keys_set _).mp hslot' with rfl | hold'
        · rfl
        · by_contra hne
          exact hfree' slot' hold' (Ne.symm hne) hkey.symm
        · by_contra hne
          exact hfree' slot hold hne hkey
        · exact h slot hold slot' hold' hkey
  | unsubscribe channel pair =>
      cases hstep
      refine iff_of_true ?_ (by rintro _ _ _ ⟨⟩)
      intro slot hslot slot' hslot' hkey
      exact h slot (Dict.mem_keys_pop.mp hslot).1 slot' (Dict.mem_keys_pop.mp hslot').1 hkey
  | clear =>
      cases hstep
      refine iff_of_true ?_ (by rintro _ _ _ ⟨⟩)
      intro slot hslot
      simp [Dict.mem_keys_iff, Dict.contains] at hslot

theorem routingInv_init : RoutingInv (routingMachine (H := H)).init :=
  ⟨holds_empty, by
    intro slot hslot
    simp [routingMachine, Dict.mem_keys_iff, Dict.contains] at hslot⟩

/-- Along a run the table routes like the dictionary exactly when every subscription finds
its bus key free of other registered slots. -/
theorem routingLaw_iff (ls : List (RoutingLabel H)) :
    routingMachine.AllStates RoutingLaw routingMachine.init ls ↔
      routingMachine.AllSteps KeyFree routingMachine.init ls := by
  have hkept : ∀ (s : RoutingState H) l s', RoutingInv s → KeyFree s l →
      routingMachine.step s l = some s' → RoutingInv s' := by
    intro s l s' hinv hfree hstep
    exact ⟨routingStep_holds hinv.holds hstep,
      (keysDistinct_step_iff hinv.distinct hstep).mpr hfree⟩
  apply routingMachine.allStates_iff_allSteps hkept
  · intro s hinv
    exact (routesLike_iff hinv.holds).mpr hinv.distinct
  · intro s l s' hinv hstep hlaw
    have hdistinct := (routesLike_iff (routingStep_holds hinv.holds hstep)).mp hlaw
    exact (keysDistinct_step_iff hinv.distinct hstep).mp hdistinct
  · exact routingInv_init

/-- A pair named like the wildcard: a frame for it runs the channel-wide handler as well. -/
theorem wildcard_pair_runs_two_handlers :
    ¬ ∀ ls : List (RoutingLabel Nat),
      routingMachine.AllStates RoutingLaw routingMachine.init ls := by
  intro hall
  have hlaw := (hall [.subscribe "ticker" none 1, .subscribe "ticker" (some "*") 2]).2 _ rfl
  have htwo := (hlaw.2 _ rfl).invoked "ticker" (some "*")
  exact absurd htwo (by decide)

/-! ## Plain names -/

/-- No colon in the channel, and no pair that reads like the wildcard. -/
def PlainSlot (slot : Slot) : Prop :=
  ':' ∉ slot.1.toList ∧ slot.2 ≠ some "*"

def PlainLabel (l : RoutingLabel H) : Prop :=
  ∀ channel pair handler, l = .subscribe channel pair handler → PlainSlot (channel, pair)

/-- Plain slots have different bus keys. -/
theorem slotKey_inj {slot slot' : Slot} (h : PlainSlot slot) (h' : PlainSlot slot')
    (hkey : slotKey slot = slotKey slot') : slot = slot' := by
  have htext : ∀ s : Slot, (slotKey s).toList = s.1.toList ++ ':' :: (s.2.getD "*").toList := by
    rintro ⟨channel, _ | pair⟩ <;> simp [slotKey, routingKey]
  have hlist := congrArg String.toList hkey
  rw [htext, htext] at hlist
  obtain ⟨hchannel, hpair⟩ := append_separator_inj h.1 h'.1 hlist
  rcases slot with ⟨channel, pair⟩
  rcases slot' with ⟨channel', pair'⟩
  have hpair' := String.toList_injective hpair
  cases pair <;> cases pair' <;>
    simp_all [PlainSlot, String.toList_inj, eq_comm]

/-- A subscription of a plain slot beside plain slots finds its key free. -/
theorem keyFree_of_plain {s : RoutingState H} {l : RoutingLabel H}
    (hslots : ∀ slot ∈ s.slots.keys, PlainSlot slot) (hl : PlainLabel l) : KeyFree s l := by
  intro channel pair handler hlabel slot hslot hne hkey
  exact hne (slotKey_inj (hslots slot hslot) (hl channel pair handler hlabel) hkey)

/-- Plain labels register plain slots only. -/
theorem routingStep_plain {s s' : RoutingState H} {l : RoutingLabel H}
    (hslots : ∀ slot ∈ s.slots.keys, PlainSlot slot) (hl : PlainLabel l)
    (hstep : routingStep s l = some s') : ∀ slot ∈ s'.slots.keys, PlainSlot slot := by
  intro slot hslot
  cases l with
  | subscribe channel pair handler =>
      cases hstep
      rcases (Dict.mem_keys_set _).mp hslot with rfl | hold
      · exact hl channel pair handler rfl
      · exact hslots slot hold
  | unsubscribe channel pair =>
      cases hstep
      exact hslots slot (Dict.mem_keys_pop.mp hslot).1
  | clear =>
      cases hstep
      simp [Dict.mem_keys_iff, Dict.contains] at hslot

/-- A table that only sees plain names routes like the dictionary. -/
theorem routingLaw_of_plainNames {ls : List (RoutingLabel H)}
    (hplain : routingMachine.AllSteps (fun _ l => PlainLabel l) routingMachine.init ls) :
    routingMachine.AllStates RoutingLaw routingMachine.init ls := by
  let Inv (s : RoutingState H) : Prop := RoutingInv s ∧ ∀ slot ∈ s.slots.keys, PlainSlot slot
  have hinit : Inv routingMachine.init := by
    refine ⟨routingInv_init, fun slot hslot => ?_⟩
    simp [routingMachine, Dict.mem_keys_iff, Dict.contains] at hslot
  refine routingMachine.allStates_of_allSteps ?_ ?_ hinit hplain
  · rintro s l s' ⟨hinv, hslots⟩ hl hstep
    have hfree := keyFree_of_plain hslots hl
    exact ⟨⟨routingStep_holds hinv.holds hstep,
      (keysDistinct_step_iff hinv.distinct hstep).mpr hfree⟩,
      routingStep_plain hslots hl hstep⟩
  · exact fun s hinv => (routesLike_iff hinv.1.holds).mpr hinv.1.distinct

end RoutingLaw

end Ws
end MarketConnector
