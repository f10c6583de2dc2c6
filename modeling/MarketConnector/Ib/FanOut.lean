import MarketConnector.Ib.Streams

/-!
# Ib - Fan-out of shared streams

Streams are shared by contract key.  A trades update is handed to the subscriptions with
the stream's key; a depth update is handed to those whose contract equals the one that
opened the stream, which is not the same when two contract objects share a contract id.

Main results:

- Theorem `received_dispatch`: what one subscription receives.
- Theorem `fanOut_iff`: in every reachable state, an update reaches exactly the open
  subscriptions of its key: always for trades, and for depth exactly when the contracts
  of these subscriptions equal the stream's.
- Theorem `other_object_gets_no_depth`: a subscriber with another contract object.
-/

namespace MarketConnector
namespace Ib

open Foundations

/-! ## The property -/

/-- What a subscription receives. -/
def received (deliveries : List Delivery) (id : Nat) : List Payload :=
  (deliveries.filter fun d => d.subscription = id).map Delivery.payload

/-- What a step delivers. -/
def deliveredBy (s s' : MarketData) : List Delivery :=
  s'.delivered.drop s.delivered.length

/-- The handle is open, of the channel, and its contract has the key. -/
def OpenFor (s : Subscribers) (channel : Channel) (key : StreamKey) (id : Nat) : Prop :=
  ∃ h, s.handles.get? id = some h ∧ h.closed = false ∧ h.channel = channel ∧
    streamKey h.contract = key

/-- Every open subscription of the channel and key receives the payloads once, and no
other subscription receives anything. -/
structure FanOut (s : Subscribers) (channel : Channel) (key : StreamKey)
    (payloads : List Payload) (deliveries : List Delivery) : Prop where
  reaches : ∀ id, OpenFor s channel key id → received deliveries id = payloads
  only : ∀ id, ¬ OpenFor s channel key id → received deliveries id = []

/-- All open depth subscriptions of a key were made with an equal contract object. -/
def SameContract (s : Subscribers) (key : StreamKey) (contract : Contract) : Prop :=
  ∀ id h, s.handles.get? id = some h → h.closed = false → h.channel = .depth →
    streamKey h.contract = key → h.contract = contract

/-! ## Dispatch -/

theorem received_publish (subs : Subscribers) (id id' : Nat) (payload : Payload) :
    received (publish subs id payload) id' =
      if id = id' then List.replicate (subs.bus.count id) payload else [] := by
  simp only [received, publish, List.filter_replicate]
  by_cases h : id = id' <;> simp [h]

theorem received_flatMap {α : Type} (xs : List α) (f : α → List Delivery) (id : Nat) :
    received (xs.flatMap f) id = xs.flatMap fun x => received (f x) id := by
  simp only [received, List.filter_flatMap, List.map_flatMap]

/-- A subscription receives the payloads when it is selected, and nothing else. -/
theorem received_dispatch {subs : Subscribers} (h : SubscriberInv subs)
    (selects : ActiveSubscription → Bool) (payloads : List Payload) (id : Nat) :
    received (dispatch subs selects payloads) id =
      (subs.subscriptions.get? id).elim [] fun sub => if selects sub then payloads else [] := by
  have hone : ∀ payload, received (publish subs id payload) id =
      List.replicate (if (subs.subscriptions.get? id).isSome then 1 else 0) payload := by
    intro payload
    rw [received_publish, if_pos rfl, h.bus id]
  have hentry : ∀ entry : Nat × ActiveSubscription,
      received (if selects entry.2 then payloads.flatMap (publish subs entry.1) else []) id =
        if entry.1 = id then
          (if selects entry.2 then
            payloads.flatMap fun payload => received (publish subs id payload) id else [])
        else [] := by
    rintro ⟨id', sub⟩
    by_cases hid : id' = id
    · subst hid
      rw [if_pos rfl]
      split_ifs
      · exact received_flatMap _ _ _
      · rfl
    · rw [if_neg hid]
      split_ifs
      · rw [received_flatMap]
        simp [received_publish, hid]
      · rfl
  unfold dispatch
  rw [received_flatMap]
  simp only [hentry]
  rw [Dict.flatMap_entries_of_key _ id fun sub => if selects sub then
    payloads.flatMap fun payload => received (publish subs id payload) id else []]
  cases hsub : subs.subscriptions.get? id with
  | none => rfl
  | some sub =>
      have hsingle : (payloads.flatMap fun payload => received (publish subs id payload) id) =
          payloads := by
        simp only [hone, hsub, Option.isSome_some, if_true, List.replicate_one]
        exact List.flatMap_singleton' payloads
      simp only [Option.elim_some, hsingle]

/-- An open handle is registered, a subscription belongs to an open handle. -/
theorem openFor_iff {subs : Subscribers} (h : SubscriberInv subs) {channel : Channel}
    {key : StreamKey} {id : Nat} :
    OpenFor subs channel key id ↔
      ∃ sub, subs.subscriptions.get? id = some sub ∧ sub.channel = channel ∧
        streamKey sub.contract = key := by
  constructor
  · rintro ⟨handle, hid, hopen, hchannel, hkey⟩
    exact ⟨⟨handle.channel, handle.contract⟩,
      (h.subscriptions id _).2 ⟨handle, hid, hopen, rfl⟩, hchannel, hkey⟩
  · rintro ⟨sub, hsub, hchannel, hkey⟩
    obtain ⟨handle, hid, hopen, rfl⟩ := (h.subscriptions id sub).1 hsub
    exact ⟨handle, hid, hopen, hchannel, hkey⟩

/-- Trades are dispatched by key: they always fan out. -/
theorem fanOut_trades {subs : Subscribers} (h : SubscriberInv subs) (key : StreamKey)
    (ticks : List Nat) :
    FanOut subs .trades key (ticks.map .tick) (dispatchTrades subs key ticks) where
  reaches id hopen := by
    obtain ⟨sub, hsub, hchannel, hkey⟩ := (openFor_iff h).1 hopen
    rw [dispatchTrades, received_dispatch h, hsub]
    simp [hchannel, hkey]
  only id hnot := by
    rw [dispatchTrades, received_dispatch h]
    cases hsub : subs.subscriptions.get? id with
    | none => rfl
    | some sub =>
        have hother : ¬ (sub.channel = .trades ∧ streamKey sub.contract = key) := by
          rintro ⟨hchannel, hkey⟩
          exact hnot ((openFor_iff h).2 ⟨sub, hsub, hchannel, hkey⟩)
        simp only [Option.elim_some, Bool.and_eq_true, decide_eq_true_eq, if_neg hother]

/-- Depth is dispatched by contract: it fans out exactly when the open subscriptions of
the key have the stream's contract. -/
theorem fanOut_depth_iff {subs : Subscribers} (h : SubscriberInv subs) {key : StreamKey}
    {stream : Stream} (hkey : streamKey stream.contract = key) :
    FanOut subs .depth key [.book stream.bids stream.asks] (dispatchDepth subs stream) ↔
      SameContract subs key stream.contract := by
  constructor
  · intro hfan id handle hid hopen hchannel hkey'
    by_contra hother
    have hreceived := hfan.reaches id ⟨handle, hid, hopen, hchannel, hkey'⟩
    have hsub : subs.subscriptions.get? id = some ⟨handle.channel, handle.contract⟩ :=
      (h.subscriptions id _).2 ⟨handle, hid, hopen, rfl⟩
    rw [dispatchDepth, received_dispatch h, hsub] at hreceived
    simp [hother] at hreceived
  · intro hsame
    constructor
    · rintro id ⟨handle, hid, hopen, hchannel, hkey'⟩
      have hcontract := hsame id handle hid hopen hchannel hkey'
      have hsub : subs.subscriptions.get? id = some ⟨handle.channel, handle.contract⟩ :=
        (h.subscriptions id _).2 ⟨handle, hid, hopen, rfl⟩
      rw [dispatchDepth, received_dispatch h, hsub]
      simp [hchannel, hcontract]
    · intro id hnot
      rw [dispatchDepth, received_dispatch h]
      cases hsub : subs.subscriptions.get? id with
      | none => rfl
      | some sub =>
          have hother : ¬ (sub.channel = .depth ∧ sub.contract = stream.contract) := by
            rintro ⟨hchannel, hcontract⟩
            exact hnot ((openFor_iff h).2 ⟨sub, hsub, hchannel, by rw [hcontract, hkey]⟩)
          simp only [Option.elim_some, Bool.and_eq_true, decide_eq_true_eq, if_neg hother]

/-! ## Updates as steps -/

/-- An update of a registered trades stream is dispatched by its key. -/
theorem deliveredBy_tradesUpdate {cap : Nat} {s s' : MarketData} (h : KeyedInv s.table)
    {key : StreamKey} {sid : Nat} {ticks : List Nat}
    (hreg : (s.table.registry .trades).get? key = some sid)
    (hstep : streamStep cap s (.tradesUpdate sid ticks) = some s') :
    deliveredBy s s' = dispatchTrades s.subs key ticks := by
  have hkey := h.registered .trades key sid hreg
  simp only [streamStep, hkey] at hstep
  split_ifs at hstep
  cases hstep
  simp [deliveredBy]

/-- An update of a registered depth stream is applied to its book and dispatched by its
contract. -/
theorem deliveredBy_depthUpdate {cap : Nat} {s s' : MarketData} (h : KeyedInv s.table)
    {key : StreamKey} {sid : Nat} {stream : Stream} {ticks : List DepthTick}
    (hreg : (s.table.registry .depth).get? key = some sid)
    (hsid : s.table.streams.get? sid = some stream)
    (hstep : streamStep cap s (.depthUpdate sid ticks) = some s') :
    deliveredBy s s' = dispatchDepth s.subs (ticks.foldl applyDepthTick stream) := by
  have hkey := h.registered .depth key sid hreg
  simp only [streamStep, hkey, hreg] at hstep
  split_ifs at hstep
  cases hstep
  simp [deliveredBy, onDepthUpdate, updateStream, hsid]

/-- In every reachable state, updates of registered trades streams fan out, and updates
of a registered depth stream fan out exactly when all open depth subscriptions of its key
were made with the contract the stream was opened with. -/
theorem fanOut_iff (spec : IbConnectionSpec) (s : MarketData)
    (hs : (streamMachine spec).Reachable s) :
    (∀ key sid ticks s', (s.table.registry .trades).get? key = some sid →
      (streamMachine spec).step s (.tradesUpdate sid ticks) = some s' →
        FanOut s.subs .trades key (ticks.map .tick) (deliveredBy s s')) ∧
    ∀ key sid stream ticks s', (s.table.registry .depth).get? key = some sid →
      s.table.streams.get? sid = some stream →
      (streamMachine spec).step s (.depthUpdate sid ticks) = some s' →
        (FanOut s.subs .depth key
            [.book (ticks.foldl applyDepthTick stream).bids
              (ticks.foldl applyDepthTick stream).asks] (deliveredBy s s') ↔
          SameContract s.subs key stream.contract) := by
  have hinv : MarketInv s :=
    (streamMachine spec).invariant_reachable marketInv_init
      (fun _ _ _ h hstep => h.step hstep) hs
  refine ⟨fun key sid ticks s' hreg hstep => ?_, fun key sid stream ticks s' hreg hsid hstep => ?_⟩
  · have hupdate : streamStep spec.marketDataLines s (.tradesUpdate sid ticks) = some s' := hstep
    rw [deliveredBy_tradesUpdate hinv.keyed hreg hupdate]
    exact fanOut_trades hinv.subscribers key ticks
  · have hupdate : streamStep spec.marketDataLines s (.depthUpdate sid ticks) = some s' := hstep
    rw [deliveredBy_depthUpdate hinv.keyed hreg hsid hupdate]
    have hcontract := contract_foldl_applyDepthTick ticks stream
    have hkey : streamKey stream.contract = key := by
      have hkeyOf := hinv.keyed.registered .depth key sid hreg
      simpa [keyOf, hsid] using hkeyOf
    rw [← hcontract] at hkey ⊢
    exact fanOut_depth_iff hinv.subscribers hkey

/-! ## Two objects, one contract id -/

/-- Contract 265598, resolved for two different references. -/
def resolvedFor (ref : Nat) : Contract :=
  .resolved ⟨ref, 265598, "265598", 0⟩

/-- Two depth subscribers with one contract object. -/
def sharedStream : MarketData :=
  subscribe 100 (subscribe 100 .init .depth (resolvedFor 0) (some 0)) .depth (resolvedFor 0) none

theorem sharedStream_contract {id : Nat} {h : SubscriptionHandle}
    (hid : sharedStream.subs.handles.get? id = some h) : h.contract = resolvedFor 0 := by
  have hhandles : sharedStream.subs.handles =
      ((∅ : Dict Nat SubscriptionHandle).set 1 ⟨.depth, resolvedFor 0, 0, false, none⟩).set 2
        ⟨.depth, resolvedFor 0, 0, false, none⟩ := rfl
  rw [hhandles, Dict.get?_set, Dict.get?_set] at hid
  split_ifs at hid <;> cases hid <;> rfl

/-- Both of them receive an update of the stream. -/
theorem sharedStream_fans_out :
    (streamMachine .default).Reachable sharedStream ∧
      FanOut sharedStream.subs .depth (.contractId "265598") [.book [] []]
        (deliveredBy sharedStream (onDepthUpdate sharedStream 0 [])) := by
  have hreachable : (streamMachine .default).Reachable sharedStream :=
    ⟨[.subscribe "depth" (resolvedFor 0) (some 0), .subscribe "depth" (resolvedFor 0) none], rfl⟩
  have hsame : SameContract sharedStream.subs (.contractId "265598") (resolvedFor 0) :=
    fun _ _ hid _ _ _ => sharedStream_contract hid
  exact ⟨hreachable, ((fanOut_iff .default sharedStream hreachable).2 (.contractId "265598") 0
    _ [] _ rfl rfl rfl).2 hsame⟩

/-- Two depth subscribers of one contract, with contract objects resolved for different
references: they share the stream, and the second one receives no book. -/
theorem other_object_gets_no_depth :
    ∃ s s', (streamMachine .default).run .init
        [.subscribe "depth" (resolvedFor 0) (some 0),
          .subscribe "depth" (resolvedFor 1) none] = some s ∧
      (streamMachine .default).step s (.depthUpdate 0 []) = some s' ∧
      OpenFor s.subs .depth (.contractId "265598") 2 ∧
      received (deliveredBy s s') 1 = [.book [] []] ∧
      received (deliveredBy s s') 2 = [] ∧
      ¬ FanOut s.subs .depth (.contractId "265598") [.book [] []] (deliveredBy s s') := by
  refine ⟨_, _, rfl, rfl, ⟨_, rfl, rfl, rfl, rfl⟩, rfl, rfl, fun h => ?_⟩
  have hreceived := h.reaches 2 ⟨_, rfl, rfl, rfl, rfl⟩
  cases hreceived

end Ib
end MarketConnector
