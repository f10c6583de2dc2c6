import MarketConnector.Ib.RequestRouting

/-!
# Ib - Who receives the updates of a stream

Subscriptions are kept in one registry and matched with a stream by its contract, while
stream objects are dropped and opened again under the same key.  A handle whose stream was
dropped stays in the registry as long as it is open.

Main results:

- Definition `DispatchInv`: the subscriptions a stream feeds are its users.
- Theorem `DispatchInv.step`: every step keeps this but one that opens a stream under a key
  with subscriptions left over.
- Theorem `dispatchesCounted_iff`: updates go to the users of their stream only, exactly as
  long as no such stream is opened.
-/

namespace MarketConnector
namespace Ib

open Foundations

/-! ## Updates and subscriptions -/

/-- Contract of a stream object. -/
def contractOf (t : StreamTable) (sid : Nat) : Option Contract :=
  (t.streams.get? sid).map Stream.contract

/-- The subscription is selected by the updates of a stream of the contract. -/
def Matches (channel : Channel) (contract : Contract) (sub : ActiveSubscription) : Prop :=
  sub.channel = channel ∧ match channel with
    | .depth => sub.contract = contract
    | .trades => streamKey sub.contract = streamKey contract

/-- The subscription is open and counted in the reference count of the stream object. -/
def CountedIn (s : MarketData) (sid id : Nat) : Prop :=
  ∃ h, s.subs.handles.get? id = some h ∧ h.closed = false ∧ h.stream = sid

/-- An error is being reported to the subscribers of a stream, and the turn of this one is
still to come. -/
def BeingFailed (s : CallbackState) (id : Nat) : Prop :=
  ∃ exc left, .failing exc left ∈ s.stack ∧ id ∈ left

/-- Updates of a stream. -/
inductive UpdateOf (sid : Nat) : Channel → StreamLabel → Prop where
  | depth (ticks : List DepthTick) : UpdateOf sid .depth (.depthUpdate sid ticks)
  | trades (ticks : List Nat) : UpdateOf sid .trades (.tradesUpdate sid ticks)

/-- Subscriptions the innermost fan-out publishes to. -/
def dispatchedTo (s : CallbackState) : List Nat :=
  match s.stack with
  | .publishing left :: _ => left.map Delivery.subscription
  | _ => []

/-- Every stream object counts its users, and an update of a registered stream is dispatched
to its users only.  While an error is being reported, when no update can arrive, those that
are still to hear of it are excepted. -/
structure DispatchesCounted (cap : Nat) (s : CallbackState) : Prop where
  refs : ∀ sid st, s.market.table.streams.get? sid = some st →
    st.refs = streamUsers s.market sid
  updates : ∀ channel sid l s', Registered s.market.table channel.kind sid →
    UpdateOf sid channel l → callbackStep cap s (.op l) = some s' →
      ∀ id ∈ dispatchedTo s', CountedIn s.market sid id ∨ BeingFailed s id

/-- A call that finds no stream under the key opens one: a line is free, and IB answers. -/
def OpensStream (cap : Nat) (t : StreamTable) (kind : StreamKind) (contract : Contract)
    (ticker : Option Nat) : Prop :=
  (t.registry kind).get? (streamKey contract) = none ∧ t.mdLines < cap ∧ ticker.isSome = true

/-- No open subscription would receive the updates of a new stream of the contract, but for
those that are being failed. -/
def NoneLeftOver (s : CallbackState) (channel : Channel) (contract : Contract) : Prop :=
  ∀ id sub, s.market.subs.subscriptions.get? id = some sub → Matches channel contract sub →
    BeingFailed s id

/-- A stream is opened only when no open subscription is left over for it. -/
def OpensForUsers (cap : Nat) (s : CallbackState) : CallbackLabel → Prop
  | .op (.subscribe name contract ticker) => ∀ channel, Channel.ofString name = some channel →
      OpensStream cap s.market.table channel.kind contract ticker → NoneLeftOver s channel contract
  | .op (.depthSnapshot contract ticker) =>
      OpensStream cap s.market.table .depth contract ticker → NoneLeftOver s .depth contract
  | _ => True

/-! ## Dispatch -/

theorem mem_publishes {subs : Subscribers} {selects : ActiveSubscription → Bool}
    {payloads : List Payload} {id : Nat} :
    id ∈ (publishes subs selects payloads).map Delivery.subscription ↔
      payloads ≠ [] ∧ ∃ sub, subs.subscriptions.get? id = some sub ∧ selects sub = true := by
  simp only [publishes, List.mem_map, List.mem_flatMap]
  constructor
  · rintro ⟨delivery, ⟨⟨id', sub⟩, hentry, hdelivery⟩, rfl⟩
    split_ifs at hdelivery with hselects
    · obtain ⟨payload, hpayload, rfl⟩ := List.mem_map.mp hdelivery
      exact ⟨List.ne_nil_of_mem hpayload, sub, (Dict.mem_entries_iff _).mp hentry, hselects⟩
    · cases hdelivery
  · rintro ⟨hne, sub, hsub, hselects⟩
    obtain ⟨payload, hpayload⟩ := List.exists_mem_of_ne_nil payloads hne
    refine ⟨⟨id, payload⟩, ⟨(id, sub), (Dict.mem_entries_iff _).mpr hsub, ?_⟩, rfl⟩
    rw [if_pos hselects]
    exact List.mem_map.mpr ⟨payload, hpayload, rfl⟩

theorem contractOf_eq_some {t : StreamTable} {sid : Nat} {contract : Contract} :
    contractOf t sid = some contract ↔
      ∃ st, t.streams.get? sid = some st ∧ st.contract = contract :=
  Option.map_eq_some_iff

theorem keyOf_of_contractOf {t : StreamTable} {sid : Nat} {contract : Contract}
    (h : contractOf t sid = some contract) : keyOf t sid = some (streamKey contract) := by
  obtain ⟨st, hst, rfl⟩ := contractOf_eq_some.mp h
  rw [keyOf, hst]
  rfl

theorem KeyedInv.get?_of_contractOf {t : StreamTable} (h : KeyedInv t) {kind : StreamKind}
    {sid : Nat} {contract : Contract} (hreg : Registered t kind sid)
    (hcontract : contractOf t sid = some contract) :
    (t.registry kind).get? (streamKey contract) = some sid := by
  obtain ⟨key, hkey⟩ := hreg
  have hown := h.registered kind key sid hkey
  rw [keyOf_of_contractOf hcontract] at hown
  rw [Option.some.inj hown]
  exact hkey

theorem KeyedInv.exists_contractOf {t : StreamTable} (h : KeyedInv t) {kind : StreamKind}
    {sid : Nat} (hreg : Registered t kind sid) : ∃ contract, contractOf t sid = some contract := by
  obtain ⟨key, hkey⟩ := hreg
  obtain ⟨st, hst, -⟩ := Option.map_eq_some_iff.mp (h.registered kind key sid hkey)
  exact ⟨st.contract, contractOf_eq_some.mpr ⟨st, hst, rfl⟩⟩

/-- An update of a registered stream is dispatched by the contract of the stream. -/
theorem dispatchedTo_of_update {cap : Nat} {s s' : CallbackState} (hkeyed : KeyedInv s.market.table)
    {channel : Channel} {sid : Nat} {contract : Contract}
    (hreg : Registered s.market.table channel.kind sid)
    (hcontract : contractOf s.market.table sid = some contract) {l : StreamLabel}
    (hupdate : UpdateOf sid channel l) (hstep : callbackStep cap s (.op l) = some s')
    {id : Nat} (hid : id ∈ dispatchedTo s') :
    ∃ sub, s.market.subs.subscriptions.get? id = some sub ∧ Matches channel contract sub := by
  have hkey := keyOf_of_contractOf hcontract
  have hcurrent := hkeyed.get?_of_contractOf hreg hcontract
  cases hupdate with
  | trades ticks =>
      simp only [callbackStep, opStep, hkey] at hstep
      split_ifs at hstep
      cases hstep
      obtain ⟨-, sub, hsub, hselects⟩ := mem_publishes.mp hid
      simp only [Bool.and_eq_true, decide_eq_true_eq] at hselects
      exact ⟨sub, hsub, hselects⟩
  | depth ticks =>
      obtain ⟨st, hst, rfl⟩ := contractOf_eq_some.mp hcontract
      have hbook : (applyTicks s.market sid ticks).table.streams.get? sid =
          some (ticks.foldl applyDepthTick st) := by
        simp only [applyTicks, get?_updateStream, if_true, hst, Option.map_some]
      simp only [callbackStep, opStep, hkey] at hstep
      split_ifs at hstep
      simp only [Channel.kind] at hcurrent
      simp only [hcurrent, hbook] at hstep
      cases hstep
      obtain ⟨-, sub, hsub, hselects⟩ := mem_publishes.mp hid
      simp only [Bool.and_eq_true, decide_eq_true_eq, contract_foldl_applyDepthTick] at hselects
      exact ⟨sub, hsub, hselects⟩

/-- A hooked stream may be updated, and every subscription of its contract is then reached. -/
theorem exists_update (cap : Nat) {s : CallbackState} (hkeyed : KeyedInv s.market.table)
    {channel : Channel} {sid : Nat} {contract : Contract}
    (hreg : Registered s.market.table channel.kind sid)
    (hcontract : contractOf s.market.table sid = some contract)
    (hhooked : isHooked s.market.table sid = true) :
    ∃ l s', UpdateOf sid channel l ∧ callbackStep cap s (.op l) = some s' ∧
      ∀ id sub, s.market.subs.subscriptions.get? id = some sub → Matches channel contract sub →
        id ∈ dispatchedTo s' := by
  have hkey := keyOf_of_contractOf hcontract
  have hcurrent := hkeyed.get?_of_contractOf hreg hcontract
  cases channel with
  | trades =>
      have hstep : callbackStep cap s (.op (.tradesUpdate sid [0])) = some (beginFanOut s s.market
          (.publishing (publishes s.market.subs
            (fun sub => sub.channel = .trades && streamKey sub.contract = streamKey contract)
            [.tick 0]))) := by
        simp [callbackStep, opStep, hkey, hhooked]
      refine ⟨_, _, .trades [0], hstep, fun id sub hsub hmatch => ?_⟩
      apply mem_publishes.mpr
      refine ⟨by simp, sub, hsub, ?_⟩
      simp only [Bool.and_eq_true, decide_eq_true_eq]
      exact hmatch
  | depth =>
      obtain ⟨st, hst, rfl⟩ := contractOf_eq_some.mp hcontract
      have hbook : (applyTicks s.market sid []).table.streams.get? sid = some st := by
        simp [applyTicks, get?_updateStream, hst]
      have hstep : callbackStep cap s (.op (.depthUpdate sid [])) =
          some (beginFanOut s (applyTicks s.market sid []) (.publishing (publishes
            (applyTicks s.market sid []).subs
            (fun sub => sub.channel = .depth && sub.contract = st.contract)
            [.book st.bids st.asks]))) := by
        simp only [Channel.kind] at hcurrent
        simp only [callbackStep, opStep, hkey, hhooked, hcurrent, hbook, if_true]
      refine ⟨_, _, .depth [], hstep, fun id sub hsub hmatch => ?_⟩
      apply mem_publishes.mpr
      refine ⟨by simp, sub, hsub, ?_⟩
      simp only [Bool.and_eq_true, decide_eq_true_eq]
      exact hmatch

/-! ## Contracts of stream objects -/

theorem contractOf_updateStream (t : StreamTable) (sid sid' : Nat) {f : Stream → Stream}
    (hf : ∀ st, (f st).contract = st.contract) :
    contractOf (updateStream t sid f) sid' = contractOf t sid' := by
  unfold contractOf
  rw [get?_updateStream]
  split_ifs with heq
  · rw [heq]
    cases t.streams.get? sid with
    | none => rfl
    | some st => exact congrArg some (hf st)
  · rfl

theorem contractOf_unhook (t : StreamTable) (kind : StreamKind) (sid sid' : Nat) :
    contractOf (unhook t kind sid) sid' = contractOf t sid' := by
  unfold contractOf
  rw [get?_unhook]
  split_ifs with heq
  · rw [heq]
    cases t.streams.get? sid <;> rfl
  · rfl

theorem contractOf_sendRequest (t : StreamTable) (kind : StreamKind) (sid sid' : Nat)
    (ticker : Option Nat) :
    contractOf (sendRequest t kind sid ticker).1 sid' = contractOf t sid' := by
  unfold contractOf
  rw [get?_sendRequest]
  split_ifs with heq
  · rw [heq]
    cases t.streams.get? sid <;> cases ticker <;> rfl
  · rfl

theorem contractOf_resubscribeOne (kind : StreamKind) (cancelOld : Bool) (t : StreamTable)
    (sid sid' : Nat) (answer : IbAnswer) :
    contractOf (resubscribeOne kind cancelOld t sid answer) sid' = contractOf t sid' := by
  have hreset := fun t => contractOf_updateStream t sid sid' keepsRequest_reset.contract
  have hcancel : ∀ t, contractOf (sendCancel t kind sid) sid' = contractOf t sid' := by
    intro t
    simp only [contractOf, streams_sendCancel]
  unfold resubscribeOne
  dsimp only
  split_ifs <;> simp only [contractOf_sendRequest, hcancel, hreset, contractOf_unhook]

theorem contractOf_dropOf (kind : StreamKind) (t : StreamTable) (sid sid' : Nat) :
    contractOf (dropOf kind t sid) sid' = contractOf t sid' := by
  have hdrop : ∀ kind, contractOf (dropStream t kind sid) sid' = contractOf t sid' := by
    intro kind
    unfold contractOf
    rw [get?_dropStream]
    split_ifs with heq
    · rw [heq]
      cases t.streams.get? sid <;> rfl
    · rfl
  cases kind with
  | l1 => exact hdrop .l1
  | depth => exact hdrop .depth
  | trades =>
      change contractOf (dropTrades t sid) sid' = contractOf t sid'
      unfold dropTrades
      split_ifs
      · have hsame : contractOf (sendCancel (unhook (forget t .trades sid) .trades sid) .trades sid)
            sid' = contractOf (unhook (forget t .trades sid) .trades sid) sid' := by
          simp only [contractOf, streams_sendCancel]
        rw [hsame, contractOf_unhook]
        simp only [contractOf, streams_forget]
      · rfl

/-- The stream objects of a table are still there, with their contracts. -/
def KeepsContracts (t t' : StreamTable) : Prop :=
  ∀ sid contract, contractOf t sid = some contract → contractOf t' sid = some contract

theorem KeepsContracts.openStream {t : StreamTable} (hkeyed : KeyedInv t) (cap : Nat)
    (kind : StreamKind) (contract : Contract) (ticker : Option Nat) :
    KeepsContracts t (openStream cap t kind contract ticker).1 := by
  intro sid contract' hsid
  have hne : sid ≠ t.nextStream := by
    rintro rfl
    rw [contractOf, streams_nextStream hkeyed] at hsid
    cases hsid
  have hadded : contractOf (addStream t contract) sid = some contract' := by
    rw [contractOf, addStream, Dict.get?_set_of_ne _ hne]
    exact hsid
  have hsent := contractOf_sendRequest (addStream t contract) kind t.nextStream sid ticker
  rw [openStream_eq]
  split_ifs
  · exact hsid
  · exact hsent.trans hadded
  · exact hsent.trans hadded

theorem keepsContracts_tableRun {cap : Nat} {t t' : StreamTable} (hkeyed : KeyedInv t)
    (hrun : TableRun cap t t') : KeepsContracts t t' := by
  refine (hrun.invariant (P := KeepsContracts t) ?_ hkeyed fun _ _ h => h).2
  intro t₁ t₂ hkeyed' hkept hop sid contract hsid
  have hold := hkept sid contract hsid
  cases hop with
  | updates sid' hf => rwa [contractOf_updateStream _ _ _ hf.contract]
  | drops kind hreg => rwa [contractOf_dropOf]
  | opens kind ticker habsent =>
      exact KeepsContracts.openStream hkeyed' cap kind _ ticker sid _ hold

/-- No step changes the contract of a stream object. -/
theorem keepsContracts_move {cap : Nat} {s s' : MarketData} {l : CallbackLabel}
    (hkeyed : KeyedInv s.table) (hmove : CallbackMove cap s l s') :
    KeepsContracts s.table s'.table := by
  by_cases hother : IsResubscribe l
  · obtain ⟨cancelOld, answers, rfl⟩ := hother
    cases hmove with
    | same => exact fun _ _ h => h
    | resubscribes =>
        intro sid contract hsid
        refine resubscribeAll_invariant (P := fun t => contractOf t sid = some contract) ?_ hsid
        intro t kind sid' ht _
        rwa [contractOf_resubscribeOne]
  · exact keepsContracts_tableRun hkeyed (tableRun_move hkeyed hmove hother)

/-! ## Streams that are opened -/

/-- The same streams are registered, with the same contracts and tickers. -/
structure SameStreams (t t' : StreamTable) : Prop where
  registry : t'.registry = t.registry
  contracts : ∀ sid, contractOf t' sid = contractOf t sid
  tickers : ∀ sid, tickerOf t' sid = tickerOf t sid

theorem SameStreams.refl (t : StreamTable) : SameStreams t t :=
  ⟨rfl, fun _ => rfl, fun _ => rfl⟩

theorem SameStreams.trans {t t' t'' : StreamTable} (h : SameStreams t t')
    (h' : SameStreams t' t'') : SameStreams t t'' where
  registry := h'.registry.trans h.registry
  contracts sid := (h'.contracts sid).trans (h.contracts sid)
  tickers sid := (h'.tickers sid).trans (h.tickers sid)

theorem SameStreams.updateStream (t : StreamTable) (sid : Nat) {f : Stream → Stream}
    (hf : KeepsRequest f) : SameStreams t (updateStream t sid f) where
  registry := registry_updateStream t sid f
  contracts sid' := contractOf_updateStream t sid sid' hf.contract
  tickers := (SameRequests.updateStream t sid hf).tickers

theorem SameStreams.registered {t t' : StreamTable} (h : SameStreams t t') (kind : StreamKind)
    (sid : Nat) : Registered t' kind sid ↔ Registered t kind sid := by
  simp only [Registered, h.registry]

theorem Touched.sameStreams {t t' : StreamTable} (h : Touched t t') : SameStreams t t' := by
  induction h with
  | same => exact .refl t
  | updates _ sid hf ih => exact ih.trans (.updateStream _ sid hf)

/-- What a call registers that opens a stream. -/
structure Opened (t t' : StreamTable) (kind : StreamKind) (contract : Contract)
    (ticker : Option Nat) : Prop where
  registered : ∀ kind' sid, Registered t' kind' sid ↔
    Registered t kind' sid ∨ (kind' = kind ∧ sid = t.nextStream)
  contract : contractOf t' t.nextStream = some contract
  ticker : tickerOf t' t.nextStream = ticker

theorem Opened.same {t t' t'' : StreamTable} {kind : StreamKind} {contract : Contract}
    {ticker : Option Nat} (h : Opened t t' kind contract ticker) (hsame : SameStreams t' t'') :
    Opened t t'' kind contract ticker where
  registered kind' sid := (hsame.registered kind' sid).trans (h.registered kind' sid)
  contract := (hsame.contracts _).trans h.contract
  ticker := (hsame.tickers _).trans h.ticker

theorem findOrOpen_opened {cap : Nat} {t : StreamTable} {kind : StreamKind} {contract : Contract}
    {ticker : Option Nat} (h : OpensStream cap t kind contract ticker) :
    Opened t (findOrOpen cap t kind contract ticker).1 kind contract ticker := by
  obtain ⟨habsent, hfree, hanswered⟩ := h
  have hstream : (addStream t contract).streams.get? t.nextStream = some (.new contract) := by
    simp [addStream]
  have hcontract := contractOf_sendRequest (addStream t contract) kind t.nextStream t.nextStream
    ticker
  have hticker := tickerOf_sendRequest (addStream t contract) kind t.nextStream t.nextStream ticker
  have hopen : findOrOpen cap t kind contract ticker =
      (registerNew t kind contract ticker, some t.nextStream) := by
    rw [findOrOpen, habsent]
    simp [openStream_eq, hfree, hanswered]
  rw [hopen]
  refine ⟨fun kind' sid => ?_, ?_, ?_⟩
  · exact registered_registerNew habsent ticker kind' sid
  · refine hcontract.trans ?_
    rw [contractOf, hstream]
    rfl
  · refine hticker.trans (if_pos ⟨rfl, ?_, hanswered⟩)
    rw [hstream]
    rfl

theorem registered_of_findOrOpen {cap : Nat} {t : StreamTable} {kind : StreamKind}
    {contract : Contract} {ticker : Option Nat} (h : ¬ OpensStream cap t kind contract ticker)
    (kind' : StreamKind) (sid : Nat) :
    Registered (findOrOpen cap t kind contract ticker).1 kind' sid ↔ Registered t kind' sid := by
  unfold findOrOpen
  cases hkey : (t.registry kind).get? (streamKey contract) with
  | some found => rfl
  | none =>
      dsimp only
      rw [openStream_eq]
      split_ifs with hcap hanswered
      · rfl
      · exact absurd ⟨hkey, by omega, hanswered⟩ h
      · simp only [Registered, registry_requestNew]

/-- A stream that is found or opened is registered under the key of the contract. -/
theorem findOrOpen_key {cap : Nat} {t t' : StreamTable} {kind : StreamKind} {contract : Contract}
    {ticker : Option Nat} {sid : Nat}
    (hfound : findOrOpen cap t kind contract ticker = (t', some sid)) :
    (t'.registry kind).get? (streamKey contract) = some sid := by
  unfold findOrOpen at hfound
  cases hkey : (t.registry kind).get? (streamKey contract) with
  | some found =>
      rw [hkey] at hfound
      cases hfound
      exact hkey
  | none =>
      rw [hkey] at hfound
      dsimp only at hfound
      rw [openStream_eq] at hfound
      split_ifs at hfound <;> cases hfound
      simp [registerNew, addLines, register]

theorem acquire_key {cap : Nat} {t t' : StreamTable} {channel : Channel} {contract : Contract}
    {ticker : Option Nat} {sid : Nat}
    (hacquire : acquire cap t channel contract ticker = (t', some sid)) :
    (t'.registry channel.kind).get? (streamKey contract) = some sid := by
  obtain ⟨htouched, hsid⟩ := acquire_touched cap t channel contract ticker
  rw [hacquire] at htouched hsid
  rw [htouched.registry]
  exact findOrOpen_key (Prod.ext rfl hsid.symm)

/-! ## Subscriptions that stay -/

/-- No subscription is added, and the handles of those that stay are as they were. -/
def SubsShrink (subs subs' : Subscribers) : Prop :=
  ∀ id sub, subs'.subscriptions.get? id = some sub →
    subs.subscriptions.get? id = some sub ∧ subs'.handles.get? id = subs.handles.get? id

theorem SubsShrink.refl (subs : Subscribers) : SubsShrink subs subs :=
  fun _ _ h => ⟨h, rfl⟩

theorem subsShrink_closeHandle (s : MarketData) (id : Nat) (loop : Bool) :
    SubsShrink s.subs (closeHandle s id loop).subs := by
  rcases closeHandle_cases s id loop with ⟨handle, -, -, heq⟩ | ⟨-, hsame⟩
  · intro id' sub hsub
    rw [heq, cleanup_subs] at hsub ⊢
    simp only [unsubscribeBus, setHandle, Dict.get?_pop, Dict.get?_set] at hsub ⊢
    split_ifs at hsub ⊢
    exact ⟨hsub, rfl⟩
  · rw [hsame]
    exact .refl _

theorem subsShrink_failHandle (exc : StreamError) (s : MarketData) (id : Nat) :
    SubsShrink s.subs (failHandle exc s id).subs := by
  rcases failHandle_cases exc s id with ⟨handle, -, hopen, heq⟩ | ⟨-, hsame⟩
  · intro id' sub hsub
    rw [heq] at hsub ⊢
    have hshrink := subsShrink_closeHandle (setHandle s id { handle with error := some exc }) id
      true id' sub hsub
    have hne : id' ≠ id := by
      rintro rfl
      simp [closeHandle, setHandle, hopen, cleanup_subs, unsubscribeBus] at hsub
    refine ⟨hshrink.1, hshrink.2.trans ?_⟩
    exact Dict.get?_set_of_ne _ hne _
  · rw [hsame]
    exact .refl _

/-- A subscription that is failed is closed. -/
theorem subscriptions_failHandle {s : MarketData} (h : SubscriberInv s.subs) (exc : StreamError)
    (id : Nat) : (failHandle exc s id).subs.subscriptions.get? id = none := by
  rcases failHandle_cases exc s id with ⟨handle, -, hopen, heq⟩ | ⟨hclosed, hsame⟩
  · rw [heq]
    simp [closeHandle, setHandle, hopen, cleanup_subs, unsubscribeBus]
  · rw [hsame]
    apply Option.eq_none_iff_forall_ne_some.mpr
    intro sub hsub
    obtain ⟨handle, hhandle, hopen, -⟩ := (h.subscriptions id sub).mp hsub
    rw [hclosed handle hhandle] at hopen
    cases hopen

theorem subs_dropFailed (s : MarketData) (reqId code : Int) (message : String) :
    (dropFailed s reqId code message).1.subs = s.subs := by
  have hdrop : ∀ kind sid, (dropRegistered s kind sid).subs = s.subs := by
    intro kind sid
    rw [dropRegistered_eq]
  unfold dropFailed
  split
  · rfl
  · split
    · split <;> rfl
    · split
      · rfl
      · split
        · exact hdrop _ _
        · split <;> rfl

theorem subs_endSnapshot (s : MarketData) (id : Nat) (snapshot : Snapshot) (timedOut : Bool) :
    (endSnapshot s id snapshot timedOut).subs = s.subs := by
  have hdeadline : (dropAtDeadline (leaveSnapshot s id snapshot) snapshot timedOut).subs =
      s.subs := by
    rcases dropAtDeadline_eq (leaveSnapshot s id snapshot) snapshot timedOut with hsame | hdrop
    · rw [hsame]
      rfl
    · rw [hdrop, dropRegistered_eq]
      rfl
  unfold endSnapshot
  dsimp only
  split_ifs
  · exact hdeadline
  · exact hdeadline

theorem subs_startSnapshot (cap : Nat) (s : MarketData) (depth : Bool) (contract : Contract)
    (ticker : Option Nat) : (startSnapshot cap s depth contract ticker).subs = s.subs := by
  unfold startSnapshot
  dsimp only
  split <;> rfl

/-- Steps that may open no stream add no subscription. -/
theorem subsShrink_move {cap : Nat} {s s' : MarketData} {l : CallbackLabel}
    (hmove : CallbackMove cap s l s') (hopen : ¬ MayOpen l) : SubsShrink s.subs s'.subs := by
  cases hmove with
  | subscribes => exact absurd trivial hopen
  | closes => exact subsShrink_closeHandle _ _ _
  | topOfBook => exact absurd trivial hopen
  | depthSnapshot => exact absurd trivial hopen
  | snapshotEnds hid =>
      rw [subs_endSnapshot]
      exact .refl _
  | routed hnone =>
      rw [subs_dropFailed]
      exact .refl _
  | fails hsome =>
      change SubsShrink s.subs (dropFailed s _ _ _).1.subs
      rw [subs_dropFailed]
      exact .refl _
  | notifies => exact subsShrink_failHandle _ _ _
  | _ => exact .refl _

/-- Nor do they register a stream. -/
theorem registered_of_move {cap : Nat} {s s' : MarketData} {l : CallbackLabel}
    (hkeyed : KeyedInv s.table) (hmove : CallbackMove cap s l s') (hopen : ¬ MayOpen l)
    {kind : StreamKind} {sid : Nat} (hreg : Registered s'.table kind sid) :
    Registered s.table kind sid := by
  by_cases hother : IsResubscribe l
  · obtain ⟨cancelOld, answers, rfl⟩ := hother
    cases hmove with
    | same => exact hreg
    | resubscribes => exact (StreamFrame.resubscribeAll cancelOld answers s.table).registered hreg
  · exact (quietRun_move hkeyed hmove hother hopen).frame.registered hreg

/-! ## Reports under way -/

/-- An operation at most begins a fan-out. -/
theorem stack_opStep {cap : Nat} {s s' : CallbackState} {l : StreamLabel}
    (hstep : callbackStep cap s (.op l) = some s') :
    s'.stack = s.stack ∨ ∃ frame, s'.stack = frame :: s.stack := by
  cases l with
  | streamError reqId code message =>
      simp only [callbackStep, opStep] at hstep
      split at hstep <;> cases hstep
      · exact Or.inl rfl
      · exact Or.inr ⟨_, rfl⟩
  | tradesUpdate sid ticks =>
      simp only [callbackStep, opStep] at hstep
      split at hstep
      · cases hstep
      · split_ifs at hstep
        cases hstep
        exact Or.inr ⟨_, rfl⟩
  | depthUpdate sid ticks =>
      simp only [callbackStep, opStep] at hstep
      split at hstep
      · cases hstep
      · split_ifs at hstep
        split at hstep
        · cases hstep
          exact Or.inl rfl
        · split at hstep <;> cases hstep
          · exact Or.inl rfl
          · exact Or.inr ⟨_, rfl⟩
  | _ =>
      simp only [callbackStep, opStep] at hstep
      obtain ⟨market, -, rfl⟩ := Option.map_eq_some_iff.mp hstep
      exact Or.inl rfl

/-- A subscription that is being failed is still to hear of it, or is closed. -/
theorem BeingFailed.step {cap : Nat} {s s' : CallbackState} {l : CallbackLabel} {id : Nat}
    {sub : ActiveSubscription} (h : BeingFailed s id) (hsubs : SubscriberInv s.market.subs)
    (hstep : callbackStep cap s l = some s')
    (hsub : s'.market.subs.subscriptions.get? id = some sub) : BeingFailed s' id := by
  obtain ⟨exc, left, hframe, hid⟩ := h
  cases l with
  | op l =>
      refine ⟨exc, left, ?_, hid⟩
      rcases stack_opStep hstep with hsame | ⟨frame, hpushed⟩
      · rwa [hsame]
      · rw [hpushed]
        exact List.mem_cons_of_mem _ hframe
  | resume =>
      simp only [callbackStep, resumeStep] at hstep
      split at hstep <;> cases hstep
      · rename_i stack hstack
        rw [hstack, List.mem_cons] at hframe
        rcases hframe with hhead | htail
        · cases hhead
        · exact ⟨exc, left, htail, hid⟩
      · rename_i d rest stack hstack
        rw [hstack, List.mem_cons] at hframe
        rcases hframe with hhead | htail
        · cases hhead
        · exact ⟨exc, left, List.mem_cons_of_mem _ htail, hid⟩
      · rename_i exc' stack hstack
        rw [hstack, List.mem_cons] at hframe
        rcases hframe with hhead | htail
        · cases hhead
          cases hid
        · exact ⟨exc, left, htail, hid⟩
      · rename_i exc' id' rest stack hstack
        rw [hstack, List.mem_cons] at hframe
        rcases hframe with hhead | htail
        · cases hhead
          rcases List.mem_cons.mp hid with rfl | hlater
          · -- the one that is told now is closed by it
            rw [subscriptions_failHandle hsubs] at hsub
            cases hsub
          · exact ⟨exc, rest, List.mem_cons_self, hlater⟩
        · exact ⟨exc, left, List.mem_cons_of_mem _ htail, hid⟩

/-! ## The invariant -/

/-- The subscriptions that the updates of a registered stream select are its users, but for
those that are being failed. -/
structure DispatchInv (s : CallbackState) : Prop where
  sharing : SharingInv s.market
  reqIds : ReqIdInv s.market.table
  fed : ∀ channel sid contract, Registered s.market.table channel.kind sid →
    contractOf s.market.table sid = some contract →
      ∀ id sub, s.market.subs.subscriptions.get? id = some sub → Matches channel contract sub →
        CountedIn s.market sid id ∨ BeingFailed s id

theorem dispatchInv_init : DispatchInv .init where
  sharing := sharingInv_init
  reqIds := reqIdInv_init
  fed channel sid contract hreg := by
    obtain ⟨key, hkey⟩ := hreg
    cases hkey

/-- A subscription from before the step is fed as before, and by no new stream. -/
theorem DispatchInv.fed_kept {s : CallbackState} (h : DispatchInv s) {market : MarketData}
    (hcontracts : KeepsContracts s.market.table market.table) {channel : Channel} {sid : Nat}
    {contract : Contract}
    (hreg : Registered s.market.table channel.kind sid ∨ NoneLeftOver s channel contract)
    (hcontract : contractOf market.table sid = some contract) {id : Nat}
    {sub : ActiveSubscription} (hsub : s.market.subs.subscriptions.get? id = some sub)
    (hhandle : market.subs.handles.get? id = s.market.subs.handles.get? id)
    (hmatch : Matches channel contract sub) :
    CountedIn market sid id ∨ BeingFailed s id := by
  rcases hreg with hreg | hnone
  · obtain ⟨contract', hold⟩ := h.sharing.market.keyed.exists_contractOf hreg
    have hsame := hcontracts sid contract' hold
    rw [hcontract] at hsame
    cases hsame
    refine (h.fed channel sid contract hreg hold id sub hsub hmatch).imp_left fun hcounted => ?_
    unfold CountedIn
    rwa [hhandle]
  · exact Or.inr (hnone id sub hsub hmatch)

theorem kind_injective {channel channel' : Channel} (h : channel.kind = channel'.kind) :
    channel = channel' := by
  cases channel <;> cases channel' <;> first | rfl | cases h

/-- The streams that a call has registered are old, or are its own. -/
theorem registered_after_find {cap : Nat} {t t' : StreamTable} {kind : StreamKind}
    {contract : Contract} {ticker : Option Nat}
    (hsame : SameStreams (findOrOpen cap t kind contract ticker).1 t') {channel : Channel}
    {sid : Nat} {contract' : Contract} (hreg : Registered t' channel.kind sid)
    (hcontract : contractOf t' sid = some contract') :
    Registered t channel.kind sid ∨
      (channel.kind = kind ∧ contract' = contract ∧ OpensStream cap t kind contract ticker) := by
  by_cases hopens : OpensStream cap t kind contract ticker
  · have hopened := (findOrOpen_opened hopens).same hsame
    rcases (hopened.registered channel.kind sid).mp hreg with hold | ⟨hkind, rfl⟩
    · exact Or.inl hold
    · have hown := hopened.contract
      rw [hcontract] at hown
      exact Or.inr ⟨hkind, Option.some.inj hown, hopens⟩
  · rw [hsame.registered, registered_of_findOrOpen hopens] at hreg
    exact Or.inl hreg

/-- A new subscription is a user of the one stream that feeds it. -/
theorem DispatchInv.subscribed {cap : Nat} {s : CallbackState} (h : DispatchInv s)
    {channel : Channel} {contract : Contract} {ticker : Option Nat}
    (hnone : OpensStream cap s.market.table channel.kind contract ticker →
      NoneLeftOver s channel contract)
    {channel' : Channel} {sid : Nat} {contract' : Contract}
    (hreg : Registered (subscribe cap s.market channel contract ticker).table channel'.kind sid)
    (hcontract : contractOf (subscribe cap s.market channel contract ticker).table sid =
      some contract')
    {id : Nat} {sub : ActiveSubscription}
    (hsub : (subscribe cap s.market channel contract ticker).subs.subscriptions.get? id = some sub)
    (hmatch : Matches channel' contract' sub) :
    CountedIn (subscribe cap s.market channel contract ticker) sid id ∨ BeingFailed s id := by
  have hmove : CallbackMove cap s.market (.op (.subscribe "" contract ticker))
      (subscribe cap s.market channel contract ticker) := .subscribes
  have hcontracts := keepsContracts_move h.sharing.market.keyed hmove
  have hsame := (touched_subscribe cap s.market channel contract ticker).sameStreams
  have hold : Registered s.market.table channel'.kind sid ∨ NoneLeftOver s channel' contract' := by
    refine (registered_after_find hsame hreg hcontract).imp_right ?_
    rintro ⟨hkind, rfl, hopens⟩
    rw [kind_injective hkind]
    exact hnone hopens
  have hkept : ∀ sub', s.market.subs.subscriptions.get? id = some sub' → Matches channel' contract'
      sub' → (subscribe cap s.market channel contract ticker).subs.handles.get? id =
        s.market.subs.handles.get? id →
      CountedIn (subscribe cap s.market channel contract ticker) sid id ∨ BeingFailed s id :=
    fun sub' hsub' hmatch' hhandle => h.fed_kept hcontracts hold hcontract hsub' hhandle hmatch'
  have hkeyed : KeyedInv (subscribe cap s.market channel contract ticker).table :=
    (h.sharing.market.subscribe cap channel contract ticker).keyed
  have hkey := hkeyed.get?_of_contractOf hreg hcontract
  revert hsub hkept hkey
  unfold subscribe
  rcases hacquire : acquire cap s.market.table channel contract ticker with ⟨table, none | found⟩
  · exact fun hsub hkept _ => hkept sub hsub hmatch rfl
  · intro hsub hkept hkey
    dsimp only at hsub hkept hkey ⊢
    rw [Dict.get?_set] at hsub
    split_ifs at hsub with hnew
    · cases hsub
      obtain ⟨rfl, hfeeds⟩ := hmatch
      have hfound := acquire_key hacquire
      have hkeys : streamKey contract = streamKey contract' := by
        cases channel with
        | depth => exact congrArg streamKey hfeeds
        | trades => exact hfeeds
      rw [registry_updateStream, ← hkeys, hfound] at hkey
      left
      refine ⟨⟨channel, contract, found, false, none⟩, ?_, rfl, Option.some.inj hkey⟩
      rw [hnew, Dict.get?_set_self]
    · exact hkept sub hsub hmatch (Dict.get?_set_of_ne _ hnew _)

/-- A snapshot registers no subscription. -/
theorem DispatchInv.snapshotStarted {cap : Nat} {s : CallbackState} (h : DispatchInv s)
    {depth : Bool} {contract : Contract} {ticker : Option Nat}
    (hcontracts : KeepsContracts s.market.table
      (startSnapshot cap s.market depth contract ticker).table)
    (hnone : depth = true → OpensStream cap s.market.table .depth contract ticker →
      NoneLeftOver s .depth contract)
    {channel : Channel} {sid : Nat} {contract' : Contract}
    (hreg : Registered (startSnapshot cap s.market depth contract ticker).table channel.kind sid)
    (hcontract : contractOf (startSnapshot cap s.market depth contract ticker).table sid =
      some contract')
    {id : Nat} {sub : ActiveSubscription}
    (hsub : s.market.subs.subscriptions.get? id = some sub)
    (hmatch : Matches channel contract' sub) :
    CountedIn (startSnapshot cap s.market depth contract ticker) sid id ∨ BeingFailed s id := by
  have hsame := (touched_startSnapshot cap s.market depth contract ticker).sameStreams
  have hold : Registered s.market.table channel.kind sid ∨ NoneLeftOver s channel contract' := by
    refine (registered_after_find hsame hreg hcontract).imp_right ?_
    rintro ⟨hkind, rfl, hopens⟩
    cases depth with
    | false => cases channel <;> cases hkind
    | true =>
        cases channel with
        | trades => cases hkind
        | depth => exact hnone rfl hopens
  refine h.fed_kept hcontracts hold hcontract hsub ?_ hmatch
  rw [subs_startSnapshot]

/-- A step keeps the invariant, unless it opens a stream with subscriptions left over. -/
theorem DispatchInv.step {cap : Nat} {s s' : CallbackState} {l : CallbackLabel} (h : DispatchInv s)
    (hopens : OpensForUsers cap s l) (hstep : callbackStep cap s l = some s') : DispatchInv s' := by
  have hmove := callbackStep_move hstep
  have hkeyed := h.sharing.market.keyed
  have hcontracts := keepsContracts_move hkeyed hmove
  refine ⟨h.sharing.move hmove, (h.reqIds.move hkeyed hmove).inv, ?_⟩
  intro channel sid contract hreg hcontract id sub hsub hmatch
  have hfed : CountedIn s'.market sid id ∨ BeingFailed s id := by
    by_cases hopen : MayOpen l
    · cases l with
      | resume => cases hopen
      | op l =>
          cases l with
          | subscribe name contract₀ ticker =>
              simp only [callbackStep, opStep, streamStep] at hstep
              split at hstep
              · cases hstep
                exact h.fed channel sid contract hreg hcontract id sub hsub hmatch
              · rename_i channel₀ hchannel
                cases hstep
                exact h.subscribed (hopens channel₀ hchannel) hreg hcontract hsub hmatch
          | topOfBook contract₀ ticker =>
              cases hstep
              rw [subs_startSnapshot] at hsub
              have hnone : false = true → OpensStream cap s.market.table .depth contract₀ ticker →
                  NoneLeftOver s .depth contract₀ := by
                intro hfalse
                cases hfalse
              exact h.snapshotStarted hcontracts hnone hreg hcontract hsub hmatch
          | depthSnapshot contract₀ ticker =>
              cases hstep
              rw [subs_startSnapshot] at hsub
              exact h.snapshotStarted hcontracts (fun _ => hopens) hreg hcontract hsub hmatch
          | _ => cases hopen
    · obtain ⟨hold, hhandle⟩ := subsShrink_move hmove hopen id sub hsub
      have hreg' := registered_of_move hkeyed hmove hopen hreg
      exact h.fed_kept hcontracts (Or.inl hreg') hcontract hold hhandle hmatch
  exact hfed.imp_right fun hfails => hfails.step h.sharing.market.subscribers hstep hsub

/-! ## Every run -/

theorem DispatchInv.dispatchesCounted {s : CallbackState} (h : DispatchInv s) (cap : Nat) :
    DispatchesCounted cap s where
  refs sid st hst := (h.sharing.use sid).refs st hst
  updates channel sid l s' hreg hupdate hstep id hid := by
    have hkeyed := h.sharing.market.keyed
    obtain ⟨contract, hcontract⟩ := hkeyed.exists_contractOf hreg
    obtain ⟨sub, hsub, hmatch⟩ :=
      dispatchedTo_of_update hkeyed hreg hcontract hupdate hstep hid
    exact h.fed channel sid contract hreg hcontract id sub hsub hmatch

/-- A stream with a ticker is hooked. -/
theorem ReqIdMaps.isHooked {t : StreamTable} (h : ReqIdMaps t) {sid : Nat}
    (hticker : (tickerOf t sid).isSome = true) : isHooked t sid = true := by
  obtain ⟨ticker, hticker⟩ := Option.isSome_iff_exists.mp hticker
  have hcount := h.hooks ticker sid
  rw [if_pos hticker] at hcount
  have hmem : (ticker, sid) ∈ t.hooks := List.count_pos_iff.mp (by omega)
  exact List.any_eq_true.mpr ⟨_, hmem, decide_eq_true rfl⟩

/-- A stream that was just opened feeds its users only: nobody was left over for it. -/
theorem DispatchInv.noneLeftOver {cap : Nat} {s s' : CallbackState} (h : DispatchInv s)
    {l : CallbackLabel} (hstep : callbackStep cap s l = some s') (hstack : s'.stack = s.stack)
    (hsubs : ∀ id sub, s.market.subs.subscriptions.get? id = some sub →
      s'.market.subs.subscriptions.get? id = some sub ∧
        s'.market.subs.handles.get? id = s.market.subs.handles.get? id)
    {channel : Channel} {contract : Contract} {ticker : Option Nat}
    (hticker : ticker.isSome = true)
    (hopened : Opened s.market.table s'.market.table channel.kind contract ticker)
    (hcounted : DispatchesCounted cap s') : NoneLeftOver s channel contract := by
  have hmove := callbackStep_move hstep
  have hkeyed := h.sharing.market.keyed.move hmove
  have hreqIds := (h.reqIds.move h.sharing.market.keyed hmove).inv
  have hreg := (hopened.registered channel.kind s.market.table.nextStream).mpr (Or.inr ⟨rfl, rfl⟩)
  have hanswered : (tickerOf s'.market.table s.market.table.nextStream).isSome = true := by
    rwa [hopened.ticker]
  obtain ⟨l', s'', hupdate, hupdated, hreaches⟩ := exists_update cap hkeyed hreg hopened.contract
    (hreqIds.toReqIdMaps.isHooked hanswered)
  intro id sub hsub hmatch
  obtain ⟨hsub', hhandle⟩ := hsubs id sub hsub
  have hdispatched := hreaches id sub hsub' hmatch
  rcases hcounted.updates channel _ l' s'' hreg hupdate hupdated id hdispatched with
    ⟨handle, hfound, -, hstream⟩ | ⟨exc, left, hframe, hid⟩
  · -- an older subscription has an older stream
    rw [hhandle] at hfound
    have hknown := (h.sharing.handles id handle hfound).1
    omega
  · rw [hstack] at hframe
    exact ⟨exc, left, hframe, hid⟩

theorem subs_subscribe_kept {s : MarketData} (h : SubscriberInv s.subs) (cap : Nat)
    (channel : Channel) (contract : Contract) (ticker : Option Nat) {id : Nat}
    {sub : ActiveSubscription} (hsub : s.subs.subscriptions.get? id = some sub) :
    (subscribe cap s channel contract ticker).subs.subscriptions.get? id = some sub ∧
      (subscribe cap s channel contract ticker).subs.handles.get? id = s.subs.handles.get? id := by
  have hne : id ≠ s.subs.subscribeSeq + 1 := by
    rintro rfl
    rw [h.subscriptions_eq_none (Nat.lt_succ_self _)] at hsub
    cases hsub
  unfold subscribe
  rcases acquire cap s.table channel contract ticker with ⟨table, none | sid⟩
  · exact ⟨hsub, rfl⟩
  · exact ⟨(Dict.get?_set_of_ne _ hne _).trans hsub, Dict.get?_set_of_ne _ hne _⟩

/-- A step after which every update goes to users only opened no stream with subscriptions
left over. -/
theorem DispatchInv.opensForUsers {cap : Nat} {s s' : CallbackState} {l : CallbackLabel}
    (h : DispatchInv s) (hstep : callbackStep cap s l = some s')
    (hcounted : DispatchesCounted cap s') : OpensForUsers cap s l := by
  cases l with
  | resume => trivial
  | op l =>
      cases l with
      | subscribe name contract ticker =>
          intro channel hchannel hopens
          have hsubscribed : s' = ⟨subscribe cap s.market channel contract ticker, s.stack⟩ := by
            simp only [callbackStep, opStep, streamStep, hchannel, Option.map_some,
              Option.some.injEq] at hstep
            exact hstep.symm
          have hopened := (findOrOpen_opened hopens).same
            (touched_subscribe cap s.market channel contract ticker).sameStreams
          subst hsubscribed
          refine h.noneLeftOver hstep rfl (fun id sub hsub => ?_) hopens.2.2 hopened hcounted
          exact subs_subscribe_kept h.sharing.market.subscribers cap channel contract ticker hsub
      | depthSnapshot contract ticker =>
          intro hopens
          have hopened : Opened s.market.table _ Channel.depth.kind contract ticker :=
            (findOrOpen_opened hopens).same
              (touched_startSnapshot cap s.market true contract ticker).sameStreams
          have hkept := subs_startSnapshot cap s.market true contract ticker
          have hstarted :
              s' = ⟨startSnapshot cap s.market true contract ticker, s.stack⟩ := by
            cases hstep
            rfl
          subst hstarted
          refine h.noneLeftOver hstep rfl (fun id sub hsub => ?_) hopens.2.2 hopened hcounted
          dsimp only
          rw [hkept]
          exact ⟨hsub, rfl⟩
      | _ => trivial

/-- Updates go to the counted subscribers of their stream along a run exactly when no stream
is opened in it with subscriptions left over from a dropped one. -/
theorem dispatchesCounted_iff (spec : IbConnectionSpec) (ls : List CallbackLabel) :
    (callbackMachine spec).AllStates (DispatchesCounted spec.marketDataLines) .init ls ↔
      (callbackMachine spec).AllSteps (OpensForUsers spec.marketDataLines) .init ls := by
  have hkept : ∀ s l s', DispatchInv s → OpensForUsers spec.marketDataLines s l →
      (callbackMachine spec).step s l = some s' → DispatchInv s' :=
    fun s l s' h hopens hstep => h.step hopens hstep
  apply Machine.allStates_iff_allSteps _ hkept _ _ dispatchInv_init
  · exact fun s h => h.dispatchesCounted _
  · exact fun s l s' h hstep hcounted => h.opensForUsers hstep hcounted

/-! ## A handle that outlives its stream -/

/-- A trades handle stays open over a `disconnect()`; the next subscription of the contract
opens a new stream, whose updates go to both, though it counts one user only. -/
theorem old_handle_receives_updates :
    ∃ s, (callbackMachine .default).run .init
        [.op (.subscribe "trades" (.raw 0) (some 0)), .op .releaseAll,
          .op (.subscribe "trades" (.raw 0) (some 1))] = some s ∧
      (∀ st, s.market.table.streams.get? 1 = some st → st.refs = 1) ∧
      ¬ DispatchesCounted IbConnectionSpec.default.marketDataLines s := by
  refine ⟨_, rfl, ?_, fun h => ?_⟩
  · rintro st hst
    cases hst
    rfl
  · rcases h.updates .trades 1 _ _ ⟨.object (.raw 0), rfl⟩ (.trades [0]) rfl 1 (by decide) with
      ⟨handle, hhandle, -, hstream⟩ | ⟨exc, left, hframe, -⟩
    · cases hhandle
      cases hstream
    · cases hframe

end Ib
end MarketConnector
