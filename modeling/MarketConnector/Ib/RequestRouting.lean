import MarketConnector.Ib.DepthUsers

/-!
# Ib - Which stream an error concerns

IB reports errors by reqId.  Two dictionaries lead from the reqId of a live request to its
stream, one for trades and one for L1 and depth; requests, resubscribes, drops and errors
keep them, with IB calls that may raise in between.

Main results:

- Definition `ReqIdInv`: dictionaries, streams and hooks agree.
- Theorems `ReqIdMaps.unhook`, `ReqIdMaps.sendRequest`: what taking a request away and
  sending one do to them.
- Theorem `request_routing`: in every state of every run they agree, an error concerns the
  stream whose live request drew its id, and no id comes back.
-/

namespace MarketConnector
namespace Ib

open Foundations

/-! ## Live requests -/

/-- Ticker of the live request of a stream. -/
def tickerOf (t : StreamTable) (sid : Nat) : Option Nat :=
  (t.streams.get? sid).bind Stream.ticker

/-- Id the live request of a stream drew. -/
def reqIdOf (t : StreamTable) (sid : Nat) : Option Nat :=
  (t.streams.get? sid).bind Stream.reqId

/-- The id leads to the stream in the dictionary of its kind. -/
def Listed (t : StreamTable) (kind : StreamKind) (reqId sid : Nat) : Prop :=
  match kind with
  | .trades => t.tradesByReqId.get? reqId = some sid
  | .depth => t.streamByReqId.get? reqId = some (sid, true)
  | .l1 => t.streamByReqId.get? reqId = some (sid, false)

/-- Dictionaries, stream objects and hooks agree on the live requests. -/
structure ReqIdMaps (t : StreamTable) : Prop where
  listed : ∀ kind reqId sid, Listed t kind reqId sid → reqIdOf t sid = some reqId
  owns : ∀ sid reqId, reqIdOf t sid = some reqId → ∃ kind, Listed t kind reqId sid
  one : ∀ kind kind' reqId sid sid', Listed t kind reqId sid → Listed t kind' reqId sid' →
    kind = kind' ∧ sid = sid'
  fresh : ∀ kind reqId sid, Listed t kind reqId sid → reqId < t.nextReqId
  hooks : ∀ ticker sid, t.hooks.count (ticker, sid) = if tickerOf t sid = some ticker then 1 else 0
  paired : ∀ sid, (tickerOf t sid).isSome = (reqIdOf t sid).isSome

/-- Moreover only registered streams have live requests, of their own kind. -/
structure ReqIdInv (t : StreamTable) : Prop extends ReqIdMaps t where
  registered : ∀ kind reqId sid, Listed t kind reqId sid → Registered t kind sid
  kinds : ∀ sid kind kind', Registered t kind sid → Registered t kind' sid → kind = kind'

theorem reqIdInv_init : ReqIdInv .init where
  listed kind reqId sid h := by cases kind <;> cases h
  owns sid reqId h := by cases h
  one kind kind' reqId sid sid' h := by cases kind <;> cases h
  fresh kind reqId sid h := by cases kind <;> cases h
  hooks ticker sid := by simp [StreamTable.init, tickerOf]
  paired sid := rfl
  registered kind reqId sid h := by cases kind <;> cases h
  kinds sid kind kind' h := by
    obtain ⟨key, hkey⟩ := h
    cases hkey

/-! ## Operations that leave the live requests alone -/

/-- The same live requests. -/
structure SameRequests (t t' : StreamTable) : Prop where
  tickers : ∀ sid, tickerOf t' sid = tickerOf t sid
  reqIds : ∀ sid, reqIdOf t' sid = reqIdOf t sid
  streams : t'.streamByReqId = t.streamByReqId
  trades : t'.tradesByReqId = t.tradesByReqId
  hooks : t'.hooks = t.hooks
  next : t'.nextReqId = t.nextReqId

namespace SameRequests

theorem listed {t t' : StreamTable} (h : SameRequests t t') (kind : StreamKind)
    (reqId sid : Nat) : Listed t' kind reqId sid ↔ Listed t kind reqId sid := by
  cases kind <;> simp only [Listed, h.streams, h.trades]

theorem refl (t : StreamTable) : SameRequests t t :=
  ⟨fun _ => rfl, fun _ => rfl, rfl, rfl, rfl, rfl⟩

theorem trans {t t' t'' : StreamTable} (h : SameRequests t t') (h' : SameRequests t' t'') :
    SameRequests t t'' where
  tickers sid := (h'.tickers sid).trans (h.tickers sid)
  reqIds sid := (h'.reqIds sid).trans (h.reqIds sid)
  streams := h'.streams.trans h.streams
  trades := h'.trades.trans h.trades
  hooks := h'.hooks.trans h.hooks
  next := h'.next.trans h.next

theorem updateStream (t : StreamTable) (sid : Nat) {f : Stream → Stream} (hf : KeepsRequest f) :
    SameRequests t (updateStream t sid f) := by
  have hget := get?_updateStream t sid
  refine ⟨fun sid' => ?_, fun sid' => ?_, ?_, ?_, ?_, ?_⟩
  · unfold tickerOf
    rw [hget]
    split_ifs with heq
    · subst heq
      cases t.streams.get? sid' with
      | none => rfl
      | some st => exact hf.ticker st
    · rfl
  · unfold reqIdOf
    rw [hget]
    split_ifs with heq
    · subst heq
      cases t.streams.get? sid' with
      | none => rfl
      | some st => exact hf.reqId st
    · rfl
  all_goals
    unfold Ib.updateStream
    cases t.streams.get? sid <;> rfl

theorem sendCancel (t : StreamTable) (kind : StreamKind) (sid : Nat) :
    SameRequests t (sendCancel t kind sid) := by
  unfold Ib.sendCancel
  cases t.streams.get? sid with
  | none => exact refl t
  | some stream => exact ⟨fun _ => rfl, fun _ => rfl, rfl, rfl, rfl, rfl⟩

theorem forget (t : StreamTable) (kind : StreamKind) (sid : Nat) :
    SameRequests t (forget t kind sid) := by
  unfold Ib.forget
  cases keyOf t sid with
  | none => exact refl t
  | some key =>
      dsimp only
      split_ifs
      · exact ⟨fun _ => rfl, fun _ => rfl, rfl, rfl, rfl, rfl⟩
      · exact refl t

theorem register (t : StreamTable) (kind : StreamKind) (key : StreamKey) (sid : Nat) (n : Int) :
    SameRequests t (addLines (register t kind key sid) n) :=
  ⟨fun _ => rfl, fun _ => rfl, rfl, rfl, rfl, rfl⟩

/-- A new stream object has no request yet. -/
theorem addStream {t : StreamTable} (h : KeyedInv t) (contract : Contract) :
    SameRequests t (addStream t contract) := by
  have hnew := streams_nextStream h
  refine ⟨fun sid => ?_, fun sid => ?_, rfl, rfl, rfl, rfl⟩
  · simp only [tickerOf, Ib.addStream, Dict.get?_set]
    split_ifs with heq
    · rw [heq, hnew]
      rfl
    · rfl
  · simp only [reqIdOf, Ib.addStream, Dict.get?_set]
    split_ifs with heq
    · rw [heq, hnew]
      rfl
    · rfl

end SameRequests

theorem ReqIdMaps.same {t t' : StreamTable} (h : ReqIdMaps t) (hsame : SameRequests t t') :
    ReqIdMaps t' where
  listed kind reqId sid hlisted := by
    rw [hsame.reqIds]
    exact h.listed kind reqId sid ((hsame.listed kind reqId sid).mp hlisted)
  owns sid reqId howns := by
    rw [hsame.reqIds] at howns
    obtain ⟨kind, hlisted⟩ := h.owns sid reqId howns
    exact ⟨kind, (hsame.listed kind reqId sid).mpr hlisted⟩
  one kind kind' reqId sid sid' hfirst hsecond :=
    h.one kind kind' reqId sid sid' ((hsame.listed _ _ _).mp hfirst)
      ((hsame.listed _ _ _).mp hsecond)
  fresh kind reqId sid hlisted := by
    rw [hsame.next]
    exact h.fresh kind reqId sid ((hsame.listed kind reqId sid).mp hlisted)
  hooks ticker sid := by
    rw [hsame.hooks, hsame.tickers]
    exact h.hooks ticker sid
  paired sid := by
    rw [hsame.tickers, hsame.reqIds]
    exact h.paired sid

/-! ## Taking a request away -/

@[simp]
theorem hooks_updateStream (t : StreamTable) (sid : Nat) (f : Stream → Stream) :
    (updateStream t sid f).hooks = t.hooks := by
  unfold updateStream
  cases t.streams.get? sid <;> rfl

@[simp]
theorem streamByReqId_updateStream (t : StreamTable) (sid : Nat) (f : Stream → Stream) :
    (updateStream t sid f).streamByReqId = t.streamByReqId := by
  unfold updateStream
  cases t.streams.get? sid <;> rfl

@[simp]
theorem tradesByReqId_updateStream (t : StreamTable) (sid : Nat) (f : Stream → Stream) :
    (updateStream t sid f).tradesByReqId = t.tradesByReqId := by
  unfold updateStream
  cases t.streams.get? sid <;> rfl

@[simp]
theorem nextReqId_updateStream (t : StreamTable) (sid : Nat) (f : Stream → Stream) :
    (updateStream t sid f).nextReqId = t.nextReqId := by
  unfold updateStream
  cases t.streams.get? sid <;> rfl

theorem tickerOf_unhook (t : StreamTable) (kind : StreamKind) (sid sid' : Nat) :
    tickerOf (unhook t kind sid) sid' = if sid' = sid then none else tickerOf t sid' := by
  unfold tickerOf
  rw [get?_unhook]
  split_ifs
  · cases t.streams.get? sid <;> rfl
  · rfl

theorem reqIdOf_unhook (t : StreamTable) (kind : StreamKind) (sid sid' : Nat) :
    reqIdOf (unhook t kind sid) sid' = if sid' = sid then none else reqIdOf t sid' := by
  unfold reqIdOf
  rw [get?_unhook]
  split_ifs
  · cases t.streams.get? sid <;> rfl
  · rfl

theorem nextReqId_unhook (t : StreamTable) (kind : StreamKind) (sid : Nat) :
    (unhook t kind sid).nextReqId = t.nextReqId :=
  unhook_unchanged (fun _ _ => rfl) (fun _ kind _ => by cases kind <;> rfl) nextReqId_updateStream
    t kind sid

theorem hooks_unhook (t : StreamTable) (kind : StreamKind) (sid : Nat) :
    (unhook t kind sid).hooks =
      (tickerOf t sid).elim t.hooks fun ticker => t.hooks.erase (ticker, sid) := by
  unfold unhook tickerOf
  cases t.streams.get? sid with
  | none => rfl
  | some stream =>
      cases hticker : stream.ticker <;> cases hreq : stream.reqId <;> cases kind <;>
        simp [forgetReqId, hticker, hreq]

/-- The id of the request is dropped from the dictionary of the kind. -/
theorem byReqId_unhook (t : StreamTable) (kind : StreamKind) (sid : Nat) :
    (unhook t kind sid).streamByReqId = (reqIdOf t sid).elim t.streamByReqId (fun reqId =>
        if kind = .trades then t.streamByReqId else t.streamByReqId.pop reqId) ∧
      (unhook t kind sid).tradesByReqId = (reqIdOf t sid).elim t.tradesByReqId (fun reqId =>
        if kind = .trades then t.tradesByReqId.pop reqId else t.tradesByReqId) := by
  unfold unhook reqIdOf
  cases t.streams.get? sid with
  | none => exact ⟨rfl, rfl⟩
  | some stream =>
      cases hticker : stream.ticker <;> cases hreq : stream.reqId <;> cases kind <;>
        simp [forgetReqId, hticker, hreq]

/-- Only the request of the stream is taken away. -/
theorem ReqIdMaps.listed_unhook {t : StreamTable} (h : ReqIdMaps t) {kind : StreamKind}
    {sid : Nat} (hkind : ∀ reqId, reqIdOf t sid = some reqId → Listed t kind reqId sid)
    (kind' : StreamKind) (reqId sid' : Nat) :
    Listed (unhook t kind sid) kind' reqId sid' ↔ Listed t kind' reqId sid' ∧ sid' ≠ sid := by
  obtain ⟨hstreams, htrades⟩ := byReqId_unhook t kind sid
  cases hreq : reqIdOf t sid with
  | none =>
      have hsame : Listed (unhook t kind sid) kind' reqId sid' ↔ Listed t kind' reqId sid' := by
        rw [hreq] at hstreams htrades
        cases kind' <;> simp [Listed, hstreams, htrades]
      rw [hsame, iff_self_and]
      rintro hlisted rfl
      rw [h.listed kind' reqId sid' hlisted] at hreq
      cases hreq
  | some old =>
      have hown := hkind old hreq
      rw [hreq] at hstreams htrades
      -- an entry stays unless it is the one under the old id
      have hstays : Listed (unhook t kind sid) kind' reqId sid' ↔
          Listed t kind' reqId sid' ∧ reqId ≠ old := by
        have hother : Listed t kind' old sid' → kind' = kind :=
          fun hlisted => (h.one _ _ _ _ _ hlisted hown).1
        cases kind <;> cases kind' <;>
          simp [Listed, hstreams, htrades, Dict.get?_pop] at hother ⊢ <;>
          (by_cases hold : reqId = old <;> simp_all)
      rw [hstays]
      refine and_congr_right fun hlisted => not_congr ⟨?_, ?_⟩
      · rintro rfl
        exact (h.one _ _ _ _ _ hlisted hown).2
      · rintro rfl
        exact Option.some.inj ((h.listed _ _ _ hlisted).symm.trans hreq)

/-- Taking a request away keeps the rest in agreement. -/
theorem ReqIdMaps.unhook {t : StreamTable} (h : ReqIdMaps t) {kind : StreamKind} {sid : Nat}
    (hkind : ∀ reqId, reqIdOf t sid = some reqId → Listed t kind reqId sid) :
    ReqIdMaps (unhook t kind sid) where
  listed kind' reqId sid' hlisted := by
    obtain ⟨hold, hne⟩ := (h.listed_unhook hkind kind' reqId sid').mp hlisted
    rw [reqIdOf_unhook, if_neg hne]
    exact h.listed kind' reqId sid' hold
  owns sid' reqId howns := by
    rw [reqIdOf_unhook] at howns
    split_ifs at howns with hne
    obtain ⟨kind', hlisted⟩ := h.owns sid' reqId howns
    exact ⟨kind', (h.listed_unhook hkind kind' reqId sid').mpr ⟨hlisted, hne⟩⟩
  one kind' kind'' reqId sid' sid'' hfirst hsecond :=
    h.one kind' kind'' reqId sid' sid'' ((h.listed_unhook hkind _ _ _).mp hfirst).1
      ((h.listed_unhook hkind _ _ _).mp hsecond).1
  fresh kind' reqId sid' hlisted := by
    rw [nextReqId_unhook]
    exact h.fresh kind' reqId sid' ((h.listed_unhook hkind kind' reqId sid').mp hlisted).1
  hooks ticker sid' := by
    have hold := h.hooks ticker sid'
    rw [hooks_unhook, tickerOf_unhook]
    cases hticker : tickerOf t sid with
    | none =>
        by_cases hsid : sid' = sid
        · subst hsid
          simpa [hticker] using hold
        · simpa [hsid] using hold
    | some current =>
        simp only [Option.elim_some, List.count_erase, hold]
        by_cases hsid : sid' = sid
        · subst hsid
          by_cases hcurrent : current = ticker <;> simp [hticker, hcurrent]
        · have hne : ¬ (current, sid) = (ticker, sid') := by
            simp only [Prod.mk.injEq, not_and]
            exact fun _ heq => hsid heq.symm
          simp [hsid, hne]
  paired sid' := by
    rw [tickerOf_unhook, reqIdOf_unhook]
    split_ifs
    · rfl
    · exact h.paired sid'

/-! ## Sending a request -/

theorem tickerOf_sendRequest (t : StreamTable) (kind : StreamKind) (sid sid' : Nat)
    (ticker : Option Nat) :
    tickerOf (sendRequest t kind sid ticker).1 sid' =
      if sid' = sid ∧ (t.streams.get? sid).isSome = true ∧ ticker.isSome = true then ticker
      else tickerOf t sid' := by
  unfold tickerOf
  rw [get?_sendRequest]
  by_cases heq : sid' = sid
  · subst heq
    cases t.streams.get? sid' <;> cases ticker <;> simp
  · simp [heq]

theorem reqIdOf_sendRequest (t : StreamTable) (kind : StreamKind) (sid sid' : Nat)
    (ticker : Option Nat) :
    reqIdOf (sendRequest t kind sid ticker).1 sid' =
      if sid' = sid ∧ (t.streams.get? sid).isSome = true ∧ ticker.isSome = true then
        some t.nextReqId
      else reqIdOf t sid' := by
  unfold reqIdOf
  rw [get?_sendRequest]
  by_cases heq : sid' = sid
  · subst heq
    cases t.streams.get? sid' <;> cases ticker <;> simp
  · simp [heq]

/-- A request that is not answered by a ticker draws an id, and that is all. -/
theorem ReqIdMaps.draws {t t' : StreamTable} (h : ReqIdMaps t) (hstreams : t'.streams = t.streams)
    (hbyReqId : t'.streamByReqId = t.streamByReqId) (htrades : t'.tradesByReqId = t.tradesByReqId)
    (hhooks : t'.hooks = t.hooks) (hnext : t.nextReqId ≤ t'.nextReqId) : ReqIdMaps t' := by
  have hlisted : ∀ kind reqId sid, Listed t' kind reqId sid ↔ Listed t kind reqId sid := by
    intro kind reqId sid
    cases kind <;> simp only [Listed, hbyReqId, htrades]
  have htickers : ∀ sid, tickerOf t' sid = tickerOf t sid := by simp [tickerOf, hstreams]
  have hreqIds : ∀ sid, reqIdOf t' sid = reqIdOf t sid := by simp [reqIdOf, hstreams]
  refine ⟨?_, ?_, ?_, ?_, ?_, ?_⟩
  · simpa only [hlisted, hreqIds] using h.listed
  · simpa only [hlisted, hreqIds] using h.owns
  · simpa only [hlisted] using h.one
  · simp only [hlisted]
    exact fun kind reqId sid hold => Nat.lt_of_lt_of_le (h.fresh kind reqId sid hold) hnext
  · simpa only [hhooks, htickers] using h.hooks
  · simpa only [htickers, hreqIds] using h.paired

/-- The entry a request makes, beside the old ones. -/
theorem ReqIdMaps.listed_sendRequest {t : StreamTable} (h : ReqIdMaps t) {sid : Nat}
    {stream : Stream} (hsid : t.streams.get? sid = some stream) (ticker : Nat)
    (kind kind' : StreamKind) (reqId sid' : Nat) :
    Listed (sendRequest t kind sid (some ticker)).1 kind' reqId sid' ↔
      Listed t kind' reqId sid' ∨ (kind' = kind ∧ reqId = t.nextReqId ∧ sid' = sid) := by
  have hunused : ¬ Listed t kind' t.nextReqId sid' :=
    fun hlisted => Nat.lt_irrefl _ (h.fresh _ _ _ hlisted)
  cases kind <;> cases kind' <;>
    simp only [sendRequest, hsid, Listed, streamByReqId_updateStream, tradesByReqId_updateStream,
      logCall, Dict.get?_set] at hunused ⊢ <;>
    (by_cases hreq : reqId = t.nextReqId <;> simp_all [eq_comm])

theorem hooks_sendRequest {t : StreamTable} {sid ticker : Nat} {stream : Stream}
    (hsid : t.streams.get? sid = some stream) (kind : StreamKind) :
    (sendRequest t kind sid (some ticker)).1.hooks = t.hooks ++ [(ticker, sid)] := by
  cases kind <;> simp [sendRequest, hsid, logCall]

theorem nextReqId_sendRequest {t : StreamTable} {sid : Nat} {stream : Stream}
    (hsid : t.streams.get? sid = some stream) (kind : StreamKind) (ticker : Option Nat) :
    (sendRequest t kind sid ticker).1.nextReqId = t.nextReqId + 1 := by
  cases ticker <;> cases kind <;> simp [sendRequest, hsid, logCall]

/-- A request that is answered keeps everything in agreement, where the stream had none. -/
theorem ReqIdMaps.answered {t : StreamTable} (h : ReqIdMaps t) (kind : StreamKind) {sid : Nat}
    {stream : Stream} (hsid : t.streams.get? sid = some stream) (hfree : reqIdOf t sid = none)
    (ticker : Nat) : ReqIdMaps (sendRequest t kind sid (some ticker)).1 := by
  have hlisted := h.listed_sendRequest hsid ticker kind
  have hreqId : ∀ sid', reqIdOf (Ib.sendRequest t kind sid (some ticker)).1 sid' =
      if sid' = sid then some t.nextReqId else reqIdOf t sid' := by
    intro sid'
    simp [reqIdOf_sendRequest, hsid]
  have hticker : ∀ sid', tickerOf (Ib.sendRequest t kind sid (some ticker)).1 sid' =
      if sid' = sid then some ticker else tickerOf t sid' := by
    intro sid'
    simp [tickerOf_sendRequest, hsid]
  have htickerless : tickerOf t sid = none := by
    have hpaired := h.paired sid
    rw [hfree] at hpaired
    simpa using hpaired
  refine ⟨?_, ?_, ?_, ?_, ?_, ?_⟩
  · intro kind' reqId sid' hnew
    rw [hreqId]
    rcases (hlisted kind' reqId sid').mp hnew with hold | ⟨-, rfl, rfl⟩
    · have hreq := h.listed kind' reqId sid' hold
      have hne : sid' ≠ sid := by
        rintro rfl
        rw [hfree] at hreq
        cases hreq
      rw [if_neg hne]
      exact hreq
    · rw [if_pos rfl]
  · intro sid' reqId howns
    rw [hreqId] at howns
    split_ifs at howns with heq
    · cases howns
      exact ⟨kind, (hlisted kind _ sid').mpr (Or.inr ⟨rfl, rfl, heq⟩)⟩
    · obtain ⟨kind', hold⟩ := h.owns sid' reqId howns
      exact ⟨kind', (hlisted kind' reqId sid').mpr (Or.inl hold)⟩
  · intro kind₁ kind₂ reqId sid₁ sid₂ h₁ h₂
    have hfresh : ∀ kind' sid', ¬ Listed t kind' t.nextReqId sid' :=
      fun kind' sid' hold => Nat.lt_irrefl _ (h.fresh _ _ _ hold)
    rcases (hlisted kind₁ reqId sid₁).mp h₁ with hold₁ | ⟨rfl, rfl, rfl⟩ <;>
      rcases (hlisted kind₂ _ sid₂).mp h₂ with hold₂ | ⟨rfl, hreq₂, rfl⟩
    · exact h.one _ _ _ _ _ hold₁ hold₂
    · exact absurd (hreq₂ ▸ hold₁) (hfresh _ _)
    · exact absurd hold₂ (hfresh _ _)
    · exact ⟨rfl, rfl⟩
  · intro kind' reqId sid' hnew
    rw [nextReqId_sendRequest hsid]
    rcases (hlisted kind' reqId sid').mp hnew with hold | ⟨-, rfl, -⟩
    · exact Nat.lt_succ_of_lt (h.fresh _ _ _ hold)
    · exact Nat.lt_succ_self _
  · intro ticker' sid'
    rw [hooks_sendRequest hsid, hticker, List.count_append, h.hooks]
    by_cases heq : sid' = sid
    · subst heq
      by_cases hsame : ticker = ticker' <;> simp [htickerless, hsame]
    · have hne : ¬ (ticker, sid) = (ticker', sid') := by
        simp only [Prod.mk.injEq, not_and]
        exact fun _ hsid' => heq hsid'.symm
      simp [heq, hne]
  · intro sid'
    rw [hticker, hreqId]
    split_ifs
    · rfl
    · exact h.paired sid'

/-- A request of a stream without one keeps everything in agreement, raised or not. -/
theorem ReqIdMaps.sendRequest {t : StreamTable} (h : ReqIdMaps t) (kind : StreamKind) {sid : Nat}
    (hfree : reqIdOf t sid = none) (ticker : Option Nat) :
    ReqIdMaps (sendRequest t kind sid ticker).1 := by
  cases hsid : t.streams.get? sid with
  | none =>
      have hsame : (Ib.sendRequest t kind sid ticker).1 = t := by simp [Ib.sendRequest, hsid]
      rwa [hsame]
  | some stream =>
      cases ticker with
      | none => apply h.draws <;> simp [Ib.sendRequest, hsid, logCall]
      | some ticker => exact h.answered kind hsid hfree ticker

theorem nextReqId_le_sendRequest (t : StreamTable) (kind : StreamKind) (sid : Nat)
    (ticker : Option Nat) : t.nextReqId ≤ (sendRequest t kind sid ticker).1.nextReqId := by
  cases hsid : t.streams.get? sid with
  | none => simp [sendRequest, hsid]
  | some stream =>
      rw [nextReqId_sendRequest hsid]
      omega

/-- A request makes the entry under the next id at most. -/
theorem ReqIdMaps.listed_of_sendRequest {t : StreamTable} (h : ReqIdMaps t)
    {kind kind' : StreamKind} {sid sid' reqId : Nat} {ticker : Option Nat}
    (hlisted : Listed (Ib.sendRequest t kind sid ticker).1 kind' reqId sid') :
    Listed t kind' reqId sid' ∨ (kind' = kind ∧ reqId = t.nextReqId ∧ sid' = sid) := by
  cases hsid : t.streams.get? sid with
  | none =>
      rw [Ib.sendRequest, hsid] at hlisted
      exact Or.inl hlisted
  | some stream =>
      cases ticker with
      | none =>
          left
          cases kind' <;> simpa [Listed, Ib.sendRequest, hsid, logCall] using hlisted
      | some ticker => exact (h.listed_sendRequest hsid ticker kind kind' reqId sid').mp hlisted

/-! ## Operations of the table -/

/-- The request of a registered stream is listed under its kind. -/
theorem ReqIdInv.listed_of_registered {t : StreamTable} (h : ReqIdInv t) {kind : StreamKind}
    {sid reqId : Nat} (hreg : Registered t kind sid) (hreq : reqIdOf t sid = some reqId) :
    Listed t kind reqId sid := by
  obtain ⟨kind', hlisted⟩ := h.owns sid reqId hreq
  have hkind := h.kinds sid kind' kind (h.registered kind' reqId sid hlisted) hreg
  rwa [← hkind]

/-- Operations that leave the requests alone and take no stream with a request out. -/
theorem ReqIdInv.same {t t' : StreamTable} (h : ReqIdInv t) (hsame : SameRequests t t')
    (hregistered : ∀ kind sid, Registered t' kind sid ↔ Registered t kind sid) : ReqIdInv t' where
  toReqIdMaps := h.toReqIdMaps.same hsame
  registered kind reqId sid hlisted :=
    (hregistered kind sid).mpr (h.registered kind reqId sid ((hsame.listed _ _ _).mp hlisted))
  kinds sid kind kind' hkind hkind' :=
    h.kinds sid kind kind' ((hregistered kind sid).mp hkind) ((hregistered kind' sid).mp hkind')

/-- The stream may be taken out of its registry before its request is. -/
theorem exists_dropOf {t : StreamTable} (hkeyed : KeyedInv t) {kind : StreamKind} {sid : Nat}
    (hreg : Registered t kind sid) :
    ∃ t', SameRequests t t' ∧ SameRequests (unhook t' kind sid) (dropOf kind t sid) := by
  have hforget := SameRequests.forget t kind sid
  have hidle := hforget.trans (.updateStream _ sid (keepsRequest_idle false))
  cases kind with
  | l1 => exact ⟨_, hidle, .sendCancel _ .l1 sid⟩
  | depth => exact ⟨_, hidle, .sendCancel _ .depth sid⟩
  | trades =>
      refine ⟨_, hforget, ?_⟩
      simp only [dropOf, dropTrades, (isRegistered_iff hkeyed).mpr hreg, if_true]
      exact .sendCancel _ .trades sid

/-- Ids are drawn in order, and an id without a live request stays without one. -/
structure IdsForward (t t' : StreamTable) : Prop where
  next : t.nextReqId ≤ t'.nextReqId
  listed : ∀ kind reqId sid, Listed t' kind reqId sid →
    Listed t kind reqId sid ∨ t.nextReqId ≤ reqId

theorem IdsForward.refl (t : StreamTable) : IdsForward t t :=
  ⟨Nat.le_refl _, fun _ _ _ h => Or.inl h⟩

theorem IdsForward.trans {t t' t'' : StreamTable} (h : IdsForward t t')
    (h' : IdsForward t' t'') : IdsForward t t'' where
  next := Nat.le_trans h.next h'.next
  listed kind reqId sid hlisted := by
    rcases h'.listed kind reqId sid hlisted with hold | hlate
    · exact h.listed kind reqId sid hold
    · exact Or.inr (Nat.le_trans h.next hlate)

theorem IdsForward.same {t t' : StreamTable} (h : SameRequests t t') : IdsForward t t' where
  next := Nat.le_of_eq h.next.symm
  listed kind reqId sid hlisted := Or.inl ((h.listed kind reqId sid).mp hlisted)

/-- What an operation keeps, and how ids go on. -/
structure ReqIdStep (t t' : StreamTable) : Prop where
  inv : ReqIdInv t'
  forward : IdsForward t t'

theorem ReqIdInv.dropOf {t : StreamTable} (h : ReqIdInv t) (hkeyed : KeyedInv t)
    {kind : StreamKind} {sid : Nat} (hreg : Registered t kind sid) :
    ReqIdStep t (dropOf kind t sid) := by
  obtain ⟨t', hbefore, hafter⟩ := exists_dropOf hkeyed hreg
  have hmaps := h.toReqIdMaps.same hbefore
  have hkind : ∀ reqId, reqIdOf t' sid = some reqId → Listed t' kind reqId sid := by
    intro reqId hreq
    rw [hbefore.reqIds] at hreq
    exact (hbefore.listed kind reqId sid).mpr (h.listed_of_registered hreg hreq)
  have hlisted : ∀ kind' reqId sid', Listed (Ib.dropOf kind t sid) kind' reqId sid' →
      Listed t kind' reqId sid' ∧ sid' ≠ sid := by
    intro kind' reqId sid' hfound
    have hstays := (hmaps.listed_unhook hkind kind' reqId sid').mp
      ((hafter.listed kind' reqId sid').mp hfound)
    exact ⟨(hbefore.listed kind' reqId sid').mp hstays.1, hstays.2⟩
  have hregistered := registered_dropOf hkeyed kind
  refine ⟨⟨(hmaps.unhook hkind).same hafter, ?_, ?_⟩, ?_, ?_⟩
  · intro kind' reqId sid' hfound
    obtain ⟨hold, hne⟩ := hlisted kind' reqId sid' hfound
    rw [hregistered]
    exact ⟨h.registered kind' reqId sid' hold, fun hsame => hne hsame.2⟩
  · intro sid' kind' kind'' hkind' hkind''
    exact h.kinds sid' kind' kind'' ((hregistered kind' sid sid').mp hkind').1
      ((hregistered kind'' sid sid').mp hkind'').1
  · rw [hafter.next, nextReqId_unhook, hbefore.next]
  · exact fun kind' reqId sid' hfound => Or.inl (hlisted kind' reqId sid' hfound).1

/-- A table with more registered streams, where new entries are under new ids. -/
theorem ReqIdInv.requested {t t' : StreamTable} (h : ReqIdInv t) (hmaps : ReqIdMaps t')
    (hnext : t.nextReqId ≤ t'.nextReqId)
    (hregistered : ∀ kind sid, Registered t kind sid → Registered t' kind sid)
    (hkinds : ∀ sid kind kind', Registered t' kind sid → Registered t' kind' sid → kind = kind')
    (hlisted : ∀ kind reqId sid, Listed t' kind reqId sid →
      Listed t kind reqId sid ∨ (t.nextReqId ≤ reqId ∧ Registered t' kind sid)) :
    ReqIdStep t t' := by
  refine ⟨⟨hmaps, fun kind reqId sid hfound => ?_, hkinds⟩, hnext, fun kind reqId sid hfound => ?_⟩
  · rcases hlisted kind reqId sid hfound with hold | hnew
    · exact hregistered kind sid (h.registered kind reqId sid hold)
    · exact hnew.2
  · exact (hlisted kind reqId sid hfound).imp_right And.left

theorem ReqIdMaps.requestNew {t : StreamTable} (h : ReqIdMaps t) (hkeyed : KeyedInv t)
    (kind : StreamKind) (contract : Contract) (ticker : Option Nat) :
    ReqIdMaps (requestNew t kind contract ticker) := by
  have hfree : reqIdOf (addStream t contract) t.nextStream = none := by
    simp [reqIdOf, addStream, Stream.new]
  exact (h.same (.addStream hkeyed contract)).sendRequest kind hfree ticker

/-- A new request makes the entry under the next id at most. -/
theorem ReqIdMaps.listed_of_requestNew {t : StreamTable} (h : ReqIdMaps t) (hkeyed : KeyedInv t)
    {kind kind' : StreamKind} {contract : Contract} {ticker : Option Nat} {reqId sid : Nat}
    (hlisted : Listed (Ib.requestNew t kind contract ticker) kind' reqId sid) :
    Listed t kind' reqId sid ∨ (kind' = kind ∧ reqId = t.nextReqId ∧ sid = t.nextStream) := by
  have hadd := SameRequests.addStream hkeyed contract
  exact ((h.same hadd).listed_of_sendRequest hlisted).imp_left (hadd.listed kind' reqId sid).mp

/-- A stream that is opened is registered once its request has its ticker. -/
theorem ReqIdInv.opened {t : StreamTable} (h : ReqIdInv t) (hkeyed : KeyedInv t)
    {kind : StreamKind} {contract : Contract}
    (habsent : (t.registry kind).get? (streamKey contract) = none) (ticker : Option Nat) :
    ReqIdStep t (registerNew t kind contract ticker) := by
  have hregister : SameRequests (requestNew t kind contract ticker)
      (registerNew t kind contract ticker) := .register _ kind (streamKey contract) t.nextStream 1
  have hregistered := registered_registerNew habsent ticker
  have hnew := not_registered_nextStream hkeyed
  refine h.requested ((h.toReqIdMaps.requestNew hkeyed kind contract ticker).same hregister)
    ?_ ?_ ?_ ?_
  · rw [hregister.next]
    exact nextReqId_le_sendRequest (addStream t contract) kind t.nextStream ticker
  · exact fun kind' sid' hreg => (hregistered kind' sid').mpr (Or.inl hreg)
  · intro sid' kind' kind'' hkind' hkind''
    rcases (hregistered kind' sid').mp hkind' with hold' | ⟨rfl, rfl⟩ <;>
      rcases (hregistered kind'' _).mp hkind'' with hold'' | ⟨rfl, hsid⟩
    · exact h.kinds sid' kind' kind'' hold' hold''
    · rw [hsid] at hold'
      exact absurd hold' (hnew kind')
    · exact absurd hold'' (hnew kind'')
    · rfl
  · intro kind' reqId sid' hfound
    rcases h.toReqIdMaps.listed_of_requestNew hkeyed ((hregister.listed kind' reqId sid').mp hfound)
      with hold | ⟨hkind, hreq, hsid⟩
    · exact Or.inl hold
    · exact Or.inr ⟨Nat.le_of_eq hreq.symm, (hregistered kind' sid').mpr (Or.inr ⟨hkind, hsid⟩)⟩

/-- A stream whose request raises is not registered, and no id leads to it. -/
theorem ReqIdInv.notOpened {t : StreamTable} (h : ReqIdInv t) (hkeyed : KeyedInv t)
    (kind : StreamKind) (contract : Contract) :
    ReqIdStep t (requestNew t kind contract none) := by
  have hstream : (addStream t contract).streams.get? t.nextStream = some (.new contract) := by
    simp [addStream]
  have hregistered : ∀ kind' sid', Registered (requestNew t kind contract none) kind' sid' ↔
      Registered t kind' sid' := by
    intro kind' sid'
    simp only [Registered, registry_requestNew]
  apply h.requested (h.toReqIdMaps.requestNew hkeyed kind contract none)
  · exact nextReqId_le_sendRequest (addStream t contract) kind t.nextStream none
  · exact fun kind' sid' => (hregistered kind' sid').mpr
  · simpa only [hregistered] using h.kinds
  · intro kind' reqId sid' hfound
    left
    rw [← (SameRequests.addStream hkeyed contract).listed]
    cases kind' <;> simpa [Listed, requestNew, Ib.sendRequest, hstream, logCall] using hfound

theorem ReqIdInv.openStream {t : StreamTable} (h : ReqIdInv t) (hkeyed : KeyedInv t) (cap : Nat)
    {kind : StreamKind} {contract : Contract}
    (habsent : (t.registry kind).get? (streamKey contract) = none) (ticker : Option Nat) :
    ReqIdStep t (openStream cap t kind contract ticker).1 := by
  rw [openStream_eq]
  split_ifs with hcap hanswered
  · exact ⟨h, .refl t⟩
  · exact h.opened hkeyed habsent ticker
  · rw [Option.not_isSome_iff_eq_none] at hanswered
    subst hanswered
    exact h.notOpened hkeyed kind contract

/-- Every operation of the table keeps the dictionaries in agreement. -/
theorem ReqIdInv.tableOp {cap : Nat} {t t' : StreamTable} (h : ReqIdInv t) (hkeyed : KeyedInv t)
    (hop : TableOp cap t t') : ReqIdStep t t' := by
  cases hop with
  | updates sid hf =>
      have hsame := SameRequests.updateStream t sid hf
      refine ⟨h.same hsame fun kind sid' => ?_, .same hsame⟩
      simp only [Registered, registry_updateStream]
  | drops kind hreg => exact h.dropOf hkeyed hreg
  | opens kind ticker habsent => exact h.openStream hkeyed cap habsent ticker

/-! ## Resubscribing -/

/-- The stream whose request is taken away, before it is requested again. -/
theorem exists_resubscribeOne (kind : StreamKind) (cancelOld : Bool) (t : StreamTable) (sid : Nat)
    (answer : IbAnswer) :
    ∃ t', SameRequests (unhook t kind sid) t' ∧ t'.registry = t.registry ∧
      (resubscribeOne kind cancelOld t sid answer = t' ∨
        resubscribeOne kind cancelOld t sid answer =
          (sendRequest t' kind sid answer.ticker).1) := by
  have hcleared : SameRequests (unhook t kind sid) (if kind = .trades then unhook t kind sid else
      updateStream (unhook t kind sid) sid fun s =>
        { s with bids := [], asks := [], permissionWarning := none }) := by
    split_ifs
    · exact .refl _
    · exact .updateStream _ sid keepsRequest_reset
  have hregistry : (if kind = .trades then unhook t kind sid else
      updateStream (unhook t kind sid) sid fun s =>
        { s with bids := [], asks := [], permissionWarning := none }).registry = t.registry := by
    split_ifs <;> simp
  cases cancelOld with
  | false => exact ⟨_, hcleared, hregistry, Or.inr rfl⟩
  | true =>
      refine ⟨_, hcleared.trans (.sendCancel _ kind sid), by simpa using hregistry, ?_⟩
      cases hraises : answer.cancelRaises with
      | true =>
          left
          simp [resubscribeOne, hraises]
      | false =>
          right
          simp [resubscribeOne, hraises]

/-- A resubscribed stream has a new request, or none. -/
theorem ReqIdInv.resubscribeOne {t : StreamTable} (h : ReqIdInv t) {kind : StreamKind} {sid : Nat}
    (hreg : Registered t kind sid) (cancelOld : Bool) (answer : IbAnswer) :
    ReqIdStep t (resubscribeOne kind cancelOld t sid answer) := by
  obtain ⟨t', hsame, hregistry, hresult⟩ := exists_resubscribeOne kind cancelOld t sid answer
  have hkind : ∀ reqId, reqIdOf t sid = some reqId → Listed t kind reqId sid :=
    fun reqId hreq => h.listed_of_registered hreg hreq
  have hmaps := (h.toReqIdMaps.unhook hkind).same hsame
  have hold : ∀ kind' reqId sid', Listed t' kind' reqId sid' → Listed t kind' reqId sid' := by
    intro kind' reqId sid' hfound
    exact ((h.listed_unhook hkind kind' reqId sid').mp
      ((hsame.listed kind' reqId sid').mp hfound)).1
  have hnext : t'.nextReqId = t.nextReqId := by rw [hsame.next, nextReqId_unhook]
  have hfree : reqIdOf t' sid = none := by rw [hsame.reqIds, reqIdOf_unhook, if_pos rfl]
  -- both outcomes have agreeing maps, and at most one entry more than before
  have hstep : ∀ t'', ReqIdMaps t'' → t''.registry = t.registry → t.nextReqId ≤ t''.nextReqId →
      (∀ kind' reqId sid', Listed t'' kind' reqId sid' → Listed t kind' reqId sid' ∨
        (kind' = kind ∧ reqId = t.nextReqId ∧ sid' = sid)) → ReqIdStep t t'' := by
    intro t'' hmaps'' hregistry'' hnext'' hlisted''
    have hregistered : ∀ kind' sid', Registered t'' kind' sid' ↔ Registered t kind' sid' := by
      intro kind' sid'
      simp only [Registered, hregistry'']
    apply h.requested hmaps'' hnext'' (fun kind' sid' => (hregistered kind' sid').mpr)
    · simpa only [hregistered] using h.kinds
    · intro kind' reqId sid' hfound
      rcases hlisted'' kind' reqId sid' hfound with hbefore | ⟨rfl, rfl, rfl⟩
      · exact Or.inl hbefore
      · exact Or.inr ⟨Nat.le_refl _, (hregistered kind' sid').mpr hreg⟩
  rcases hresult with hresult | hresult
  · rw [hresult]
    exact hstep t' hmaps hregistry (Nat.le_of_eq hnext.symm)
      fun kind' reqId sid' hfound => Or.inl (hold kind' reqId sid' hfound)
  · rw [hresult]
    apply hstep _ (hmaps.sendRequest kind hfree answer.ticker)
    · rw [registry_sendRequest, hregistry]
    · rw [← hnext]
      exact nextReqId_le_sendRequest t' kind sid answer.ticker
    · intro kind' reqId sid' hfound
      rw [← hnext]
      exact (hmaps.listed_of_sendRequest hfound).imp_left (hold kind' reqId sid')

/-! ## Steps -/

theorem ReqIdStep.trans {t t' t'' : StreamTable} (h : ReqIdStep t t') (h' : ReqIdStep t' t'') :
    ReqIdStep t t'' :=
  ⟨h'.inv, h.forward.trans h'.forward⟩

/-- Whatever a step does, it keeps the dictionaries in agreement. -/
theorem ReqIdInv.move {cap : Nat} {s s' : MarketData} {l : CallbackLabel}
    (h : ReqIdInv s.table) (hkeyed : KeyedInv s.table) (hmove : CallbackMove cap s l s') :
    ReqIdStep s.table s'.table := by
  have hrefl : ReqIdStep s.table s.table := ⟨h, .refl _⟩
  by_cases hother : IsResubscribe l
  · obtain ⟨cancelOld, answers, rfl⟩ := hother
    cases hmove with
    | same => exact hrefl
    | resubscribes =>
        apply resubscribeAll_invariant _ hrefl
        intro t kind sid hstep hreg
        exact hstep.trans (hstep.inv.resubscribeOne hreg cancelOld (answers sid))
  · refine ((tableRun_move hkeyed hmove hother).invariant ?_ hkeyed hrefl).2
    intro t t' hkeyed' hstep hop
    exact hstep.trans (hstep.inv.tableOp hkeyed' hop)

/-- Streams under their keys, dictionaries in agreement. -/
structure RoutingInv (s : CallbackState) : Prop where
  keyed : KeyedInv s.market.table
  reqIds : ReqIdInv s.market.table

theorem routingInv_init : RoutingInv .init :=
  ⟨keyedInv_init, reqIdInv_init⟩

theorem RoutingInv.reqIdStep {cap : Nat} {s s' : CallbackState} {l : CallbackLabel}
    (h : RoutingInv s) (hstep : callbackStep cap s l = some s') :
    ReqIdStep s.market.table s'.market.table :=
  h.reqIds.move h.keyed (callbackStep_move hstep)

theorem RoutingInv.step {cap : Nat} {s s' : CallbackState} {l : CallbackLabel}
    (h : RoutingInv s) (hstep : callbackStep cap s l = some s') : RoutingInv s' :=
  ⟨h.keyed.move (callbackStep_move hstep), (h.reqIdStep hstep).inv⟩

/-! ## Errors -/

/-- What an error does to the stream it concerns: drop it and begin to fail its subscribers,
or note a warning. -/
def streamFailed (s : CallbackState) (kind : StreamKind) (sid : Nat) (code : Int)
    (message : String) : CallbackState :=
  match hardError code message with
  | some exc =>
      let market := { s.market with table := dropOf kind s.market.table sid }
      beginFanOut s (clearSubscribers market sid) (.failing exc (subscribersOf market.table sid))
  | none =>
      if kind ≠ .trades ∧ code ∈ softPermissionCodes then
        { s with market := { s.market with table := updateStream s.market.table sid fun st =>
          { st with permissionWarning := some (code, message) } } }
      else s

/-- The id of an L1 or depth stream is that of no trades stream. -/
theorem ReqIdMaps.trades_eq_none {t : StreamTable} (h : ReqIdMaps t) {reqId sid : Nat}
    {depth : Bool} (hstream : t.streamByReqId.get? reqId = some (sid, depth)) :
    t.tradesByReqId.get? reqId = none := by
  apply Option.eq_none_iff_forall_ne_some.mpr
  intro sid' htrade
  cases depth with
  | false => cases (h.one .l1 .trades reqId sid sid' hstream htrade).1
  | true => cases (h.one .depth .trades reqId sid sid' hstream htrade).1

/-- An error of an L1 or depth stream. -/
theorem streamError_stream {cap : Nat} {s : CallbackState} {reqId sid : Nat} {depth : Bool}
    (hstream : s.market.table.streamByReqId.get? reqId = some (sid, depth))
    (htrades : s.market.table.tradesByReqId.get? reqId = none)
    (hreg : isRegistered s.market.table (if depth then .depth else .l1) sid = true) (code : Int)
    (message : String) :
    callbackStep cap s (.op (.streamError reqId code message)) =
      some (streamFailed s (if depth then .depth else .l1) sid code message) := by
  have hnonneg : ¬ (reqId : Int) < 0 := by omega
  simp only [callbackStep, opStep, dropFailed, if_neg hnonneg, Int.toNat_natCast, hstream, htrades,
    streamFailed, dropRegistered]
  cases hardError code message with
  | some exc => cases depth <;> simp_all [Ib.dropOf]
  | none => by_cases hsoft : code ∈ softPermissionCodes <;> cases depth <;> simp [hsoft]

theorem ReqIdInv.streamError_listed {cap : Nat} {s : CallbackState} (h : ReqIdInv s.market.table)
    (hkeyed : KeyedInv s.market.table) {kind : StreamKind} {reqId sid : Nat}
    (hlisted : Listed s.market.table kind reqId sid) (code : Int) (message : String) :
    callbackStep cap s (.op (.streamError reqId code message)) =
      some (streamFailed s kind sid code message) := by
  have hreg := (isRegistered_iff hkeyed).mpr (h.registered kind reqId sid hlisted)
  cases kind with
  | trades =>
      have hnonneg : ¬ (reqId : Int) < 0 := by omega
      have hentry : s.market.table.tradesByReqId.get? reqId = some sid := hlisted
      simp only [callbackStep, opStep, dropFailed, if_neg hnonneg, Int.toNat_natCast, hentry,
        streamFailed]
      cases hardError code message <;> simp [Ib.dropOf]
  | l1 =>
      have htrades := h.toReqIdMaps.trades_eq_none hlisted
      exact streamError_stream hlisted htrades hreg code message
  | depth =>
      have htrades := h.toReqIdMaps.trades_eq_none hlisted
      exact streamError_stream hlisted htrades hreg code message

/-- An error under any other id is for no stream. -/
theorem ReqIdInv.streamError_unlisted {cap : Nat} {s : CallbackState} {reqId : Int}
    (hnone : ∀ kind (r : Nat) sid, reqId = r → ¬ Listed s.market.table kind r sid) (code : Int)
    (message : String) :
    callbackStep cap s (.op (.streamError reqId code message)) = some s := by
  by_cases hnegative : reqId < 0
  · simp [callbackStep, opStep, dropFailed, hnegative]
  · obtain ⟨r, rfl⟩ := Int.eq_ofNat_of_zero_le (by omega : 0 ≤ reqId)
    have htrades : s.market.table.tradesByReqId.get? r = none := by
      apply Option.eq_none_iff_forall_ne_some.mpr
      exact fun sid hsid => hnone .trades r sid rfl hsid
    have hstreams : s.market.table.streamByReqId.get? r = none := by
      apply Option.eq_none_iff_forall_ne_some.mpr
      rintro ⟨sid, depth⟩ hsid
      cases depth with
      | false => exact hnone .l1 r sid rfl hsid
      | true => exact hnone .depth r sid rfl hsid
    simp [callbackStep, opStep, dropFailed, htrades, hstreams]

theorem onlyStream_dropOf {t : StreamTable} (hkeyed : KeyedInv t) (kind : StreamKind) (sid : Nat) :
    OnlyStream sid t (dropOf kind t sid) := by
  cases kind with
  | l1 => exact .dropStream hkeyed .l1
  | depth => exact .dropStream hkeyed .depth
  | trades => exact .dropTrades hkeyed

theorem onlyStream_streamFailed {s : CallbackState} (hkeyed : KeyedInv s.market.table)
    (kind : StreamKind) (sid : Nat) (code : Int) (message : String) :
    OnlyStream sid s.market.table (streamFailed s kind sid code message).market.table := by
  unfold streamFailed
  cases hardError code message with
  | some exc => exact (onlyStream_dropOf hkeyed kind sid).trans (.updateStream _ _)
  | none =>
      dsimp only
      split_ifs
      · exact .updateStream _ _
      · exact .refl _

/-! ## Every run -/

/-- The two dictionaries and the hooks, as the streams have them. -/
structure RequestsAgree (t : StreamTable) : Prop where
  disjoint : ∀ reqId, reqId ∈ t.streamByReqId.keys → reqId ∉ t.tradesByReqId.keys
  trades : ∀ reqId sid, t.tradesByReqId.get? reqId = some sid →
    Registered t .trades sid ∧ reqIdOf t sid = some reqId
  streams : ∀ reqId sid depth, t.streamByReqId.get? reqId = some (sid, depth) →
    Registered t (if depth then .depth else .l1) sid ∧ reqIdOf t sid = some reqId
  listed : ∀ kind sid reqId, Registered t kind sid → reqIdOf t sid = some reqId →
    ∀ kind' reqId', Listed t kind' reqId' sid ↔ kind' = kind ∧ reqId' = reqId
  drawn : ∀ sid reqId, reqIdOf t sid = some reqId → reqId < t.nextReqId
  hooked : ∀ ticker sid, t.hooks.count (ticker, sid) = if tickerOf t sid = some ticker then 1 else 0

/-- An error is for the stream whose live request drew its id, and for no other. -/
structure ErrorsRouted (cap : Nat) (s : CallbackState) : Prop where
  concerned : ∀ (kind : StreamKind) (sid reqId : Nat) (code : Int) (message : String),
    Registered s.market.table kind sid → reqIdOf s.market.table sid = some reqId →
      callbackStep cap s (.op (.streamError reqId code message)) =
        some (streamFailed s kind sid code message) ∧
      OnlyStream sid s.market.table (streamFailed s kind sid code message).market.table
  unconcerned : ∀ (reqId code : Int) (message : String),
    (∀ sid (r : Nat), reqIdOf s.market.table sid = some r → reqId ≠ r) →
      callbackStep cap s (.op (.streamError reqId code message)) = some s

/-- A live request is the one from before, or drew its id just now. -/
structure IdsDrawnOnce (t t' : StreamTable) : Prop where
  next : t.nextReqId ≤ t'.nextReqId
  live : ∀ sid reqId, reqIdOf t' sid = some reqId →
    reqIdOf t sid = some reqId ∨ t.nextReqId ≤ reqId

theorem ReqIdInv.requestsAgree {t : StreamTable} (h : ReqIdInv t) : RequestsAgree t where
  disjoint reqId hstream htrade := by
    rw [Dict.mem_keys_iff, Dict.contains, Option.isSome_iff_exists] at hstream htrade
    obtain ⟨⟨sid, depth⟩, hsid⟩ := hstream
    simp [h.toReqIdMaps.trades_eq_none hsid] at htrade
  trades reqId sid hsid :=
    ⟨h.registered .trades reqId sid hsid, h.toReqIdMaps.listed .trades reqId sid hsid⟩
  streams reqId sid depth hsid := by
    cases depth with
    | false => exact ⟨h.registered .l1 reqId sid hsid, h.toReqIdMaps.listed .l1 reqId sid hsid⟩
    | true => exact ⟨h.registered .depth reqId sid hsid, h.toReqIdMaps.listed .depth reqId sid hsid⟩
  listed kind sid reqId hreg hreq kind' reqId' := by
    have hown := h.listed_of_registered hreg hreq
    constructor
    · intro hlisted
      have hreq' := h.toReqIdMaps.listed kind' reqId' sid hlisted
      rw [hreq] at hreq'
      cases hreq'
      exact ⟨(h.one kind' kind reqId sid sid hlisted hown).1, rfl⟩
    · rintro ⟨rfl, rfl⟩
      exact hown
  drawn sid reqId hreq := by
    obtain ⟨kind, hlisted⟩ := h.owns sid reqId hreq
    exact h.fresh kind reqId sid hlisted
  hooked := h.toReqIdMaps.hooks

theorem ReqIdInv.errorsRouted {s : CallbackState} (h : ReqIdInv s.market.table)
    (hkeyed : KeyedInv s.market.table) (cap : Nat) : ErrorsRouted cap s where
  concerned kind sid reqId code message hreg hreq :=
    ⟨h.streamError_listed hkeyed (h.listed_of_registered hreg hreq) code message,
      onlyStream_streamFailed hkeyed kind sid code message⟩
  unconcerned reqId code message hnone := by
    apply ReqIdInv.streamError_unlisted
    intro kind r sid hr hlisted
    exact hnone sid r (h.toReqIdMaps.listed kind r sid hlisted) hr

theorem ReqIdStep.idsDrawnOnce {t t' : StreamTable} (h : ReqIdInv t) (hstep : ReqIdStep t t') :
    IdsDrawnOnce t t' := by
  refine ⟨hstep.forward.next, fun sid reqId hreq => ?_⟩
  obtain ⟨kind, hlisted⟩ := hstep.inv.owns sid reqId hreq
  rcases hstep.forward.listed kind reqId sid hlisted with hold | hlate
  · exact Or.inl (h.toReqIdMaps.listed kind reqId sid hold)
  · exact Or.inr hlate

/-- In every state of every run the dictionaries, streams and hooks agree, and an error is
for the stream whose live request drew its id; in every step, an id that is no longer live
does not come back. -/
theorem request_routing (spec : IbConnectionSpec) (ls : List CallbackLabel) :
    (callbackMachine spec).AllStates (fun s => RequestsAgree s.market.table ∧
        ErrorsRouted spec.marketDataLines s) .init ls ∧
      (callbackMachine spec).AllSteps (fun s l => ∀ s',
        callbackStep spec.marketDataLines s l = some s' →
          IdsDrawnOnce s.market.table s'.market.table) .init ls := by
  have hstep : ∀ s l s', RoutingInv s → (callbackMachine spec).step s l = some s' →
      RoutingInv s' := fun s l s' h hl => h.step hl
  constructor
  · apply Machine.allStates_of_invariant _ hstep _ routingInv_init
    exact fun s h => ⟨h.reqIds.requestsAgree, h.reqIds.errorsRouted h.keyed _⟩
  · apply Machine.allSteps_of_invariant _ hstep _ routingInv_init
    exact fun s l h s' hl => (h.reqIdStep hl).idsDrawnOnce h.reqIds

end Ib
end MarketConnector
