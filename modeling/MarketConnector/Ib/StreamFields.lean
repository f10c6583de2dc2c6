import MarketConnector.Ib.TableOps

/-!
# Ib - Fields of streams that few steps change

The book of a stream object and its permission warning change with updates, resets and
errors only.  All other steps work on requests, users and idle timers.

Main results:

- Definition `Settled`: what is read of a stream object is none of these.
- Theorem `Settled.move`: a step that is no resubscribe leaves it alone.
- Theorem `Settled.resubscribeAll`: which streams a resubscribe resets.
-/

namespace MarketConnector
namespace Ib

open Foundations

section Fields

universe u

variable {β : Type u} {g : Stream → β} {b : β}

/-- A field of a stream object; `b` if there is no such object. -/
def fieldAt (g : Stream → β) (b : β) (t : StreamTable) (sid : Nat) : β :=
  ((t.streams.get? sid).map g).getD b

/-- The field depends neither on the request of a stream object nor on its users, and a new
object has `b`. -/
structure Settled (g : Stream → β) (b : β) : Prop where
  keeps : ∀ (st : Stream) ticker reqId refs idle waiters subscribers,
    g { st with
      ticker := ticker
      reqId := reqId
      refs := refs
      idle := idle
      waiters := waiters
      subscribers := subscribers } = g st
  new : ∀ contract, g (.new contract) = b

/-! ## Operations on one stream object -/

theorem fieldAt_of_streams {t t' : StreamTable} (h : t'.streams = t.streams) :
    fieldAt g b t' = fieldAt g b t := by
  unfold fieldAt
  rw [h]

theorem fieldAt_updateStream {t t' : StreamTable} (h : fieldAt g b t' = fieldAt g b t) {sid : Nat}
    {f : Stream → Stream} (hf : ∀ st, g (f st) = g st) :
    fieldAt g b (updateStream t' sid f) = fieldAt g b t := by
  rw [← h]
  funext sid'
  unfold fieldAt
  rw [get?_updateStream]
  split_ifs with heq
  · rw [heq, Option.map_map]
    exact congrArg (fun g => (Option.map g (t'.streams.get? sid)).getD b) (funext hf)
  · rfl

@[simp]
theorem fieldAt_sendCancel (t : StreamTable) (kind : StreamKind) (sid : Nat) :
    fieldAt g b (sendCancel t kind sid) = fieldAt g b t :=
  fieldAt_of_streams (streams_sendCancel t kind sid)

@[simp]
theorem fieldAt_forget (t : StreamTable) (kind : StreamKind) (sid : Nat) :
    fieldAt g b (forget t kind sid) = fieldAt g b t :=
  fieldAt_of_streams (streams_forget t kind sid)

namespace Settled

theorem unhook (hg : Settled g b) (t : StreamTable) (kind : StreamKind) (sid : Nat) :
    fieldAt g b (unhook t kind sid) = fieldAt g b t := by
  funext sid'
  unfold fieldAt
  rw [get?_unhook]
  split_ifs with heq
  · rw [heq, Option.map_map]
    have hsame : (g ∘ fun s : Stream => { s with ticker := none, reqId := none }) = g :=
      funext fun st => hg.keeps st _ _ _ _ _ _
    rw [hsame]
  · rfl

theorem sendRequest (hg : Settled g b) (t : StreamTable) (kind : StreamKind) (sid : Nat)
    (ticker : Option Nat) : fieldAt g b (sendRequest t kind sid ticker).1 = fieldAt g b t := by
  funext sid'
  unfold fieldAt
  rw [get?_sendRequest]
  split_ifs with heq
  · rw [heq, Option.map_map]
    cases ticker with
    | none => rfl
    | some ticker =>
        have hsame : (g ∘ fun s : Stream =>
            { s with ticker := some ticker, reqId := some t.nextReqId }) = g :=
          funext fun st => hg.keeps st _ _ _ _ _ _
        simp only [Option.elim_some, hsame]
  · rfl

theorem dropStream (hg : Settled g b) (t : StreamTable) (kind : StreamKind) (sid : Nat) :
    fieldAt g b (dropStream t kind sid) = fieldAt g b t := by
  unfold Ib.dropStream
  dsimp only
  rw [fieldAt_sendCancel, hg.unhook]
  exact fieldAt_updateStream (fieldAt_forget t kind sid) fun st => hg.keeps st _ _ _ _ _ _

theorem dropTrades (hg : Settled g b) (t : StreamTable) (sid : Nat) :
    fieldAt g b (dropTrades t sid) = fieldAt g b t := by
  unfold Ib.dropTrades
  split_ifs
  · rw [fieldAt_sendCancel, hg.unhook, fieldAt_forget]
  · rfl

theorem releaseDepth (hg : Settled g b) (t : StreamTable) (sid : Nat) (loop : Bool) :
    fieldAt g b (releaseDepth t sid loop) = fieldAt g b t := by
  have hrefs : fieldAt g b (updateStream t sid fun s => { s with refs := s.refs - 1 }) =
      fieldAt g b t := fieldAt_updateStream rfl fun st => hg.keeps st _ _ _ _ _ _
  unfold Ib.releaseDepth
  dsimp only
  split_ifs
  · exact hrefs
  · exact fieldAt_updateStream hrefs fun st => hg.keeps st _ _ _ _ _ _
  · rw [hg.dropStream, hrefs]

theorem releaseTrades (hg : Settled g b) (t : StreamTable) (sid : Nat) :
    fieldAt g b (releaseTrades t sid) = fieldAt g b t := by
  have hrefs : fieldAt g b (updateStream t sid fun s => { s with refs := s.refs - 1 }) =
      fieldAt g b t := fieldAt_updateStream rfl fun st => hg.keeps st _ _ _ _ _ _
  unfold Ib.releaseTrades
  dsimp only
  split_ifs
  · exact hrefs
  · rw [hg.dropTrades, hrefs]

theorem idleExpired (hg : Settled g b) (t : StreamTable) (sid : Nat) :
    fieldAt g b (idleExpired t sid) = fieldAt g b t := by
  have hidle : fieldAt g b (updateStream t sid fun s => { s with idle := false }) =
      fieldAt g b t := fieldAt_updateStream rfl fun st => hg.keeps st _ _ _ _ _ _
  unfold Ib.idleExpired
  dsimp only
  split_ifs
  · rw [hg.dropStream, hidle]
  · exact hidle

theorem foldl {f : StreamTable → Nat → StreamTable}
    (hf : ∀ t sid, fieldAt g b (f t sid) = fieldAt g b t) (sids : List Nat) (t : StreamTable) :
    fieldAt g b (sids.foldl f t) = fieldAt g b t := by
  induction sids generalizing t with
  | nil => rfl
  | cons sid sids ih => rw [List.foldl_cons, ih, hf]

theorem releaseAll (hg : Settled g b) (t : StreamTable) :
    fieldAt g b (releaseAll t) = fieldAt g b t := by
  unfold Ib.releaseAll
  dsimp only
  rw [foldl hg.dropTrades, foldl fun t sid => hg.dropStream t .depth sid,
    foldl fun t sid => hg.dropStream t .l1 sid]

/-! ## Opening and holding -/

/-- A new stream object has what is read of no object. -/
theorem addStream (hg : Settled g b) {t : StreamTable} (h : KeyedInv t) (contract : Contract) :
    fieldAt g b (addStream t contract) = fieldAt g b t := by
  funext sid
  unfold fieldAt Ib.addStream
  dsimp only
  rw [Dict.get?_set]
  split_ifs with heq
  · rw [heq, streams_nextStream h]
    exact hg.new contract
  · rfl

theorem openStream (hg : Settled g b) {t : StreamTable} (h : KeyedInv t) (cap : Nat)
    (kind : StreamKind) (contract : Contract) (ticker : Option Nat) :
    fieldAt g b (openStream cap t kind contract ticker).1 = fieldAt g b t := by
  have hsent : fieldAt g b (requestNew t kind contract ticker) = fieldAt g b t := by
    unfold requestNew
    rw [hg.sendRequest, hg.addStream h]
  rw [openStream_eq]
  split_ifs
  · rfl
  · exact (fieldAt_of_streams rfl).trans hsent
  · exact hsent

theorem findOrOpen (hg : Settled g b) {t : StreamTable} (h : KeyedInv t) (cap : Nat)
    (kind : StreamKind) (contract : Contract) (ticker : Option Nat) :
    fieldAt g b (findOrOpen cap t kind contract ticker).1 = fieldAt g b t := by
  unfold Ib.findOrOpen
  cases (t.registry kind).get? (streamKey contract) with
  | some sid => rfl
  | none => exact hg.openStream h cap kind contract ticker

/-- The user that a stream gets, when there is one, does not matter. -/
theorem addUser {t : StreamTable} {opened : StreamTable × Option Nat}
    (h : fieldAt g b opened.1 = fieldAt g b t) {f : Stream → Stream}
    (hf : ∀ st, g (f st) = g st) :
    fieldAt g b (match opened with
      | (t', none) => (t', none)
      | (t', some sid) => (updateStream t' sid f, some sid)).1 = fieldAt g b t := by
  rcases opened with ⟨t', none | sid⟩
  · exact h
  · exact fieldAt_updateStream h hf

theorem acquire (hg : Settled g b) {t : StreamTable} (h : KeyedInv t) (cap : Nat)
    (channel : Channel) (contract : Contract) (ticker : Option Nat) :
    fieldAt g b (acquire cap t channel contract ticker).1 = fieldAt g b t := by
  cases channel with
  | depth =>
      unfold Ib.acquire acquireDepth
      exact addUser (hg.findOrOpen h cap .depth contract ticker) fun st => hg.keeps st _ _ _ _ _ _
  | trades =>
      unfold Ib.acquire acquireTrades
      exact addUser (hg.findOrOpen h cap .trades contract ticker) fun st => hg.keeps st _ _ _ _ _ _

theorem subscribe (hg : Settled g b) {s : MarketData} (h : KeyedInv s.table) (cap : Nat)
    (channel : Channel) (contract : Contract) (ticker : Option Nat) :
    fieldAt g b (subscribe cap s channel contract ticker).table = fieldAt g b s.table := by
  have hacquire := hg.acquire h cap channel contract ticker
  unfold Ib.subscribe
  rcases hresult : Ib.acquire cap s.table channel contract ticker with ⟨table, none | sid⟩
  · rwa [hresult] at hacquire
  · rw [hresult] at hacquire
    exact fieldAt_updateStream hacquire fun st => hg.keeps st _ _ _ _ _ _

theorem startSnapshot (hg : Settled g b) {s : MarketData} (h : KeyedInv s.table) (cap : Nat)
    (depth : Bool) (contract : Contract) (ticker : Option Nat) :
    fieldAt g b (startSnapshot cap s depth contract ticker).table = fieldAt g b s.table := by
  have hopen : fieldAt g b (if depth then acquireDepth cap s.table contract ticker
      else Ib.findOrOpen cap s.table .l1 contract ticker).1 = fieldAt g b s.table := by
    cases depth with
    | true => exact hg.acquire h cap .depth contract ticker
    | false => exact hg.findOrOpen h cap .l1 contract ticker
  unfold Ib.startSnapshot
  dsimp only
  rcases hresult : (if depth then acquireDepth cap s.table contract ticker
      else Ib.findOrOpen cap s.table .l1 contract ticker) with ⟨table, none | sid⟩
  · rwa [hresult] at hopen
  · rw [hresult] at hopen
    exact fieldAt_updateStream hopen fun st => hg.keeps st _ _ _ _ _ _

/-! ## Closing and failing -/

theorem cleanup (hg : Settled g b) (s : MarketData) (id : Nat) (handle : SubscriptionHandle)
    (loop : Bool) : fieldAt g b (cleanup s id handle loop).table = fieldAt g b s.table := by
  have hforget : fieldAt g b (updateStream s.table handle.stream fun st =>
      { st with subscribers := st.subscribers.erase id }) = fieldAt g b s.table :=
    fieldAt_updateStream rfl fun st => hg.keeps st _ _ _ _ _ _
  unfold Ib.cleanup
  cases handle.channel with
  | depth => exact (hg.releaseDepth _ _ loop).trans hforget
  | trades => exact (hg.releaseTrades _ _).trans hforget

theorem closeHandle (hg : Settled g b) (s : MarketData) (id : Nat) (loop : Bool) :
    fieldAt g b (closeHandle s id loop).table = fieldAt g b s.table := by
  rcases closeHandle_cases s id loop with ⟨handle, -, -, heq⟩ | ⟨-, hsame⟩
  · rw [heq]
    exact hg.cleanup (setHandle s id { handle with closed := true }) id handle loop
  · rw [hsame]

theorem failHandle (hg : Settled g b) (exc : StreamError) (s : MarketData) (id : Nat) :
    fieldAt g b (failHandle exc s id).table = fieldAt g b s.table := by
  rcases failHandle_cases exc s id with ⟨handle, -, -, heq⟩ | ⟨-, hsame⟩
  · rw [heq]
    exact hg.closeHandle (setHandle s id { handle with error := some exc }) id true
  · rw [hsame]

theorem dropRegistered (hg : Settled g b) (s : MarketData) (kind : StreamKind) (sid : Nat) :
    fieldAt g b (dropRegistered s kind sid).table = fieldAt g b s.table := by
  unfold Ib.dropRegistered
  split_ifs
  · exact hg.dropStream s.table kind sid
  · rfl

theorem endSnapshot (hg : Settled g b) (s : MarketData) (id : Nat) (snapshot : Snapshot)
    (timedOut : Bool) :
    fieldAt g b (endSnapshot s id snapshot timedOut).table = fieldAt g b s.table := by
  have hleft : fieldAt g b (leaveSnapshot s id snapshot).table = fieldAt g b s.table :=
    fieldAt_updateStream rfl fun st => hg.keeps st _ _ _ _ _ _
  have hdropped :
      fieldAt g b (dropAtDeadline (leaveSnapshot s id snapshot) snapshot timedOut).table =
        fieldAt g b s.table := by
    rcases dropAtDeadline_eq (leaveSnapshot s id snapshot) snapshot timedOut with hsame | hdrop
    · rw [hsame, hleft]
    · rw [hdrop, hg.dropRegistered, hleft]
  unfold Ib.endSnapshot
  dsimp only
  split_ifs
  · exact (hg.releaseDepth _ _ true).trans hdropped
  · exact hdropped

/-- An error drops a stream, or notes a warning in one. -/
theorem dropFailed (hg : Settled g b) (s : MarketData) (reqId code : Int) (message : String) :
    fieldAt g b (dropFailed s reqId code message).1.table = fieldAt g b s.table ∨
      ∃ r sid depth, s.table.streamByReqId.get? r = some (sid, depth) ∧
        (Ib.dropFailed s reqId code message).1.table = updateStream s.table sid fun st =>
          { st with permissionWarning := some (code, message) } := by
  by_cases hnegative : reqId < 0
  · left
    simp only [Ib.dropFailed, if_pos hnegative]
  · simp only [Ib.dropFailed, if_neg hnegative]
    cases s.table.tradesByReqId.get? reqId.toNat with
    | some sid =>
        left
        cases hardError code message with
        | none => rfl
        | some exc => exact hg.dropTrades s.table sid
    | none =>
        cases hentry : s.table.streamByReqId.get? reqId.toNat with
        | none => exact Or.inl rfl
        | some entry =>
            obtain ⟨sid, depth⟩ := entry
            cases hardError code message with
            | some exc => exact Or.inl (hg.dropRegistered s _ sid)
            | none =>
                dsimp only
                split_ifs
                · exact Or.inr ⟨_, sid, depth, hentry, rfl⟩
                · exact Or.inl rfl

/-! ## Steps -/

theorem clearDepthBooks (hclear : ∀ st, g { st with bids := [], asks := [] } = g st)
    (t : StreamTable) : fieldAt g b (clearDepthBooks t) = fieldAt g b t :=
  foldl (fun _ _ => fieldAt_updateStream rfl hclear) _ t

/-- A step that is no resubscribe leaves the field alone, unless its update, its reset or its
error changes it. -/
theorem move (hg : Settled g b) {cap : Nat} {s s' : MarketData} {l : CallbackLabel}
    (h : KeyedInv s.table) (hmove : CallbackMove cap s l s')
    (hupdate : ∀ sid ticks, l = .op (.depthUpdate sid ticks) →
      ∀ st, g (ticks.foldl applyDepthTick st) = g st)
    (hreset : l = .op .depthReset → ∀ st, g { st with bids := [], asks := [] } = g st)
    (herror : ∀ reqId code message, l = .op (.streamError reqId code message) →
      fieldAt g b (Ib.dropFailed s reqId code message).1.table = fieldAt g b s.table)
    (hresub : ¬ IsResubscribe l) : fieldAt g b s'.table = fieldAt g b s.table := by
  cases hmove with
  | same => rfl
  | subscribes => exact hg.subscribe h cap _ _ _
  | closes => exact hg.closeHandle s _ _
  | topOfBook => exact hg.startSnapshot h cap false _ _
  | depthSnapshot => exact hg.startSnapshot h cap true _ _
  | snapshotEnds hid => exact hg.endSnapshot s _ _ _
  | resubscribes => exact absurd ⟨_, _, rfl⟩ hresub
  | depthReset => exact clearDepthBooks (hreset rfl) s.table
  | idleExpires hsid hidle => exact hg.idleExpired s.table _
  | releaseAll => exact hg.releaseAll s.table
  | routed hnone => exact herror _ _ _ rfl
  | fails hsome =>
      exact fieldAt_updateStream (herror _ _ _ rfl) fun st => hg.keeps st _ _ _ _ _ _
  | depthUpdate => exact fieldAt_updateStream rfl (hupdate _ _ rfl)
  | publishes => rfl
  | notifies => exact hg.failHandle _ s _

end Settled

/-! ## Resets -/

/-- A stream object starts over. -/
theorem fieldAt_reset (t : StreamTable) (sid : Nat) {f : Stream → Stream}
    (hf : ∀ st, g (f st) = b) :
    fieldAt g b (updateStream t sid f) = Function.update (fieldAt g b t) sid b := by
  funext sid'
  unfold fieldAt
  rw [get?_updateStream]
  by_cases heq : sid' = sid
  · subst heq
    rw [if_pos rfl, Function.update_self, Option.map_map]
    cases t.streams.get? sid' with
    | none => rfl
    | some st => exact hf st
  · rw [if_neg heq, Function.update_of_ne heq]

/-- Stream objects start over, one after the other. -/
theorem fieldAt_foldl_reset {f : StreamTable → Nat → StreamTable}
    (hf : ∀ t sid, fieldAt g b (f t sid) = Function.update (fieldAt g b t) sid b)
    (sids : List Nat) (t : StreamTable) (sid : Nat) :
    fieldAt g b (sids.foldl f t) sid = if sid ∈ sids then b else fieldAt g b t sid := by
  induction sids generalizing t with
  | nil => rfl
  | cons first sids ih =>
      rw [List.foldl_cons, ih, hf]
      by_cases hrest : sid ∈ sids
      · rw [if_pos hrest, if_pos (List.mem_cons_of_mem _ hrest)]
      · rw [if_neg hrest]
        by_cases heq : sid = first
        · rw [heq, Function.update_self, if_pos List.mem_cons_self]
        · have hnot : sid ∉ first :: sids := by simp [heq, hrest]
          rw [Function.update_of_ne heq, if_neg hnot]

theorem fieldAt_clearDepthBooks (hclear : ∀ st : Stream, g { st with bids := [], asks := [] } = b)
    (t : StreamTable) (sid : Nat) :
    fieldAt g b (clearDepthBooks t) sid =
      if sid ∈ (t.registry .depth).values then b else fieldAt g b t sid :=
  fieldAt_foldl_reset (fun t sid => fieldAt_reset t sid hclear) _ t sid

namespace Settled

theorem resubscribeOne (hg : Settled g b)
    (hreset : ∀ st : Stream,
      g { st with bids := [], asks := [], permissionWarning := none } = b)
    (kind : StreamKind) (cancelOld : Bool) (t : StreamTable) (sid : Nat) (answer : IbAnswer) :
    fieldAt g b (resubscribeOne kind cancelOld t sid answer) =
      if kind = .trades then fieldAt g b t else Function.update (fieldAt g b t) sid b := by
  have hcleared : fieldAt g b (if kind = .trades then Ib.unhook t kind sid else
      updateStream (Ib.unhook t kind sid) sid fun s =>
        { s with bids := [], asks := [], permissionWarning := none }) =
      if kind = .trades then fieldAt g b t else Function.update (fieldAt g b t) sid b := by
    split_ifs
    · exact hg.unhook t kind sid
    · rw [← hg.unhook t kind sid]
      exact fieldAt_reset _ sid hreset
  unfold Ib.resubscribeOne
  dsimp only
  cases cancelOld with
  | false => exact (hg.sendRequest _ kind sid _).trans hcleared
  | true =>
      have hcancelled := (fieldAt_sendCancel _ kind sid).trans hcleared
      cases answer.cancelRaises with
      | true => exact hcancelled
      | false => exact (hg.sendRequest _ kind sid _).trans hcancelled

/-- The streams of a kind start over, but for trades streams. -/
theorem resubscribeKind (hg : Settled g b)
    (hreset : ∀ st : Stream,
      g { st with bids := [], asks := [], permissionWarning := none } = b)
    (kind : StreamKind) (cancelOld : Bool) (answers : Nat → IbAnswer) (sids : List Nat)
    (t : StreamTable) (sid : Nat) :
    fieldAt g b
        (sids.foldl (fun t sid => Ib.resubscribeOne kind cancelOld t sid (answers sid)) t) sid =
      if kind ≠ .trades ∧ sid ∈ sids then b else fieldAt g b t sid := by
  have hone := fun t sid => hg.resubscribeOne hreset kind cancelOld t sid (answers sid)
  by_cases hkind : kind = .trades
  · simp only [if_pos hkind] at hone
    rw [foldl hone, if_neg (by simp [hkind])]
  · simp only [if_neg hkind] at hone
    rw [fieldAt_foldl_reset hone]
    simp [hkind]

/-- A resubscribe starts the L1 and depth streams over. -/
theorem resubscribeAll (hg : Settled g b)
    (hreset : ∀ st : Stream,
      g { st with bids := [], asks := [], permissionWarning := none } = b)
    (cancelOld : Bool) (answers : Nat → IbAnswer) (t : StreamTable) (sid : Nat) :
    fieldAt g b (resubscribeAll cancelOld answers t) sid =
      if sid ∈ (t.registry .l1).values ++ (t.registry .depth).values then b
      else fieldAt g b t sid := by
  unfold Ib.resubscribeAll
  simp only [List.foldl_cons, List.foldl_nil, hg.resubscribeKind hreset,
    registry_foldl_resubscribeOne]
  by_cases hdepth : sid ∈ (t.registry .depth).values
  · simp [hdepth]
  · by_cases hl1 : sid ∈ (t.registry .l1).values
    · simp [hdepth, hl1]
    · simp [hdepth, hl1]

end Settled

end Fields

end Ib
end MarketConnector
