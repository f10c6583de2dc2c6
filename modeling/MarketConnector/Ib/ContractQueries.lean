import MarketConnector.Foundations.Calendar
import MarketConnector.Ib.Invalidation

/-!
# Ib - What contract queries answer

A call of `resolve` that misses the cache asks IB with a contract template made from its
reference.  The resolver is run beside a list of the answers that came, with any number of calls,
cancellations and invalidations between them, and every result of a call is traced to an answer.

Main results:

- Definition `resolveViaIb`: the template of a reference.
- Theorem `basedOn_step`: cache, index and results come from the answers.
- Theorem `contracts_answered`: what each call returns or raises, and what is asked only once.
-/

namespace MarketConnector
namespace Ib
namespace ContractResolver

open Foundations

/-! ## References and templates -/

inductive InstrumentType where
  | stock | option | future | forex | crypto | bond | cfd | index
deriving DecidableEq

inductive OptionRight where
  | call | put
deriving DecidableEq

deriving instance DecidableEq for CivilDate

/-- The fields of an `InstrumentRef` besides symbol and conId.  The strike is its value, by which
decimals are compared; `extras` is read by nothing but equality. -/
structure RefFields (Extras : Type) where
  instrumentType : InstrumentType
  quoteCurrency : Option String
  exchangeHint : Option String
  expiry : Option CivilDate
  strike : Option Rat
  optionRight : Option OptionRight
  primaryExchange : Option String
  localSymbol : Option String
  contractMonth : Option String
  extras : Extras
deriving DecidableEq

/-- `_INSTRUMENT_TYPE_TO_SECTYPE`. -/
def InstrumentType.secType : InstrumentType → String
  | .stock => "STK"
  | .option => "OPT"
  | .future => "FUT"
  | .forex => "CASH"
  | .crypto => "CRYPTO"
  | .bond => "BOND"
  | .cfd => "CFD"
  | .index => "IND"

/-- `_INSTRUMENT_TYPE_TO_DEFAULT_EXCHANGE`, with the default of its lookup. -/
def InstrumentType.defaultExchange : InstrumentType → String
  | .crypto => "PAXOS"
  | .forex => "IDEALPRO"
  | _ => "SMART"

/-- `OptionRight.value[0]`. -/
def OptionRight.letter : OptionRight → String
  | .call => "C"
  | .put => "P"

/-- `text or default`. -/
def orDefault (text : Option String) (default : String) : String :=
  match text with
  | none => default
  | some text => if text = "" then default else text

/-- The `Contract` that IB is asked about, with the defaults of `ib_async`; `strike` is the number
before its conversion to a float. -/
structure ContractTemplate where
  conId : Int
  symbol : String
  secType : String
  currency : String
  exchange : String
  primaryExchange : String
  lastTradeDateOrContractMonth : String
  localSymbol : String
  strike : Option Rat
  right : String
deriving DecidableEq

/-- `Contract()`. -/
def ContractTemplate.blank : ContractTemplate where
  conId := 0
  symbol := ""
  secType := ""
  currency := ""
  exchange := ""
  primaryExchange := ""
  lastTradeDateOrContractMonth := ""
  localSymbol := ""
  strike := none
  right := ""

section Queries

variable {Extras : Type}

/-- `lastTradeDateOrContractMonth` of a reference. -/
def contractDate (fields : RefFields Extras) : String :=
  if orDefault fields.contractMonth "" ≠ "" then orDefault fields.contractMonth ""
  else match fields.expiry with
    | some expiry => String.ofList expiry.digits
    | none => ""

/-- `_resolve_via_ib` up to the IB call: the template, or the `ValueError` for a future without an
exchange. -/
def resolveViaIb (ref : InstrumentRef (RefFields Extras)) : Except ResolveError ContractTemplate :=
  match ref.conId with
  | some conId => .ok { ContractTemplate.blank with
      conId := conId
      exchange := orDefault ref.other.exchangeHint "SMART" }
  | none =>
      if ref.other.exchangeHint = none ∧ ref.other.instrumentType = .future then
        .error (.other (ref.symbol ++
          ": an exchange is required for futures (no exchange_hint or con_id)"))
      else .ok {
        conId := 0
        symbol := ref.symbol
        secType := ref.other.instrumentType.secType
        currency := orDefault ref.other.quoteCurrency "USD"
        exchange := orDefault ref.other.exchangeHint ref.other.instrumentType.defaultExchange
        primaryExchange := orDefault ref.other.primaryExchange ""
        lastTradeDateOrContractMonth := contractDate ref.other
        localSymbol := orDefault ref.other.localSymbol ""
        strike := ref.other.strike
        right := (ref.other.optionRight.map OptionRight.letter).getD "" }

/-- What IB answers to a template; the number counts the answers before it. -/
abbrev IbAnswers := Nat → ContractTemplate → Except ResolveError (List ContractDetails)

/-- The answer to a reference. -/
def ask (ib : IbAnswers) (n : Nat) (ref : InstrumentRef (RefFields Extras)) :
    Except ResolveError (List ContractDetails) :=
  (resolveViaIb ref).bind (ib n)

/-! ## The resolver and its answers -/

/-- An answer, with the reference it is for. -/
structure Answer (Extras : Type) where
  ref : InstrumentRef (RefFields Extras)
  reply : Except ResolveError (List ContractDetails)

/-- The resolver, the references its calls have been made with, and the answers that came. -/
structure QueriedResolver (Extras : Type) where
  resolver : ResolverState (RefFields Extras)
  calls : List (InstrumentRef (RefFields Extras))
  answers : List (Answer Extras)
  invalidated : Bool

/-- What happens to the resolver; IB's answers are not part of the label. -/
inductive QueryLabel (Extras : Type) where
  | resolve (ref : InstrumentRef (RefFields Extras))
  | acquire
  | answer
  | searched (task : Nat) (found : Option (List IbContract))
  | cancel (task : Nat)
  | invalidate (ref : Option (InstrumentRef (RefFields Extras)))

variable [DecidableEq Extras]

def queryStep (ib : IbAnswers) (s : QueriedResolver Extras) :
    QueryLabel Extras → Option (QueriedResolver Extras)
  | .resolve ref => (resolverStep s.resolver (.resolve ref)).map fun r =>
      { s with resolver := r, calls := s.calls ++ [ref] }
  | .acquire => (resolverStep s.resolver .acquire).map fun r => { s with resolver := r }
  | .answer => s.resolver.holder.bind fun t =>
      let reply := ask ib s.answers.length t.ref
      (resolverStep s.resolver (.answer reply)).map fun r =>
        { s with resolver := r, answers := s.answers ++ [⟨t.ref, reply⟩] }
  | .searched task found => (resolverStep s.resolver (.searched task found)).map fun r =>
      { s with resolver := r }
  | .cancel task => (resolverStep s.resolver (.cancel task)).map fun r => { s with resolver := r }
  | .invalidate ref => (resolverStep s.resolver (.invalidate ref)).map fun r =>
      { s with resolver := r, invalidated := true }

def queryMachine (ib : IbAnswers) : Machine (QueriedResolver Extras) (QueryLabel Extras) where
  init := ⟨resolverMachine.init, [], [], false⟩
  step := queryStep ib

/-! ## What a result is based on -/

/-- The contract is the only one that IB has answered its reference with. -/
def IsFound (answers : List (Answer Extras)) (resolved : ResolvedContract (RefFields Extras)) :
    Prop :=
  ∃ details, resolved = ResolverState.resolvedContract resolved.ref details ∧
    ⟨resolved.ref, .ok [details]⟩ ∈ answers

/-- The error a call raises for the answer to its reference. -/
def Refuses (ref : InstrumentRef (RefFields Extras)) (e : ResolveError) :
    Except ResolveError (List ContractDetails) → Prop
  | .error e' => e = e'
  | .ok [] =>
      match ref.conId with
      | some conId => e = conIdNotFoundError conId
      | none => ∃ found, e = symbolNotFoundError ref.symbol found
  | .ok [_] => False
  | .ok found => e = ambiguousContractError ref.symbol found

/-- A call returns a contract that was found for its reference, or one with the conId its
reference has; it raises when it is cancelled, or by the answer to its reference. -/
def FollowsFrom (answers : List (Answer Extras)) (ref : InstrumentRef (RefFields Extras)) :
    Except ResolveError (ResolvedContract (RefFields Extras)) → Prop
  | .ok resolved => IsFound answers resolved ∧
      (resolved.ref = ref ∨ ref.conId = some resolved.contractId)
  | .error e => e = .cancelledError ∨ ∃ reply, ⟨ref, reply⟩ ∈ answers ∧ Refuses ref e reply

omit [DecidableEq Extras] in
theorem IsFound.mono {answers answers' : List (Answer Extras)} (hsub : answers ⊆ answers')
    {resolved : ResolvedContract (RefFields Extras)} (h : IsFound answers resolved) :
    IsFound answers' resolved := by
  obtain ⟨details, heq, hmem⟩ := h
  exact ⟨details, heq, hsub hmem⟩

omit [DecidableEq Extras] in
theorem FollowsFrom.mono {answers answers' : List (Answer Extras)} (hsub : answers ⊆ answers')
    {ref : InstrumentRef (RefFields Extras)}
    {outcome : Except ResolveError (ResolvedContract (RefFields Extras))}
    (h : FollowsFrom answers ref outcome) : FollowsFrom answers' ref outcome := by
  cases outcome with
  | ok resolved => exact ⟨h.1.mono hsub, h.2⟩
  | error e =>
      refine h.imp_right fun hanswer => ?_
      obtain ⟨reply, hmem, hrefuses⟩ := hanswer
      exact ⟨reply, hsub hmem, hrefuses⟩

/-! ## What a resolver state is based on -/

/-- Calls under way. -/
def ResolverState.underWay (r : ResolverState (RefFields Extras)) :
    List (ResolveTask (RefFields Extras)) :=
  r.holder.toList ++ r.waiters ++ r.searching

/-- Cache, index and results come from the answers, each for the reference of its call. -/
structure BasedOn (calls : List (InstrumentRef (RefFields Extras)))
    (answers : List (Answer Extras)) (r : ResolverState (RefFields Extras)) : Prop where
  numbered : calls.length = r.nextTask
  called : ∀ t ∈ r.underWay, calls[t.task]? = some t.ref
  cached : ∀ ref resolved, r.contracts.cache.get? ref = some resolved →
    resolved.ref = ref ∧ IsFound answers resolved
  indexed : ∀ conId resolved, r.contracts.byConId.get? conId = some resolved →
    resolved.contractId = conId ∧ IsFound answers resolved
  searching : ∀ t ∈ r.searching, t.ref.conId = none ∧ ⟨t.ref, .ok []⟩ ∈ answers
  outcomes : ∀ task outcome, (task, outcome) ∈ r.outcomes →
    ∃ ref, calls[task]? = some ref ∧ FollowsFrom answers ref outcome

section Steps

variable {calls : List (InstrumentRef (RefFields Extras))} {answers : List (Answer Extras)}
  {r : ResolverState (RefFields Extras)}

/-- A contract that a lookup hits may be returned. -/
theorem BasedOn.lookup (h : BasedOn calls answers r) {ref : InstrumentRef (RefFields Extras)}
    {resolved : ResolvedContract (RefFields Extras)}
    (hlookup : r.contracts.lookup ref = some resolved) :
    FollowsFrom answers ref (.ok resolved) := by
  unfold ContractCache.lookup at hlookup
  cases hcache : r.contracts.cache.get? ref with
  | some cached =>
      simp only [hcache, Option.some.injEq] at hlookup
      subst hlookup
      obtain ⟨href, hfound⟩ := h.cached ref cached hcache
      exact ⟨hfound, .inl href⟩
  | none =>
      simp only [hcache] at hlookup
      obtain ⟨conId, hconId, hindex⟩ := Option.bind_eq_some_iff.1 hlookup
      obtain ⟨hid, hfound⟩ := h.indexed conId resolved hindex
      exact ⟨hfound, .inr (by rw [hconId, hid])⟩

theorem BasedOn.finish (h : BasedOn calls answers r) {task : Nat}
    {ref : InstrumentRef (RefFields Extras)}
    {outcome : Except ResolveError (ResolvedContract (RefFields Extras))}
    (hcalled : calls[task]? = some ref) (hfollows : FollowsFrom answers ref outcome) :
    BasedOn calls answers (r.finish task outcome) where
  numbered := h.numbered
  called := h.called
  cached := h.cached
  indexed := h.indexed
  searching := h.searching
  outcomes task' outcome' hmem := by
    rcases List.mem_append.1 hmem with hmem | hmem
    · exact h.outcomes task' outcome' hmem
    · cases List.mem_singleton.1 hmem
      exact ⟨ref, hcalled, hfollows⟩

/-- Calls that are under way may leave, and cache and index may lose entries. -/
theorem BasedOn.fewer (h : BasedOn calls answers r) {r' : ResolverState (RefFields Extras)}
    (htasks : r'.nextTask = r.nextTask) (houtcomes : r'.outcomes = r.outcomes)
    (hunderWay : ∀ t ∈ r'.underWay, t ∈ r.underWay) (hsearching : r'.searching ⊆ r.searching)
    (hcache : ∀ ref resolved, r'.contracts.cache.get? ref = some resolved →
      r.contracts.cache.get? ref = some resolved)
    (hindex : ∀ conId resolved, r'.contracts.byConId.get? conId = some resolved →
      r.contracts.byConId.get? conId = some resolved) : BasedOn calls answers r' where
  numbered := h.numbered.trans htasks.symm
  called t ht := h.called t (hunderWay t ht)
  cached ref resolved hget := h.cached ref resolved (hcache ref resolved hget)
  indexed conId resolved hget := h.indexed conId resolved (hindex conId resolved hget)
  searching t ht := h.searching t (hsearching ht)
  outcomes := by
    rw [houtcomes]
    exact h.outcomes

theorem BasedOn.enter (h : BasedOn calls answers r) {t : ResolveTask (RefFields Extras)}
    (hfree : r.holder = none) (hcalled : calls[t.task]? = some t.ref) :
    BasedOn calls answers (r.enter t) := by
  unfold ResolverState.enter
  cases hlookup : r.contracts.lookup t.ref with
  | some cached => exact h.finish hcalled (h.lookup hlookup)
  | none =>
      refine ⟨h.numbered, fun u hu => ?_, h.cached, h.indexed, h.searching, h.outcomes⟩
      simp only [ResolverState.underWay, Option.toList_some, List.append_assoc,
        List.mem_append, List.mem_singleton] at hu
      rcases hu with rfl | hu
      · exact hcalled
      · refine h.called u ?_
        simpa [ResolverState.underWay, hfree] using hu

/-- One more call, which is not under way yet. -/
theorem BasedOn.newCall (h : BasedOn calls answers r) (ref : InstrumentRef (RefFields Extras)) :
    BasedOn (calls ++ [ref]) answers { r with nextTask := r.nextTask + 1 } where
  numbered := by simp [h.numbered]
  called t ht := by
    have hcalled := h.called t ht
    have hlt := (List.getElem?_eq_some_iff.1 hcalled).1
    rw [List.getElem?_append_left hlt, hcalled]
  cached := h.cached
  indexed := h.indexed
  searching := h.searching
  outcomes task outcome hmem := by
    obtain ⟨ref', hcalled, hfollows⟩ := h.outcomes task outcome hmem
    have hlt := (List.getElem?_eq_some_iff.1 hcalled).1
    exact ⟨ref', by rw [List.getElem?_append_left hlt, hcalled], hfollows⟩

theorem BasedOn.start (h : BasedOn calls answers r) (ref : InstrumentRef (RefFields Extras)) :
    BasedOn (calls ++ [ref]) answers (r.start ref) := by
  have hnew := h.newCall ref
  have hcalled : (calls ++ [ref])[r.nextTask]? = some ref := by simp [← h.numbered]
  cases hlookup : r.contracts.lookup ref with
  | some cached =>
      rw [start_of_hit hlookup]
      exact hnew.finish hcalled (h.lookup hlookup |>.mono fun _ hmem => hmem)
  | none =>
      by_cases hfree : r.holder = none ∧ r.waiters = []
      · rw [start_of_free hlookup hfree]
        exact hnew.enter hfree.1 hcalled
      · rw [start_of_busy hlookup hfree]
        refine ⟨hnew.numbered, fun t ht => ?_, h.cached, h.indexed, h.searching, hnew.outcomes⟩
        simp only [ResolverState.underWay, List.mem_append, List.mem_singleton] at ht
        rcases ht with (ht | ht | rfl) | ht
        · exact hnew.called t (by simp [ResolverState.underWay] at ht ⊢; tauto)
        · exact hnew.called t (by simp [ResolverState.underWay, ht])
        · exact hcalled
        · exact hnew.called t (by simp [ResolverState.underWay, ht])

/-- One more answer. -/
theorem BasedOn.newAnswer (h : BasedOn calls answers r) (a : Answer Extras) :
    BasedOn calls (answers ++ [a]) r := by
  have hsub : answers ⊆ answers ++ [a] := List.subset_append_left _ _
  refine ⟨h.numbered, h.called, fun ref resolved hget => ?_, fun conId resolved hget => ?_,
    fun t ht => ?_, fun task outcome hmem => ?_⟩
  · exact (h.cached ref resolved hget).imp_right (.mono hsub)
  · exact (h.indexed conId resolved hget).imp_right (.mono hsub)
  · exact (h.searching t ht).imp_right (hsub ·)
  · obtain ⟨ref, hcalled, hfollows⟩ := h.outcomes task outcome hmem
    exact ⟨ref, hcalled, hfollows.mono hsub⟩

theorem BasedOn.store (h : BasedOn calls answers r)
    {resolved : ResolvedContract (RefFields Extras)} (hfound : IsFound answers resolved) :
    BasedOn calls answers { r with contracts := r.contracts.store resolved } where
  numbered := h.numbered
  called := h.called
  cached ref resolved' hget := by
    by_cases href : ref = resolved.ref
    · subst href
      simp only [ContractCache.store, Dict.get?_set_self, Option.some.injEq] at hget
      subst hget
      exact ⟨rfl, hfound⟩
    · exact h.cached ref resolved' (cache_of_store hget href)
  indexed conId resolved' hget := by
    by_cases hid : conId = resolved.contractId
    · subst hid
      simp only [ContractCache.store, Dict.get?_set_self, Option.some.injEq] at hget
      subst hget
      exact ⟨rfl, hfound⟩
    · exact h.indexed conId resolved' (byConId_of_store hget hid)
  searching := h.searching
  outcomes := h.outcomes

/-- What an answer makes of the call that it is for. -/
theorem BasedOn.answered (h : BasedOn calls answers r) {t : ResolveTask (RefFields Extras)}
    (hheld : r.holder = some t) (reply : Except ResolveError (List ContractDetails)) :
    BasedOn calls (answers ++ [⟨t.ref, reply⟩]) ({ r with holder := none }.answered t reply) := by
  have hcalled : calls[t.task]? = some t.ref :=
    h.called t (by simp [ResolverState.underWay, hheld])
  have hleft : BasedOn calls answers { r with holder := none } :=
    h.fewer rfl rfl (fun u hu => by simp [ResolverState.underWay] at hu ⊢; tauto)
      (fun _ hu => hu) (fun _ _ hget => hget) fun _ _ hget => hget
  have hnew := hleft.newAnswer ⟨t.ref, reply⟩
  have hmem : (⟨t.ref, reply⟩ : Answer Extras) ∈ answers ++ [⟨t.ref, reply⟩] :=
    List.mem_append_right _ (List.mem_singleton_self _)
  have hraise : ∀ e, Refuses t.ref e reply →
      FollowsFrom (answers ++ [⟨t.ref, reply⟩]) t.ref (.error e) := by
    intro e hrefuses
    exact .inr ⟨reply, hmem, hrefuses⟩
  unfold ResolverState.answered
  split
  · exact hnew.finish hcalled (hraise _ rfl)
  · cases hconId : t.ref.conId with
    | some conId => exact hnew.finish hcalled (hraise _ (by simp [Refuses, hconId]))
    | none =>
        refine ⟨hnew.numbered, fun u hu => ?_, hnew.cached, hnew.indexed, fun u hu => ?_,
          hnew.outcomes⟩
        · rcases List.mem_append.1 hu with hu | hu
          · exact hnew.called u (List.mem_append_left _ hu)
          · rcases List.mem_append.1 hu with hu | hu
            · exact hnew.called u (List.mem_append_right _ hu)
            · rw [List.mem_singleton.1 hu]
              exact hcalled
        · rcases List.mem_append.1 hu with hu | hu
          · exact hnew.searching u hu
          · rw [List.mem_singleton.1 hu]
            exact ⟨hconId, hmem⟩
  · rename_i details
    have hfound : IsFound (answers ++ [⟨t.ref, .ok [details]⟩])
        (ResolverState.resolvedContract t.ref details) := ⟨details, rfl, hmem⟩
    exact (hnew.store hfound).finish hcalled ⟨hfound, .inl rfl⟩
  · rename_i found hnotEmpty hnotSingle
    refine hnew.finish hcalled (hraise _ ?_)
    unfold Refuses
    split
    · rename_i heq
      cases heq
    · rename_i heq
      exact absurd (Except.ok.inj heq) hnotEmpty
    · rename_i details heq
      exact absurd (Except.ok.inj heq) (hnotSingle details)
    · rename_i heq
      rw [Except.ok.inj heq]

end Steps

/-- Every step. -/
theorem basedOn_step {ib : IbAnswers} {s s' : QueriedResolver Extras} {l : QueryLabel Extras}
    (h : BasedOn s.calls s.answers s.resolver) (hstep : queryStep ib s l = some s') :
    BasedOn s'.calls s'.answers s'.resolver := by
  cases l with
  | resolve ref =>
      cases hstep
      exact h.start ref
  | acquire =>
      obtain ⟨r, hr, rfl⟩ := Option.map_eq_some_iff.1 hstep
      simp only [resolverStep] at hr
      split at hr
      · rename_i t rest hfree hwaiters
        cases hr
        have hleft : BasedOn s.calls s.answers { s.resolver with waiters := rest } :=
          h.fewer rfl rfl (fun u hu => by
            simp [ResolverState.underWay, hwaiters] at hu ⊢
            tauto) (fun _ hu => hu) (fun _ _ hget => hget) fun _ _ hget => hget
        exact hleft.enter hfree (h.called t (by simp [ResolverState.underWay, hwaiters]))
      · cases hr
  | answer =>
      obtain ⟨t, hheld, hanswer⟩ := Option.bind_eq_some_iff.1 hstep
      obtain ⟨r, hr, rfl⟩ := Option.map_eq_some_iff.1 hanswer
      obtain ⟨t', hheld', rfl⟩ := Option.map_eq_some_iff.1 hr
      obtain rfl : t' = t := Option.some.inj (hheld'.symm.trans hheld)
      exact h.answered hheld _
  | searched task found =>
      obtain ⟨r, hr, rfl⟩ := Option.map_eq_some_iff.1 hstep
      obtain ⟨t, hfind, rfl⟩ := Option.map_eq_some_iff.1 hr
      have hmem : t ∈ s.resolver.searching := List.mem_of_find?_eq_some hfind
      obtain rfl : t.task = task := by simpa using List.find?_some hfind
      obtain ⟨hconId, hanswer⟩ := h.searching t hmem
      have hleft : BasedOn s.calls s.answers
          { s.resolver with searching := s.resolver.searching.erase t } :=
        h.fewer rfl rfl (fun u hu => by
          simp only [ResolverState.underWay, List.mem_append] at hu ⊢
          exact hu.imp_right List.mem_of_mem_erase) (fun _ hu => List.mem_of_mem_erase hu)
          (fun _ _ hget => hget) fun _ _ hget => hget
      refine hleft.finish (h.called t (by simp [ResolverState.underWay, hmem])) ?_
      exact .inr ⟨_, hanswer, by simp [Refuses, hconId]⟩
  | cancel task =>
      obtain ⟨r, hr, rfl⟩ := Option.map_eq_some_iff.1 hstep
      simp only [resolverStep] at hr
      split_ifs at hr with hany
      cases hr
      obtain ⟨t, ht, htask⟩ := List.any_eq_true.1 hany
      obtain rfl : t.task = task := by simpa using htask
      refine BasedOn.finish ?_ (h.called t ht) (.inl rfl)
      refine h.fewer rfl rfl (fun u hu => ?_) List.filter_sublist.subset (fun _ _ hget => hget)
        fun _ _ hget => hget
      simp only [ResolverState.underWay, List.mem_append, Option.mem_toList, List.mem_filter,
        Option.filter_eq_some_iff] at hu ⊢
      tauto
  | invalidate ref =>
      cases hstep
      exact h.fewer rfl rfl (fun _ hu => hu) (fun _ hu => hu)
        (fun _ _ hget => (cache_of_invalidate hget).1)
        fun _ _ hget => (byConId_of_invalidate hget).1

/-! ## What is asked only once -/

/-- The answer is the contract of `details`. -/
def Answer.Finds (a : Answer Extras) (details : ContractDetails) : Prop :=
  a.reply = .ok [details]

/-- Number of contracts that were found. -/
def foundCount (answers : List (Answer Extras)) : Nat :=
  answers.countP fun a =>
    match a.reply with
    | .ok [_] => true
    | _ => false

/-- Nobody asks for a reference, or a conId, that was found. -/
def NotFoundBefore (answers : List (Answer Extras)) (ref : InstrumentRef (RefFields Extras)) :
    Prop :=
  ∀ a ∈ answers, ∀ details, a.Finds details →
    ref ≠ a.ref ∧ ref.conId ≠ some details.contract.conId

/-- What was found is not asked for again. -/
def AskedOnce (answers : List (Answer Extras)) : Prop :=
  answers.Pairwise fun a b => ∀ details, a.Finds details →
    b.ref ≠ a.ref ∧ b.ref.conId ≠ some details.contract.conId

/-- While nothing is evicted or invalidated, what was found is cached, and only what is not cached
is asked for. -/
structure AsksOnce (answers : List (Answer Extras)) (r : ResolverState (RefFields Extras)) :
    Prop where
  held : ∀ t, r.holder = some t → r.contracts.lookup t.ref = none
  kept : ∀ a ∈ answers, ∀ details, a.Finds details →
    r.contracts.cache.get? a.ref ≠ none ∧
      r.contracts.byConId.get? details.contract.conId ≠ none
  size : r.contracts.cache.size ≤ foundCount answers
  once : AskedOnce answers

section Once

variable {answers : List (Answer Extras)} {r : ResolverState (RefFields Extras)}

/-- Who holds the lock asks for something new. -/
theorem AsksOnce.asks (h : AsksOnce answers r) {t : ResolveTask (RefFields Extras)}
    (hheld : r.holder = some t) : NotFoundBefore answers t.ref := by
  intro a ha details hfinds
  obtain ⟨hcache, hindex⟩ := h.kept a ha details hfinds
  have hmiss := h.held t hheld
  have hnone := get?_of_lookup_eq_none hmiss
  constructor
  · intro href
    rw [← href] at hcache
    exact hcache hnone
  · intro hconId
    simp only [ContractCache.lookup, hnone, hconId, Option.bind_some] at hmiss
    exact hindex hmiss

/-- A step that changes neither cache nor index. -/
theorem AsksOnce.keep (h : AsksOnce answers r) {r' : ResolverState (RefFields Extras)}
    (hcontracts : r'.contracts = r.contracts)
    (hheld : ∀ t, r'.holder = some t →
      r.holder = some t ∨ r.contracts.lookup t.ref = none) : AsksOnce answers r' where
  held t ht := by
    rw [hcontracts]
    exact (hheld t ht).elim (h.held t) id
  kept := by
    rw [hcontracts]
    exact h.kept
  size := by
    rw [hcontracts]
    exact h.size
  once := h.once

/-- A task that enters asks after a miss. -/
theorem enter_held (r : ResolverState (RefFields Extras)) (t : ResolveTask (RefFields Extras)) :
    (r.enter t).contracts = r.contracts ∧ ∀ u, (r.enter t).holder = some u →
      r.holder = some u ∨ r.contracts.lookup u.ref = none := by
  unfold ResolverState.enter
  cases hlookup : r.contracts.lookup t.ref with
  | some cached => exact ⟨rfl, fun u hu => .inl hu⟩
  | none =>
      refine ⟨rfl, fun u hu => .inr ?_⟩
      cases hu
      exact hlookup

theorem start_held (r : ResolverState (RefFields Extras)) (ref : InstrumentRef (RefFields Extras)) :
    (r.start ref).contracts = r.contracts ∧ ∀ u, (r.start ref).holder = some u →
      r.holder = some u ∨ r.contracts.lookup u.ref = none := by
  cases hlookup : r.contracts.lookup ref with
  | some cached =>
      rw [start_of_hit hlookup]
      exact ⟨rfl, fun u hu => .inl hu⟩
  | none =>
      by_cases hfree : r.holder = none ∧ r.waiters = []
      · rw [start_of_free hlookup hfree]
        exact enter_held { r with nextTask := r.nextTask + 1 } ⟨r.nextTask, ref⟩
      · rw [start_of_busy hlookup hfree]
        exact ⟨rfl, fun u hu => .inl hu⟩

omit [DecidableEq Extras] in
theorem AskedOnce.concat (honce : AskedOnce answers) {a : Answer Extras}
    (hnew : NotFoundBefore answers a.ref) : AskedOnce (answers ++ [a]) := by
  refine List.pairwise_append.2 ⟨honce, List.pairwise_singleton .., fun b hb c hc => ?_⟩
  rw [List.mem_singleton.1 hc]
  exact hnew b hb

/-- An answer that finds no contract changes neither cache nor index. -/
theorem AsksOnce.refused (h : AsksOnce answers r) {t : ResolveTask (RefFields Extras)}
    (hheld : r.holder = some t) {reply : Except ResolveError (List ContractDetails)}
    (hreply : ∀ details, reply ≠ .ok [details]) {r' : ResolverState (RefFields Extras)}
    (hcontracts : r'.contracts = r.contracts) (hfree : r'.holder = none) :
    AsksOnce (answers ++ [⟨t.ref, reply⟩]) r' where
  held u hu := by
    rw [hfree] at hu
    cases hu
  kept a ha details hfinds := by
    rw [hcontracts]
    rcases List.mem_append.1 ha with ha | ha
    · exact h.kept a ha details hfinds
    · rw [List.mem_singleton.1 ha] at hfinds
      exact absurd hfinds (hreply details)
  size := by
    rw [hcontracts]
    exact h.size.trans (by simp [foundCount])
  once := h.once.concat (h.asks hheld)

/-- A contract that is found is cached, and nothing is evicted for it. -/
theorem AsksOnce.found (h : AsksOnce answers r) {t : ResolveTask (RefFields Extras)}
    (hheld : r.holder = some t) {details : ContractDetails}
    (hfew : foundCount (answers ++ [⟨t.ref, .ok [details]⟩]) ≤ maxCache)
    {r' : ResolverState (RefFields Extras)} (hfree : r'.holder = none)
    (hcontracts : r'.contracts =
      r.contracts.store (ResolverState.resolvedContract t.ref details)) :
    AsksOnce (answers ++ [⟨t.ref, .ok [details]⟩]) r' := by
  have hcount : foundCount (answers ++ [⟨t.ref, .ok [details]⟩]) = foundCount answers + 1 := by
    simp [foundCount]
  have hroom : ¬ maxCache ≤ r.contracts.cache.size := by
    have hsize := h.size
    omega
  have habsent : t.ref ∉ r.contracts.cache.keys := by
    simp [Dict.mem_keys_iff, Dict.contains, get?_of_lookup_eq_none (h.held t hheld)]
  have hstored : r'.contracts = ⟨r.contracts.cache.set t.ref
      (ResolverState.resolvedContract t.ref details), r.contracts.byConId.set
      details.contract.conId (ResolverState.resolvedContract t.ref details)⟩ := by
    rw [hcontracts, ContractCache.store, if_neg hroom]
    rfl
  refine ⟨fun u hu => ?_, fun a ha details' hfinds => ?_, ?_,
    h.once.concat (h.asks hheld)⟩
  · rw [hfree] at hu
    cases hu
  · rw [hstored, Dict.get?_set, Dict.get?_set]
    rcases List.mem_append.1 ha with ha | ha
    · obtain ⟨hcache, hindex⟩ := h.kept a ha details' hfinds
      split_ifs <;> simp [hcache, hindex]
    · rw [List.mem_singleton.1 ha] at hfinds ⊢
      obtain rfl : details = details' := by simpa [Answer.Finds] using hfinds
      simp
  · rw [hcount, hstored, Dict.size_set_new habsent]
    exact Nat.succ_le_succ h.size

theorem AsksOnce.answered (h : AsksOnce answers r) {t : ResolveTask (RefFields Extras)}
    (hheld : r.holder = some t) (reply : Except ResolveError (List ContractDetails))
    (hfew : foundCount (answers ++ [⟨t.ref, reply⟩]) ≤ maxCache) :
    AsksOnce (answers ++ [⟨t.ref, reply⟩]) ({ r with holder := none }.answered t reply) := by
  unfold ResolverState.answered
  split
  · exact h.refused hheld (by simp) rfl rfl
  · cases t.ref.conId with
    | some conId => exact h.refused hheld (by simp) rfl rfl
    | none => exact h.refused hheld (by simp) rfl rfl
  · exact h.found hheld hfew rfl rfl
  · rename_i found hnotEmpty hnotSingle
    exact h.refused hheld (fun details heq => hnotSingle details (Except.ok.inj heq)) rfl rfl

end Once

/-- Every step, while few contracts have been found and none was invalidated. -/
theorem asksOnce_step {ib : IbAnswers} {s s' : QueriedResolver Extras} {l : QueryLabel Extras}
    (h : s.invalidated = false → foundCount s.answers ≤ maxCache → AsksOnce s.answers s.resolver)
    (hstep : queryStep ib s l = some s') :
    s'.invalidated = false → foundCount s'.answers ≤ maxCache →
      AsksOnce s'.answers s'.resolver := by
  intro hvalid hfew
  cases l with
  | resolve ref =>
      cases hstep
      obtain ⟨hcontracts, hheld⟩ := start_held s.resolver ref
      exact (h hvalid hfew).keep hcontracts hheld
  | acquire =>
      obtain ⟨r, hr, rfl⟩ := Option.map_eq_some_iff.1 hstep
      simp only [resolverStep] at hr
      split at hr
      · rename_i t rest hfree hwaiters
        cases hr
        obtain ⟨hcontracts, hheld⟩ := enter_held { s.resolver with waiters := rest } t
        exact (h hvalid hfew).keep hcontracts hheld
      · cases hr
  | answer =>
      obtain ⟨t, hheld, hanswer⟩ := Option.bind_eq_some_iff.1 hstep
      obtain ⟨r, hr, rfl⟩ := Option.map_eq_some_iff.1 hanswer
      obtain ⟨t', hheld', rfl⟩ := Option.map_eq_some_iff.1 hr
      obtain rfl : t' = t := Option.some.inj (hheld'.symm.trans hheld)
      have hbefore : foundCount s.answers ≤ maxCache :=
        le_trans (by simp [foundCount]) hfew
      exact (h hvalid hbefore).answered hheld _ hfew
  | searched task found =>
      obtain ⟨r, hr, rfl⟩ := Option.map_eq_some_iff.1 hstep
      obtain ⟨t, -, rfl⟩ := Option.map_eq_some_iff.1 hr
      exact (h hvalid hfew).keep rfl fun u hu => .inl hu
  | cancel task =>
      obtain ⟨r, hr, rfl⟩ := Option.map_eq_some_iff.1 hstep
      simp only [resolverStep] at hr
      split_ifs at hr
      cases hr
      exact (h hvalid hfew).keep rfl fun u hu => .inl (Option.filter_eq_some_iff.1 hu).1
  | invalidate ref =>
      cases hstep
      cases hvalid

theorem answered_step {ib : IbAnswers} {s s' : QueriedResolver Extras} {l : QueryLabel Extras}
    (h : ∀ n a, s.answers[n]? = some a → a.reply = ask ib n a.ref)
    (hstep : queryStep ib s l = some s') :
    ∀ n a, s'.answers[n]? = some a → a.reply = ask ib n a.ref := by
  cases l with
  | answer =>
      obtain ⟨t, hheld, hanswer⟩ := Option.bind_eq_some_iff.1 hstep
      obtain ⟨r, hr, rfl⟩ := Option.map_eq_some_iff.1 hanswer
      intro n a ha
      by_cases hlt : n < s.answers.length
      · rw [List.getElem?_append_left hlt] at ha
        exact h n a ha
      · have hn : n = s.answers.length := by
          have hbound := (List.getElem?_eq_some_iff.1 ha).1
          rw [List.length_append, List.length_singleton] at hbound
          omega
        subst hn
        rw [List.getElem?_concat_length, Option.some.injEq] at ha
        subst ha
        rfl
  | resolve ref =>
      cases hstep
      exact h
  | invalidate ref =>
      cases hstep
      exact h
  | _ =>
      obtain ⟨r, hr, rfl⟩ := Option.map_eq_some_iff.1 hstep
      exact h

/-! ## All calls -/

/-- IB answers a query for a conId with contracts of that conId. -/
def IbKeepsConIds (ib : IbAnswers) : Prop :=
  ∀ n template found, ib n template = .ok found → template.conId ≠ 0 →
    ∀ details ∈ found, details.contract.conId = template.conId

/-- What calls return and raise, and what they ask. -/
structure ContractAnswers (ib : IbAnswers) (s : QueriedResolver Extras) : Prop where
  answered : ∀ n a, s.answers[n]? = some a → a.reply = ask ib n a.ref
  results : ∀ task outcome, (task, outcome) ∈ s.resolver.outcomes →
    ∃ ref, s.calls[task]? = some ref ∧ FollowsFrom s.answers ref outcome
  conIds : IbKeepsConIds ib → ∀ task resolved, (task, .ok resolved) ∈ s.resolver.outcomes →
    ∀ ref conId, s.calls[task]? = some ref → ref.conId = some conId → conId ≠ 0 →
      resolved.native.conId = conId
  once : s.invalidated = false → foundCount s.answers ≤ maxCache →
    AskedOnce s.answers ∧ ∀ t, s.resolver.holder = some t → NotFoundBefore s.answers t.ref

omit [DecidableEq Extras] in
/-- A contract for a reference with a conId has that conId. -/
theorem conId_of_followsFrom {ib : IbAnswers} {answers : List (Answer Extras)}
    (hanswered : ∀ n a, answers[n]? = some a → a.reply = ask ib n a.ref)
    (hib : IbKeepsConIds ib) {ref : InstrumentRef (RefFields Extras)}
    {resolved : ResolvedContract (RefFields Extras)}
    (hfollows : FollowsFrom answers ref (.ok resolved)) {conId : Int}
    (hconId : ref.conId = some conId) (hne : conId ≠ 0) : resolved.native.conId = conId := by
  obtain ⟨⟨details, hresolved, hmem⟩, hsame⟩ := hfollows
  have hnative : resolved.native = details.contract ∧
      resolved.contractId = details.contract.conId := by
    rw [hresolved]
    exact ⟨rfl, rfl⟩
  rcases hsame with rfl | hindexed
  · obtain ⟨n, hn⟩ := List.mem_iff_getElem?.1 hmem
    have hreply := hanswered n _ hn
    simp only [ask, resolveViaIb, hconId, Except.bind] at hreply
    rw [hnative.1]
    exact hib n _ _ hreply.symm hne details (List.mem_singleton_self _)
  · rw [hconId, Option.some.injEq] at hindexed
    rw [hnative.1, ← hnative.2, hindexed]

/-- What is true of the resolver and its answers at any time. -/
structure QueryInv (ib : IbAnswers) (s : QueriedResolver Extras) : Prop where
  based : BasedOn s.calls s.answers s.resolver
  answered : ∀ n a, s.answers[n]? = some a → a.reply = ask ib n a.ref
  asks : s.invalidated = false → foundCount s.answers ≤ maxCache →
    AsksOnce s.answers s.resolver

theorem queryInv_init (ib : IbAnswers) :
    QueryInv ib (queryMachine ib : Machine (QueriedResolver Extras) (QueryLabel Extras)).init where
  based := ⟨rfl, by rintro _ ⟨⟩, by rintro _ _ ⟨⟩, by rintro _ _ ⟨⟩, by rintro _ ⟨⟩,
    by rintro _ _ ⟨⟩⟩
  answered := by rintro _ _ ⟨⟩
  asks _ _ := ⟨by rintro _ ⟨⟩, by rintro _ ⟨⟩, Nat.le_refl _, List.Pairwise.nil⟩

/-- A call returns the only contract that IB answered its reference with, or one that has the
conId it was called with; and what was found is not asked for again. -/
theorem contracts_answered (ib : IbAnswers) {s : QueriedResolver Extras}
    (h : (queryMachine ib).Reachable s) : ContractAnswers ib s := by
  have hinv : QueryInv ib s := by
    refine Machine.invariant_reachable _ (queryInv_init ib) (fun s l s' hs hstep => ?_) h
    exact ⟨basedOn_step hs.based hstep, answered_step hs.answered hstep,
      asksOnce_step hs.asks hstep⟩
  refine ⟨hinv.answered, hinv.based.outcomes, fun hib task resolved hmem ref conId hcalled => ?_,
    fun hvalid hfew => ?_⟩
  · obtain ⟨ref', hcalled', hfollows⟩ := hinv.based.outcomes task _ hmem
    obtain rfl : ref' = ref := Option.some.inj (hcalled'.symm.trans hcalled)
    exact conId_of_followsFrom hinv.answered hib hfollows
  · have hasks := hinv.asks hvalid hfew
    exact ⟨hasks.once, fun t hheld => hasks.asks hheld⟩

end Queries

/-! ## A run -/

def spyContract : IbContract where
  symbol := "SPY"
  secType := "STK"
  exchange := "SMART"
  primaryExchange := "ARCA"
  currency := "USD"
  conId := 756733

/-- IB knows one contract, by its conId and by its symbol. -/
def oneContract : IbAnswers := fun _ template =>
  .ok (if template.conId = 756733 ∨ (template.conId = 0 ∧ template.symbol = "SPY") then
    [⟨spyContract, none⟩] else [])

def stockRef (symbol : String) (conId : Option Int) : InstrumentRef (RefFields Unit) where
  symbol := symbol
  conId := conId
  other :=
    { instrumentType := .stock
      quoteCurrency := none
      exchangeHint := none
      expiry := none
      strike := none
      optionRight := none
      primaryExchange := none
      localSymbol := none
      contractMonth := none
      extras := () }

/-- Two calls for the symbol wait for one query; a call with the conId, under another symbol, asks
nothing. -/
theorem contracts_answered_spy :
    ∃ s : QueriedResolver Unit, (queryMachine oneContract).Reachable s ∧
      s.resolver.outcomes.length = 3 ∧ s.answers.length = 1 ∧ ContractAnswers oneContract s := by
  have hrun : ∃ s : QueriedResolver Unit, (queryMachine oneContract).run
      (queryMachine oneContract).init
      [.resolve (stockRef "SPY" none), .resolve (stockRef "SPY" none), .answer, .acquire,
        .resolve (stockRef "SPX" (some 756733))] = some s ∧
      s.resolver.outcomes.length = 3 ∧ s.answers.length = 1 := ⟨_, rfl, rfl, rfl⟩
  obtain ⟨s, hrun, houtcomes, hanswers⟩ := hrun
  exact ⟨s, ⟨_, hrun⟩, houtcomes, hanswers, contracts_answered oneContract ⟨_, hrun⟩⟩

end ContractResolver
end Ib
end MarketConnector
