import MarketConnector.Ib.ContractResolver

/-!
# Ib - Invalidating cached contracts

What an invalidation of the contract cache means for the calls of `resolve` that start after
it.  The resolver is run beside a record of its IB queries, numbered in the order they start:
which query wrote each entry of the cache and of the index, what had been asked when an
invalidation ran, and which query found a contract that a call returned.

Main results:

- Theorem `returned_tasks`: the record names exactly the calls that returned a contract.
- Theorem `invalidationEffective_iff`: invalidations keep old contracts from later calls
  exactly when no query in flight stores its answer over an invalidation, and no
  `invalidate(ref)` leaves the conId of `ref` in the index.
-/

namespace MarketConnector
namespace Ib
namespace ContractResolver

open Foundations

variable {Other : Type} [DecidableEq Other]

/-! ## The record -/

/-- A contract that a call returned, and the query that found it. -/
structure Returned (Other : Type) where
  task : Nat
  ref : InstrumentRef Other
  query : Nat

/-- An invalidation, with the number of calls and of queries started before it. -/
structure Invalidation (Other : Type) where
  ref : Option (InstrumentRef Other)
  tasks : Nat
  queries : Nat

/-- `invalidate()` covers every reference, `invalidate(ref)` the one it names. -/
def Invalidation.Covers (inv : Invalidation Other) (ref : InstrumentRef Other) : Prop :=
  inv.ref = none ∨ inv.ref = some ref

/-- The resolver and its record.  Queries are numbered from one: with `queries` of them
started, that is the number of the query in flight. -/
structure RecordedResolver (Other : Type) where
  resolver : ResolverState Other
  queries : Nat
  cachedBy : Dict (InstrumentRef Other) Nat
  indexedBy : Dict Int Nat
  invalidations : List (Invalidation Other)
  returned : List (Returned Other)

namespace RecordedResolver

variable (s : RecordedResolver Other)

/-- The query that found the contract a lookup hits. -/
def origin (ref : InstrumentRef Other) : Option Nat :=
  match s.resolver.contracts.cache.get? ref with
  | some _ => s.cachedBy.get? ref
  | none => ref.conId.bind fun conId =>
      (s.resolver.contracts.byConId.get? conId).bind fun _ => s.indexedBy.get? conId

/-- What a call returns that looks the reference up. -/
def hit (task : Nat) (ref : InstrumentRef Other) : Option (Returned Other) :=
  (s.origin ref).map fun query => ⟨task, ref, query⟩

/-- The contract a step returns. -/
def returnedBy : ResolverLabel Other → Option (Returned Other)
  | .resolve ref => s.hit s.resolver.nextTask ref
  | .acquire =>
      match s.resolver.waiters with
      | [] => none
      | t :: _ => s.hit t.task t.ref
  | .answer (.ok [_]) => s.resolver.holder.map fun t => ⟨t.task, t.ref, s.queries⟩
  | _ => none

/-- The reference and the conId under which a step stores the contract it found. -/
def storedBy : ResolverLabel Other → Option (InstrumentRef Other × Int)
  | .answer (.ok [details]) => s.resolver.holder.map fun t => (t.ref, details.contract.conId)
  | _ => none

/-- The invalidation a step is. -/
def invalidatedBy : ResolverLabel Other → Option (Invalidation Other)
  | .invalidate ref => some ⟨ref, s.resolver.nextTask, s.queries⟩
  | _ => none

/-- Put a step on record that leads to `resolver`.  A query starts when the lock gets a
holder. -/
def record (l : ResolverLabel Other) (resolver : ResolverState Other) :
    RecordedResolver Other where
  resolver := resolver
  queries :=
    if s.resolver.holder.isNone && resolver.holder.isSome then s.queries + 1 else s.queries
  cachedBy :=
    match s.storedBy l with
    | some (ref, _) => s.cachedBy.set ref s.queries
    | none => s.cachedBy
  indexedBy :=
    match s.storedBy l with
    | some (_, conId) => s.indexedBy.set conId s.queries
    | none => s.indexedBy
  invalidations := s.invalidations ++ (s.invalidatedBy l).toList
  returned := s.returned ++ (s.returnedBy l).toList

end RecordedResolver

/-- A step of the resolver, on record. -/
def recordedStep (s : RecordedResolver Other) (l : ResolverLabel Other) :
    Option (RecordedResolver Other) :=
  (resolverStep s.resolver l).map (s.record l)

def recordedMachine : Machine (RecordedResolver Other) (ResolverLabel Other) where
  init := ⟨resolverMachine.init, 0, ∅, ∅, [], []⟩
  step := recordedStep

/-! ## The property -/

/-- No call that started after an invalidation of its reference returned a contract of an
earlier query, and a call that starts now gets none from the cache. -/
structure InvalidationEffective (s : RecordedResolver Other) : Prop where
  returned : ∀ ret ∈ s.returned, ∀ inv ∈ s.invalidations, inv.Covers ret.ref →
    inv.tasks ≤ ret.task → inv.queries < ret.query
  hits : ∀ ref query, s.origin ref = some query → ∀ inv ∈ s.invalidations, inv.Covers ref →
    inv.queries < query

/-- An answer is not stored when, since its query started, everything was invalidated, or the
reference it is for, or one with the conId it has. -/
def StoresCurrent (s : RecordedResolver Other) (ref : InstrumentRef Other) (conId : Int) : Prop :=
  ∀ inv ∈ s.invalidations, s.queries ≤ inv.queries →
    inv.ref ≠ none ∧ inv.ref ≠ some ref ∧ ∀ ref', inv.ref = some ref' → ref'.conId ≠ some conId

/-- An `invalidate(ref)` that leaves nothing under the conId of `ref`: the index has no entry
there, or the one of the contract that is cached for `ref`. -/
def DropsConId (s : RecordedResolver Other) (ref : InstrumentRef Other) : Prop :=
  ∀ conId, ref.conId = some conId → s.resolver.contracts.byConId.get? conId ≠ none →
    ∃ removed, s.resolver.contracts.cache.get? ref = some removed ∧ removed.contractId = conId

/-- The condition on a step. -/
def KeepsInvalidations (s : RecordedResolver Other) (l : ResolverLabel Other) : Prop :=
  (∀ ref conId, s.storedBy l = some (ref, conId) → StoresCurrent s ref conId) ∧
    ∀ ref, l = .invalidate (some ref) → DropsConId s ref

/-! ## What the cache holds -/

omit [DecidableEq Other] in
theorem get?_of_evict [DecidableEq Other] {c : ContractCache Other} :
    (∀ ref cached, c.evict.cache.get? ref = some cached → c.cache.get? ref = some cached) ∧
      ∀ conId cached, c.evict.byConId.get? conId = some cached →
        c.byConId.get? conId = some cached := by
  unfold ContractCache.evict
  cases c.cache.entries with
  | nil => exact ⟨fun _ _ h => h, fun _ _ h => h⟩
  | cons oldest rest =>
      exact ⟨fun _ _ h => Dict.get?_of_popFirst h, fun _ _ h => Dict.get?_of_dropClass h⟩

/-- After a contract is stored the cache has it, and otherwise only what it had. -/
theorem cache_of_store {c : ContractCache Other} {resolved cached : ResolvedContract Other}
    {ref : InstrumentRef Other} (h : (c.store resolved).cache.get? ref = some cached)
    (hne : ref ≠ resolved.ref) : c.cache.get? ref = some cached := by
  simp only [ContractCache.store, Dict.get?_set_of_ne _ hne] at h
  split_ifs at h
  · exact get?_of_evict.1 ref cached h
  · exact h

/-- The same for the index. -/
theorem byConId_of_store {c : ContractCache Other} {resolved cached : ResolvedContract Other}
    {conId : Int} (h : (c.store resolved).byConId.get? conId = some cached)
    (hne : conId ≠ resolved.contractId) : c.byConId.get? conId = some cached := by
  simp only [ContractCache.store, Dict.get?_set_of_ne _ hne] at h
  split_ifs at h
  · exact get?_of_evict.2 conId cached h
  · exact h

/-- An invalidation keeps nothing it covers, and adds nothing. -/
theorem cache_of_invalidate {c : ContractCache Other} {named : Option (InstrumentRef Other)}
    {ref : InstrumentRef Other} {cached : ResolvedContract Other}
    (h : (c.invalidate named).cache.get? ref = some cached) :
    c.cache.get? ref = some cached ∧ named ≠ none ∧ named ≠ some ref := by
  cases named with
  | none => simp [ContractCache.invalidate] at h
  | some ref' =>
      simp only [ContractCache.invalidate] at h
      cases hget : c.cache.get? ref' with
      | none =>
          simp only [hget] at h
          refine ⟨h, by simp, ?_⟩
          rintro ⟨⟩
          rw [hget] at h
          cases h
      | some removed =>
          simp only [hget, Dict.get?_pop] at h
          split_ifs at h with hne
          exact ⟨h, by simp, fun heq => hne (Option.some.inj heq).symm⟩

theorem byConId_of_invalidate {c : ContractCache Other} {named : Option (InstrumentRef Other)}
    {conId : Int} {cached : ResolvedContract Other}
    (h : (c.invalidate named).byConId.get? conId = some cached) :
    c.byConId.get? conId = some cached ∧ named ≠ none ∧
      ∀ ref removed, named = some ref → c.cache.get? ref = some removed →
        removed.contractId ≠ conId := by
  cases named with
  | none => simp [ContractCache.invalidate] at h
  | some ref =>
      simp only [ContractCache.invalidate] at h
      cases hget : c.cache.get? ref with
      | none =>
          simp only [hget] at h
          refine ⟨h, by simp, ?_⟩
          rintro ref' removed ⟨⟩ hremoved
          rw [hget] at hremoved
          cases hremoved
      | some removed =>
          simp only [hget, Dict.get?_pop] at h
          split_ifs at h with hne
          refine ⟨h, by simp, ?_⟩
          rintro ref' removed' ⟨⟩ hremoved heq
          rw [hget] at hremoved
          cases hremoved
          exact hne heq.symm

/-! ## Moves -/

/-- Every entry of cache and index has a query on record. -/
structure Stamped (s : RecordedResolver Other) : Prop where
  cached : ∀ ref cached, s.resolver.contracts.cache.get? ref = some cached →
    ∃ query, s.cachedBy.get? ref = some query ∧ query ≤ s.queries
  indexed : ∀ conId cached, s.resolver.contracts.byConId.get? conId = some cached →
    ∃ query, s.indexedBy.get? conId = some query ∧ query ≤ s.queries

/-- A lookup that hits has an origin, one that misses has none. -/
theorem Stamped.isSome_origin {s : RecordedResolver Other} (h : Stamped s)
    (ref : InstrumentRef Other) :
    (s.origin ref).isSome = (s.resolver.contracts.lookup ref).isSome := by
  unfold RecordedResolver.origin ContractCache.lookup
  cases hcache : s.resolver.contracts.cache.get? ref with
  | some cached =>
      obtain ⟨query, hquery, -⟩ := h.cached ref cached hcache
      simp [hquery]
  | none =>
      cases href : ref.conId with
      | none => simp
      | some conId =>
          cases hindex : s.resolver.contracts.byConId.get? conId with
          | none => simp [hindex]
          | some cached =>
              obtain ⟨query, hquery, -⟩ := h.indexed conId cached hindex
              simp [hindex, hquery]

/-- A step that leaves the cache alone: who holds the lock after it held it before or has
just asked IB, and what a call returns is what a lookup hit. -/
structure LooksUp (s s' : RecordedResolver Other) : Prop where
  contracts : s'.resolver.contracts = s.resolver.contracts
  cachedBy : s'.cachedBy = s.cachedBy
  indexedBy : s'.indexedBy = s.indexedBy
  invalidations : s'.invalidations = s.invalidations
  tasks : s.resolver.nextTask ≤ s'.resolver.nextTask
  queries : s.queries ≤ s'.queries
  holder : ∀ t, s'.resolver.holder = some t → s.resolver.holder = some t ∨
    t.task < s'.resolver.nextTask ∧ s.queries < s'.queries
  returned : ∀ ret ∈ s'.returned, ret ∈ s.returned ∨
    ret.task < s'.resolver.nextTask ∧ s.origin ret.ref = some ret.query

/-- The contract that the query in flight found is stored, and its call returns it. -/
structure Stored (s s' : RecordedResolver Other) (t : ResolveTask Other)
    (details : ContractDetails) : Prop where
  held : s.resolver.holder = some t
  free : s'.resolver.holder = none
  contracts : s'.resolver.contracts =
    s.resolver.contracts.store (ResolverState.resolvedContract t.ref details)
  tasks : s'.resolver.nextTask = s.resolver.nextTask
  queries : s'.queries = s.queries
  cachedBy : s'.cachedBy = s.cachedBy.set t.ref s.queries
  indexedBy : s'.indexedBy = s.indexedBy.set details.contract.conId s.queries
  invalidations : s'.invalidations = s.invalidations
  returned : s'.returned = s.returned ++ [⟨t.task, t.ref, s.queries⟩]

/-- An invalidation, of one reference or of all. -/
structure Invalidated (s s' : RecordedResolver Other) (named : Option (InstrumentRef Other)) :
    Prop where
  contracts : s'.resolver.contracts = s.resolver.contracts.invalidate named
  holder : s'.resolver.holder = s.resolver.holder
  tasks : s'.resolver.nextTask = s.resolver.nextTask
  queries : s'.queries = s.queries
  cachedBy : s'.cachedBy = s.cachedBy
  indexedBy : s'.indexedBy = s.indexedBy
  invalidations : s'.invalidations =
    s.invalidations ++ [⟨named, s.resolver.nextTask, s.queries⟩]
  returned : s'.returned = s.returned

/-- What a step does to the cache and to the record. -/
inductive RecordMove (s s' : RecordedResolver Other) : ResolverLabel Other → Prop where
  | looksUp {l : ResolverLabel Other} (hlooks : LooksUp s s') : RecordMove s s' l
  | stores {t : ResolveTask Other} {details : ContractDetails} (hstored : Stored s s' t details) :
      RecordMove s s' (.answer (.ok [details]))
  | invalidates {ref : Option (InstrumentRef Other)} (hinvalidated : Invalidated s s' ref) :
      RecordMove s s' (.invalidate ref)

/-- A step that stores nothing and invalidates nothing, by who holds the lock after it and what
it returns. -/
theorem looksUp_record {s : RecordedResolver Other} {l : ResolverLabel Other}
    {r : ResolverState Other} (hcontracts : r.contracts = s.resolver.contracts)
    (htasks : s.resolver.nextTask ≤ r.nextTask) (hstored : s.storedBy l = none)
    (hinvalidated : s.invalidatedBy l = none)
    (hholder : ∀ t, r.holder = some t → s.resolver.holder = some t ∨
      t.task < r.nextTask ∧ s.queries < (s.record l r).queries)
    (hreturned : ∀ ret, s.returnedBy l = some ret →
      ret.task < r.nextTask ∧ s.origin ret.ref = some ret.query) :
    LooksUp s (s.record l r) where
  contracts := hcontracts
  cachedBy := by simp [RecordedResolver.record, hstored]
  indexedBy := by simp [RecordedResolver.record, hstored]
  invalidations := by simp [RecordedResolver.record, hinvalidated]
  tasks := htasks
  queries := by
    simp only [RecordedResolver.record]
    split_ifs <;> omega
  holder := hholder
  returned ret hret := by
    simp only [RecordedResolver.record, List.mem_append, Option.mem_toList] at hret
    exact hret.imp_right (hreturned ret)

/-- A step that returns no contract and asks nothing. -/
theorem waits_record {s : RecordedResolver Other} {l : ResolverLabel Other}
    {r : ResolverState Other} (hcontracts : r.contracts = s.resolver.contracts)
    (hholder : r.holder = s.resolver.holder ∨ r.holder = none)
    (htasks : s.resolver.nextTask ≤ r.nextTask) (hstored : s.storedBy l = none)
    (hinvalidated : s.invalidatedBy l = none) (hreturned : s.returnedBy l = none) :
    LooksUp s (s.record l r) := by
  apply looksUp_record hcontracts htasks hstored hinvalidated
  · intro t ht
    rcases hholder with hsame | hnone
    · exact Or.inl (hsame.symm.trans ht)
    · exact absurd (hnone.symm.trans ht) (by simp)
  · intro ret hret
    exact absurd (hreturned.symm.trans hret) (by simp)

/-- A step that returns what a lookup hit. -/
theorem returns_record {s : RecordedResolver Other} {l : ResolverLabel Other}
    {r : ResolverState Other} {ret : Returned Other}
    (hcontracts : r.contracts = s.resolver.contracts) (hholder : r.holder = s.resolver.holder)
    (htasks : s.resolver.nextTask ≤ r.nextTask) (hstored : s.storedBy l = none)
    (hinvalidated : s.invalidatedBy l = none) (hreturned : s.returnedBy l = some ret)
    (htask : ret.task < r.nextTask) (horigin : s.origin ret.ref = some ret.query) :
    LooksUp s (s.record l r) := by
  apply looksUp_record hcontracts htasks hstored hinvalidated
  · exact fun t ht => Or.inl (hholder.symm.trans ht)
  · intro ret' hret
    cases hreturned.symm.trans hret
    exact ⟨htask, horigin⟩

/-- A task that finds the lock free looks the cache up, and asks IB when it misses. -/
theorem enter_record {s : RecordedResolver Other} (h : Stamped s) {l : ResolverLabel Other}
    {r : ResolverState Other} {t : ResolveTask Other}
    (hcontracts : r.contracts = s.resolver.contracts) (hfree : r.holder = none)
    (hholder : s.resolver.holder = none) (htasks : s.resolver.nextTask ≤ r.nextTask)
    (ht : t.task < r.nextTask) (hstored : s.storedBy l = none)
    (hinvalidated : s.invalidatedBy l = none)
    (hreturned : s.returnedBy l = s.hit t.task t.ref) : LooksUp s (s.record l (r.enter t)) := by
  have horigin := h.isSome_origin t.ref
  cases hlookup : s.resolver.contracts.lookup t.ref with
  | some cached =>
      have hentered : r.enter t = r.finish t.task (.ok cached) := by
        simp [ResolverState.enter, hcontracts, hlookup]
      rw [hlookup, Option.isSome_some, Option.isSome_iff_exists] at horigin
      obtain ⟨query, hquery⟩ := horigin
      rw [RecordedResolver.hit, hquery] at hreturned
      rw [hentered]
      exact returns_record hcontracts (hfree.trans hholder.symm) htasks hstored hinvalidated
        hreturned ht hquery
  | none =>
      have hentered : r.enter t = { r with holder := some t } := by
        simp [ResolverState.enter, hcontracts, hlookup]
      have hmiss : s.origin t.ref = none := by simpa [hlookup] using horigin
      rw [hentered]
      refine looksUp_record ?_ htasks hstored hinvalidated ?_ ?_
      · exact hcontracts
      · intro u hu
        cases hu
        exact Or.inr ⟨ht, by simp [RecordedResolver.record, hholder]⟩
      · intro ret hret
        rw [hreturned, RecordedResolver.hit, hmiss] at hret
        cases hret

theorem start_of_hit {s : ResolverState Other} {ref : InstrumentRef Other}
    {cached : ResolvedContract Other} (h : s.contracts.lookup ref = some cached) :
    s.start ref = { s with nextTask := s.nextTask + 1 }.finish s.nextTask (.ok cached) := by
  simp [ResolverState.start, h]

theorem start_of_free {s : ResolverState Other} {ref : InstrumentRef Other}
    (h : s.contracts.lookup ref = none) (hfree : s.holder = none ∧ s.waiters = []) :
    s.start ref = { s with nextTask := s.nextTask + 1 }.enter ⟨s.nextTask, ref⟩ := by
  simp [ResolverState.start, h, hfree]

theorem start_of_busy {s : ResolverState Other} {ref : InstrumentRef Other}
    (h : s.contracts.lookup ref = none) (hbusy : ¬ (s.holder = none ∧ s.waiters = [])) :
    s.start ref = { s with
      nextTask := s.nextTask + 1
      waiters := s.waiters ++ [⟨s.nextTask, ref⟩] } := by
  simp only [ResolverState.start, h]
  rw [if_neg hbusy]

/-- A call that has just started. -/
theorem start_record {s : RecordedResolver Other} (h : Stamped s) (ref : InstrumentRef Other) :
    LooksUp s (s.record (.resolve ref) (s.resolver.start ref)) := by
  have horigin := h.isSome_origin ref
  cases hlookup : s.resolver.contracts.lookup ref with
  | some cached =>
      rw [hlookup, Option.isSome_some, Option.isSome_iff_exists] at horigin
      obtain ⟨query, hquery⟩ := horigin
      have hreturned : s.returnedBy (.resolve ref) =
          some ⟨s.resolver.nextTask, ref, query⟩ := by
        simp [RecordedResolver.returnedBy, RecordedResolver.hit, hquery]
      rw [start_of_hit hlookup]
      exact returns_record rfl rfl (Nat.le_succ _) rfl rfl hreturned (Nat.lt_succ_self _) hquery
  | none =>
      have hmiss : s.origin ref = none := by simpa [hlookup] using horigin
      by_cases hfree : s.resolver.holder = none ∧ s.resolver.waiters = []
      · rw [start_of_free hlookup hfree]
        refine enter_record h ?_ hfree.1 hfree.1 (Nat.le_succ _) (Nat.lt_succ_self _) rfl rfl rfl
        rfl
      · have hreturned : s.returnedBy (.resolve ref) = none := by
          simp [RecordedResolver.returnedBy, RecordedResolver.hit, hmiss]
        rw [start_of_busy hlookup hfree]
        exact waits_record rfl (Or.inl rfl) (Nat.le_succ _) rfl rfl hreturned

/-- A single match is stored. -/
theorem stored_record {s : RecordedResolver Other} {t : ResolveTask Other}
    (hheld : s.resolver.holder = some t) (details : ContractDetails) :
    Stored s (s.record (.answer (.ok [details]))
      ({ s.resolver with holder := none }.answered t (.ok [details]))) t details where
  held := hheld
  free := rfl
  contracts := rfl
  tasks := rfl
  queries := by simp [RecordedResolver.record, ResolverState.answered, ResolverState.finish]
  cachedBy := by simp [RecordedResolver.record, RecordedResolver.storedBy, hheld]
  indexedBy := by simp [RecordedResolver.record, RecordedResolver.storedBy, hheld]
  invalidations := by simp [RecordedResolver.record, RecordedResolver.invalidatedBy]
  returned := by simp [RecordedResolver.record, RecordedResolver.returnedBy, hheld]

theorem invalidated_record (s : RecordedResolver Other) (ref : Option (InstrumentRef Other)) :
    Invalidated s (s.record (.invalidate ref)
      { s.resolver with contracts := s.resolver.contracts.invalidate ref }) ref where
  contracts := rfl
  holder := rfl
  tasks := rfl
  queries := by cases hheld : s.resolver.holder <;> simp [RecordedResolver.record, hheld]
  cachedBy := rfl
  indexedBy := rfl
  invalidations := rfl
  returned := by simp [RecordedResolver.record, RecordedResolver.returnedBy]

/-- The answer of IB to the query in flight. -/
theorem answered_record {s : RecordedResolver Other} {t : ResolveTask Other}
    (hheld : s.resolver.holder = some t) (reply : Except ResolveError (List ContractDetails)) :
    RecordMove s (s.record (.answer reply)
      ({ s.resolver with holder := none }.answered t reply)) (.answer reply) := by
  have hquiet : ∀ r : ResolverState Other, r.contracts = s.resolver.contracts →
      r.holder = none → r.nextTask = s.resolver.nextTask →
      s.storedBy (.answer reply) = none → s.returnedBy (.answer reply) = none →
      RecordMove s (s.record (.answer reply) r) (.answer reply) :=
    fun r hcontracts hfree htasks hstored hreturned => .looksUp
      (waits_record hcontracts (Or.inr hfree) (Nat.le_of_eq htasks.symm) hstored rfl hreturned)
  rcases reply with e | (_ | ⟨details, _ | ⟨details', rest⟩⟩)
  · exact hquiet _ rfl rfl rfl rfl rfl
  · simp only [ResolverState.answered]
    split
    · exact hquiet _ rfl rfl rfl rfl rfl
    · exact hquiet _ rfl rfl rfl rfl rfl
  · exact .stores (stored_record hheld details)
  · exact hquiet _ rfl rfl rfl rfl rfl

/-- Every step is a move. -/
theorem recordedStep_move {s s' : RecordedResolver Other} {l : ResolverLabel Other}
    (h : Stamped s) (hwaiters : ∀ t ∈ s.resolver.waiters, t.task < s.resolver.nextTask)
    (hstep : recordedStep s l = some s') : RecordMove s s' l := by
  obtain ⟨r, hr, rfl⟩ := Option.map_eq_some_iff.1 hstep
  cases l with
  | resolve ref =>
      cases hr
      exact .looksUp (start_record h ref)
  | acquire =>
      simp only [resolverStep] at hr
      split at hr
      · rename_i t rest hnone hqueue
        cases hr
        have hreturned : s.returnedBy .acquire = s.hit t.task t.ref := by
          simp [RecordedResolver.returnedBy, hqueue]
        refine .looksUp (enter_record h ?_ hnone hnone (Nat.le_refl _) ?_ rfl rfl hreturned)
        · rfl
        · exact hwaiters t (by simp [hqueue])
      · cases hr
  | answer reply =>
      obtain ⟨t, hheld, rfl⟩ := Option.map_eq_some_iff.1 hr
      exact answered_record hheld reply
  | searched task found =>
      obtain ⟨t, -, rfl⟩ := Option.map_eq_some_iff.1 hr
      exact .looksUp (waits_record rfl (Or.inl rfl) (Nat.le_refl _) rfl rfl rfl)
  | cancel task =>
      simp only [resolverStep] at hr
      split_ifs at hr
      cases hr
      refine .looksUp (waits_record rfl ?_ (Nat.le_refl _) rfl rfl rfl)
      cases hheld : s.resolver.holder with
      | none => simp [ResolverState.cancelled, ResolverState.finish, hheld]
      | some t =>
          by_cases htask : t.task = task <;>
            simp [ResolverState.cancelled, ResolverState.finish, hheld, Option.filter, htask]
  | invalidate ref =>
      cases hr
      exact .invalidates (invalidated_record s ref)

/-! ## Invariants -/

/-- Calls, queries and invalidations on record are from the past. -/
structure RecordInv (s : RecordedResolver Other) : Prop where
  stamped : Stamped s
  waiters : ∀ t ∈ s.resolver.waiters, t.task < s.resolver.nextTask
  holder : ∀ t, s.resolver.holder = some t → t.task < s.resolver.nextTask
  invalidations : ∀ inv ∈ s.invalidations,
    inv.tasks ≤ s.resolver.nextTask ∧ inv.queries ≤ s.queries
  returned : ∀ ret ∈ s.returned, ret.task < s.resolver.nextTask

theorem recordInv_init :
    RecordInv (recordedMachine : Machine (RecordedResolver Other) (ResolverLabel Other)).init where
  stamped :=
    ⟨by simp [recordedMachine, resolverMachine], by simp [recordedMachine, resolverMachine]⟩
  waiters := by simp [recordedMachine, resolverMachine]
  holder := by simp [recordedMachine, resolverMachine]
  invalidations := by simp [recordedMachine]
  returned := by simp [recordedMachine]

/-- Tasks in the queue keep being older than the next one. -/
theorem waiters_lt {s s' : ResolverState Other} {l : ResolverLabel Other}
    (h : ∀ t ∈ s.waiters, t.task < s.nextTask) (hstep : resolverStep s l = some s') :
    ∀ t ∈ s'.waiters, t.task < s'.nextTask := by
  have henter : ∀ (r : ResolverState Other) (t : ResolveTask Other),
      (r.enter t).waiters = r.waiters ∧ (r.enter t).nextTask = r.nextTask := by
    intro r t
    unfold ResolverState.enter
    split <;> exact ⟨rfl, rfl⟩
  cases l with
  | resolve ref =>
      cases hstep
      simp only [ResolverState.start]
      split
      · exact fun t ht => Nat.lt_succ_of_lt (h t ht)
      · split_ifs
        · rw [(henter _ _).1, (henter _ _).2]
          exact fun t ht => Nat.lt_succ_of_lt (h t ht)
        · intro t ht
          rcases List.mem_append.1 ht with hold | hnew
          · exact Nat.lt_succ_of_lt (h t hold)
          · rw [List.mem_singleton.1 hnew]
            exact Nat.lt_succ_self _
  | acquire =>
      simp only [resolverStep] at hstep
      split at hstep
      · rename_i t rest hnone hqueue
        cases hstep
        rw [(henter _ _).1, (henter _ _).2]
        exact fun u hu => h u (by rw [hqueue]; exact List.mem_cons_of_mem _ hu)
      · cases hstep
  | answer reply =>
      obtain ⟨t, -, rfl⟩ := Option.map_eq_some_iff.1 hstep
      unfold ResolverState.answered
      split
      · exact h
      · split <;> exact h
      · exact h
      · exact h
  | searched task found =>
      obtain ⟨t, -, rfl⟩ := Option.map_eq_some_iff.1 hstep
      exact h
  | cancel task =>
      simp only [resolverStep] at hstep
      split_ifs at hstep
      cases hstep
      exact fun t ht => h t (List.mem_of_mem_filter ht)
  | invalidate ref =>
      cases hstep
      exact h

/-! ## One step -/

theorem RecordInv.looksUp {s s' : RecordedResolver Other} (h : RecordInv s) (hs : LooksUp s s')
    (hwaiters : ∀ t ∈ s'.resolver.waiters, t.task < s'.resolver.nextTask) : RecordInv s' where
  stamped := by
    refine ⟨fun ref cached hget => ?_, fun conId cached hget => ?_⟩
    · rw [hs.contracts] at hget
      obtain ⟨query, hquery, hle⟩ := h.stamped.cached ref cached hget
      exact ⟨query, by rw [hs.cachedBy]; exact hquery, Nat.le_trans hle hs.queries⟩
    · rw [hs.contracts] at hget
      obtain ⟨query, hquery, hle⟩ := h.stamped.indexed conId cached hget
      exact ⟨query, by rw [hs.indexedBy]; exact hquery, Nat.le_trans hle hs.queries⟩
  waiters := hwaiters
  holder t ht := by
    rcases hs.holder t ht with hheld | ⟨htask, -⟩
    · exact Nat.lt_of_lt_of_le (h.holder t hheld) hs.tasks
    · exact htask
  invalidations inv hinv := by
    rw [hs.invalidations] at hinv
    obtain ⟨htasks, hqueries⟩ := h.invalidations inv hinv
    exact ⟨Nat.le_trans htasks hs.tasks, Nat.le_trans hqueries hs.queries⟩
  returned ret hret := by
    rcases hs.returned ret hret with hold | ⟨htask, -⟩
    · exact Nat.lt_of_lt_of_le (h.returned ret hold) hs.tasks
    · exact htask

theorem RecordInv.stores {s s' : RecordedResolver Other} (h : RecordInv s)
    {t : ResolveTask Other} {details : ContractDetails} (hs : Stored s s' t details)
    (hwaiters : ∀ t ∈ s'.resolver.waiters, t.task < s'.resolver.nextTask) : RecordInv s' where
  stamped := by
    refine ⟨fun ref cached hget => ?_, fun conId cached hget => ?_⟩
    · rw [hs.cachedBy, Dict.get?_set, hs.queries]
      split_ifs with href
      · exact ⟨s.queries, rfl, Nat.le_refl _⟩
      · rw [hs.contracts] at hget
        exact h.stamped.cached ref cached (cache_of_store hget href)
    · rw [hs.indexedBy, Dict.get?_set, hs.queries]
      split_ifs with hconId
      · exact ⟨s.queries, rfl, Nat.le_refl _⟩
      · rw [hs.contracts] at hget
        exact h.stamped.indexed conId cached (byConId_of_store hget hconId)
  waiters := hwaiters
  holder u hu := absurd (hs.free.symm.trans hu) (by simp)
  invalidations inv hinv := by
    rw [hs.invalidations] at hinv
    rw [hs.tasks, hs.queries]
    exact h.invalidations inv hinv
  returned ret hret := by
    rw [hs.returned, List.mem_append, List.mem_singleton] at hret
    rw [hs.tasks]
    rcases hret with hold | rfl
    · exact h.returned ret hold
    · exact h.holder t hs.held

theorem RecordInv.invalidates {s s' : RecordedResolver Other} (h : RecordInv s)
    {named : Option (InstrumentRef Other)} (hs : Invalidated s s' named)
    (hwaiters : ∀ t ∈ s'.resolver.waiters, t.task < s'.resolver.nextTask) : RecordInv s' where
  stamped := by
    refine ⟨fun ref cached hget => ?_, fun conId cached hget => ?_⟩
    · rw [hs.contracts] at hget
      rw [hs.cachedBy, hs.queries]
      exact h.stamped.cached ref cached (cache_of_invalidate hget).1
    · rw [hs.contracts] at hget
      rw [hs.indexedBy, hs.queries]
      exact h.stamped.indexed conId cached (byConId_of_invalidate hget).1
  waiters := hwaiters
  holder t ht := by
    rw [hs.holder] at ht
    rw [hs.tasks]
    exact h.holder t ht
  invalidations inv hinv := by
    rw [hs.invalidations, List.mem_append, List.mem_singleton] at hinv
    rw [hs.tasks, hs.queries]
    rcases hinv with hold | rfl
    · exact h.invalidations inv hold
    · exact ⟨Nat.le_refl _, Nat.le_refl _⟩
  returned ret hret := by
    rw [hs.returned] at hret
    rw [hs.tasks]
    exact h.returned ret hret

/-- Every step keeps the record. -/
theorem RecordInv.step {s s' : RecordedResolver Other} {l : ResolverLabel Other}
    (h : RecordInv s) (hstep : recordedStep s l = some s') : RecordInv s' := by
  have hwaiters : ∀ t ∈ s'.resolver.waiters, t.task < s'.resolver.nextTask := by
    obtain ⟨r, hr, rfl⟩ := Option.map_eq_some_iff.1 hstep
    exact waiters_lt h.waiters hr
  cases recordedStep_move h.stamped h.waiters hstep with
  | looksUp hs => exact h.looksUp hs hwaiters
  | stores hs => exact h.stores hs hwaiters
  | invalidates hs => exact h.invalidates hs hwaiters

/-! ## Nothing old is kept -/

/-- No entry of cache or index is older than an invalidation that covers it, and the query in
flight is younger than the invalidations before its call. -/
structure FreshInv (s : RecordedResolver Other) : Prop extends RecordInv s where
  cacheFresh : ∀ ref cached query, s.resolver.contracts.cache.get? ref = some cached →
    s.cachedBy.get? ref = some query → ∀ inv ∈ s.invalidations, inv.Covers ref →
      inv.queries < query
  indexFresh : ∀ ref conId cached query, ref.conId = some conId →
    s.resolver.contracts.byConId.get? conId = some cached →
    s.indexedBy.get? conId = some query → ∀ inv ∈ s.invalidations, inv.Covers ref →
      inv.queries < query
  held : ∀ t, s.resolver.holder = some t → ∀ inv ∈ s.invalidations, inv.tasks ≤ t.task →
    inv.queries < s.queries
  returnedFresh : ∀ ret ∈ s.returned, ∀ inv ∈ s.invalidations, inv.Covers ret.ref →
    inv.tasks ≤ ret.task → inv.queries < ret.query

theorem freshInv_init :
    FreshInv (recordedMachine : Machine (RecordedResolver Other) (ResolverLabel Other)).init where
  toRecordInv := recordInv_init
  cacheFresh := by simp [recordedMachine, resolverMachine]
  indexFresh := by simp [recordedMachine, resolverMachine]
  held := by simp [recordedMachine]
  returnedFresh := by simp [recordedMachine]

/-- What a lookup hits is not older than the invalidations of its reference. -/
theorem FreshInv.hits {s : RecordedResolver Other} (h : FreshInv s) {ref : InstrumentRef Other}
    {query : Nat} (horigin : s.origin ref = some query) {inv : Invalidation Other}
    (hinv : inv ∈ s.invalidations) (hcovers : inv.Covers ref) : inv.queries < query := by
  unfold RecordedResolver.origin at horigin
  cases hcache : s.resolver.contracts.cache.get? ref with
  | some cached =>
      rw [hcache] at horigin
      exact h.cacheFresh ref cached query hcache horigin inv hinv hcovers
  | none =>
      rw [hcache] at horigin
      obtain ⟨conId, href, hindexed⟩ := Option.bind_eq_some_iff.1 horigin
      obtain ⟨cached, hindex, hquery⟩ := Option.bind_eq_some_iff.1 hindexed
      exact h.indexFresh ref conId cached query href hindex hquery inv hinv hcovers

theorem FreshInv.effective {s : RecordedResolver Other} (h : FreshInv s) :
    InvalidationEffective s :=
  ⟨h.returnedFresh, fun _ _ horigin _ hinv hcovers => h.hits horigin hinv hcovers⟩

theorem FreshInv.looksUp {s s' : RecordedResolver Other} (h : FreshInv s) (hs : LooksUp s s')
    (hrecord : RecordInv s') : FreshInv s' where
  toRecordInv := hrecord
  cacheFresh ref cached query hget hquery inv hinv := by
    rw [hs.contracts] at hget
    rw [hs.cachedBy] at hquery
    rw [hs.invalidations] at hinv
    exact h.cacheFresh ref cached query hget hquery inv hinv
  indexFresh ref conId cached query href hget hquery inv hinv := by
    rw [hs.contracts] at hget
    rw [hs.indexedBy] at hquery
    rw [hs.invalidations] at hinv
    exact h.indexFresh ref conId cached query href hget hquery inv hinv
  held t ht inv hinv htask := by
    rw [hs.invalidations] at hinv
    rcases hs.holder t ht with hheld | ⟨-, hlt⟩
    · exact Nat.lt_of_lt_of_le (h.held t hheld inv hinv htask) hs.queries
    · exact Nat.lt_of_le_of_lt (h.invalidations inv hinv).2 hlt
  returnedFresh ret hret inv hinv hcovers htask := by
    rw [hs.invalidations] at hinv
    rcases hs.returned ret hret with hold | ⟨-, horigin⟩
    · exact h.returnedFresh ret hold inv hinv hcovers htask
    · exact h.hits horigin hinv hcovers

/-- The answer of a query that no invalidation has overtaken. -/
theorem FreshInv.stores {s s' : RecordedResolver Other} (h : FreshInv s)
    {t : ResolveTask Other} {details : ContractDetails}
    (hcurrent : StoresCurrent s t.ref details.contract.conId) (hs : Stored s s' t details)
    (hrecord : RecordInv s') : FreshInv s' where
  toRecordInv := hrecord
  cacheFresh ref cached query hget hquery inv hinv hcovers := by
    rw [hs.invalidations] at hinv
    rw [hs.cachedBy, Dict.get?_set] at hquery
    split_ifs at hquery with href
    · cases hquery
      by_contra hlate
      obtain ⟨hall, hone, -⟩ := hcurrent inv hinv (Nat.le_of_not_lt hlate)
      rw [href] at hcovers
      exact hcovers.elim hall hone
    · rw [hs.contracts] at hget
      exact h.cacheFresh ref cached query (cache_of_store hget href) hquery inv hinv hcovers
  indexFresh ref conId cached query hconId hget hquery inv hinv hcovers := by
    rw [hs.invalidations] at hinv
    rw [hs.indexedBy, Dict.get?_set] at hquery
    split_ifs at hquery with hsame
    · cases hquery
      by_contra hlate
      obtain ⟨hall, -, hother⟩ := hcurrent inv hinv (Nat.le_of_not_lt hlate)
      rcases hcovers with hnone | hnamed
      · exact hall hnone
      · exact hother ref hnamed (hconId.trans (congrArg some hsame))
    · rw [hs.contracts] at hget
      exact h.indexFresh ref conId cached query hconId (byConId_of_store hget hsame) hquery inv
        hinv hcovers
  held u hu := absurd (hs.free.symm.trans hu) (by simp)
  returnedFresh ret hret inv hinv hcovers htask := by
    rw [hs.invalidations] at hinv
    rw [hs.returned, List.mem_append, List.mem_singleton] at hret
    rcases hret with hold | rfl
    · exact h.returnedFresh ret hold inv hinv hcovers htask
    · exact h.held t hs.held inv hinv htask

/-- An invalidation that leaves nothing of what it covers. -/
theorem FreshInv.invalidates {s s' : RecordedResolver Other} (h : FreshInv s)
    {named : Option (InstrumentRef Other)}
    (hdrops : ∀ ref, named = some ref → DropsConId s ref) (hs : Invalidated s s' named)
    (hrecord : RecordInv s') : FreshInv s' where
  toRecordInv := hrecord
  cacheFresh ref cached query hget hquery inv hinv hcovers := by
    rw [hs.contracts] at hget
    rw [hs.cachedBy] at hquery
    obtain ⟨hbefore, hall, hone⟩ := cache_of_invalidate hget
    rw [hs.invalidations, List.mem_append, List.mem_singleton] at hinv
    rcases hinv with hold | rfl
    · exact h.cacheFresh ref cached query hbefore hquery inv hold hcovers
    · exact (hcovers.elim hall hone).elim
  indexFresh ref conId cached query hconId hget hquery inv hinv hcovers := by
    rw [hs.contracts] at hget
    rw [hs.indexedBy] at hquery
    obtain ⟨hbefore, hall, hother⟩ := byConId_of_invalidate hget
    rw [hs.invalidations, List.mem_append, List.mem_singleton] at hinv
    rcases hinv with hold | rfl
    · exact h.indexFresh ref conId cached query hconId hbefore hquery inv hold hcovers
    · rcases hcovers with hnone | hnamed
      · exact absurd hnone hall
      · obtain ⟨removed, hremoved, hsame⟩ := hdrops ref hnamed conId hconId (by simp [hbefore])
        exact absurd hsame (hother ref removed hnamed hremoved)
  held t ht inv hinv htask := by
    rw [hs.holder] at ht
    rw [hs.invalidations, List.mem_append, List.mem_singleton] at hinv
    rw [hs.queries]
    rcases hinv with hold | rfl
    · exact h.held t ht inv hold htask
    · exact absurd (h.holder t ht) (Nat.not_lt.2 htask)
  returnedFresh ret hret inv hinv hcovers htask := by
    rw [hs.returned] at hret
    rw [hs.invalidations, List.mem_append, List.mem_singleton] at hinv
    rcases hinv with hold | rfl
    · exact h.returnedFresh ret hret inv hold hcovers htask
    · exact absurd (h.returned ret hret) (Nat.not_lt.2 htask)

/-- A step under the condition keeps old contracts away from later calls. -/
theorem FreshInv.step {s s' : RecordedResolver Other} {l : ResolverLabel Other}
    (h : FreshInv s) (hguard : KeepsInvalidations s l) (hstep : recordedStep s l = some s') :
    FreshInv s' := by
  have hrecord := h.toRecordInv.step hstep
  cases recordedStep_move h.stamped h.waiters hstep with
  | looksUp hs => exact h.looksUp hs hrecord
  | @stores t details hs =>
      have hstored : s.storedBy (.answer (.ok [details])) =
          some (t.ref, details.contract.conId) := by
        simp [RecordedResolver.storedBy, hs.held]
      exact h.stores (hguard.1 _ _ hstored) hs hrecord
  | invalidates hs =>
      exact h.invalidates (fun ref href => hguard.2 ref (by rw [href])) hs hrecord

/-! ## Breaking steps -/

/-- The cache finds what was just stored under its reference, and the index under its conId. -/
theorem get?_store (c : ContractCache Other) (resolved : ResolvedContract Other) :
    (c.store resolved).cache.get? resolved.ref = some resolved ∧
      (c.store resolved).byConId.get? resolved.contractId = some resolved := by
  simp [ContractCache.store]

/-- An answer that an invalidation has overtaken is there for the next call. -/
theorem storesCurrent_of_effective {s s' : RecordedResolver Other} (h : Stamped s)
    {t : ResolveTask Other} {details : ContractDetails} (hs : Stored s s' t details)
    (heffective : InvalidationEffective s') :
    StoresCurrent s t.ref details.contract.conId := by
  obtain ⟨hcache, hindex⟩ := get?_store s.resolver.contracts
    (ResolverState.resolvedContract t.ref details)
  rw [← hs.contracts] at hcache hindex
  have hown : s'.origin t.ref = some s.queries := by
    have hcache' : s'.resolver.contracts.cache.get? t.ref =
        some (ResolverState.resolvedContract t.ref details) := hcache
    simp [RecordedResolver.origin, hcache', hs.cachedBy]
  intro inv hinv hlate
  have hinv' : inv ∈ s'.invalidations := by rw [hs.invalidations]; exact hinv
  have howned : ¬ inv.Covers t.ref := fun hcovers =>
    absurd (heffective.hits t.ref s.queries hown inv hinv' hcovers) (Nat.not_lt.2 hlate)
  refine ⟨fun hnone => howned (Or.inl hnone), fun hnamed => howned (Or.inr hnamed), ?_⟩
  intro ref hnamed hconId
  have hne : ref ≠ t.ref := by
    rintro rfl
    exact howned (Or.inr hnamed)
  -- the invalidated reference is found by its entry or by the index
  have hfound : ∃ query, s'.origin ref = some query ∧ query ≤ s.queries := by
    unfold RecordedResolver.origin
    cases hget : s'.resolver.contracts.cache.get? ref with
    | some cached =>
        rw [hs.contracts] at hget
        obtain ⟨query, hquery, hle⟩ := h.cached ref cached (cache_of_store hget hne)
        exact ⟨query, by simp [hs.cachedBy, Dict.get?_set_of_ne _ hne, hquery], hle⟩
    | none =>
        have hindex' : s'.resolver.contracts.byConId.get? details.contract.conId =
            some (ResolverState.resolvedContract t.ref details) := hindex
        exact ⟨s.queries, by simp [hconId, hindex', hs.indexedBy], Nat.le_refl _⟩
  obtain ⟨query, horigin, hle⟩ := hfound
  have hlt := heffective.hits ref query horigin inv hinv' (Or.inr hnamed)
  omega

/-- An invalidation that leaves the conId of its reference in the index leaves a hit. -/
theorem dropsConId_of_effective {s s' : RecordedResolver Other} (h : Stamped s)
    {ref : InstrumentRef Other} (hs : Invalidated s s' (some ref))
    (heffective : InvalidationEffective s') : DropsConId s ref := by
  intro conId hconId hindex
  by_contra hkeeps
  obtain ⟨indexed, hget⟩ := Option.ne_none_iff_exists'.1 hindex
  obtain ⟨query, hquery, hle⟩ := h.indexed conId indexed hget
  have hmiss : s'.resolver.contracts.cache.get? ref = none := by
    rw [hs.contracts]
    by_contra hne
    obtain ⟨cached, hcached⟩ := Option.ne_none_iff_exists'.1 hne
    exact (cache_of_invalidate hcached).2.2 rfl
  have hleft : s'.resolver.contracts.byConId.get? conId = some indexed := by
    rw [hs.contracts]
    simp only [ContractCache.invalidate]
    cases hcached : s.resolver.contracts.cache.get? ref with
    | none => exact hget
    | some removed =>
        have hne : conId ≠ removed.contractId := fun heq => hkeeps ⟨removed, hcached, heq.symm⟩
        exact (Dict.get?_pop_of_ne _ hne).trans hget
  have horigin : s'.origin ref = some query := by
    simp [RecordedResolver.origin, hmiss, hconId, hleft, hs.indexedBy, hquery]
  have hlt := heffective.hits ref query horigin ⟨some ref, s.resolver.nextTask, s.queries⟩
    (by simp [hs.invalidations]) (Or.inr rfl)
  simp only at hlt
  omega

/-- A step that leaves invalidations effective meets the condition. -/
theorem keepsInvalidations_of_effective {s s' : RecordedResolver Other}
    {l : ResolverLabel Other} (h : Stamped s) (hstep : recordedStep s l = some s')
    (heffective : InvalidationEffective s') : KeepsInvalidations s l := by
  obtain ⟨r, hr, rfl⟩ := Option.map_eq_some_iff.1 hstep
  refine ⟨fun ref conId hstored => ?_, ?_⟩
  · unfold RecordedResolver.storedBy at hstored
    split at hstored
    · rename_i details
      obtain ⟨t, hheld, hpair⟩ := Option.map_eq_some_iff.1 hstored
      obtain ⟨t', hheld', rfl⟩ := Option.map_eq_some_iff.1 hr
      cases hheld.symm.trans hheld'
      cases hpair
      exact storesCurrent_of_effective h (stored_record hheld details) heffective
    · cases hstored
  · rintro ref rfl
    cases hr
    exact dropsConId_of_effective h (invalidated_record s (some ref)) heffective

/-! ## Runs -/

/-- Invalidations are effective along a run exactly when every step of it meets the
condition. -/
theorem invalidationEffective_iff (ls : List (ResolverLabel Other)) :
    recordedMachine.AllStates InvalidationEffective recordedMachine.init ls ↔
      recordedMachine.AllSteps KeepsInvalidations recordedMachine.init ls :=
  recordedMachine.allStates_iff_allSteps (fun _ _ _ hinv hguard => hinv.step hguard)
    (fun _ hinv => hinv.effective)
    (fun _ _ _ hinv => keepsInvalidations_of_effective hinv.stamped) freshInv_init

/-! ## The record is complete -/

/-- The calls that returned a contract. -/
def tasksReturned (s : ResolverState Other) : List Nat :=
  s.outcomes.filterMap fun outcome => if outcome.2.isOk then some outcome.1 else none

omit [DecidableEq Other] in
@[simp]
theorem tasksReturned_finish_ok (s : ResolverState Other) (task : Nat)
    (c : ResolvedContract Other) :
    tasksReturned (s.finish task (.ok c)) = tasksReturned s ++ [task] := by
  simp [tasksReturned, ResolverState.finish, Except.isOk, Except.toBool]

omit [DecidableEq Other] in
@[simp]
theorem tasksReturned_finish_error (s : ResolverState Other) (task : Nat) (e : ResolveError) :
    tasksReturned (s.finish task (.error e)) = tasksReturned s := by
  simp [tasksReturned, ResolverState.finish, Except.isOk, Except.toBool]

theorem tasksReturned_enter (s : ResolverState Other) (t : ResolveTask Other) :
    tasksReturned (s.enter t) =
      tasksReturned s ++ if (s.contracts.lookup t.ref).isSome then [t.task] else [] := by
  unfold ResolverState.enter
  cases s.contracts.lookup t.ref with
  | none => simp [tasksReturned]
  | some cached => simp

/-- What a call returns that looks the reference up, as a list. -/
theorem Stamped.hit_tasks {s : RecordedResolver Other} (h : Stamped s) (task : Nat)
    (ref : InstrumentRef Other) :
    (s.hit task ref).toList.map Returned.task =
      if (s.resolver.contracts.lookup ref).isSome then [task] else [] := by
  rw [← h.isSome_origin ref]
  unfold RecordedResolver.hit
  cases s.origin ref <;> rfl

/-- A step returns what the record says. -/
theorem resolverStep_tasks {s : RecordedResolver Other} {r : ResolverState Other}
    {l : ResolverLabel Other} (h : Stamped s) (hr : resolverStep s.resolver l = some r) :
    tasksReturned r =
      tasksReturned s.resolver ++ (s.returnedBy l).toList.map Returned.task := by
  cases l with
  | resolve ref =>
      cases hr
      rw [RecordedResolver.returnedBy, h.hit_tasks]
      cases hlookup : s.resolver.contracts.lookup ref with
      | some cached =>
          rw [start_of_hit hlookup, tasksReturned_finish_ok]
          rfl
      | none =>
          by_cases hfree : s.resolver.holder = none ∧ s.resolver.waiters = []
          · rw [start_of_free hlookup hfree, tasksReturned_enter]
            simp [hlookup, tasksReturned]
          · rw [start_of_busy hlookup hfree]
            simp [tasksReturned]
  | acquire =>
      simp only [resolverStep] at hr
      split at hr
      · rename_i t rest hnone hqueue
        cases hr
        simp only [RecordedResolver.returnedBy, hqueue, h.hit_tasks, tasksReturned_enter]
        rfl
      · cases hr
  | answer reply =>
      obtain ⟨t, hheld, rfl⟩ := Option.map_eq_some_iff.1 hr
      have hsame : tasksReturned { s.resolver with holder := none } =
          tasksReturned s.resolver := rfl
      rcases reply with e | (_ | ⟨details, _ | ⟨details', rest⟩⟩)
      · simp [ResolverState.answered, RecordedResolver.returnedBy, hsame]
      · simp only [ResolverState.answered]
        split
        · simp [RecordedResolver.returnedBy, hsame]
        · simp [RecordedResolver.returnedBy, tasksReturned]
      · simp only [ResolverState.answered, RecordedResolver.returnedBy, hheld, Option.map_some,
          Option.toList_some, List.map_cons, List.map_nil, tasksReturned_finish_ok]
        rfl
      · simp [ResolverState.answered, RecordedResolver.returnedBy, hsame]
  | searched task found =>
      obtain ⟨t, -, rfl⟩ := Option.map_eq_some_iff.1 hr
      rw [tasksReturned_finish_error]
      simp [RecordedResolver.returnedBy, tasksReturned]
  | cancel task =>
      simp only [resolverStep] at hr
      split_ifs at hr
      cases hr
      rw [ResolverState.cancelled, tasksReturned_finish_error]
      simp [RecordedResolver.returnedBy, tasksReturned]
  | invalidate ref =>
      cases hr
      simp [RecordedResolver.returnedBy, tasksReturned]

/-- The record is sound and names the calls that returned a contract. -/
structure ReturnsRecorded (s : RecordedResolver Other) : Prop where
  inv : RecordInv s
  tasks : s.returned.map Returned.task = tasksReturned s.resolver

theorem ReturnsRecorded.step {s s' : RecordedResolver Other} {l : ResolverLabel Other}
    (h : ReturnsRecorded s) (hstep : recordedStep s l = some s') : ReturnsRecorded s' := by
  refine ⟨h.inv.step hstep, ?_⟩
  obtain ⟨r, hr, rfl⟩ := Option.map_eq_some_iff.1 hstep
  simp only [RecordedResolver.record, List.map_append, h.tasks]
  exact (resolverStep_tasks h.inv.stamped hr).symm

/-- In every reachable state the record names exactly the calls that returned a contract. -/
theorem returned_tasks {s : RecordedResolver Other} (hs : recordedMachine.Reachable s) :
    s.returned.map Returned.task = tasksReturned s.resolver := by
  have hkept : ∀ (s : RecordedResolver Other) l s', ReturnsRecorded s →
      recordedMachine.step s l = some s' → ReturnsRecorded s' := fun _ _ _ h => h.step
  exact (recordedMachine.invariant_reachable ⟨recordInv_init, rfl⟩ hkept hs).tasks

/-! ## An answer that comes too late -/

/-- Everything is invalidated while a query is in flight; its answer is stored afterwards, and
the next call for the reference returns it. -/
theorem invalidated_answer_is_returned :
    ∃ (s : RecordedResolver String) (ret : Returned String) (inv : Invalidation String),
      recordedMachine.Reachable s ∧ ret ∈ s.returned ∧ inv ∈ s.invalidations ∧
        inv.ref = none ∧ inv.tasks ≤ ret.task ∧ ret.query ≤ inv.queries ∧
        ¬ InvalidationEffective s := by
  let apple : IbContract := ⟨"AAPL", "STK", "SMART", "NASDAQ", "USD", 265598⟩
  let ref : InstrumentRef String := ⟨"AAPL", none, "STOCK USD"⟩
  refine ⟨_, ⟨1, ref, 1⟩, ⟨none, 1, 1⟩, ⟨[.resolve ref, .invalidate none,
    .answer (.ok [⟨apple, none⟩]), .resolve ref], rfl⟩, ?_, ?_, rfl, Nat.le_refl _,
    Nat.le_refl _, fun h => ?_⟩
  · exact List.mem_cons_of_mem _ (List.mem_singleton.2 rfl)
  · exact List.mem_singleton.2 rfl
  · have hlt := h.returned ⟨1, ref, 1⟩ (List.mem_cons_of_mem _ (List.mem_singleton.2 rfl))
      ⟨none, 1, 1⟩ (List.mem_singleton.2 rfl) (Or.inl rfl) (Nat.le_refl _)
    exact absurd hlt (Nat.lt_irrefl 1)

end ContractResolver
end Ib
end MarketConnector
