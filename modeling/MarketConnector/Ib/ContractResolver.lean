import MarketConnector.Foundations.ClassIndex
import MarketConnector.Foundations.Transitions

/-!
# Ib - The contract cache

`IbContractResolver` keeps resolved contracts by the reference they were asked for, and an
index by conId.  Resolves are tasks: a miss waits for one shared lock, asks IB with the lock
held, and searches similar symbols after releasing it.  `invalidate` runs at once, at any
point between their steps.

Main results:

- Theorem `resolverStep_inv`: every step but one kind of invalidation keeps the index equal to
  the last cached entry of each conId.
- Theorem `cacheCoherent_iff`: cache and index stay coherent along a run exactly when no
  `invalidate(ref)` removes an entry whose conId another cached entry shares.
-/

namespace MarketConnector
namespace Ib
namespace ContractResolver

open Foundations

/-! ## Contracts -/

/-- `InstrumentRef`; `other` stands for the fields that only equality of references reads
here. -/
structure InstrumentRef (Other : Type) where
  symbol : String
  conId : Option Int
  other : Other
deriving DecidableEq

/-- Contract of `ib_async`. -/
structure IbContract where
  symbol : String
  secType : String
  exchange : String
  primaryExchange : String
  currency : String
  conId : Int
deriving DecidableEq

structure ContractDetails where
  contract : IbContract
  tradingHours : Option String
deriving DecidableEq

/-- `contractId` is the number in the text `contract_id`; `metadata` holds the details. -/
structure ResolvedContract (Other : Type) where
  ref : InstrumentRef Other
  native : IbContract
  contractId : Int
  metadata : ContractDetails
deriving DecidableEq

inductive ResolveError where
  | ambiguousContract (found : List ContractDetails) (candidates : List String) (message : String)
  | contractNotFound (code : Int) (message : String) (candidates : List String)
  | cancelledError
  | other (message : String)
deriving DecidableEq

/-- `_MAX_CACHE`. -/
def maxCache : Nat := 1024

/-- `_MAX_CANDIDATES`. -/
def maxCandidates : Nat := 5

/-- `_format_contract`. -/
def formatContract (contract : IbContract) (withExchange : Bool) : String :=
  " ".intercalate <|
    [contract.symbol, contract.secType] ++ (if withExchange then [contract.exchange] else []) ++
      [contract.primaryExchange, contract.currency, "conId=" ++ toString contract.conId]

def ambiguousContractError (symbol : String) (found : List ContractDetails) : ResolveError :=
  let candidates := (found.take maxCandidates).map fun d => formatContract d.contract true
  .ambiguousContract found candidates
    ("reqContractDetails returned " ++ toString found.length ++ " matches for " ++ symbol ++
      "; set primary_exchange or con_id to disambiguate. Candidates: " ++
      "; ".intercalate candidates)

/-- `_not_found_error` of a reference by conId. -/
def conIdNotFoundError (conId : Int) : ResolveError :=
  .contractNotFound 200 ("No security definition for conId=" ++ toString conId) []

/-- `_not_found_error` of a reference by symbol; `found` is `none` when the search for
similar symbols raised or timed out. -/
def symbolNotFoundError (symbol : String) (found : Option (List IbContract)) : ResolveError :=
  let candidates := ((found.getD []).take maxCandidates).map fun c => formatContract c false
  let hint := if candidates ≠ [] then "Did you mean: " ++ "; ".intercalate candidates
    else "No similar symbols were found"
  .contractNotFound 200 ("No security definition for " ++ symbol ++ ". " ++ hint) candidates

/-! ## Cache and index -/

section Resolver

variable {Other : Type} [DecidableEq Other]

/-- `_cache` and `_by_con_id`. -/
structure ContractCache (Other : Type) where
  cache : Dict (InstrumentRef Other) (ResolvedContract Other)
  byConId : Dict Int (ResolvedContract Other)

namespace ContractCache

variable (c : ContractCache Other)

/-- `_lookup`. -/
def lookup (ref : InstrumentRef Other) : Option (ResolvedContract Other) :=
  match c.cache.get? ref with
  | some cached => some cached
  | none => ref.conId.bind c.byConId.get?

/-- `_drop_con_id`. -/
def dropConId (resolved : ResolvedContract Other) : ContractCache Other :=
  { c with
    byConId := Dict.dropClass ResolvedContract.contractId resolved.contractId c.byConId c.cache }

/-- Eviction of the oldest entry. -/
def evict : ContractCache Other :=
  match c.cache.entries with
  | [] => c
  | oldest :: _ => { c with cache := c.cache.popFirst }.dropConId oldest.2

/-- Insertion, after an eviction when the cache is full. -/
def store (resolved : ResolvedContract Other) : ContractCache Other :=
  let c := if maxCache ≤ c.cache.size then c.evict else c
  { cache := c.cache.set resolved.ref resolved
    byConId := c.byConId.set resolved.contractId resolved }

/-- `invalidate`. -/
def invalidate (ref : Option (InstrumentRef Other)) : ContractCache Other :=
  match ref with
  | none => ⟨∅, ∅⟩
  | some ref =>
      match c.cache.get? ref with
      | none => c
      | some removed => ⟨c.cache.pop ref, c.byConId.pop removed.contractId⟩

end ContractCache

/-! ## The resolver -/

/-- A call of `resolve` that is under way. -/
structure ResolveTask (Other : Type) where
  task : Nat
  ref : InstrumentRef Other
deriving DecidableEq

/-- `holder` has the lock and awaits IB, `waiters` queue for the lock, `searching` tasks
await the search for similar symbols. -/
structure ResolverState (Other : Type) where
  contracts : ContractCache Other
  holder : Option (ResolveTask Other)
  waiters : List (ResolveTask Other)
  searching : List (ResolveTask Other)
  nextTask : Nat
  outcomes : List (Nat × Except ResolveError (ResolvedContract Other))

namespace ResolverState

variable (s : ResolverState Other)

def finish (task : Nat) (outcome : Except ResolveError (ResolvedContract Other)) :
    ResolverState Other :=
  { s with outcomes := s.outcomes ++ [(task, outcome)] }

/-- What `resolve` builds from its only match. -/
def resolvedContract (ref : InstrumentRef Other) (details : ContractDetails) :
    ResolvedContract Other where
  ref := ref
  native := details.contract
  contractId := details.contract.conId
  metadata := details

/-- A task that has the lock looks again before it asks IB. -/
def enter (t : ResolveTask Other) : ResolverState Other :=
  match s.contracts.lookup t.ref with
  | some cached => s.finish t.task (.ok cached)
  | none => { s with holder := some t }

/-- A call of `resolve` up to its first suspension.  The lock is free for a newcomer only
when no earlier task queues for it. -/
def start (ref : InstrumentRef Other) : ResolverState Other :=
  let t : ResolveTask Other := ⟨s.nextTask, ref⟩
  let s := { s with nextTask := s.nextTask + 1 }
  match s.contracts.lookup ref with
  | some cached => s.finish t.task (.ok cached)
  | none =>
      if s.holder = none ∧ s.waiters = [] then s.enter t
      else { s with waiters := s.waiters ++ [t] }

/-- IB answers the task that held the lock. -/
def answered (t : ResolveTask Other) (reply : Except ResolveError (List ContractDetails)) :
    ResolverState Other :=
  match reply with
  | .error e => s.finish t.task (.error e)
  | .ok [] =>
      match t.ref.conId with
      | some conId => s.finish t.task (.error (conIdNotFoundError conId))
      | none => { s with searching := s.searching ++ [t] }
  | .ok [details] =>
      let resolved := resolvedContract t.ref details
      { s with contracts := s.contracts.store resolved }.finish t.task (.ok resolved)
  | .ok found => s.finish t.task (.error (ambiguousContractError t.ref.symbol found))

/-- A cancelled task leaves the lock, the queue or the search. -/
def cancelled (task : Nat) : ResolverState Other :=
  { s with
    holder := s.holder.filter fun t => t.task ≠ task
    waiters := s.waiters.filter fun t => t.task ≠ task
    searching := s.searching.filter fun t => t.task ≠ task }.finish task (.error .cancelledError)

end ResolverState

/-- What happens next: a call, the lock passing on, IB's answer, the end of a symbol search,
or the cancellation of a task. -/
inductive ResolverLabel (Other : Type) where
  | resolve (ref : InstrumentRef Other)
  | acquire
  | answer (reply : Except ResolveError (List ContractDetails))
  | searched (task : Nat) (found : Option (List IbContract))
  | cancel (task : Nat)
  | invalidate (ref : Option (InstrumentRef Other))

def resolverStep (s : ResolverState Other) : ResolverLabel Other → Option (ResolverState Other)
  | .resolve ref => some (s.start ref)
  | .acquire =>
      match s.holder, s.waiters with
      | none, t :: rest => some ({ s with waiters := rest }.enter t)
      | _, _ => none
  | .answer reply => s.holder.map fun t => { s with holder := none }.answered t reply
  | .searched task found =>
      (s.searching.find? fun t => t.task = task).map fun t =>
        { s with searching := s.searching.erase t }.finish task
          (.error (symbolNotFoundError t.ref.symbol found))
  | .cancel task =>
      if (s.holder.toList ++ s.waiters ++ s.searching).any fun t => t.task = task then
        some (s.cancelled task)
      else none
  | .invalidate ref => some { s with contracts := s.contracts.invalidate ref }

/-- The resolver with any number of calls under way. -/
def resolverMachine : Machine (ResolverState Other) (ResolverLabel Other) where
  init := ⟨⟨∅, ∅⟩, none, [], [], 0, []⟩
  step := resolverStep

/-! ## What a step does to the cache -/

/-- A task holds the lock only after a miss. -/
def HeldAfterMiss (s s' : ResolverState Other) : Prop :=
  ∀ t, s'.holder = some t → s.holder = some t ∨ s.contracts.cache.get? t.ref = none

theorem HeldAfterMiss.same {s s' : ResolverState Other} (h : s'.holder = s.holder) :
    HeldAfterMiss s s' := by
  intro t ht
  exact Or.inl (h ▸ ht)

/-- What a step can do to cache, index and lock. -/
inductive CacheMove (s s' : ResolverState Other) : ResolverLabel Other → Prop where
  | kept {l : ResolverLabel Other} (hcontracts : s'.contracts = s.contracts)
      (hholder : HeldAfterMiss s s') : CacheMove s s' l
  | stored {l : ResolverLabel Other} (resolved : ResolvedContract Other) (t : ResolveTask Other)
      (hheld : s.holder = some t) (href : resolved.ref = t.ref)
      (hcontracts : s'.contracts = s.contracts.store resolved) (hfree : s'.holder = none) :
      CacheMove s s' l
  | invalidated (ref : Option (InstrumentRef Other))
      (hcontracts : s'.contracts = s.contracts.invalidate ref) (hholder : s'.holder = s.holder) :
      CacheMove s s' (.invalidate ref)

theorem get?_of_lookup_eq_none {c : ContractCache Other} {ref : InstrumentRef Other}
    (h : c.lookup ref = none) : c.cache.get? ref = none := by
  unfold ContractCache.lookup at h
  cases hget : c.cache.get? ref with
  | none => rfl
  | some cached => simp [hget] at h

/-- A task that enters keeps cache and index, and holds the lock only after a miss. -/
theorem enter_move (s : ResolverState Other) (t : ResolveTask Other) :
    (s.enter t).contracts = s.contracts ∧ HeldAfterMiss s (s.enter t) := by
  unfold ResolverState.enter
  cases hlookup : s.contracts.lookup t.ref with
  | some cached => exact ⟨by simp [ResolverState.finish], .same (by simp [ResolverState.finish])⟩
  | none =>
      refine ⟨by simp, fun u hu => Or.inr ?_⟩
      simp only [Option.some.injEq] at hu
      rw [← hu]
      exact get?_of_lookup_eq_none hlookup

theorem start_move (s : ResolverState Other) (ref : InstrumentRef Other) :
    CacheMove s (s.start ref) (.resolve ref) := by
  unfold ResolverState.start
  simp only
  split
  · exact .kept (by simp [ResolverState.finish]) (.same (by simp [ResolverState.finish]))
  · split_ifs
    · obtain ⟨hcontracts, hholder⟩ := enter_move { s with nextTask := s.nextTask + 1 }
        ⟨s.nextTask, ref⟩
      exact .kept hcontracts hholder
    · exact .kept (by simp) (.same (by simp))

/-- The answer of IB stores a contract only when it is the single match. -/
theorem answered_move {s : ResolverState Other} {t : ResolveTask Other}
    (hheld : s.holder = some t) (reply : Except ResolveError (List ContractDetails)) :
    CacheMove s ({ s with holder := none }.answered t reply) (.answer reply) := by
  have hfree : ∀ s' : ResolverState Other, s'.holder = none → HeldAfterMiss s s' := by
    intro s' hnone u hu
    rw [hnone] at hu
    cases hu
  unfold ResolverState.answered
  split
  · exact .kept (by simp [ResolverState.finish]) (hfree _ (by simp [ResolverState.finish]))
  · split
    · exact .kept (by simp [ResolverState.finish]) (hfree _ (by simp [ResolverState.finish]))
    · exact .kept (by simp) (hfree _ (by simp))
  · rename_i details
    exact .stored (ResolverState.resolvedContract t.ref details) t hheld rfl
      (by simp [ResolverState.finish]) (by simp [ResolverState.finish])
  · exact .kept (by simp [ResolverState.finish]) (hfree _ (by simp [ResolverState.finish]))

/-- Every step is one of the moves. -/
theorem resolverStep_move {s s' : ResolverState Other} {l : ResolverLabel Other}
    (hstep : resolverStep s l = some s') : CacheMove s s' l := by
  cases l with
  | resolve ref =>
      cases hstep
      exact start_move s ref
  | acquire =>
      simp only [resolverStep] at hstep
      split at hstep
      · rename_i t rest hnone hwaiters
        cases hstep
        obtain ⟨hcontracts, hholder⟩ := enter_move { s with waiters := rest } t
        exact .kept hcontracts hholder
      · cases hstep
  | answer reply =>
      obtain ⟨t, hheld, rfl⟩ := Option.map_eq_some_iff.mp hstep
      exact answered_move hheld reply
  | searched task found =>
      obtain ⟨t, -, rfl⟩ := Option.map_eq_some_iff.mp hstep
      exact .kept (by simp [ResolverState.finish]) (.same (by simp [ResolverState.finish]))
  | cancel task =>
      simp only [resolverStep] at hstep
      split_ifs at hstep
      cases hstep
      refine .kept (by simp [ResolverState.cancelled, ResolverState.finish]) fun t ht => ?_
      simp only [ResolverState.cancelled, ResolverState.finish] at ht
      exact Or.inl (Option.filter_eq_some_iff.mp ht).1
  | invalidate ref =>
      cases hstep
      exact .invalidated ref (by simp) (by simp)

/-! ## Coherence -/

/-- The cache is bounded, the index has exactly the conIds of the cached entries, and each
conId leads to a cached entry of that conId. -/
structure CacheCoherent (s : ResolverState Other) : Prop where
  bounded : s.contracts.cache.size ≤ maxCache
  coherent : Dict.Coherent ResolvedContract.contractId s.contracts.byConId s.contracts.cache

/-- The index holds the last cached entry of each conId, and the reference that the lock
holder asks for is not cached. -/
structure ResolverInv (s : ResolverState Other) : Prop where
  bounded : s.contracts.cache.size ≤ maxCache
  indexed : Dict.Indexed ResolvedContract.contractId s.contracts.byConId s.contracts.cache
  absent : ∀ t, s.holder = some t → s.contracts.cache.get? t.ref = none

/-- An `invalidate(ref)` finds no other cached entry with the conId of the one it removes. -/
def InvalidatesAlone (s : ResolverState Other) (l : ResolverLabel Other) : Prop :=
  ∀ ref removed, l = .invalidate (some ref) → s.contracts.cache.get? ref = some removed →
    ∀ ref' cached, ref' ≠ ref → s.contracts.cache.get? ref' = some cached →
      cached.contractId ≠ removed.contractId

theorem ResolverInv.coherent {s : ResolverState Other} (h : ResolverInv s) : CacheCoherent s :=
  ⟨h.bounded, h.indexed.coherent⟩

theorem resolverInv_init :
    ResolverInv (resolverMachine : Machine (ResolverState Other) (ResolverLabel Other)).init where
  bounded := by simp [resolverMachine, Dict.size, EmptyCollection.emptyCollection, Dict.empty]
  indexed := Dict.Indexed.empty
  absent := by simp [resolverMachine]

/-! ## One step -/

omit [DecidableEq Other] in
/-- An eviction keeps the index and makes room. -/
theorem evict_indexed {c : ContractCache Other}
    (h : Dict.Indexed ResolvedContract.contractId c.byConId c.cache) :
    Dict.Indexed ResolvedContract.contractId c.evict.byConId c.evict.cache ∧
      c.evict.cache = c.cache.popFirst := by
  unfold ContractCache.evict
  cases hentries : c.cache.entries with
  | nil =>
      refine ⟨h, Dict.ext ?_⟩
      simp [Dict.popFirst, hentries]
  | cons oldest rest =>
      refine ⟨?_, by simp [ContractCache.dropConId]⟩
      simpa [ContractCache.dropConId] using h.popFirst hentries

/-- Storing a contract for a reference that is not cached. -/
theorem store_indexed {c : ContractCache Other} {resolved : ResolvedContract Other}
    (h : Dict.Indexed ResolvedContract.contractId c.byConId c.cache)
    (hbounded : c.cache.size ≤ maxCache) (habsent : c.cache.get? resolved.ref = none) :
    Dict.Indexed ResolvedContract.contractId (c.store resolved).byConId (c.store resolved).cache ∧
      (c.store resolved).cache.size ≤ maxCache := by
  have hkeys : resolved.ref ∉ c.cache.keys := by
    simp [Dict.mem_keys_iff, Dict.contains, habsent]
  unfold ContractCache.store
  by_cases hfull : maxCache ≤ c.cache.size
  · obtain ⟨hevicted, hcache⟩ := evict_indexed h
    have hkeys' : resolved.ref ∉ c.evict.cache.keys := by
      rw [hcache]
      exact fun hmem => hkeys (Dict.mem_keys_popFirst hmem)
    simp only [hfull, if_true]
    refine ⟨hevicted.set_new hkeys' resolved, ?_⟩
    rw [Dict.size_set_new hkeys', hcache, Dict.size_popFirst]
    have hpos : 0 < maxCache := by decide
    omega
  · simp only [hfull, if_false]
    refine ⟨h.set_new hkeys resolved, ?_⟩
    rw [Dict.size_set_new hkeys]
    omega

/-- Invalidating one entry that is alone with its conId, or all of them. -/
theorem invalidate_indexed {c : ContractCache Other} (ref : Option (InstrumentRef Other))
    (h : Dict.Indexed ResolvedContract.contractId c.byConId c.cache)
    (halone : ∀ r removed, ref = some r → c.cache.get? r = some removed →
      ∀ r' cached, r' ≠ r → c.cache.get? r' = some cached →
        cached.contractId ≠ removed.contractId) :
    Dict.Indexed ResolvedContract.contractId (c.invalidate ref).byConId
      (c.invalidate ref).cache := by
  cases ref with
  | none => exact Dict.Indexed.empty
  | some r =>
      simp only [ContractCache.invalidate]
      cases hget : c.cache.get? r with
      | none => exact h
      | some removed => exact h.pop_alone hget (halone r removed rfl hget)

/-- An invalidation only removes entries. -/
theorem invalidate_size_le (c : ContractCache Other) (ref : Option (InstrumentRef Other)) :
    (c.invalidate ref).cache.size ≤ c.cache.size := by
  cases ref with
  | none => simp [ContractCache.invalidate, Dict.size, EmptyCollection.emptyCollection, Dict.empty]
  | some r =>
      simp only [ContractCache.invalidate]
      cases hget : c.cache.get? r with
      | none => simp
      | some removed => exact c.cache.size_pop_le r

theorem invalidate_absent {c : ContractCache Other} (ref : Option (InstrumentRef Other))
    {r : InstrumentRef Other} (h : c.cache.get? r = none) :
    (c.invalidate ref).cache.get? r = none := by
  cases ref with
  | none => simp [ContractCache.invalidate]
  | some r' =>
      simp only [ContractCache.invalidate]
      cases hget : c.cache.get? r' with
      | none => exact h
      | some removed =>
          rw [Dict.get?_pop]
          split_ifs with hr
          · rfl
          · exact h

/-- A step keeps the invariant, an invalidation under the condition. -/
theorem resolverStep_inv {s s' : ResolverState Other} {l : ResolverLabel Other}
    (h : ResolverInv s) (hguard : InvalidatesAlone s l) (hstep : resolverStep s l = some s') :
    ResolverInv s' := by
  cases resolverStep_move hstep with
  | kept hcontracts hholder =>
      refine ⟨by rw [hcontracts]; exact h.bounded, by rw [hcontracts]; exact h.indexed, ?_⟩
      intro t ht
      rw [hcontracts]
      exact (hholder t ht).elim (h.absent t) id
  | stored resolved t hheld href hcontracts hfree =>
      have habsent : s.contracts.cache.get? resolved.ref = none := by
        rw [href]
        exact h.absent t hheld
      obtain ⟨hindexed, hbounded⟩ := store_indexed h.indexed h.bounded habsent
      exact ⟨by rw [hcontracts]; exact hbounded, by rw [hcontracts]; exact hindexed,
        by simp [hfree]⟩
  | invalidated ref hcontracts hholder =>
      have halone := invalidate_indexed ref h.indexed fun r removed href =>
        hguard r removed (by rw [href])
      refine ⟨?_, by rw [hcontracts]; exact halone, ?_⟩
      · rw [hcontracts]
        exact Nat.le_trans (invalidate_size_le s.contracts ref) h.bounded
      · intro t ht
        rw [hcontracts]
        exact invalidate_absent ref (h.absent t (hholder ▸ ht))

/-- An invalidation outside the condition takes the conId of another entry from the index. -/
theorem invalidatesAlone_of_coherent {s s' : ResolverState Other} {l : ResolverLabel Other}
    (hstep : resolverStep s l = some s') (h : CacheCoherent s') : InvalidatesAlone s l := by
  rintro ref removed rfl hget
  cases hstep
  have hcoherent := h.coherent
  simp only [ContractCache.invalidate, hget] at hcoherent
  exact fun r cached => hcoherent.alone_of_pop r cached

/-! ## Runs -/

/-- Cache and index stay coherent along a run exactly when each `invalidate(ref)` in it removes
an entry that is alone with its conId. -/
theorem cacheCoherent_iff (ls : List (ResolverLabel Other)) :
    resolverMachine.AllStates CacheCoherent resolverMachine.init ls ↔
      resolverMachine.AllSteps InvalidatesAlone resolverMachine.init ls :=
  resolverMachine.allStates_iff_allSteps (fun _ _ _ hinv hguard => resolverStep_inv hinv hguard)
    (fun _ hinv => hinv.coherent) (fun _ _ _ _ => invalidatesAlone_of_coherent) resolverInv_init

/-- Two references to one contract; one of them is invalidated, and the conId of the other is
gone from the index. -/
theorem invalidate_drops_shared_conId :
    ¬ ∀ s : ResolverState String, resolverMachine.Reachable s → CacheCoherent s := by
  intro hall
  let apple : IbContract := ⟨"AAPL", "STK", "SMART", "NASDAQ", "USD", 265598⟩
  let bySymbol : InstrumentRef String := ⟨"AAPL", none, "STOCK USD"⟩
  let byExchange : InstrumentRef String := ⟨"AAPL", none, "STOCK USD NASDAQ"⟩
  have hcoherent := hall _ ⟨[.resolve bySymbol, .answer (.ok [⟨apple, none⟩]),
    .resolve byExchange, .answer (.ok [⟨apple, none⟩]), .invalidate (some bySymbol)], rfl⟩
  have hkey := (hcoherent.coherent.keys 265598).mpr
    ⟨⟨byExchange, apple, 265598, ⟨apple, none⟩⟩, by decide, by decide⟩
  exact absurd hkey (by decide)

end Resolver

end ContractResolver
end Ib
end MarketConnector
