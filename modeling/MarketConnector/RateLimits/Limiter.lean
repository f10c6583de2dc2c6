import Mathlib.Algebra.Order.BigOperators.Group.List
import MarketConnector.Foundations.TokenBucket
import MarketConnector.Foundations.Transitions
import MarketConnector.Kraken.Orders

/-!
# RateLimits - The limiter built from a spec

Pools and endpoints become token buckets of one limiter.  The pools of a key and the limits
linked to them are registered when they are first asked for.

The limiter is that of another package, and what it does is assumed: a bucket starts full, holds
its limit at most and gets its limit back in its interval; a request takes a token from the
bucket of its endpoint and the weight of each charge from the linked pool, all at once or not
at all.

Main results:

- Definition `buildLimiter`: the limits of the static endpoints.
- Definition `limiterMachine`: requests, waiting and keyed limits.
- Theorem `RegistryInv.step`: the limits of a run are those that the spec declares.
-/

namespace MarketConnector
namespace RateLimits

open Foundations Kraken

/-! ## Specs -/

/-- `PoolSpec`, as `__post_init__` lets it through. -/
structure PoolSpec where
  name : String
  capacity : Int
  refillRate : Rat
  capacity_pos : 0 < capacity
  refillRate_pos : 0 < refillRate

/-- `(pool_name, weight)` charges of an endpoint. -/
abbrev Charges := List (String × Int)

/-- `FlatRateLimitSpec`, or a `TieredRateLimitSpec` with the pools of one tier.  Pools are
listed under their names, a name is that of a pool or of an endpoint and has no colon, and
keyed endpoints charge pools that exist. -/
structure RateLimitSpec where
  pools : Dict String PoolSpec
  endpointPools : Dict String Charges
  keyedEndpointPools : Dict String Charges
  named : ∀ name pool, pools.get? name = some pool → pool.name = name
  plain : ∀ name, name ∈ pools.keys ∨ name ∈ endpointPools.keys ∨ name ∈ keyedEndpointPools.keys →
    ':' ∉ name.toList
  apart : ∀ name ∈ pools.keys, name ∉ endpointPools.keys ∧ name ∉ keyedEndpointPools.keys
  known : ∀ name charges, keyedEndpointPools.get? name = some charges →
    ∀ charge ∈ charges, charge.1 ∈ pools.keys
  weights : ∀ name charges, endpointPools.get? name = some charges ∨
    keyedEndpointPools.get? name = some charges → ∀ charge ∈ charges, 0 < charge.2

/-! ## The limiter -/

/-- The registered limits, and the tokens in the bucket of each.  What happens to the tokens is
what is assumed of the package's limiter. -/
structure Limiter where
  limits : Dict String RateLimit
  tokens : String → Rat

def Limiter.empty : Limiter :=
  ⟨∅, fun _ => 0⟩

/-- `has_limit`. -/
def hasLimit (l : Limiter) (id : String) : Bool :=
  l.limits.contains id

/-- `add_limit`: the bucket starts full. -/
def addLimit (l : Limiter) (limit : RateLimit) : Limiter :=
  ⟨l.limits.set limit.limitId limit, Function.update l.tokens limit.limitId limit.limit⟩

/-- The operations `ensure_keyed_limit` uses. -/
def keyedLimiter : KeyedLimiter Limiter :=
  ⟨fun l id => l.limits.get? id, addLimit⟩

/-- The bucket of a pool. -/
def poolLimit (id : String) (pool : PoolSpec) : RateLimit :=
  ⟨id, pool.capacity, pool.capacity / pool.refillRate, [], "token_bucket"⟩

/-- `pool_to_rate_limit`. -/
def poolToRateLimit (pool : PoolSpec) : RateLimit :=
  poolLimit pool.name pool

inductive BuildError where
  | unknownPool (name : String)
  | noCharges
deriving DecidableEq

/-- `max(pools[pool].capacity for pool, _ in charges)`. -/
def largestCapacity (pools : Dict String PoolSpec) : Charges → Except BuildError Int
  | [] => .error .noCharges
  | (name, _) :: charges =>
      match pools.get? name with
      | none => .error (.unknownPool name)
      | some pool =>
          if charges.isEmpty then .ok pool.capacity
          else (largestCapacity pools charges).map (max pool.capacity)

/-- The limits of the endpoints, linked to the pools they charge. -/
def addEndpoints (pools : Dict String PoolSpec) :
    List (String × Charges) → Limiter → Except BuildError Limiter
  | [], l => .ok l
  | (name, charges) :: endpoints, l =>
      match largestCapacity pools charges with
      | .error e => .error e
      | .ok capacity =>
          addEndpoints pools endpoints
            (addLimit l ⟨name, capacity, 1, charges, "token_bucket"⟩)

/-- `_build_limiter`. -/
def buildLimiter (spec : RateLimitSpec) : Except BuildError Limiter :=
  addEndpoints spec.pools spec.endpointPools.entries
    ((spec.pools.values.map poolToRateLimit).foldl addLimit .empty)

/-! ## Requests -/

/-- What a request takes from a linked limit. -/
def weightOf (linked : Charges) (id : String) : Int :=
  ((linked.filter fun charge => charge.1 = id).map Prod.snd).sum

/-- Every linked pool has what the request takes from it. -/
def PoolsAdmit (l : Limiter) (limit : RateLimit) : Prop :=
  ∀ charge ∈ limit.linkedLimits, (weightOf limit.linkedLimits charge.1 : Rat) ≤ l.tokens charge.1

instance (l : Limiter) (limit : RateLimit) : Decidable (PoolsAdmit l limit) :=
  List.decidableBAll _ _

/-- Charge a request to its own bucket and to the linked pools. -/
def charge (l : Limiter) (limit : RateLimit) : Limiter :=
  { l with tokens := fun id =>
      l.tokens id - (if id = limit.limitId then 1 else 0) - weightOf limit.linkedLimits id }

/-- The buckets after some time without requests. -/
def wait (l : Limiter) (time : Rat) : Limiter :=
  { l with tokens := fun id =>
      match l.limits.get? id with
      | some limit =>
          TokenBucket.refill limit.limit (limit.limit / limit.timeInterval) (l.tokens id) time
      | none => l.tokens id }

inductive LimiterLabel where
  /-- time passes -/
  | wait (time : Rat)
  /-- a request is made; it is charged if every bucket admits it -/
  | request (id : String)
  /-- the limit of a keyed endpoint is asked for -/
  | ensureKeyed (endpoint key : String)

def limiterStep (spec : RateLimitSpec) (l : Limiter) : LimiterLabel → Option Limiter
  | .wait time => if 0 ≤ time then some (wait l time) else none
  | .request id =>
      match l.limits.get? id with
      | none => none
      | some limit =>
          some (if 1 ≤ l.tokens id ∧ PoolsAdmit l limit then charge l limit else l)
  | .ensureKeyed endpoint key =>
      match spec.keyedEndpointPools.get? endpoint with
      | none => none
      | some charges => some (ensureKeyedLimit hasLimit keyedLimiter l endpoint key charges).1

/-- The limiter, from the state it was built in. -/
def limiterMachine (spec : RateLimitSpec) (limiter : Limiter) : Machine Limiter LimiterLabel where
  init := limiter
  step := limiterStep spec

/-! ## Declared limits -/

/-- Id of a limit: that of a key carries the key. -/
def suffixed (key : Option String) (name : String) : String :=
  match key with
  | none => name
  | some key => name ++ ":" ++ key

/-- Charges of a static endpoint, or of a keyed one. -/
def RateLimitSpec.chargesOf (spec : RateLimitSpec) (key : Option String) (name : String) :
    Option Charges :=
  match key with
  | none => spec.endpointPools.get? name
  | some _ => spec.keyedEndpointPools.get? name

/-- Capacity of a pool. -/
def capacityOf (pools : Dict String PoolSpec) (name : String) : Int :=
  ((pools.get? name).map PoolSpec.capacity).getD 0

/-- Capacity of an endpoint's bucket: that of the largest pool it charges. -/
def ownCapacity (pools : Dict String PoolSpec) (charges : Charges) : Int :=
  charges.foldl (fun capacity charge => max capacity (capacityOf pools charge.1)) 1

/-- The limit of an endpoint. -/
def endpointLimit (pools : Dict String PoolSpec) (key : Option String) (name : String)
    (charges : Charges) : RateLimit :=
  ⟨suffixed key name, ownCapacity pools charges, 1,
    charges.map fun charge => (suffixed key charge.1, charge.2), "token_bucket"⟩

/-- The limits a spec declares, with the keys that pools and keyed endpoints can have. -/
inductive Declared (spec : RateLimitSpec) : String → RateLimit → Prop where
  | pool (key : Option String) {name : String} {pool : PoolSpec}
      (hname : spec.pools.get? name = some pool) :
      Declared spec (suffixed key name) (poolLimit (suffixed key name) pool)
  | endpoint (key : Option String) {name : String} {charges : Charges}
      (hname : spec.chargesOf key name = some charges)
      (hknown : ∀ charge ∈ charges, charge.1 ∈ spec.pools.keys) :
      Declared spec (suffixed key name) (endpointLimit spec.pools key name charges)

theorem suffixed_inj {key key' : Option String} {name name' : String} (h : ':' ∉ name.toList)
    (h' : ':' ∉ name'.toList) (hid : suffixed key name = suffixed key' name') :
    name = name' ∧ key = key' := by
  cases key with
  | none =>
      cases key' with
      | none => exact ⟨hid, rfl⟩
      | some key' => exact absurd hid (ne_join_colon h)
  | some key =>
      cases key' with
      | none => exact absurd hid.symm (ne_join_colon h')
      | some key' =>
          obtain ⟨hname, hkey⟩ := join_colon_inj h h' hid
          exact ⟨hname, congrArg some hkey⟩

theorem mem_keys_of_get? {β : Type} {d : Dict String β} {name : String} {v : β}
    (h : d.get? name = some v) : name ∈ d.keys :=
  (d.mem_keys_iff).2 (by simp [Dict.contains, h])

namespace RateLimitSpec

variable {spec : RateLimitSpec} {key : Option String} {name : String}

theorem plain_pool {pool : PoolSpec} (h : spec.pools.get? name = some pool) :
    ':' ∉ name.toList :=
  spec.plain name (Or.inl (mem_keys_of_get? h))

theorem mem_keys_of_chargesOf {charges : Charges} (h : spec.chargesOf key name = some charges) :
    name ∈ spec.endpointPools.keys ∨ name ∈ spec.keyedEndpointPools.keys := by
  cases key with
  | none => exact Or.inl (mem_keys_of_get? h)
  | some key => exact Or.inr (mem_keys_of_get? h)

theorem plain_endpoint {charges : Charges} (h : spec.chargesOf key name = some charges) :
    ':' ∉ name.toList :=
  spec.plain name (Or.inr (mem_keys_of_chargesOf h))

/-- No pool has the id of an endpoint. -/
theorem pool_ne_endpoint {key' : Option String} {name' : String} {pool : PoolSpec}
    {charges : Charges} (hpool : spec.pools.get? name = some pool)
    (hcharges : spec.chargesOf key' name' = some charges) :
    suffixed key name ≠ suffixed key' name' := by
  intro hid
  obtain ⟨rfl, -⟩ := suffixed_inj (plain_pool hpool) (plain_endpoint hcharges) hid
  obtain ⟨hstatic, hkeyed⟩ := spec.apart name (mem_keys_of_get? hpool)
  rcases mem_keys_of_chargesOf hcharges with h | h
  · exact hstatic h
  · exact hkeyed h

theorem weights_pos {charges : Charges} (h : spec.chargesOf key name = some charges) :
    ∀ charge ∈ charges, 0 < charge.2 := by
  cases key with
  | none => exact spec.weights name charges (Or.inl h)
  | some key => exact spec.weights name charges (Or.inr h)

end RateLimitSpec

/-- An id is that of one limit only. -/
theorem Declared.unique {spec : RateLimitSpec} {id : String} {limit limit' : RateLimit}
    (h : Declared spec id limit) (h' : Declared spec id limit') : limit = limit' := by
  cases h with
  | pool key hname =>
      generalize hid : suffixed key _ = id at h'
      cases h' with
      | pool key' hname' =>
          obtain ⟨rfl, rfl⟩ := suffixed_inj (RateLimitSpec.plain_pool hname)
            (RateLimitSpec.plain_pool hname') hid
          cases hname.symm.trans hname'
          rfl
      | endpoint key' hname' hknown' =>
          exact absurd hid (RateLimitSpec.pool_ne_endpoint hname hname')
  | endpoint key hname hknown =>
      generalize hid : suffixed key _ = id at h'
      cases h' with
      | pool key' hname' =>
          exact absurd hid.symm (RateLimitSpec.pool_ne_endpoint hname' hname)
      | endpoint key' hname' hknown' =>
          obtain ⟨rfl, rfl⟩ := suffixed_inj (RateLimitSpec.plain_endpoint hname)
            (RateLimitSpec.plain_endpoint hname') hid
          cases hname.symm.trans hname'
          rfl

theorem Declared.limitId {spec : RateLimitSpec} {id : String} {limit : RateLimit}
    (h : Declared spec id limit) : limit.limitId = id := by
  cases h <;> rfl

/-! ## Capacities -/

theorem le_foldl_max (f : String × Int → Int) (charges : Charges) (c : Int) :
    c ≤ charges.foldl (fun capacity charge => max capacity (f charge)) c := by
  induction charges generalizing c with
  | nil => exact le_rfl
  | cons charge charges ih => exact (le_max_left _ _).trans (ih _)

theorem one_le_ownCapacity (pools : Dict String PoolSpec) (charges : Charges) :
    1 ≤ ownCapacity pools charges :=
  le_foldl_max _ _ _

theorem capacityOf_of_get? {pools : Dict String PoolSpec} {name : String} {pool : PoolSpec}
    (h : pools.get? name = some pool) : capacityOf pools name = pool.capacity := by
  rw [capacityOf, h]
  rfl

/-- The bucket of an endpoint is as large as every pool it charges. -/
theorem capacity_le_ownCapacity {pools : Dict String PoolSpec} {charges : Charges}
    {charge : String × Int} (h : charge ∈ charges) :
    capacityOf pools charge.1 ≤ ownCapacity pools charges := by
  unfold ownCapacity
  generalize (1 : Int) = c
  induction charges generalizing c with
  | nil => cases h
  | cons charge' charges ih =>
      rcases List.mem_cons.1 h with rfl | h
      · exact (le_max_right _ _).trans (le_foldl_max (fun c => capacityOf pools c.1) charges _)
      · exact ih h _

theorem foldl_max_eq (f : String × Int → Int) (charges : Charges) (a b : Int) :
    charges.foldl (fun capacity charge => max capacity (f charge)) (max a b) =
      max a (charges.foldl (fun capacity charge => max capacity (f charge)) b) := by
  induction charges generalizing b with
  | nil => rfl
  | cons charge charges ih =>
      rw [List.foldl_cons, List.foldl_cons, max_assoc, ih]

/-- The capacity `_build_limiter` finds. -/
theorem largestCapacity_eq_ok {pools : Dict String PoolSpec} {charges : Charges} {capacity : Int}
    (h : largestCapacity pools charges = .ok capacity) :
    capacity = ownCapacity pools charges ∧ ∀ charge ∈ charges, charge.1 ∈ pools.keys := by
  induction charges generalizing capacity with
  | nil => cases h
  | cons charge charges ih =>
      obtain ⟨name, weight⟩ := charge
      cases hname : pools.get? name with
      | none => simp [largestCapacity, hname] at h
      | some pool =>
          have hpos := pool.capacity_pos
          have hcapacity := capacityOf_of_get? hname
          have hone : max 1 (capacityOf pools name) = pool.capacity := by
            rw [hcapacity]
            omega
          cases charges with
          | nil =>
              simp only [largestCapacity, hname, List.isEmpty_nil, if_true, Except.ok.injEq] at h
              refine ⟨?_, by simpa using mem_keys_of_get? hname⟩
              rw [ownCapacity, List.foldl_cons, List.foldl_nil, hone, h]
          | cons charge' charges =>
              have hmap : (largestCapacity pools (charge' :: charges)).map (max pool.capacity) =
                  .ok capacity := by
                unfold largestCapacity at h
                simpa only [hname, List.isEmpty_cons, Bool.false_eq_true, if_false] using h
              obtain ⟨rest, hrest, rfl⟩ := map_eq_ok.1 hmap
              obtain ⟨hcap, hknown⟩ := ih hrest
              refine ⟨?_, List.forall_mem_cons.2 ⟨mem_keys_of_get? hname, hknown⟩⟩
              have hone' : max pool.capacity 1 = pool.capacity := max_eq_left hpos
              rw [ownCapacity, List.foldl_cons, hone, ← hone',
                foldl_max_eq (fun c => capacityOf pools c.1), hone', hcap]
              rfl

/-! ## Registering limits -/

/-- The pools of the charges are registered, for the key. -/
def PoolsRegistered (spec : RateLimitSpec) (l : Limiter) (key : Option String)
    (charges : Charges) : Prop :=
  ∀ charge ∈ charges, ∀ pool, spec.pools.get? charge.1 = some pool →
    l.limits.get? (suffixed key charge.1) = some (poolLimit (suffixed key charge.1) pool)

/-- All limits are declared, and endpoints have their pools. -/
structure Registry (spec : RateLimitSpec) (l : Limiter) : Prop where
  declared : ∀ id limit, l.limits.get? id = some limit → Declared spec id limit
  linked : ∀ key name charges, spec.chargesOf key name = some charges →
    (l.limits.get? (suffixed key name)).isSome → PoolsRegistered spec l key charges

/-- Every bucket is full. -/
def Full (l : Limiter) : Prop :=
  ∀ id limit, l.limits.get? id = some limit → l.tokens id = limit.limit

/-- Registered limits stay as they are, and new ones are full. -/
structure Extends (l l' : Limiter) : Prop where
  limits : ∀ id limit, l.limits.get? id = some limit → l'.limits.get? id = some limit
  tokens : ∀ id limit, l.limits.get? id = some limit → l'.tokens id = l.tokens id
  fresh : ∀ id limit, l'.limits.get? id = some limit → l.limits.get? id = none →
    l'.tokens id = limit.limit

theorem Extends.refl (l : Limiter) : Extends l l where
  limits _ _ h := h
  tokens _ _ _ := rfl
  fresh id limit h hnone := by
    rw [h] at hnone
    cases hnone

theorem Extends.trans {l l' l'' : Limiter} (h : Extends l l') (h' : Extends l' l'') :
    Extends l l'' where
  limits id limit hid := h'.limits id limit (h.limits id limit hid)
  tokens id limit hid := (h'.tokens id limit (h.limits id limit hid)).trans (h.tokens id limit hid)
  fresh id limit hid hnone := by
    cases hmid : l'.limits.get? id with
    | none => exact h'.fresh id limit hid hmid
    | some limit' =>
        have hlater := h'.limits id limit' hmid
        rw [hid] at hlater
        cases hlater
        rw [h'.tokens id limit hmid, h.fresh id limit hmid hnone]

theorem Full.extend {l l' : Limiter} (h : Full l) (hext : Extends l l') : Full l' := by
  intro id limit hid
  cases hbefore : l.limits.get? id with
  | none => exact hext.fresh id limit hid hbefore
  | some limit' =>
      have hlater := hext.limits id limit' hbefore
      rw [hid] at hlater
      cases hlater
      rw [hext.tokens id limit hbefore, h id limit hbefore]

theorem PoolsRegistered.extend {spec : RateLimitSpec} {l l' : Limiter} {key : Option String}
    {charges : Charges} (h : PoolsRegistered spec l key charges) (hext : Extends l l') :
    PoolsRegistered spec l' key charges :=
  fun charge hcharge pool hpool => hext.limits _ _ (h charge hcharge pool hpool)

/-- A limit is registered that is declared, and under whose id no used bucket stands. -/
theorem addLimit_extends {spec : RateLimitSpec} {l : Limiter} (hl : Registry spec l)
    {limit : RateLimit} (hdeclared : Declared spec limit.limitId limit)
    (hunused : ∀ limit', l.limits.get? limit.limitId = some limit' →
      l.tokens limit.limitId = limit'.limit) : Extends l (addLimit l limit) where
  limits id limit' hid := by
    simp only [addLimit, Dict.get?_set]
    split_ifs with heq
    · subst heq
      rw [hdeclared.unique (hl.declared _ _ hid)]
    · exact hid
  tokens id limit' hid := by
    by_cases heq : id = limit.limitId
    · subst heq
      rw [hunused limit' hid, ← hdeclared.unique (hl.declared _ _ hid)]
      exact Function.update_self _ _ _
    · exact Function.update_of_ne heq _ _
  fresh id limit' hid hnone := by
    simp only [addLimit, Dict.get?_set] at hid
    split_ifs at hid with heq
    · cases hid
      subst heq
      exact Function.update_self _ _ _
    · rw [hnone] at hid
      cases hid

theorem addLimit_registry {spec : RateLimitSpec} {l : Limiter} (hl : Registry spec l)
    {limit : RateLimit} (hdeclared : Declared spec limit.limitId limit)
    (hext : Extends l (addLimit l limit))
    (hlinked : ∀ key name charges, spec.chargesOf key name = some charges →
      suffixed key name = limit.limitId → PoolsRegistered spec l key charges) :
    Registry spec (addLimit l limit) where
  declared id limit' hid := by
    simp only [addLimit, Dict.get?_set] at hid
    split_ifs at hid with heq
    · cases hid
      rw [heq]
      exact hdeclared
    · exact hl.declared id limit' hid
  linked key name charges hcharges hsome := by
    simp only [addLimit, Dict.get?_set] at hsome
    split_ifs at hsome with heq
    · exact (hlinked key name charges hcharges heq).extend hext
    · exact (hl.linked key name charges hcharges hsome).extend hext

theorem get?_addLimit (l : Limiter) (limit : RateLimit) :
    (addLimit l limit).limits.get? limit.limitId = some limit :=
  Dict.get?_set_self _ _ _

/-- A pool is registered. -/
theorem addLimit_pool {spec : RateLimitSpec} {l : Limiter} (hl : Registry spec l)
    {key : Option String} {name : String} {pool : PoolSpec}
    (hname : spec.pools.get? name = some pool)
    (hunused : ∀ limit', l.limits.get? (suffixed key name) = some limit' →
      l.tokens (suffixed key name) = limit'.limit) :
    Extends l (addLimit l (poolLimit (suffixed key name) pool)) ∧
      Registry spec (addLimit l (poolLimit (suffixed key name) pool)) := by
  have hdeclared : Declared spec (poolLimit (suffixed key name) pool).limitId _ := .pool key hname
  have hext := addLimit_extends hl hdeclared hunused
  refine ⟨hext, addLimit_registry hl hdeclared hext fun key' name' charges hcharges hid => ?_⟩
  exact absurd hid.symm (RateLimitSpec.pool_ne_endpoint hname hcharges)

/-- An endpoint is registered whose pools are. -/
theorem addLimit_endpoint {spec : RateLimitSpec} {l : Limiter} (hl : Registry spec l)
    {key : Option String} {name : String} {charges : Charges}
    (hname : spec.chargesOf key name = some charges)
    (hknown : ∀ charge ∈ charges, charge.1 ∈ spec.pools.keys)
    (hunused : ∀ limit', l.limits.get? (suffixed key name) = some limit' →
      l.tokens (suffixed key name) = limit'.limit)
    (hlinked : PoolsRegistered spec l key charges) :
    Extends l (addLimit l (endpointLimit spec.pools key name charges)) ∧
      Registry spec (addLimit l (endpointLimit spec.pools key name charges)) := by
  have hdeclared : Declared spec (endpointLimit spec.pools key name charges).limitId _ :=
    .endpoint key hname hknown
  have hext := addLimit_extends hl hdeclared hunused
  refine ⟨hext, addLimit_registry hl hdeclared hext fun key' name' charges' hcharges hid => ?_⟩
  obtain ⟨rfl, rfl⟩ := suffixed_inj (RateLimitSpec.plain_endpoint hcharges)
    (RateLimitSpec.plain_endpoint hname) hid
  cases hname.symm.trans hcharges
  exact hlinked

/-! ## Building -/

/-- The pools are registered one after the other. -/
theorem foldl_addLimit {spec : RateLimitSpec} {pools : List PoolSpec} {l : Limiter}
    (hl : Registry spec l) (hfull : Full l)
    (hpools : ∀ pool ∈ pools, spec.pools.get? pool.name = some pool) :
    Extends l ((pools.map poolToRateLimit).foldl addLimit l) ∧
      Registry spec ((pools.map poolToRateLimit).foldl addLimit l) ∧
      ∀ pool ∈ pools, ((pools.map poolToRateLimit).foldl addLimit l).limits.get? pool.name =
        some (poolToRateLimit pool) := by
  induction pools generalizing l with
  | nil => exact ⟨.refl l, hl, by simp⟩
  | cons pool pools ih =>
      rw [List.forall_mem_cons] at hpools
      obtain ⟨hext, hregistry⟩ : Extends l (addLimit l (poolToRateLimit pool)) ∧
          Registry spec (addLimit l (poolToRateLimit pool)) :=
        @addLimit_pool spec l hl none pool.name pool hpools.1 fun limit' hid => hfull _ _ hid
      obtain ⟨hrest, hall, hothers⟩ := ih hregistry (hfull.extend hext) hpools.2
      refine ⟨hext.trans hrest, hall, List.forall_mem_cons.2 ⟨?_, hothers⟩⟩
      exact hrest.limits _ _ (get?_addLimit l (poolToRateLimit pool))

/-- The endpoints are registered one after the other. -/
theorem addEndpoints_eq_ok {spec : RateLimitSpec} {endpoints : List (String × Charges)}
    {l l' : Limiter} (hl : Registry spec l) (hfull : Full l)
    (hpools : ∀ name pool, spec.pools.get? name = some pool →
      l.limits.get? name = some (poolLimit name pool))
    (hendpoints : ∀ e ∈ endpoints, spec.endpointPools.get? e.1 = some e.2)
    (h : addEndpoints spec.pools endpoints l = .ok l') :
    Extends l l' ∧ Registry spec l' ∧ ∀ e ∈ endpoints, (l'.limits.get? e.1).isSome := by
  induction endpoints generalizing l with
  | nil =>
      cases h
      exact ⟨.refl _, hl, by simp⟩
  | cons e endpoints ih =>
      obtain ⟨name, charges⟩ := e
      rw [List.forall_mem_cons] at hendpoints
      simp only [addEndpoints] at h
      split at h
      · cases h
      · rename_i capacity hcapacity
        obtain ⟨rfl, hknown⟩ := largestCapacity_eq_ok hcapacity
        have hname : spec.chargesOf none name = some charges := hendpoints.1
        have hlimit : (⟨name, ownCapacity spec.pools charges, 1, charges, "token_bucket"⟩ :
            RateLimit) = endpointLimit spec.pools none name charges := by
          simp [endpointLimit, suffixed]
        rw [hlimit] at h
        obtain ⟨hext, hregistry⟩ := addLimit_endpoint hl hname hknown
          (fun limit' hid => hfull _ _ hid) fun charge hcharge pool hpool => hpools _ pool hpool
        obtain ⟨hrest, hall, hothers⟩ := ih hregistry (hfull.extend hext)
          (fun name' pool hpool => hext.limits _ _ (hpools name' pool hpool)) hendpoints.2 h
        refine ⟨hext.trans hrest, hall, List.forall_mem_cons.2 ⟨?_, hothers⟩⟩
        have hadded := hrest.limits _ _
          (get?_addLimit l (endpointLimit spec.pools none name charges))
        exact Option.isSome_of_eq_some hadded

/-- What holds of the limiter whenever it is used. -/
structure RegistryInv (spec : RateLimitSpec) (l : Limiter) : Prop where
  registry : Registry spec l
  pools : ∀ name pool, spec.pools.get? name = some pool →
    l.limits.get? name = some (poolLimit name pool)
  static : ∀ name charges, spec.endpointPools.get? name = some charges →
    (l.limits.get? name).isSome
  holds : ∀ id limit, l.limits.get? id = some limit → l.tokens id ≤ limit.limit

/-- A limiter is built with the pools and static endpoints of the spec, all full. -/
theorem buildLimiter_eq_ok {spec : RateLimitSpec} {limiter : Limiter}
    (h : buildLimiter spec = .ok limiter) : RegistryInv spec limiter ∧ Full limiter := by
  have hnone : ∀ id limit, Limiter.empty.limits.get? id ≠ some limit := by
    intro id limit hid
    cases hid
  have hempty : Registry spec .empty := by
    refine ⟨fun id limit hid => absurd hid (hnone id limit), fun key name charges _ hsome => ?_⟩
    cases hsome
  have hunused : Full .empty := fun id limit hid => absurd hid (hnone id limit)
  have hnamed : ∀ pool ∈ spec.pools.values, spec.pools.get? pool.name = some pool := by
    intro pool hpool
    obtain ⟨name, hname⟩ := (spec.pools.mem_values_iff).1 hpool
    rw [spec.named name pool hname]
    exact hname
  obtain ⟨hext, hregistry, hpools⟩ := foldl_addLimit hempty hunused hnamed
  have hfull := hunused.extend hext
  have hall : ∀ name pool, spec.pools.get? name = some pool →
      ((spec.pools.values.map poolToRateLimit).foldl addLimit .empty).limits.get? name =
        some (poolLimit name pool) := by
    intro name pool hname
    have hadded := hpools pool ((spec.pools.mem_values_iff).2 ⟨name, hname⟩)
    rw [poolToRateLimit, spec.named name pool hname] at hadded
    exact hadded
  obtain ⟨hlast, hdone, hstatic⟩ := addEndpoints_eq_ok hregistry hfull hall
    (fun e he => (spec.endpointPools.mem_entries_iff).1 he) h
  have hfull' := hfull.extend hlast
  refine ⟨⟨hdone, fun name pool hname => hlast.limits _ _ (hall name pool hname),
    fun name charges hname => hstatic _ ((spec.endpointPools.mem_entries_iff).2 hname),
    fun id limit hid => (hfull' id limit hid).le⟩, hfull'⟩

/-! ## Steps -/

/-- The pools of a key are registered, if they are not yet. -/
theorem ensurePools_eq {spec : RateLimitSpec} (limitId key : String) {charges : Charges}
    (hknown : ∀ charge ∈ charges, charge.1 ∈ spec.pools.keys) (capacity : Int) {l : Limiter}
    (hl : Registry spec l) (hpools : ∀ name pool, spec.pools.get? name = some pool →
      l.limits.get? name = some (poolLimit name pool)) :
    ∃ l', ensurePools hasLimit keyedLimiter limitId key charges capacity l =
        (l', .ok (charges.foldl
          (fun capacity charge => max capacity (capacityOf spec.pools charge.1)) capacity)) ∧
      Extends l l' ∧ Registry spec l' ∧ PoolsRegistered spec l' (some key) charges := by
  induction charges generalizing l capacity with
  | nil => exact ⟨l, rfl, .refl l, hl, fun _ hcharge => by cases hcharge⟩
  | cons charge charges ih =>
      obtain ⟨name, weight⟩ := charge
      rw [List.forall_mem_cons] at hknown
      obtain ⟨pool, hname⟩ := Option.isSome_iff_exists.1 ((spec.pools.mem_keys_iff).1 hknown.1)
      have htemplate : keyedLimiter.getRawLimit l name = some (poolLimit name pool) :=
        hpools name pool hname
      have hcapacity := capacityOf_of_get? hname
      obtain ⟨l₁, hl₁, hext, hregistry, hkeyed⟩ : ∃ l₁,
          (if hasLimit l (name ++ ":" ++ key) then l
            else addLimit l (poolLimit (name ++ ":" ++ key) pool)) = l₁ ∧
          Extends l l₁ ∧ Registry spec l₁ ∧
          l₁.limits.get? (name ++ ":" ++ key) = some (poolLimit (name ++ ":" ++ key) pool) := by
        refine ⟨_, rfl, ?_⟩
        cases hpresent : l.limits.get? (name ++ ":" ++ key) with
        | some limit =>
            rw [if_pos (by simp [hasLimit, Dict.contains, hpresent])]
            refine ⟨.refl l, hl, ?_⟩
            rw [hpresent, (hl.declared _ _ hpresent).unique (.pool (some key) hname)]
            rfl
        | none =>
            rw [if_neg (by simp [hasLimit, Dict.contains, hpresent])]
            obtain ⟨hext, hregistry⟩ := @addLimit_pool spec l hl (some key) name pool hname
              fun limit' hid => by
                rw [suffixed, hpresent] at hid
                cases hid
            exact ⟨hext, hregistry, get?_addLimit l _⟩
      obtain ⟨l', hl', hrest, hdone, hothers⟩ := ih hknown.2
        (max capacity (capacityOf spec.pools name)) hregistry
        fun name' pool' hname' => hext.limits _ _ (hpools name' pool' hname')
      refine ⟨l', ?_, hext.trans hrest, hdone, ?_⟩
      · rw [ensurePools, htemplate, List.foldl_cons]
        rw [← hl₁, hcapacity] at hl'
        dsimp only
        rw [hcapacity]
        exact hl'
      · intro charge hcharge pool' hpool'
        rcases List.mem_cons.1 hcharge with rfl | hlater
        · cases hname.symm.trans hpool'
          exact hrest.limits _ _ hkeyed
        · exact hothers charge hlater pool' hpool'

/-- The limit of a keyed endpoint is registered, if it is not yet. -/
theorem ensureKeyedLimit_extends {spec : RateLimitSpec} {l : Limiter} (h : RegistryInv spec l)
    {name : String} {charges : Charges}
    (hname : spec.keyedEndpointPools.get? name = some charges) (key : String) :
    Extends l (ensureKeyedLimit hasLimit keyedLimiter l name key charges).1 ∧
      Registry spec (ensureKeyedLimit hasLimit keyedLimiter l name key charges).1 ∧
      ((ensureKeyedLimit hasLimit keyedLimiter l name key charges).1.limits.get?
        (suffixed (some key) name)).isSome := by
  unfold ensureKeyedLimit
  cases hpresent : l.limits.get? (name ++ ":" ++ key) with
  | some limit =>
      rw [if_pos (by simp [hasLimit, Dict.contains, hpresent])]
      exact ⟨.refl l, h.registry, by simp [suffixed, hpresent]⟩
  | none =>
      rw [if_neg (by simp [hasLimit, Dict.contains, hpresent])]
      have hknown := spec.known name charges hname
      obtain ⟨l', hl', hext, hregistry, hlinked⟩ :=
        ensurePools_eq (name ++ ":" ++ key) key hknown 1 h.registry h.pools
      rw [hl']
      have hcharges : spec.chargesOf (some key) name = some charges := hname
      have hunused : ∀ limit', l'.limits.get? (suffixed (some key) name) = some limit' →
          l'.tokens (suffixed (some key) name) = limit'.limit :=
        fun limit' hid => hext.fresh _ _ hid hpresent
      obtain ⟨hlast, hdone⟩ := addLimit_endpoint hregistry hcharges hknown hunused hlinked
      refine ⟨hext.trans hlast, hdone, ?_⟩
      have hadded := get?_addLimit l' (endpointLimit spec.pools (some key) name charges)
      exact Option.isSome_of_eq_some hadded

theorem RegistryInv.extend {spec : RateLimitSpec} {l l' : Limiter} (h : RegistryInv spec l)
    (hext : Extends l l') (hregistry : Registry spec l') : RegistryInv spec l' := by
  refine ⟨hregistry, fun name pool hname => hext.limits _ _ (h.pools name pool hname),
    fun name charges hname => ?_, fun id limit hid => ?_⟩
  · obtain ⟨limit, hid⟩ := Option.isSome_iff_exists.1 (h.static name charges hname)
    exact Option.isSome_of_eq_some (hext.limits _ _ hid)
  · cases hbefore : l.limits.get? id with
    | none => exact (hext.fresh id limit hid hbefore).le
    | some limit' =>
        have hlater := hext.limits id limit' hbefore
        rw [hid] at hlater
        cases hlater
        rw [hext.tokens id limit hbefore]
        exact h.holds id limit hbefore

theorem weightOf_nonneg {linked : Charges} (h : ∀ charge ∈ linked, 0 < charge.2) (id : String) :
    0 ≤ weightOf linked id := by
  refine List.sum_nonneg fun w hw => ?_
  obtain ⟨charge, hcharge, rfl⟩ := List.mem_map.1 hw
  exact (h charge (List.mem_filter.1 hcharge).1).le

theorem Registry.linked_pos {spec : RateLimitSpec} {l : Limiter} (h : Registry spec l)
    {id : String} {limit : RateLimit} (hid : l.limits.get? id = some limit) :
    ∀ charge ∈ limit.linkedLimits, 0 < charge.2 := by
  cases h.declared id limit hid with
  | pool key hname =>
      intro charge hcharge
      cases hcharge
  | endpoint key hname hknown =>
      intro charge hcharge
      obtain ⟨charge', hcharge', rfl⟩ := List.mem_map.1 hcharge
      exact RateLimitSpec.weights_pos hname charge' hcharge'

/-- A request takes tokens away. -/
theorem charge_tokens_le {l : Limiter} {limit : RateLimit}
    (hpos : ∀ charge ∈ limit.linkedLimits, 0 < charge.2) (id : String) :
    (charge l limit).tokens id ≤ l.tokens id := by
  have hweight : (0 : Rat) ≤ weightOf limit.linkedLimits id :=
    Int.cast_nonneg (weightOf_nonneg hpos id)
  simp only [charge]
  split_ifs <;> linarith

/-- Every step keeps to the limits that the spec declares. -/
theorem RegistryInv.step {spec : RateLimitSpec} {l l' : Limiter} {label : LimiterLabel}
    (h : RegistryInv spec l) (hstep : limiterStep spec l label = some l') :
    RegistryInv spec l' := by
  cases label with
  | wait time =>
      simp only [limiterStep] at hstep
      split_ifs at hstep with htime
      cases hstep
      refine ⟨⟨h.registry.declared, h.registry.linked⟩, h.pools, h.static,
        fun id limit hid => ?_⟩
      have hregistered : l.limits.get? id = some limit := hid
      simp only [wait, hregistered]
      exact TokenBucket.refill_le_capacity _ _ _ _
  | request id =>
      simp only [limiterStep] at hstep
      split at hstep
      · cases hstep
      · rename_i limit hid
        cases hstep
        split_ifs with hadmits
        · refine ⟨⟨h.registry.declared, h.registry.linked⟩, h.pools, h.static,
            fun id' limit' hid' => ?_⟩
          exact (charge_tokens_le (h.registry.linked_pos hid) id').trans (h.holds id' limit' hid')
        · exact h
  | ensureKeyed endpoint key =>
      simp only [limiterStep] at hstep
      split at hstep
      · cases hstep
      · rename_i charges hname
        cases hstep
        obtain ⟨hext, hregistry, -⟩ := ensureKeyedLimit_extends h hname key
        exact h.extend hext hregistry

end RateLimits
end MarketConnector
