import MarketConnector.RateLimits.Limiter

/-!
# RateLimits - Endpoint buckets and their pools

The bucket of an endpoint is to admit every request that the pools of the endpoint admit.  It
has the capacity `C` of the largest pool and is refilled with `C` tokens a second, whatever the
pools are refilled with.

Main results:

- Theorem `Ahead.step`: a pool that is refilled slowly enough stays behind the bucket.
- Theorem `Round.next`: pools that are refilled fast enough are full again each period.
- Theorem `endpoint_neverBinds_iff`: the endpoints whose bucket never binds.
- Theorem `fast_pool_is_bound`: a pool of one token, refilled ten times a second.
-/

namespace MarketConnector
namespace RateLimits

open Foundations Kraken

/-! ## The property -/

/-- When the pools of the endpoint admit a request, its own bucket does. -/
def OwnAdmits (id : String) (l : Limiter) : LimiterLabel → Prop
  | .request id' => id' = id → ∀ limit, l.limits.get? id = some limit →
      PoolsAdmit l limit → 1 ≤ l.tokens id
  | _ => True

/-- The own bucket admits what the pools admit, at every time of every schedule. -/
def NeverBinds (spec : RateLimitSpec) (limiter : Limiter) (id : String) : Prop :=
  ∀ ls, (limiterMachine spec limiter).AllSteps (OwnAdmits id) limiter ls

/-- The pool refills no faster than the own bucket does, in requests, or admits none. -/
def PoolBindsFirst (spec : RateLimitSpec) (charges : Charges) (name : String) : Prop :=
  ∃ pool, spec.pools.get? name = some pool ∧
    (pool.refillRate ≤ weightOf charges name * ownCapacity spec.pools charges ∨
      (pool.capacity : Rat) < weightOf charges name)

/-! ## What an endpoint's limit is -/

theorem weightOf_eq_zero {linked : Charges} {id : String} (h : ∀ charge ∈ linked, charge.1 ≠ id) :
    weightOf linked id = 0 := by
  have hnone : linked.filter (fun charge => charge.1 = id) = [] := by
    rw [List.filter_eq_nil_iff]
    exact fun charge hcharge => by simpa using h charge hcharge
  simp [weightOf, hnone]

/-- The charge of a pool's copy for a key is that of the pool. -/
theorem weightOf_suffixed (key : Option String) {charges : Charges} {name : String}
    (hcharges : ∀ charge ∈ charges, ':' ∉ charge.1.toList) (hname : ':' ∉ name.toList) :
    weightOf (charges.map fun charge => (suffixed key charge.1, charge.2)) (suffixed key name) =
      weightOf charges name := by
  have hsame : (charges.map fun charge => (suffixed key charge.1, charge.2)).filter
      (fun charge => charge.1 = suffixed key name) =
      (charges.filter fun charge => charge.1 = name).map
        fun charge => (suffixed key charge.1, charge.2) := by
    rw [List.filter_map]
    congr 1
    refine List.filter_congr fun charge hcharge => ?_
    have hiff : suffixed key charge.1 = suffixed key name ↔ charge.1 = name :=
      ⟨fun hid => (suffixed_inj (hcharges charge hcharge) hname hid).1, fun hid => by rw [hid]⟩
    simp [hiff]
  simp [weightOf, hsame, Function.comp_def]

theorem one_le_weightOf {charges : Charges} (hpos : ∀ charge ∈ charges, 0 < charge.2)
    {charge : String × Int} (h : charge ∈ charges) : 1 ≤ weightOf charges charge.1 := by
  have hmem : charge.2 ∈ (charges.filter fun c => c.1 = charge.1).map Prod.snd :=
    List.mem_map_of_mem (List.mem_filter.2 ⟨h, by simp⟩)
  have hle : charge.2 ≤ weightOf charges charge.1 := by
    refine List.single_le_sum (fun w hw => ?_) _ hmem
    obtain ⟨c, hc, rfl⟩ := List.mem_map.1 hw
    exact (hpos c (List.mem_filter.1 hc).1).le
  exact (hpos charge h).trans_le hle

/-- The registered limit of an endpoint is the one its charges give. -/
theorem Registry.endpoint_eq {spec : RateLimitSpec} {l : Limiter} (h : Registry spec l)
    {key : Option String} {name : String} {charges : Charges}
    (hname : spec.chargesOf key name = some charges) {limit : RateLimit}
    (hid : l.limits.get? (suffixed key name) = some limit) :
    limit = endpointLimit spec.pools key name charges ∧
      ∀ charge ∈ charges, charge.1 ∈ spec.pools.keys := by
  have hdeclared := h.declared _ _ hid
  generalize heq : suffixed key name = id at hdeclared
  cases hdeclared with
  | pool key' hpool => exact absurd heq.symm (RateLimitSpec.pool_ne_endpoint hpool hname)
  | endpoint key' hname' hknown =>
      obtain ⟨rfl, rfl⟩ := suffixed_inj (RateLimitSpec.plain_endpoint hname)
        (RateLimitSpec.plain_endpoint hname') heq
      cases hname.symm.trans hname'
      exact ⟨rfl, hknown⟩

/-- No limit is linked to an endpoint's. -/
theorem Registry.weightOf_endpoint {spec : RateLimitSpec} {l : Limiter} (h : Registry spec l)
    {key : Option String} {name : String} {charges : Charges}
    (hname : spec.chargesOf key name = some charges) {id : String} {limit : RateLimit}
    (hid : l.limits.get? id = some limit) :
    weightOf limit.linkedLimits (suffixed key name) = 0 := by
  refine weightOf_eq_zero fun charge hcharge => ?_
  cases h.declared id limit hid with
  | pool key' hpool => cases hcharge
  | endpoint key' hname' hknown =>
      obtain ⟨charge', hcharge', rfl⟩ := List.mem_map.1 hcharge
      obtain ⟨pool, hpool⟩ :=
        Option.isSome_iff_exists.1 ((spec.pools.mem_keys_iff).1 (hknown charge' hcharge'))
      exact RateLimitSpec.pool_ne_endpoint hpool hname

/-! ## Levels -/

theorem poolLimit_rate (id : String) (pool : PoolSpec) :
    ((poolLimit id pool).limit : Rat) / (poolLimit id pool).timeInterval = pool.refillRate := by
  have hcapacity : (pool.capacity : Rat) ≠ 0 := by exact_mod_cast pool.capacity_pos.ne'
  have hrate := pool.refillRate_pos.ne'
  simp only [poolLimit]
  field_simp

theorem wait_pool {l : Limiter} {id : String} {pool : PoolSpec}
    (hid : l.limits.get? id = some (poolLimit id pool)) (time : Rat) :
    (wait l time).tokens id =
      TokenBucket.refill (pool.capacity : Rat) pool.refillRate (l.tokens id) time := by
  simp only [wait, hid, poolLimit_rate]
  rfl

theorem wait_endpoint {l : Limiter} {pools : Dict String PoolSpec} {key : Option String}
    {name : String} {charges : Charges}
    (hid : l.limits.get? (suffixed key name) = some (endpointLimit pools key name charges))
    (time : Rat) :
    (wait l time).tokens (suffixed key name) = TokenBucket.refill (ownCapacity pools charges : Rat)
      (ownCapacity pools charges) (l.tokens (suffixed key name)) time := by
  simp only [wait, hid, endpointLimit, div_one]

/-! ## A slow pool -/

section SlowPool

variable {spec : RateLimitSpec} {key : Option String} {name : String} {charges : Charges}
  {charge : String × Int} {pool : PoolSpec}

/-- The pool holds no more requests than the endpoint's bucket. -/
structure Ahead (spec : RateLimitSpec) (key : Option String) (name : String) (charges : Charges)
    (pool : String) (l : Limiter) : Prop where
  inv : RegistryInv spec l
  ahead : (l.limits.get? (suffixed key name)).isSome →
    l.tokens (suffixed key pool) ≤ weightOf charges pool * l.tokens (suffixed key name)

/-- A pool is no larger than the endpoint's bucket. -/
theorem capacity_le_mul (hname : spec.chargesOf key name = some charges)
    (hcharge : charge ∈ charges) (hpool : spec.pools.get? charge.1 = some pool) :
    (pool.capacity : Rat) ≤ weightOf charges charge.1 * ownCapacity spec.pools charges := by
  have hcapacity : capacityOf spec.pools charge.1 ≤ ownCapacity spec.pools charges :=
    capacity_le_ownCapacity hcharge
  rw [capacityOf_of_get? hpool] at hcapacity
  have hweight := one_le_weightOf (RateLimitSpec.weights_pos hname) hcharge
  have hown := one_le_ownCapacity spec.pools charges
  have hmul : ownCapacity spec.pools charges ≤
      weightOf charges charge.1 * ownCapacity spec.pools charges :=
    le_mul_of_one_le_left (by omega) hweight
  exact_mod_cast hcapacity.trans hmul

/-- It is so when the endpoint's bucket is full. -/
theorem Ahead.of_full {l : Limiter} (hinv : RegistryInv spec l)
    (hname : spec.chargesOf key name = some charges) (hcharge : charge ∈ charges)
    (hpool : spec.pools.get? charge.1 = some pool)
    (hfull : ∀ limit, l.limits.get? (suffixed key name) = some limit →
      l.tokens (suffixed key name) = limit.limit) : Ahead spec key name charges charge.1 l := by
  refine ⟨hinv, fun hsome => ?_⟩
  obtain ⟨limit, hid⟩ := Option.isSome_iff_exists.1 hsome
  obtain ⟨rfl, -⟩ := hinv.registry.endpoint_eq hname hid
  have hregistered := hinv.registry.linked key name charges hname hsome charge hcharge pool hpool
  rw [hfull _ hid]
  exact (hinv.holds _ _ hregistered).trans (capacity_le_mul hname hcharge hpool)

/-- The pool is refilled no faster than the bucket. -/
theorem Ahead.tokens_wait {l : Limiter} (h : Ahead spec key name charges charge.1 l)
    (hname : spec.chargesOf key name = some charges) (hcharge : charge ∈ charges)
    (hpool : spec.pools.get? charge.1 = some pool)
    (hslow : pool.refillRate ≤ weightOf charges charge.1 * ownCapacity spec.pools charges)
    {time : Rat} (htime : 0 ≤ time) (hsome : (l.limits.get? (suffixed key name)).isSome) :
    (wait l time).tokens (suffixed key charge.1) ≤
      weightOf charges charge.1 * (wait l time).tokens (suffixed key name) := by
  have hweight : (0 : Rat) ≤ weightOf charges charge.1 :=
    Int.cast_nonneg (weightOf_nonneg (RateLimitSpec.weights_pos hname) _)
  obtain ⟨limit, hid⟩ := Option.isSome_iff_exists.1 hsome
  obtain ⟨rfl, -⟩ := h.inv.registry.endpoint_eq hname hid
  have hregistered :=
    h.inv.registry.linked key name charges hname hsome charge hcharge pool hpool
  rw [wait_pool hregistered, wait_endpoint hid]
  exact TokenBucket.refill_le_mul_refill hweight htime
    (capacity_le_mul hname hcharge hpool) hslow (h.ahead hsome)

/-- A request of the endpoint costs the pool its weight and the bucket one token; another
request costs the bucket nothing. -/
theorem Ahead.tokens_charge {l : Limiter} (h : Ahead spec key name charges charge.1 l)
    (hname : spec.chargesOf key name = some charges) (hcharge : charge ∈ charges)
    (hpool : spec.pools.get? charge.1 = some pool) {id : String} {limit : RateLimit}
    (hid : l.limits.get? id = some limit)
    (hsome : (l.limits.get? (suffixed key name)).isSome) :
    (RateLimits.charge l limit).tokens (suffixed key charge.1) ≤
      weightOf charges charge.1 * (RateLimits.charge l limit).tokens (suffixed key name) := by
  have hbefore := h.ahead hsome
  have hlimitId := (h.inv.registry.declared id limit hid).limitId
  have hself := h.inv.registry.weightOf_endpoint hname hid
  by_cases hown : id = suffixed key name
  · subst hown
    obtain ⟨rfl, hknown⟩ := h.inv.registry.endpoint_eq hname hid
    have hplain : ∀ c ∈ charges, ':' ∉ c.1.toList :=
      fun c hc => spec.plain _ (Or.inl (hknown c hc))
    have hcharged := weightOf_suffixed key hplain (hplain charge hcharge)
    have hne : suffixed key charge.1 ≠ suffixed key name :=
      RateLimitSpec.pool_ne_endpoint hpool hname
    simp only [RateLimits.charge, hlimitId, hne, if_false, if_true, hself]
    simp only [endpointLimit, hcharged]
    push_cast
    linarith
  · have hless : (RateLimits.charge l limit).tokens (suffixed key charge.1) ≤
        l.tokens (suffixed key charge.1) :=
      charge_tokens_le (h.inv.registry.linked_pos hid) _
    have hsame : (RateLimits.charge l limit).tokens (suffixed key name) =
        l.tokens (suffixed key name) := by
      simp [RateLimits.charge, hlimitId, Ne.symm hown, hself]
    rw [hsame]
    exact hless.trans hbefore

/-- A pool that refills no faster than the endpoint's bucket stays behind it. -/
theorem Ahead.step {l l' : Limiter} {label : LimiterLabel}
    (h : Ahead spec key name charges charge.1 l)
    (hname : spec.chargesOf key name = some charges) (hcharge : charge ∈ charges)
    (hpool : spec.pools.get? charge.1 = some pool)
    (hslow : pool.refillRate ≤ weightOf charges charge.1 * ownCapacity spec.pools charges)
    (hstep : limiterStep spec l label = some l') : Ahead spec key name charges charge.1 l' := by
  have hinv' := h.inv.step hstep
  cases label with
  | wait time =>
      simp only [limiterStep] at hstep
      split_ifs at hstep with htime
      cases hstep
      exact ⟨hinv', h.tokens_wait hname hcharge hpool hslow htime⟩
  | request id =>
      simp only [limiterStep] at hstep
      split at hstep
      · cases hstep
      · rename_i limit hid
        split_ifs at hstep with hadmits
        · cases hstep
          exact ⟨hinv', h.tokens_charge hname hcharge hpool hid⟩
        · cases hstep
          exact h
  | ensureKeyed endpoint key' =>
      simp only [limiterStep] at hstep
      split at hstep
      · cases hstep
      · rename_i charges' hkeyed
        cases hstep
        obtain ⟨hext, -, -⟩ := ensureKeyedLimit_extends h.inv hkeyed key'
        cases hbefore : l.limits.get? (suffixed key name) with
        | none =>
            exact .of_full hinv' hname hcharge hpool
              fun limit hid => hext.fresh _ limit hid hbefore
        | some limit =>
            have hsome := Option.isSome_of_eq_some hbefore
            have hregistered :=
              h.inv.registry.linked key name charges hname hsome charge hcharge pool hpool
            refine ⟨hinv', fun _ => ?_⟩
            rw [hext.tokens _ _ hbefore, hext.tokens _ _ hregistered]
            exact h.ahead hsome

/-- What the pools have when they admit a request. -/
theorem RegistryInv.weight_le_tokens {l : Limiter} (h : RegistryInv spec l)
    (hname : spec.chargesOf key name = some charges) (hcharge : charge ∈ charges)
    {limit : RateLimit} (hid : l.limits.get? (suffixed key name) = some limit)
    (hpools : PoolsAdmit l limit) :
    (weightOf charges charge.1 : Rat) ≤ l.tokens (suffixed key charge.1) := by
  obtain ⟨rfl, hknown⟩ := h.registry.endpoint_eq hname hid
  have hplain : ∀ c ∈ charges, ':' ∉ c.1.toList :=
    fun c hc => spec.plain _ (Or.inl (hknown c hc))
  have hlinked := hpools (suffixed key charge.1, charge.2) (List.mem_map_of_mem hcharge)
  rwa [endpointLimit, weightOf_suffixed key hplain (hplain charge hcharge)] at hlinked

/-- A bucket that its pool stays behind admits what the pool admits. -/
theorem Ahead.ownAdmits {l : Limiter} (h : Ahead spec key name charges charge.1 l)
    (hname : spec.chargesOf key name = some charges) (hcharge : charge ∈ charges)
    (label : LimiterLabel) : OwnAdmits (suffixed key name) l label := by
  cases label with
  | request id =>
      rintro rfl limit hid hadmit
      have hpos : (1 : Rat) ≤ weightOf charges charge.1 := by
        exact_mod_cast one_le_weightOf (RateLimitSpec.weights_pos hname) hcharge
      have hpools := h.inv.weight_le_tokens hname hcharge hid hadmit
      have hahead := h.ahead (Option.isSome_of_eq_some hid)
      by_contra hshort
      nlinarith
  | _ => trivial

/-- A pool that is too small for a request admits none. -/
theorem RegistryInv.ownAdmits_of_small {l : Limiter} (h : RegistryInv spec l)
    (hname : spec.chargesOf key name = some charges) (hcharge : charge ∈ charges)
    (hpool : spec.pools.get? charge.1 = some pool)
    (hsmall : (pool.capacity : Rat) < weightOf charges charge.1) (label : LimiterLabel) :
    OwnAdmits (suffixed key name) l label := by
  cases label with
  | request id =>
      rintro rfl limit hid hadmit
      have hpools := h.weight_le_tokens hname hcharge hid hadmit
      have hregistered := h.registry.linked key name charges hname
        (Option.isSome_of_eq_some hid) charge hcharge pool hpool
      have hholds : l.tokens (suffixed key charge.1) ≤ pool.capacity :=
        h.holds _ _ hregistered
      exact absurd (hpools.trans hholds) (not_le.2 hsmall)
  | _ => trivial

/-- An endpoint of which one pool binds first is never bound by its own bucket. -/
theorem neverBinds_of_poolBindsFirst {limiter : Limiter} (hinv : RegistryInv spec limiter)
    (hfull : Full limiter) (hname : spec.chargesOf key name = some charges)
    (hcharge : charge ∈ charges) (hfirst : PoolBindsFirst spec charges charge.1) :
    NeverBinds spec limiter (suffixed key name) := by
  intro ls
  obtain ⟨pool, hpool, hslow | hsmall⟩ := hfirst
  · have hkept : ∀ l label l', Ahead spec key name charges charge.1 l →
        (limiterMachine spec limiter).step l label = some l' →
        Ahead spec key name charges charge.1 l' :=
      fun _ _ _ h hstep => h.step hname hcharge hpool hslow hstep
    have hstart : Ahead spec key name charges charge.1 limiter :=
      .of_full hinv hname hcharge hpool fun limit hid => hfull _ _ hid
    exact (limiterMachine spec limiter).allSteps_of_invariant hkept
      (fun _ label h => h.ownAdmits hname hcharge label) hstart ls
  · have hkept : ∀ l label l', RegistryInv spec l →
        (limiterMachine spec limiter).step l label = some l' → RegistryInv spec l' :=
      fun _ _ _ h hstep => h.step hstep
    exact (limiterMachine spec limiter).allSteps_of_invariant hkept
      (fun _ label h => h.ownAdmits_of_small hname hcharge hpool hsmall label) hinv ls

end SlowPool

/-! ## Fast pools -/

section FastPools

variable {spec : RateLimitSpec} {key : Option String} {name : String} {charges : Charges}
  {period : Rat} {n : ℕ} {l : Limiter}

/-- After `n` requests, one each period, the pools are refilled before the next one. -/
structure Round (spec : RateLimitSpec) (key : Option String) (name : String) (charges : Charges)
    (period : Rat) (n : ℕ) (l : Limiter) : Prop where
  inv : RegistryInv spec l
  registered : (l.limits.get? (suffixed key name)).isSome
  own : l.tokens (suffixed key name) = TokenBucket.periodic (ownCapacity spec.pools charges : Rat)
    (ownCapacity spec.pools charges) period n
  refilled : ∀ charge ∈ charges, ∀ pool, spec.pools.get? charge.1 = some pool →
    (pool.capacity : Rat) ≤ l.tokens (suffixed key charge.1) + pool.refillRate * period

/-- A pool that admits a request when it is full and gets its charge back each period. -/
def Fits (charges : Charges) (period : Rat) (name : String) (pool : PoolSpec) : Prop :=
  (weightOf charges name : Rat) ≤ pool.capacity ∧
    (weightOf charges name : Rat) ≤ pool.refillRate * period

theorem Round.limit (h : Round spec key name charges period n l)
    (hname : spec.chargesOf key name = some charges) :
    l.limits.get? (suffixed key name) = some (endpointLimit spec.pools key name charges) ∧
      ∀ charge ∈ charges, ∃ pool, spec.pools.get? charge.1 = some pool := by
  obtain ⟨limit, hid⟩ := Option.isSome_iff_exists.1 h.registered
  obtain ⟨rfl, hknown⟩ := h.inv.registry.endpoint_eq hname hid
  refine ⟨hid, fun charge hcharge => ?_⟩
  exact Option.isSome_iff_exists.1 ((spec.pools.mem_keys_iff).1 (hknown charge hcharge))

/-- At the end of the period the pools are full. -/
theorem Round.full (h : Round spec key name charges period n l)
    (hname : spec.chargesOf key name = some charges) {charge : String × Int}
    (hcharge : charge ∈ charges) {pool : PoolSpec} (hpool : spec.pools.get? charge.1 = some pool) :
    (wait l period).tokens (suffixed key charge.1) = pool.capacity := by
  have hregistered := h.inv.registry.linked key name charges hname h.registered charge hcharge
  rw [wait_pool (hregistered pool hpool)]
  exact TokenBucket.refill_eq_capacity (h.refilled charge hcharge pool hpool)

/-- The charges of the keyed limit are those of the endpoint. -/
theorem weightOf_endpointLimit
    (hpools : ∀ charge ∈ charges, ∃ pool, spec.pools.get? charge.1 = some pool)
    {charge : String × Int} (hcharge : charge ∈ charges) :
    weightOf (endpointLimit spec.pools key name charges).linkedLimits (suffixed key charge.1) =
      weightOf charges charge.1 := by
  have hplain : ∀ c ∈ charges, ':' ∉ c.1.toList := by
    intro c hc
    obtain ⟨pool, hpool⟩ := hpools c hc
    exact RateLimitSpec.plain_pool hpool
  exact weightOf_suffixed key hplain (hplain charge hcharge)

/-- So the pools admit a request then. -/
theorem Round.poolsAdmit (h : Round spec key name charges period n l)
    (hname : spec.chargesOf key name = some charges)
    (hfits : ∀ charge ∈ charges, ∀ pool, spec.pools.get? charge.1 = some pool →
      Fits charges period charge.1 pool) :
    PoolsAdmit (wait l period) (endpointLimit spec.pools key name charges) := by
  obtain ⟨-, hpools⟩ := h.limit hname
  intro charge' hcharge'
  obtain ⟨charge, hcharge, rfl⟩ := List.mem_map.1 hcharge'
  obtain ⟨pool, hpool⟩ := hpools charge hcharge
  have hcharged := @weightOf_endpointLimit spec key name charges hpools charge hcharge
  simp only [hcharged, h.full hname hcharge hpool]
  exact (hfits charge hcharge pool hpool).1

/-- When the endpoint's bucket admits it too, the next round begins. -/
theorem Round.next (h : Round spec key name charges period n l)
    (hname : spec.chargesOf key name = some charges) (hperiod : 0 ≤ period)
    (hfits : ∀ charge ∈ charges, ∀ pool, spec.pools.get? charge.1 = some pool →
      Fits charges period charge.1 pool)
    (hown : 1 ≤ (wait l period).tokens (suffixed key name)) :
    ∃ l', limiterStep spec (wait l period) (.request (suffixed key name)) = some l' ∧
      Round spec key name charges period (n + 1) l' := by
  obtain ⟨hid, hpools⟩ := h.limit hname
  have hid' : (wait l period).limits.get? (suffixed key name) =
      some (endpointLimit spec.pools key name charges) := hid
  have hwaited : limiterStep spec l (.wait period) = some (wait l period) := by
    simp [limiterStep, hperiod]
  have hinv := h.inv.step hwaited
  have hstep : limiterStep spec (wait l period) (.request (suffixed key name)) =
      some (charge (wait l period) (endpointLimit spec.pools key name charges)) := by
    simp only [limiterStep, hid', hown, h.poolsAdmit hname hfits, and_self, if_true]
  have hself := hinv.registry.weightOf_endpoint hname hid'
  refine ⟨_, hstep, hinv.step hstep, h.registered, ?_, fun charge hcharge pool hpool => ?_⟩
  · have hwait := wait_endpoint hid period
    rw [h.own] at hwait
    simp only [charge, hwait, hself, TokenBucket.periodic]
    simp [endpointLimit]
  · have hne : suffixed key charge.1 ≠ suffixed key name :=
      RateLimitSpec.pool_ne_endpoint hpool hname
    have hother : suffixed key charge.1 ≠
        (endpointLimit spec.pools key name charges).limitId := hne
    have hback := (hfits charge hcharge pool hpool).2
    simp only [RateLimits.charge, if_neg hother, h.full hname hcharge hpool,
      weightOf_endpointLimit hpools hcharge]
    linarith

/-- Unless the endpoint's bucket binds, there is a round for every number of requests. -/
theorem Round.exists_run {limiter : Limiter} (hbinds : NeverBinds spec limiter (suffixed key name))
    (hname : spec.chargesOf key name = some charges) (hperiod : 0 ≤ period)
    (hfits : ∀ charge ∈ charges, ∀ pool, spec.pools.get? charge.1 = some pool →
      Fits charges period charge.1 pool) {ls : List LimiterLabel}
    (hrun : (limiterMachine spec limiter).run limiter ls = some l)
    (hfirst : Round spec key name charges period 0 l) (n : ℕ) :
    ∃ ls' l', (limiterMachine spec limiter).run limiter ls' = some l' ∧
      Round spec key name charges period n l' ∧
      1 ≤ (wait l' period).tokens (suffixed key name) := by
  -- the next request of a round is admitted by the pools, so also by the bucket
  have hadmits : ∀ {ls l n}, (limiterMachine spec limiter).run limiter ls = some l →
      Round spec key name charges period n l →
      1 ≤ (wait l period).tokens (suffixed key name) := by
    intro ls l n hrun hround
    have hsteps := hbinds (ls ++ [.wait period, .request (suffixed key name)])
    have hlast := hsteps.of_append hrun
    have hwaited : limiterStep spec l (.wait period) = some (wait l period) := by
      simp [limiterStep, hperiod]
    have hid : (wait l period).limits.get? (suffixed key name) =
        some (endpointLimit spec.pools key name charges) := (hround.limit hname).1
    have hmoves : ∃ l', limiterStep spec (wait l period) (.request (suffixed key name)) =
        some l' := by
      simp only [limiterStep, hid]
      exact ⟨_, rfl⟩
    obtain ⟨l', hmoved⟩ := hmoves
    exact ((hlast _ hwaited).2 _ hmoved).1 rfl _ hid (hround.poolsAdmit hname hfits)
  induction n with
  | zero => exact ⟨ls, l, hrun, hfirst, hadmits hrun hfirst⟩
  | succ n ih =>
      obtain ⟨ls', l', hrun', hround, hown⟩ := ih
      obtain ⟨l'', hstep, hnext⟩ := hround.next hname hperiod hfits hown
      have hwaited : limiterStep spec l' (.wait period) = some (wait l' period) := by
        simp [limiterStep, hperiod]
      have hlater : (limiterMachine spec limiter).run limiter
          (ls' ++ [.wait period, .request (suffixed key name)]) = some l'' := by
        rw [Machine.run_append, hrun']
        exact (Machine.run_cons_eq_some _).2 ⟨_, hwaited,
          (Machine.run_cons_eq_some _).2 ⟨_, hstep, rfl⟩⟩
      exact ⟨_, l'', hlater, hnext, hadmits hlater hnext⟩

end FastPools

/-! ## The endpoints that are never bound -/

/-- Full buckets are a first round. -/
theorem Round.of_full {spec : RateLimitSpec} {key : Option String} {name : String}
    {charges : Charges} {period : Rat} {l : Limiter} (hinv : RegistryInv spec l) (hfull : Full l)
    (hname : spec.chargesOf key name = some charges) (hperiod : 0 ≤ period)
    (hregistered : (l.limits.get? (suffixed key name)).isSome) :
    Round spec key name charges period 0 l := by
  obtain ⟨limit, hid⟩ := Option.isSome_iff_exists.1 hregistered
  refine ⟨hinv, hregistered, ?_, fun charge hcharge pool hpool => ?_⟩
  · obtain ⟨rfl, -⟩ := hinv.registry.endpoint_eq hname hid
    rw [hfull _ _ hid]
    rfl
  · have hlinked := hinv.registry.linked key name charges hname hregistered charge hcharge
    rw [hfull _ _ (hlinked pool hpool)]
    have hback : 0 ≤ pool.refillRate * period := mul_nonneg pool.refillRate_pos.le hperiod
    simp only [poolLimit]
    linarith

/-- The endpoint gets registered, with all buckets full. -/
theorem exists_registered {spec : RateLimitSpec} {limiter : Limiter}
    (hinv : RegistryInv spec limiter) (hfull : Full limiter) {key : Option String} {name : String}
    {charges : Charges} (hname : spec.chargesOf key name = some charges) :
    ∃ ls l, (limiterMachine spec limiter).run limiter ls = some l ∧ RegistryInv spec l ∧ Full l ∧
      (l.limits.get? (suffixed key name)).isSome := by
  cases key with
  | none => exact ⟨[], limiter, rfl, hinv, hfull, hinv.static name charges hname⟩
  | some key =>
      have hkeyed : spec.keyedEndpointPools.get? name = some charges := hname
      obtain ⟨hext, hregistry, hsome⟩ := ensureKeyedLimit_extends hinv hkeyed key
      have hstep : limiterStep spec limiter (.ensureKeyed name key) =
          some (ensureKeyedLimit hasLimit keyedLimiter limiter name key charges).1 := by
        simp only [limiterStep, hkeyed]
      exact ⟨[.ensureKeyed name key], _, (Machine.run_cons_eq_some _).2 ⟨_, hstep, rfl⟩,
        hinv.step hstep, hfull.extend hext, hsome⟩

/-- Pools of which none binds first get their charges back in a period that is too short for
the endpoint's bucket. -/
theorem exists_period_of_fast {spec : RateLimitSpec} {charges : Charges}
    (hfast : ∀ charge ∈ charges, ¬ PoolBindsFirst spec charges charge.1) :
    ∃ period : Rat, 0 ≤ period ∧ ownCapacity spec.pools charges * period < 1 ∧
      ∀ charge ∈ charges, ∀ pool, spec.pools.get? charge.1 = some pool →
        Fits charges period charge.1 pool := by
  have hfaster : ∀ charge ∈ charges, ∀ pool, spec.pools.get? charge.1 = some pool →
      (weightOf charges charge.1 : Rat) * ownCapacity spec.pools charges < pool.refillRate ∧
        (weightOf charges charge.1 : Rat) ≤ pool.capacity := by
    intro charge hcharge pool hpool
    by_contra hslow
    rw [not_and_or, not_lt, not_le] at hslow
    exact hfast charge hcharge ⟨pool, hpool, hslow⟩
  have hown : (0 : Rat) ≤ ownCapacity spec.pools charges := by
    have hone := one_le_ownCapacity spec.pools charges
    exact_mod_cast (show (0 : Int) ≤ _ by omega)
  obtain ⟨period, hnonneg, hshort, hback⟩ := TokenBucket.exists_period hown
    (charges.filterMap fun charge => (spec.pools.get? charge.1).map fun pool =>
      ((weightOf charges charge.1 : Rat), pool.refillRate)) (by
    intro b hb
    obtain ⟨charge, hcharge, hmap⟩ := List.mem_filterMap.1 hb
    obtain ⟨pool, hpool, rfl⟩ := Option.map_eq_some_iff.1 hmap
    exact ⟨pool.refillRate_pos, (hfaster charge hcharge pool hpool).1⟩)
  refine ⟨period, hnonneg, hshort, fun charge hcharge pool hpool => ?_⟩
  refine ⟨(hfaster charge hcharge pool hpool).2, ?_⟩
  refine hback (_, pool.refillRate) (List.mem_filterMap.2 ⟨charge, hcharge, ?_⟩)
  rw [hpool]
  rfl

/-- The own bucket of an endpoint never binds before its pools exactly when one of the pools
is refilled no faster, in requests, or is too small for a request. -/
theorem endpoint_neverBinds_iff {spec : RateLimitSpec} {limiter : Limiter}
    (hbuilt : buildLimiter spec = .ok limiter) {key : Option String} {name : String}
    {charges : Charges} (hname : spec.chargesOf key name = some charges) :
    NeverBinds spec limiter (suffixed key name) ↔
      ∃ charge ∈ charges, PoolBindsFirst spec charges charge.1 := by
  obtain ⟨hinv, hfull⟩ := buildLimiter_eq_ok hbuilt
  refine ⟨fun hbinds => ?_, fun ⟨charge, hcharge, hfirst⟩ =>
    neverBinds_of_poolBindsFirst hinv hfull hname hcharge hfirst⟩
  by_contra hnone
  have hfast : ∀ charge ∈ charges, ¬ PoolBindsFirst spec charges charge.1 :=
    fun charge hcharge hfirst => hnone ⟨charge, hcharge, hfirst⟩
  obtain ⟨period, hperiod, hshort, hfits⟩ := exists_period_of_fast hfast
  obtain ⟨ls, l, hrun, hinv', hfull', hregistered⟩ := exists_registered hinv hfull hname
  have hfirst := Round.of_full hinv' hfull' hname hperiod hregistered
  -- one request a period, until the bucket runs short
  obtain ⟨n, hn⟩ := TokenBucket.exists_short (ownCapacity spec.pools charges : Rat) hshort
  obtain ⟨ls', l', -, hround, hown⟩ := Round.exists_run hbinds hname hperiod hfits hrun hfirst n
  rw [wait_endpoint (hround.limit hname).1, hround.own] at hown
  exact absurd hn (not_lt.2 hown)

/-! ## One pool -/

/-- A spec with one endpoint, which charges one token to one pool. -/
def onePool (capacity : Int) (refillRate : Rat) (hcapacity : 0 < capacity)
    (hrate : 0 < refillRate) : RateLimitSpec where
  pools := (∅ : Dict String PoolSpec).set "pool" ⟨"pool", capacity, refillRate, hcapacity, hrate⟩
  endpointPools := (∅ : Dict String Charges).set "endpoint" [("pool", 1)]
  keyedEndpointPools := ∅
  named name pool h := by
    rw [Dict.get?_set] at h
    split_ifs at h with hname
    · cases h
      exact hname.symm
    · cases h
  plain name h := by
    have hname : name = "pool" ∨ name = "endpoint" := by
      simpa [Dict.mem_keys_iff, Dict.contains, Dict.get?_set, Option.isSome_ite] using h
    rcases hname with rfl | rfl <;> decide
  apart name h := by
    have hname : name = "pool" := by
      simpa [Dict.mem_keys_iff, Dict.contains, Dict.get?_set, Option.isSome_ite] using h
    subst hname
    exact ⟨by decide, by decide⟩
  known name charges h := by cases h
  weights name charges h := by
    rcases h with h | h
    · rw [Dict.get?_set] at h
      split_ifs at h
      · cases h
        simp
      · cases h
    · cases h

/-- Its limiter. -/
def onePoolLimiter (capacity : Int) (refillRate : Rat) : Limiter :=
  addLimit (addLimit .empty ⟨"pool", capacity, capacity / refillRate, [], "token_bucket"⟩)
    ⟨"endpoint", capacity, 1, [("pool", 1)], "token_bucket"⟩

theorem buildLimiter_onePool {capacity : Int} {refillRate : Rat} (hcapacity : 0 < capacity)
    (hrate : 0 < refillRate) : buildLimiter (onePool capacity refillRate hcapacity hrate) =
      .ok (onePoolLimiter capacity refillRate) :=
  rfl

/-- A pool of five tokens, refilled once a second, is never bound. -/
theorem slow_pool_neverBinds :
    NeverBinds (onePool 5 1 (by decide) (by decide)) (onePoolLimiter 5 1)
        (suffixed none "endpoint") ↔
      ∃ charge ∈ [("pool", (1 : Int))],
        PoolBindsFirst (onePool 5 1 (by decide) (by decide)) [("pool", 1)] charge.1 :=
  endpoint_neverBinds_iff (buildLimiter_onePool (by decide) (by decide)) rfl

/-- A pool of one token, refilled ten times a second, admits the next request after a tenth
of a second, when the bucket of the endpoint is still at a tenth of a token. -/
theorem fast_pool_is_bound :
    buildLimiter (onePool 1 10 (by decide) (by decide)) = .ok (onePoolLimiter 1 10) ∧
      ¬ NeverBinds (onePool 1 10 (by decide) (by decide)) (onePoolLimiter 1 10) "endpoint" := by
  refine ⟨rfl, fun hbinds => ?_⟩
  let limit : RateLimit := ⟨"endpoint", 1, 1, [("pool", 1)], "token_bucket"⟩
  let used : Limiter := charge (onePoolLimiter 1 10) limit
  let later : Limiter := wait used (1 / 10)
  have hfirst : limiterStep (onePool 1 10 (by decide) (by decide)) (onePoolLimiter 1 10)
      (.request "endpoint") = some used := by
    have hid : (onePoolLimiter 1 10).limits.get? "endpoint" = some limit := rfl
    have hadmits : 1 ≤ (onePoolLimiter 1 10).tokens "endpoint" ∧
        PoolsAdmit (onePoolLimiter 1 10) limit := by decide
    simp only [limiterStep, hid, hadmits, and_self, if_true, used]
  have hwait : limiterStep (onePool 1 10 (by decide) (by decide)) used (.wait (1 / 10)) =
      some later := by
    have htime : (0 : Rat) ≤ 1 / 10 := by norm_num
    simp only [limiterStep, htime, if_true, later]
  have hid : later.limits.get? "endpoint" = some limit := rfl
  have hpool : PoolsAdmit later limit := by decide +kernel
  have hown : ¬ 1 ≤ later.tokens "endpoint" := by decide +kernel
  have hstep : limiterStep (onePool 1 10 (by decide) (by decide)) later (.request "endpoint") =
      some later := by
    simp only [limiterStep, hid, hown, false_and, if_false]
  have hsteps := hbinds [.request "endpoint", .wait (1 / 10), .request "endpoint"]
  obtain ⟨-, hrest⟩ := hsteps _ hfirst
  obtain ⟨-, hlast⟩ := hrest _ hwait
  exact hown ((hlast _ hstep).1 rfl limit hid hpool)

end RateLimits
end MarketConnector
