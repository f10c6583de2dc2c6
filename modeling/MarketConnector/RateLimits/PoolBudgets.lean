import MarketConnector.Foundations.RunCosts
import MarketConnector.RateLimits.EndpointBuckets
import MarketConnector.RateLimits.KeyedLimits

/-!
# RateLimits - What a pool admits over time

A pool holds its capacity at most and is refilled at its rate.  Whatever is requested, and
whenever, a pool is charged no more in a stretch of time than its capacity and what is refilled
meanwhile; the same holds of its copy for each key.  The limiter is that of another package, and
what it does with token buckets is assumed.

Main results:

- Definition `TokenBuckets`: what is assumed of the limiter.
- Theorem `potential_step`: what a step takes from a limit, and what it leaves there.
- Theorem `Shows.step`: such a limiter does what its levels say.
- Theorem `pool_budget`: the bound, for every stretch of every run.
-/

namespace MarketConnector
namespace RateLimits

open Foundations Kraken

/-! ## Charges -/

/-- The request is admitted. -/
def Admits (l : Limiter) (id : String) (limit : RateLimit) : Prop :=
  1 ≤ l.tokens id ∧ PoolsAdmit l limit

instance (l : Limiter) (id : String) (limit : RateLimit) : Decidable (Admits l id limit) :=
  inferInstanceAs (Decidable (_ ∧ _))

/-- Tokens that a step takes from the bucket of `id`. -/
def charged (id : String) (l : Limiter) : LimiterLabel → Rat
  | .request id' =>
      match l.limits.get? id' with
      | none => 0
      | some limit =>
          if Admits l id' limit then
            (if id = limit.limitId then 1 else 0) + weightOf limit.linkedLimits id
          else 0
  | _ => 0

/-- Time that passes in a step. -/
def elapsed : LimiterLabel → Rat
  | .wait time => time
  | _ => 0

/-- Tokens a limit has, or will have when it is registered. -/
def potential (id : String) (limit : RateLimit) (l : Limiter) : Rat :=
  if (l.limits.get? id).isSome then l.tokens id else limit.limit

/-- What holds of the buckets whenever they are used. -/
structure Buckets (spec : RateLimitSpec) (l : Limiter) : Prop where
  inv : RegistryInv spec l
  nonneg : ∀ id limit, l.limits.get? id = some limit → 0 ≤ l.tokens id

/-! ## Limits -/

variable {spec : RateLimitSpec}

theorem Declared.limit_pos {id : String} {limit : RateLimit} (h : Declared spec id limit) :
    0 < limit.limit := by
  cases h with
  | pool key hname => exact PoolSpec.capacity_pos _
  | endpoint key hname hknown => exact one_le_ownCapacity _ _

theorem Declared.rate_pos {id : String} {limit : RateLimit} (h : Declared spec id limit) :
    0 < (limit.limit : Rat) / limit.timeInterval := by
  cases h with
  | pool key hname =>
      rw [poolLimit_rate]
      exact PoolSpec.refillRate_pos _
  | @endpoint key name charges hname hknown =>
      have hone : (0 : Rat) < ownCapacity spec.pools charges :=
        Int.cast_pos.2 (one_le_ownCapacity spec.pools charges)
      simpa [endpointLimit] using hone

/-- A limit is not linked to itself. -/
theorem Registry.weightOf_self {l : Limiter} (h : Registry spec l) {id : String}
    {limit : RateLimit} (hid : l.limits.get? id = some limit) :
    weightOf limit.linkedLimits id = 0 := by
  have hdeclared := h.declared id limit hid
  cases hdeclared with
  | pool key hname => simp [weightOf, poolLimit]
  | endpoint key hname hknown => exact h.weightOf_endpoint hname hid

/-- What is linked to a limit is registered. -/
theorem Registry.weightOf_unregistered {l : Limiter} (h : Registry spec l) {id : String}
    {limit : RateLimit} (hid : l.limits.get? id = some limit) {other : String}
    (hother : l.limits.get? other = none) : weightOf limit.linkedLimits other = 0 := by
  have hdeclared := h.declared id limit hid
  cases hdeclared with
  | pool key hname => simp [weightOf, poolLimit]
  | @endpoint key name charges hname hknown =>
      refine weightOf_eq_zero fun charge hcharge heq => ?_
      obtain ⟨charge', hcharge', rfl⟩ := List.mem_map.1 hcharge
      obtain ⟨pool, hpool⟩ :=
        Option.isSome_iff_exists.1 ((spec.pools.mem_keys_iff).1 (hknown charge' hcharge'))
      have hsome := Option.isSome_of_eq_some hid
      have hregistered := h.linked key name charges hname hsome charge' hcharge' pool hpool
      dsimp only at heq
      rw [heq, hother] at hregistered
      cases hregistered

/-! ## Steps -/

/-- An admitted request leaves no bucket below empty. -/
theorem Buckets.charge_nonneg {l : Limiter} (h : Buckets spec l) {id : String} {limit : RateLimit}
    (hid : l.limits.get? id = some limit) (hadmits : Admits l id limit) {id' : String}
    {limit' : RateLimit} (hid' : l.limits.get? id' = some limit') :
    0 ≤ (charge l limit).tokens id' := by
  have hself : limit.limitId = id := (h.inv.registry.declared id limit hid).limitId
  simp only [charge, hself]
  split_ifs with heq
  · subst heq
    rw [h.inv.registry.weightOf_self hid]
    have hone := hadmits.1
    push_cast
    linarith
  · by_cases hlinked : ∃ c ∈ limit.linkedLimits, c.1 = id'
    · obtain ⟨c, hc, rfl⟩ := hlinked
      have hweight := hadmits.2 c hc
      linarith
    · push Not at hlinked
      rw [weightOf_eq_zero hlinked]
      have hnonneg := h.nonneg id' limit' hid'
      push_cast
      linarith

/-- No step overdraws a bucket. -/
theorem Buckets.step {l l' : Limiter} {label : LimiterLabel} (h : Buckets spec l)
    (hstep : limiterStep spec l label = some l') : Buckets spec l' := by
  refine ⟨h.inv.step hstep, fun id limit hid => ?_⟩
  cases label with
  | wait time =>
      simp only [limiterStep] at hstep
      split_ifs at hstep with htime
      cases hstep
      have hregistered : l.limits.get? id = some limit := hid
      have hdeclared := h.inv.registry.declared id limit hregistered
      have hcapacity : (0 : Rat) < limit.limit := Int.cast_pos.2 hdeclared.limit_pos
      have hadded := mul_nonneg hdeclared.rate_pos.le htime
      have hlevel := h.nonneg id limit hregistered
      simp only [wait, hregistered]
      exact le_min hcapacity.le (by linarith)
  | request id' =>
      simp only [limiterStep] at hstep
      split at hstep
      · cases hstep
      · rename_i limit' hid'
        cases hstep
        split_ifs at hid ⊢ with hadmits
        · exact h.charge_nonneg hid' hadmits hid
        · exact h.nonneg id limit hid
  | ensureKeyed endpoint key =>
      simp only [limiterStep] at hstep
      split at hstep
      · cases hstep
      · rename_i charges hname
        cases hstep
        obtain ⟨hext, hregistry, -⟩ := ensureKeyedLimit_extends h.inv hname key
        cases hbefore : l.limits.get? id with
        | none =>
            rw [hext.fresh id limit hid hbefore]
            exact Int.cast_nonneg (hregistry.declared id limit hid).limit_pos.le
        | some limit' =>
            rw [hext.tokens id limit' hbefore]
            exact h.nonneg id limit' hbefore

/-- Waiting adds what is refilled at most. -/
theorem potential_wait {l : Limiter} (h : Buckets spec l) {id : String} {limit : RateLimit}
    (hdeclared : Declared spec id limit) {time : Rat} (htime : 0 ≤ time) :
    potential id limit (wait l time) ≤
      potential id limit l + (limit.limit : Rat) / limit.timeInterval * time := by
  have hadded := mul_nonneg hdeclared.rate_pos.le htime
  cases hid : l.limits.get? id with
  | none => simpa [potential, wait, hid] using hadded
  | some limit' =>
      have hsame := hdeclared.unique (h.inv.registry.declared id limit' hid)
      subst hsame
      have hrefill := TokenBucket.refill_le_add (limit.limit : Rat)
        (limit.limit / limit.timeInterval) (l.tokens id) time
      simpa [potential, wait, hid] using hrefill

/-- An admitted request takes its charges out of the buckets. -/
theorem potential_charge {l : Limiter} (h : Buckets spec l) {id' : String} {limit' : RateLimit}
    (hid' : l.limits.get? id' = some limit') (id : String) (limit : RateLimit) :
    potential id limit (charge l limit') +
        ((if id = limit'.limitId then 1 else 0) + weightOf limit'.linkedLimits id : Rat) =
      potential id limit l := by
  cases hid : l.limits.get? id with
  | none =>
      have hne : id ≠ limit'.limitId := by
        rintro rfl
        rw [(h.inv.registry.declared id' limit' hid').limitId, hid'] at hid
        cases hid
      rw [if_neg hne, h.inv.registry.weightOf_unregistered hid' hid]
      simp [potential, charge, hid]
  | some limit'' =>
      simp only [potential, charge, hid, Option.isSome_some, if_true]
      linarith

/-- A limit that is registered starts full. -/
theorem potential_extends {l l' : Limiter} (hext : Extends l l') (hregistry : Registry spec l')
    {id : String} {limit : RateLimit} (hdeclared : Declared spec id limit) :
    potential id limit l' = potential id limit l := by
  cases hbefore : l.limits.get? id with
  | none =>
      simp only [potential, hbefore, Option.isSome_none, Bool.false_eq_true, if_false]
      split_ifs with hlater
      · obtain ⟨limit', hid'⟩ := Option.isSome_iff_exists.1 hlater
        rw [hext.fresh id limit' hid' hbefore,
          hdeclared.unique (hregistry.declared id limit' hid')]
      · rfl
  | some limit' =>
      simp [potential, hbefore, hext.limits id limit' hbefore, hext.tokens id limit' hbefore]

/-- What a step takes from a limit is paid by the tokens there and by what is refilled. -/
theorem potential_step {l l' : Limiter} {label : LimiterLabel} (h : Buckets spec l)
    (hstep : limiterStep spec l label = some l') {id : String} {limit : RateLimit}
    (hdeclared : Declared spec id limit) :
    potential id limit l' + charged id l label ≤
      potential id limit l + (limit.limit : Rat) / limit.timeInterval * elapsed label := by
  cases label with
  | wait time =>
      simp only [limiterStep] at hstep
      split_ifs at hstep with htime
      cases hstep
      simpa only [charged, elapsed, add_zero] using potential_wait h hdeclared htime
  | request id' =>
      simp only [limiterStep] at hstep
      split at hstep
      · cases hstep
      · rename_i limit' hid'
        cases hstep
        simp only [charged, elapsed, hid', mul_zero, add_zero]
        by_cases hadmits : 1 ≤ l.tokens id' ∧ PoolsAdmit l limit'
        · have hadmitted : Admits l id' limit' := hadmits
          rw [if_pos hadmits, if_pos hadmitted]
          exact (potential_charge h hid' id limit).le
        · have hrefused : ¬ Admits l id' limit' := hadmits
          rw [if_neg hadmits, if_neg hrefused, add_zero]
  | ensureKeyed endpoint key =>
      simp only [limiterStep] at hstep
      split at hstep
      · cases hstep
      · rename_i charges hname
        cases hstep
        obtain ⟨hext, hregistry, -⟩ := ensureKeyedLimit_extends h.inv hname key
        simp only [charged, elapsed, mul_zero, add_zero]
        exact (potential_extends hext hregistry hdeclared).le

/-! ## Runs -/

/-- A limiter is built with full buckets. -/
theorem Buckets.of_build {limiter : Limiter} (h : buildLimiter spec = .ok limiter) :
    Buckets spec limiter := by
  obtain ⟨hinv, hfull⟩ := buildLimiter_eq_ok h
  refine ⟨hinv, fun id limit hid => ?_⟩
  rw [hfull id limit hid]
  exact Int.cast_nonneg (hinv.registry.declared id limit hid).limit_pos.le

/-- No bucket has fewer tokens than none, or more than its limit. -/
theorem Buckets.potential_bounds {l : Limiter} (h : Buckets spec l) {id : String}
    {limit : RateLimit} (hdeclared : Declared spec id limit) :
    0 ≤ potential id limit l ∧ potential id limit l ≤ limit.limit := by
  unfold potential
  split_ifs with hsome
  · obtain ⟨limit', hid⟩ := Option.isSome_iff_exists.1 hsome
    have hsame := hdeclared.unique (h.inv.registry.declared id limit' hid)
    subst hsame
    exact ⟨h.nonneg id limit hid, h.inv.holds id limit hid⟩
  · exact ⟨Int.cast_nonneg hdeclared.limit_pos.le, le_rfl⟩

/-- A limit is charged no more in a run than what it holds and what is refilled meanwhile. -/
theorem limit_budget {limiter l l' : Limiter} {ls : List LimiterLabel} (h : Buckets spec l)
    (hrun : (limiterMachine spec limiter).run l ls = some l') {id : String} {limit : RateLimit}
    (hdeclared : Declared spec id limit) :
    (limiterMachine spec limiter).cost (charged id) l ls ≤
      limit.limit + (limit.limit : Rat) / limit.timeInterval * Machine.gain elapsed ls := by
  have hkept : ∀ l label l', Buckets spec l →
      (limiterMachine spec limiter).step l label = some l' → Buckets spec l' :=
    fun l label l' h hstep => h.step hstep
  have hpaid : ∀ l label l', Buckets spec l →
      (limiterMachine spec limiter).step l label = some l' →
      potential id limit l' + charged id l label ≤ potential id limit l +
        (limit.limit : Rat) / limit.timeInterval * elapsed label :=
    fun l label l' h hstep => potential_step h hstep hdeclared
  have hbound := Machine.cost_add_le hkept hpaid h hrun
  have hscaled : ∀ ls : List LimiterLabel,
      Machine.gain (fun label => (limit.limit : Rat) / limit.timeInterval * elapsed label) ls =
        (limit.limit : Rat) / limit.timeInterval * Machine.gain elapsed ls := by
    intro ls
    induction ls with
    | nil => simp [Machine.gain]
    | cons label ls ih => rw [Machine.gain, Machine.gain, ih, mul_add]
  rw [hscaled] at hbound
  have hbefore := (h.potential_bounds hdeclared).2
  have hend := (Machine.invariant_run _ hkept h hrun).potential_bounds hdeclared
  linarith [hend.1]

/-- What an admitted request of an endpoint takes from a pool: the weight the spec gives, from
the copy of the pool for the same key. -/
theorem charged_request {l : Limiter} (h : Registry spec l) {key key' : Option String}
    {endpoint name : String} {charges : Charges} {pool : PoolSpec} {limit : RateLimit}
    (hcharges : spec.chargesOf key endpoint = some charges)
    (hpool : spec.pools.get? name = some pool)
    (hid : l.limits.get? (suffixed key endpoint) = some limit)
    (hadmits : Admits l (suffixed key endpoint) limit) :
    charged (suffixed key' name) l (.request (suffixed key endpoint)) =
      if key' = key then weightOf charges name else 0 := by
  obtain ⟨rfl, hknown⟩ := h.endpoint_eq hcharges hid
  have hne : suffixed key' name ≠ suffixed key endpoint :=
    RateLimitSpec.pool_ne_endpoint hpool hcharges
  have hplain : ∀ charge ∈ charges, ':' ∉ charge.1.toList := fun charge hcharge =>
    spec.plain _ (Or.inl (hknown charge hcharge))
  simp only [charged, hid, if_pos hadmits]
  rw [endpointLimit, if_neg hne, zero_add]
  split_ifs with hkey
  · subst hkey
    rw [weightOf_suffixed key' hplain (RateLimitSpec.plain_pool hpool)]
  · refine congrArg Int.cast (weightOf_eq_zero fun charge hcharge hsame => hkey ?_)
    obtain ⟨charge', hcharge', rfl⟩ := List.mem_map.1 hcharge
    exact (suffixed_inj (hplain charge' hcharge') (RateLimitSpec.plain_pool hpool) hsame).2.symm

/-! ## The limiter of the package -/

section Package

variable {L : Type}

/-- The operations on a limiter: its limits, time that passes, and requests it grants or not. -/
structure BucketApi (L : Type) extends LimiterApi L where
  wait : L → Rat → L
  request : L → String → L × Bool

/-- What is assumed of a limiter, by the tokens in each bucket: a bucket starts full, holds its
limit at most and gets it back in its interval; a request is granted when its own bucket has a
token and each linked one has its weight, and takes them all at once. -/
structure TokenBuckets (api : BucketApi L) (level : L → String → Rat) : Prop where
  empty : ∀ id, level api.empty id = 0
  starts : ∀ l limit id, level (api.keyed.addLimit l limit) id =
    if id = limit.limitId then (limit.limit : Rat) else level l id
  wait_limits : ∀ l time id, api.keyed.getRawLimit (api.wait l time) id = api.keyed.getRawLimit l id
  wait_level : ∀ l time id, 0 ≤ time → level (api.wait l time) id =
    match api.keyed.getRawLimit l id with
    | some limit =>
        TokenBucket.refill limit.limit (limit.limit / limit.timeInterval) (level l id) time
    | none => level l id
  request_limits : ∀ l id id',
    api.keyed.getRawLimit (api.request l id).1 id' = api.keyed.getRawLimit l id'
  granted : ∀ l id limit, api.keyed.getRawLimit l id = some limit →
    ((api.request l id).2 = true ↔ 1 ≤ level l id ∧ ∀ charge ∈ limit.linkedLimits,
      (weightOf limit.linkedLimits charge.1 : Rat) ≤ level l charge.1)
  request_level : ∀ l id limit, api.keyed.getRawLimit l id = some limit →
    ∀ id', level (api.request l id).1 id' =
      if (api.request l id).2 then
        level l id' - (if id' = limit.limitId then 1 else 0) - weightOf limit.linkedLimits id'
      else level l id'

/-- One step of a limiter. -/
def bucketStep (api : BucketApi L) (spec : RateLimitSpec) (l : L) : LimiterLabel → Option L
  | .wait time => if 0 ≤ time then some (api.wait l time) else none
  | .request id =>
      match api.keyed.getRawLimit l id with
      | none => none
      | some _ => some (api.request l id).1
  | .ensureKeyed endpoint key =>
      match spec.keyedEndpointPools.get? endpoint with
      | none => none
      | some charges => some (ensureKeyedLimit api.hasLimit api.keyed l endpoint key charges).1

/-- A limiter, from the state it was built in. -/
def bucketMachine (api : BucketApi L) (spec : RateLimitSpec) (limiter : L) :
    Machine L LimiterLabel where
  init := limiter
  step := bucketStep api spec

/-- Tokens that a granted request takes from the bucket of `id`. -/
def BucketApi.charged (api : BucketApi L) (id : String) (l : L) : LimiterLabel → Rat
  | .request id' =>
      match api.keyed.getRawLimit l id' with
      | none => 0
      | some limit =>
          if (api.request l id').2 then
            (if id = limit.limitId then 1 else 0) + weightOf limit.linkedLimits id
          else 0
  | _ => 0

/-- A limiter and its levels. -/
structure Shows (api : BucketApi L) (level : L → String → Rat) (l : L) (m : Limiter) : Prop where
  limits : ∀ id, api.keyed.getRawLimit l id = m.limits.get? id
  tokens : ∀ id, level l id = m.tokens id

variable {api : BucketApi L} {level : L → String → Rat} {l : L} {m : Limiter}

theorem Shows.hasLimit_eq (h : Shows api level l m) (id : String) :
    api.hasLimit l id = hasLimit m id := by
  rw [api.hasLimit_eq, h.limits]
  rfl

theorem Shows.addLimit (hapi : TokenBuckets api level) (h : Shows api level l m)
    (limit : RateLimit) :
    Shows api level (api.keyed.addLimit l limit) (RateLimits.addLimit m limit) where
  limits id := by
    rw [api.getRawLimit_addLimit, h.limits]
    exact (Dict.get?_set m.limits limit.limitId id limit).symm
  tokens id := by
    rw [hapi.starts, h.tokens]
    exact (Function.update_apply m.tokens limit.limitId (limit.limit : Rat) id).symm

theorem Shows.foldl_addLimit (hapi : TokenBuckets api level) (h : Shows api level l m)
    (limits : List RateLimit) :
    Shows api level (limits.foldl api.keyed.addLimit l) (limits.foldl RateLimits.addLimit m) := by
  induction limits generalizing l m with
  | nil => exact h
  | cons limit limits ih => exact ih (h.addLimit hapi limit)

theorem Shows.ensurePools (hapi : TokenBuckets api level) (h : Shows api level l m)
    (limitId key : String) (charges : Charges) (capacity : Int) :
    (Kraken.ensurePools api.hasLimit api.keyed limitId key charges capacity l).2 =
        (Kraken.ensurePools hasLimit keyedLimiter limitId key charges capacity m).2 ∧
      Shows api level (Kraken.ensurePools api.hasLimit api.keyed limitId key charges capacity l).1
        (Kraken.ensurePools hasLimit keyedLimiter limitId key charges capacity m).1 := by
  induction charges generalizing l m capacity with
  | nil => exact ⟨rfl, h⟩
  | cons charge charges ih =>
      have htemplate : keyedLimiter.getRawLimit m charge.1 = api.keyed.getRawLimit l charge.1 :=
        (h.limits charge.1).symm
      simp only [Kraken.ensurePools, htemplate, h.hasLimit_eq]
      cases api.keyed.getRawLimit l charge.1 with
      | none => exact ⟨rfl, h⟩
      | some template =>
          dsimp only
          split_ifs with hpresent
          · exact ih h _
          · exact ih (h.addLimit hapi _) _

theorem Shows.ensureKeyedLimit (hapi : TokenBuckets api level) (h : Shows api level l m)
    (endpoint key : String) (charges : Charges) :
    Shows api level (Kraken.ensureKeyedLimit api.hasLimit api.keyed l endpoint key charges).1
      (Kraken.ensureKeyedLimit hasLimit keyedLimiter m endpoint key charges).1 := by
  simp only [Kraken.ensureKeyedLimit, h.hasLimit_eq]
  split_ifs with hpresent
  · exact h
  · obtain ⟨hresult, hpools⟩ := h.ensurePools hapi (endpoint ++ ":" ++ key) key charges 1
    revert hresult hpools
    rcases Kraken.ensurePools api.hasLimit api.keyed (endpoint ++ ":" ++ key) key charges 1 l with
      ⟨l', result⟩
    rcases Kraken.ensurePools hasLimit keyedLimiter (endpoint ++ ":" ++ key) key charges 1 m with
      ⟨m', result'⟩
    rintro rfl hpools
    cases result with
    | error e => exact hpools
    | ok capacity => exact hpools.addLimit hapi _

/-- A limiter is built with the levels of its spec. -/
theorem Shows.of_build (hapi : TokenBuckets api level) {limiter : L}
    (h : buildLimiterWith api.toLimiterApi spec.pools spec.endpointPools = .ok limiter) :
    ∃ m, buildLimiter spec = .ok m ∧ Shows api level limiter m := by
  obtain ⟨endpoints, hendpoints, hbuilt⟩ := bind_eq_ok.1 h
  cases hbuilt
  have hempty : Shows api level api.empty .empty :=
    ⟨fun id => api.getRawLimit_empty id, fun id => hapi.empty id⟩
  refine ⟨_, ?_, hempty.foldl_addLimit hapi _⟩
  rw [← buildLimiterWith_dict, buildLimiterWith, hendpoints]
  rfl

/-- Requests are granted when the levels admit them. -/
theorem Shows.granted_iff (hapi : TokenBuckets api level) (h : Shows api level l m) {id : String}
    {limit : RateLimit} (hid : m.limits.get? id = some limit) :
    (api.request l id).2 = true ↔ Admits m id limit := by
  rw [hapi.granted l id limit ((h.limits id).trans hid), h.tokens]
  simp only [h.tokens]
  rfl

/-- The levels move with the limiter. -/
theorem Shows.step (hapi : TokenBuckets api level) (h : Shows api level l m) {label : LimiterLabel}
    {l' : L} (hstep : bucketStep api spec l label = some l') :
    ∃ m', limiterStep spec m label = some m' ∧ Shows api level l' m' := by
  cases label with
  | wait time =>
      simp only [bucketStep] at hstep
      split_ifs at hstep with htime
      cases hstep
      refine ⟨wait m time, by rw [limiterStep, if_pos htime], fun id => ?_, fun id => ?_⟩
      · exact (hapi.wait_limits l time id).trans (h.limits id)
      · rw [hapi.wait_level l time id htime, h.limits, h.tokens]
        rfl
  | request id =>
      simp only [bucketStep] at hstep
      split at hstep
      · cases hstep
      rename_i limit hlimit
      cases hstep
      have hid : m.limits.get? id = some limit := (h.limits id).symm.trans hlimit
      refine ⟨_, by rw [limiterStep, hid], fun id' => ?_, fun id' => ?_⟩
      · rw [hapi.request_limits, h.limits]
        split_ifs <;> rfl
      · rw [hapi.request_level l id limit hlimit, h.tokens]
        by_cases hadmits : Admits m id limit
        · have hboth : 1 ≤ m.tokens id ∧ PoolsAdmit m limit := hadmits
          rw [if_pos ((h.granted_iff hapi hid).2 hadmits), if_pos hboth]
          rfl
        · have hshort : ¬ (1 ≤ m.tokens id ∧ PoolsAdmit m limit) := hadmits
          rw [if_neg (mt (h.granted_iff hapi hid).1 hadmits), if_neg hshort]
  | ensureKeyed endpoint key =>
      simp only [bucketStep] at hstep
      split at hstep
      · cases hstep
      rename_i charges hcharges
      cases hstep
      exact ⟨_, by rw [limiterStep, hcharges], h.ensureKeyedLimit hapi endpoint key charges⟩

/-- A step takes what the levels say. -/
theorem Shows.charged_eq (hapi : TokenBuckets api level) (h : Shows api level l m) (id : String)
    (label : LimiterLabel) : api.charged id l label = charged id m label := by
  cases label with
  | request id' =>
      simp only [BucketApi.charged, charged, h.limits]
      cases hid : m.limits.get? id' with
      | none => rfl
      | some limit =>
          by_cases hadmits : Admits m id' limit
          · simp only [if_pos ((h.granted_iff hapi hid).2 hadmits), if_pos hadmits]
          · simp only [if_neg (mt (h.granted_iff hapi hid).1 hadmits), if_neg hadmits]
  | _ => rfl

/-- In every stretch of every run a pool, and its copy for each key, is charged its capacity and
what is refilled in that time at most; a granted request is charged the weight of the spec. -/
theorem pool_budget (hapi : TokenBuckets api level) {limiter l' : L}
    (hbuild : buildLimiterWith api.toLimiterApi spec.pools spec.endpointPools = .ok limiter)
    (hreach : (bucketMachine api spec limiter).Reachable l) {ls : List LimiterLabel}
    (hrun : (bucketMachine api spec limiter).run l ls = some l') {name : String} {pool : PoolSpec}
    (hpool : spec.pools.get? name = some pool) (key : Option String) :
    (bucketMachine api spec limiter).cost (api.charged (suffixed key name)) l ls ≤
        pool.capacity + pool.refillRate * Machine.gain elapsed ls ∧
      ∀ key' endpoint charges, spec.chargesOf key' endpoint = some charges →
        (api.keyed.getRawLimit l (suffixed key' endpoint)).isSome →
        (api.request l (suffixed key' endpoint)).2 = true →
        api.charged (suffixed key name) l (.request (suffixed key' endpoint)) =
          if key = key' then weightOf charges name else 0 := by
  obtain ⟨built, hbuilt, hshows⟩ := Shows.of_build hapi hbuild
  have hfollow : ∀ s t label s', Shows api level s t →
      (bucketMachine api spec limiter).step s label = some s' →
      ∃ t', (limiterMachine spec built).step t label = some t' ∧ Shows api level s' t' :=
    fun s t label s' h hstep => h.step hapi hstep
  have hprice : ∀ s t label, Shows api level s t →
      api.charged (suffixed key name) s label = charged (suffixed key name) t label :=
    fun s t label h => h.charged_eq hapi _ label
  obtain ⟨past, hpast⟩ := hreach
  obtain ⟨⟨m, hreached, hm⟩, -⟩ := Machine.run_of_simulation hfollow hprice hshows hpast
  obtain ⟨⟨m', hrun', -⟩, hcost⟩ := Machine.run_of_simulation hfollow hprice hm hrun
  have hbuckets : Buckets spec m :=
    Machine.invariant_reachable _ (Buckets.of_build hbuilt) (fun _ _ _ h hstep => h.step hstep)
      ⟨past, hreached⟩
  constructor
  · have hbudget := limit_budget hbuckets hrun' (.pool key hpool)
    rw [poolLimit_rate] at hbudget
    rw [hcost]
    exact hbudget
  · intro key' endpoint charges hcharges hregistered hgranted
    rw [hm.limits] at hregistered
    obtain ⟨limit, hid⟩ := Option.isSome_iff_exists.1 hregistered
    rw [hprice l m _ hm]
    exact charged_request hbuckets.inv.registry hcharges hpool hid
      ((hm.granted_iff hapi hid).1 hgranted)

end Package

/-- A limiter whose state is its limits and levels. -/
def levelLimiter : BucketApi Limiter where
  toLimiterApi := dictLimiter
  wait := wait
  request l id :=
    match l.limits.get? id with
    | none => (l, false)
    | some limit => if Admits l id limit then (charge l limit, true) else (l, false)

theorem tokenBuckets_levelLimiter : TokenBuckets levelLimiter Limiter.tokens where
  empty _ := rfl
  starts l limit id := Function.update_apply l.tokens limit.limitId (limit.limit : Rat) id
  wait_limits _ _ _ := rfl
  wait_level _ _ _ _ := rfl
  request_limits l id id' := by
    simp only [levelLimiter]
    split
    · rfl
    · split_ifs <;> rfl
  granted l id limit hid := by
    have hlimit : l.limits.get? id = some limit := hid
    simp only [levelLimiter, hlimit]
    split_ifs with hadmits
    · exact iff_of_true rfl hadmits
    · exact iff_of_false (by simp) hadmits
  request_level l id limit hid id' := by
    have hlimit : l.limits.get? id = some limit := hid
    simp only [levelLimiter, hlimit]
    by_cases hadmits : Admits l id limit
    · simp only [if_pos hadmits, if_true]
      rfl
    · simp only [if_neg hadmits, Bool.false_eq_true, if_false]

/-- A pool of five tokens, refilled once a second, under two requests a second apart. -/
theorem pool_budget_onePool :
    (bucketMachine levelLimiter (onePool 5 1 (by decide) (by decide)) (onePoolLimiter 5 1)).cost
        (levelLimiter.charged (suffixed none "pool")) (onePoolLimiter 5 1)
        [.request "endpoint", .wait 1, .request "endpoint"] ≤
      5 + 1 * Machine.gain elapsed [.request "endpoint", .wait 1, .request "endpoint"] := by
  have hbuild : buildLimiterWith levelLimiter.toLimiterApi
      (onePool 5 1 (by decide) (by decide)).pools
      (onePool 5 1 (by decide) (by decide)).endpointPools = .ok (onePoolLimiter 5 1) :=
    (buildLimiterWith_dict _).trans (buildLimiter_onePool (by decide) (by decide))
  have hrun : ∃ l', (bucketMachine levelLimiter (onePool 5 1 (by decide) (by decide))
      (onePoolLimiter 5 1)).run (onePoolLimiter 5 1)
        [.request "endpoint", .wait 1, .request "endpoint"] = some l' := ⟨_, rfl⟩
  obtain ⟨l', hrun⟩ := hrun
  have hreach : (bucketMachine levelLimiter (onePool 5 1 (by decide) (by decide))
      (onePoolLimiter 5 1)).Reachable (onePoolLimiter 5 1) := ⟨[], rfl⟩
  have hpool : (onePool 5 1 (by decide) (by decide)).pools.get? "pool" =
      some ⟨"pool", 5, 1, by decide, by decide⟩ := rfl
  exact_mod_cast (pool_budget tokenBuckets_levelLimiter hbuild hreach hrun hpool none).1

end RateLimits
end MarketConnector
