import MarketConnector.RateLimits.Limiter

/-!
# RateLimits - Keyed limits

The limits of a keyed endpoint are registered when they are first asked for, one for each key,
with copies of the template pools for that key.  Ids are texts joined by a colon, and keys are
any texts.  The limiter is anything that remembers what is added to it.

Main results:

- Definition `limiterFromTieredSpec`: a limiter with the pools of one tier.
- Theorem `KeyedInv.ensureAll`: what the limiter holds after any calls.
- Theorem `ensureAll_isolates_keys`: keys share no pools, endpoints those that both charge.
-/

namespace MarketConnector
namespace RateLimits

open Foundations Kraken

/-! ## Tiered specs -/

structure TierProfile where
  pools : Dict String PoolSpec

structure TieredRateLimitSpec where
  publicPools : Dict String PoolSpec
  tiers : Dict String TierProfile
  endpointPools : Dict String Charges
  keyedEndpointPools : Dict String Charges

inductive TierError where
  /-- `KeyError(f"Unknown tier {tier!r}; valid: {list(spec.tiers)}")` -/
  | unknownTier (tier : String) (valid : List String)
  | build (e : BuildError)
deriving DecidableEq

/-- The operations on a limiter, and what they promise: it remembers what is added. -/
structure LimiterApi (L : Type) where
  empty : L
  hasLimit : L → String → Bool
  keyed : KeyedLimiter L
  getRawLimit_empty : ∀ id, keyed.getRawLimit empty id = none
  hasLimit_eq : ∀ l id, hasLimit l id = (keyed.getRawLimit l id).isSome
  getRawLimit_addLimit : ∀ l limit id, keyed.getRawLimit (keyed.addLimit l limit) id =
    if id = limit.limitId then some limit else keyed.getRawLimit l id

/-- A dictionary of limits is such a limiter. -/
def dictLimiter : LimiterApi Limiter where
  empty := .empty
  hasLimit := hasLimit
  keyed := keyedLimiter
  getRawLimit_empty _ := rfl
  hasLimit_eq _ _ := rfl
  getRawLimit_addLimit l limit id := Dict.get?_set l.limits limit.limitId id limit

section

variable {L : Type}

/-- The limit of a static endpoint. -/
def endpointToRateLimit (pools : Dict String PoolSpec) (e : String × Charges) :
    Except BuildError RateLimit :=
  (largestCapacity pools e.2).map fun capacity => ⟨e.1, capacity, 1, e.2, "token_bucket"⟩

/-- `_build_limiter`, on any limiter. -/
def buildLimiterWith (api : LimiterApi L) (pools : Dict String PoolSpec)
    (endpointPools : Dict String Charges) : Except BuildError L := do
  let endpoints ← endpointPools.entries.mapM (endpointToRateLimit pools)
  return (pools.values.map poolToRateLimit ++ endpoints).foldl api.keyed.addLimit api.empty

/-- On a dictionary it is the limiter of a spec with one tier. -/
theorem buildLimiterWith_dict (spec : RateLimitSpec) :
    buildLimiterWith dictLimiter spec.pools spec.endpointPools = buildLimiter spec := by
  suffices h : ∀ entries l, addEndpoints spec.pools entries l =
      (entries.mapM (endpointToRateLimit spec.pools)).map (List.foldl addLimit l) by
    rw [buildLimiter, h, buildLimiterWith]
    cases spec.endpointPools.entries.mapM (endpointToRateLimit spec.pools) with
    | error e => rfl
    | ok endpoints => exact congrArg Except.ok List.foldl_append
  intro entries
  induction entries with
  | nil => intro l; rfl
  | cons e entries ih =>
      intro l
      rw [addEndpoints, List.mapM_cons, endpointToRateLimit]
      cases hcapacity : largestCapacity spec.pools e.2 with
      | error err => rfl
      | ok capacity =>
          dsimp only
          rw [ih]
          cases entries.mapM (endpointToRateLimit spec.pools) <;> rfl

/-- The public pools and those of a tier. -/
def TieredRateLimitSpec.pools (spec : TieredRateLimitSpec) (profile : TierProfile) :
    Dict String PoolSpec :=
  spec.publicPools.update profile.pools.entries

def limiterFromTieredSpec (api : LimiterApi L) (spec : TieredRateLimitSpec) (tier : String) :
    Except TierError L :=
  match spec.tiers.get? tier with
  | none => .error (.unknownTier tier spec.tiers.keys)
  | some profile =>
      (buildLimiterWith api (spec.pools profile) spec.endpointPools).mapError .build

/-- `ensure_keyed_limit` with the charges the spec has for the endpoint. -/
def ensureKeyed (api : LimiterApi L) (spec : TieredRateLimitSpec) (l : L)
    (call : String × String) : L :=
  match spec.keyedEndpointPools.get? call.1 with
  | none => l
  | some charges => (ensureKeyedLimit api.hasLimit api.keyed l call.1 call.2 charges).1

/-- Calls of `ensure_keyed_limit` with endpoints and keys, one after the other. -/
def ensureAll (api : LimiterApi L) (spec : TieredRateLimitSpec) (l : L)
    (calls : List (String × String)) : L :=
  calls.foldl (ensureKeyed api spec) l

/-! ## Names -/

/-- Names have no colon, pools and endpoints have different ones, and keyed endpoints charge
registered pools. -/
structure TierNames (spec : TieredRateLimitSpec) (pools : Dict String PoolSpec) : Prop where
  pool_plain : ∀ pool ∈ pools.values, ':' ∉ pool.name.toList
  endpoint_plain : ∀ name ∈ spec.endpointPools.keys, ':' ∉ name.toList
  keyed_plain : ∀ name ∈ spec.keyedEndpointPools.keys, ':' ∉ name.toList
  apart : ∀ pool ∈ pools.values,
    pool.name ∉ spec.endpointPools.keys ∧ pool.name ∉ spec.keyedEndpointPools.keys
  known : ∀ name charges, spec.keyedEndpointPools.get? name = some charges →
    ∀ charge ∈ charges, charge.1 ∈ pools.values.map PoolSpec.name

/-- What was added under an id, or what was there before. -/
theorem getRawLimit_foldl (api : LimiterApi L) (limits : List RateLimit) (l : L) (id : String) :
    api.keyed.getRawLimit (limits.foldl api.keyed.addLimit l) id =
      ((limits.filter fun limit => limit.limitId = id).getLast?).or
        (api.keyed.getRawLimit l id) := by
  induction limits generalizing l with
  | nil => rfl
  | cons limit limits ih =>
      rw [List.foldl_cons, ih, api.getRawLimit_addLimit]
      by_cases hid : limit.limitId = id
      · subst hid
        rw [List.filter_cons_of_pos (by simp), List.getLast?_cons, if_pos rfl]
        cases (limits.filter fun other => other.limitId = limit.limitId).getLast? <;> rfl
      · rw [List.filter_cons_of_neg (by simpa using hid), if_neg (Ne.symm hid)]

/-- What a limiter is built with: ids without a colon, and the pools under their names. -/
structure Templates (api : LimiterApi L) (pools : Dict String PoolSpec) (l : L) : Prop where
  plain : ∀ id limit, api.keyed.getRawLimit l id = some limit → ':' ∉ id.toList
  pool : ∀ name ∈ pools.values.map PoolSpec.name, ∃ pool ∈ pools.values, pool.name = name ∧
    api.keyed.getRawLimit l name = some (poolToRateLimit pool)

/-- The static endpoints have their own names. -/
theorem endpointToRateLimit_mapM {pools : Dict String PoolSpec} {entries : List (String × Charges)}
    {endpoints : List RateLimit} (h : entries.mapM (endpointToRateLimit pools) = .ok endpoints) :
    endpoints.map RateLimit.limitId = entries.map Prod.fst := by
  induction entries generalizing endpoints with
  | nil =>
      cases h
      rfl
  | cons e entries ih =>
      rw [List.mapM_cons] at h
      obtain ⟨first, hfirst, hbind⟩ := bind_eq_ok.1 h
      obtain ⟨rest, hrest, heq⟩ := bind_eq_ok.1 hbind
      cases heq
      obtain ⟨capacity, -, rfl⟩ := map_eq_ok.1 hfirst
      rw [List.map_cons, List.map_cons, ih hrest]

theorem buildLimiterWith_eq_ok {api : LimiterApi L} {spec : TieredRateLimitSpec}
    {pools : Dict String PoolSpec} (hnames : TierNames spec pools) {l : L}
    (h : buildLimiterWith api pools spec.endpointPools = .ok l) : Templates api pools l := by
  obtain ⟨endpoints, hendpoints, hbuilt⟩ := bind_eq_ok.1 h
  cases hbuilt
  have hids := endpointToRateLimit_mapM hendpoints
  have hendpoint : ∀ limit ∈ endpoints, limit.limitId ∈ spec.endpointPools.keys := by
    intro limit hlimit
    have hmem := List.mem_map_of_mem (f := RateLimit.limitId) hlimit
    rwa [hids] at hmem
  constructor
  · intro id limit hid
    rw [getRawLimit_foldl, api.getRawLimit_empty, Option.or_none] at hid
    obtain ⟨hmem, heq⟩ := List.mem_filter.1 (List.mem_of_getLast? hid)
    have hlimit : limit.limitId = id := by simpa using heq
    rcases List.mem_append.1 hmem with hmapped | hstatic
    · obtain ⟨pool, hpool, rfl⟩ := List.mem_map.1 hmapped
      exact hlimit ▸ hnames.pool_plain pool hpool
    · exact hlimit ▸ hnames.endpoint_plain _ (hendpoint limit hstatic)
  · intro name hname
    obtain ⟨pool, hpool, rfl⟩ := List.mem_map.1 hname
    -- no endpoint has the name of a pool, so a pool was added under it last
    have hstatic : endpoints.filter (fun limit => limit.limitId = pool.name) = [] := by
      rw [List.filter_eq_nil_iff]
      intro limit hlimit heq
      have hlimit' : limit.limitId = pool.name := by simpa using heq
      exact (hnames.apart pool hpool).1 (hlimit' ▸ hendpoint limit hlimit)
    rw [getRawLimit_foldl, api.getRawLimit_empty, Option.or_none, List.filter_append, hstatic,
      List.append_nil]
    cases hlast : ((pools.values.map poolToRateLimit).filter
        fun limit => limit.limitId = pool.name).getLast? with
    | none =>
        rw [List.getLast?_eq_none_iff, List.filter_eq_nil_iff] at hlast
        exact absurd (decide_eq_true rfl) (hlast _ (List.mem_map_of_mem hpool))
    | some limit =>
        obtain ⟨hmem, heq⟩ := List.mem_filter.1 (List.mem_of_getLast? hlast)
        obtain ⟨pool', hpool', rfl⟩ := List.mem_map.1 hmem
        have hname' : pool'.name = pool.name := of_decide_eq_true heq
        exact ⟨pool', hpool', hname', rfl⟩

/-! ## What is registered for keys -/

/-- Id of a limit for a key. -/
def keyedId (name key : String) : String :=
  name ++ ":" ++ key

/-- Copy of a template pool for a key. -/
def keyedPool (template : RateLimit) (name key : String) : RateLimit :=
  ⟨keyedId name key, template.limit, template.timeInterval, [], template.kind⟩

/-- Charges of a keyed endpoint, to the pools of a key. -/
def keyedCharges (charges : Charges) (key : String) : Charges :=
  charges.map fun charge => (keyedId charge.1 key, charge.2)

/-- The templates stay as they are, pools of a key are copies, and endpoints of a key are linked
to pools that are registered. -/
structure KeyedInv (api : LimiterApi L) (spec : TieredRateLimitSpec) (pools : Dict String PoolSpec)
    (built l : L) : Prop where
  plain : ∀ id, ':' ∉ id.toList → api.keyed.getRawLimit l id = api.keyed.getRawLimit built id
  pool : ∀ name ∈ pools.values.map PoolSpec.name, ∀ key limit,
    api.keyed.getRawLimit l (keyedId name key) = some limit →
      ∃ template, api.keyed.getRawLimit built name = some template ∧
        limit = keyedPool template name key
  endpoint : ∀ name charges, spec.keyedEndpointPools.get? name = some charges → ∀ key limit,
    api.keyed.getRawLimit l (keyedId name key) = some limit →
      limit.linkedLimits = keyedCharges charges key ∧
        ∀ charge ∈ charges, (api.keyed.getRawLimit l (keyedId charge.1 key)).isSome

/-- Registered limits stay as they are. -/
def Keeps (api : LimiterApi L) (l l' : L) : Prop :=
  ∀ id limit, api.keyed.getRawLimit l id = some limit → api.keyed.getRawLimit l' id = some limit

theorem Keeps.isSome {api : LimiterApi L} {l l' : L} (h : Keeps api l l') {id : String}
    (hid : (api.keyed.getRawLimit l id).isSome) : (api.keyed.getRawLimit l' id).isSome := by
  obtain ⟨limit, hlimit⟩ := Option.isSome_iff_exists.1 hid
  exact Option.isSome_of_eq_some (h id limit hlimit)

theorem keyedId_ne_of_plain {id name key : String} (h : ':' ∉ id.toList) :
    id ≠ keyedId name key :=
  ne_join_colon h

theorem keeps_addLimit {api : LimiterApi L} {l : L} {limit : RateLimit}
    (h : api.keyed.getRawLimit l limit.limitId = none) :
    Keeps api l (api.keyed.addLimit l limit) := by
  intro id limit' hid
  rw [api.getRawLimit_addLimit, if_neg, hid]
  rintro rfl
  rw [h] at hid
  cases hid

variable {api : LimiterApi L} {spec : TieredRateLimitSpec} {pools : Dict String PoolSpec}
  {built l : L}

theorem KeyedInv.start (hbuilt : Templates api pools built) :
    KeyedInv api spec pools built built := by
  have hcolon : ∀ name key limit, api.keyed.getRawLimit built (keyedId name key) ≠ some limit := by
    intro name key limit hid
    exact keyedId_ne_of_plain (hbuilt.plain _ _ hid) rfl
  exact ⟨fun id _ => rfl, fun name _ key limit hid => absurd hid (hcolon _ _ _),
    fun name charges _ key limit hid => absurd hid (hcolon _ _ _)⟩

/-- The copy of a pool is registered. -/
theorem KeyedInv.addPool (hnames : TierNames spec pools) (h : KeyedInv api spec pools built l)
    {name key : String} {template : RateLimit} (hname : name ∈ pools.values.map PoolSpec.name)
    (htemplate : api.keyed.getRawLimit built name = some template)
    (hnew : api.keyed.getRawLimit l (keyedId name key) = none) :
    KeyedInv api spec pools built (api.keyed.addLimit l (keyedPool template name key)) := by
  obtain ⟨pool, hpool, rfl⟩ := List.mem_map.1 hname
  have hkeeps : Keeps api l (api.keyed.addLimit l (keyedPool template pool.name key)) :=
    keeps_addLimit hnew
  constructor
  · intro id hid
    have hother : id ≠ (keyedPool template pool.name key).limitId := keyedId_ne_of_plain hid
    rw [api.getRawLimit_addLimit, if_neg hother, h.plain id hid]
  · intro name' hname' key' limit hlimit
    rw [api.getRawLimit_addLimit] at hlimit
    split_ifs at hlimit with heq
    · obtain ⟨pool', hpool', rfl⟩ := List.mem_map.1 hname'
      obtain ⟨hsame, rfl⟩ :=
        join_colon_inj (hnames.pool_plain pool' hpool') (hnames.pool_plain pool hpool) heq
      cases hlimit
      rw [hsame]
      exact ⟨template, htemplate, rfl⟩
    · exact h.pool name' hname' key' limit hlimit
  · intro name' charges hcharges key' limit hlimit
    rw [api.getRawLimit_addLimit] at hlimit
    split_ifs at hlimit with heq
    · have hkeys := mem_keys_of_get? hcharges
      obtain ⟨rfl, -⟩ :=
        join_colon_inj (hnames.keyed_plain name' hkeys) (hnames.pool_plain pool hpool) heq
      exact absurd hkeys (hnames.apart pool hpool).2
    · obtain ⟨hlinked, hall⟩ := h.endpoint name' charges hcharges key' limit hlimit
      exact ⟨hlinked, fun charge hcharge => hkeeps.isSome (hall charge hcharge)⟩

/-- The limit of an endpoint is registered, with its pools. -/
theorem KeyedInv.addEndpoint (hnames : TierNames spec pools) (h : KeyedInv api spec pools built l)
    {name key : String} {charges : Charges} {capacity : Int}
    (hcharges : spec.keyedEndpointPools.get? name = some charges)
    (hpools : ∀ charge ∈ charges, (api.keyed.getRawLimit l (keyedId charge.1 key)).isSome)
    (hnew : api.keyed.getRawLimit l (keyedId name key) = none) :
    KeyedInv api spec pools built (api.keyed.addLimit l
      ⟨keyedId name key, capacity, 1, keyedCharges charges key, "token_bucket"⟩) := by
  have hplain := hnames.keyed_plain name (mem_keys_of_get? hcharges)
  have hkeeps : Keeps api l (api.keyed.addLimit l
      ⟨keyedId name key, capacity, 1, keyedCharges charges key, "token_bucket"⟩) :=
    keeps_addLimit hnew
  constructor
  · intro id hid
    rw [api.getRawLimit_addLimit, if_neg (keyedId_ne_of_plain hid), h.plain id hid]
  · intro name' hname' key' limit hlimit
    rw [api.getRawLimit_addLimit] at hlimit
    split_ifs at hlimit with heq
    · obtain ⟨pool', hpool', rfl⟩ := List.mem_map.1 hname'
      obtain ⟨hsame, -⟩ := join_colon_inj (hnames.pool_plain pool' hpool') hplain heq
      exact absurd (hsame ▸ mem_keys_of_get? hcharges) (hnames.apart pool' hpool').2
    · exact h.pool name' hname' key' limit hlimit
  · intro name' charges' hcharges' key' limit hlimit
    rw [api.getRawLimit_addLimit] at hlimit
    split_ifs at hlimit with heq
    · obtain ⟨rfl, rfl⟩ :=
        join_colon_inj (hnames.keyed_plain name' (mem_keys_of_get? hcharges')) hplain heq
      cases hcharges.symm.trans hcharges'
      cases hlimit
      exact ⟨rfl, fun charge hcharge => hkeeps.isSome (hpools charge hcharge)⟩
    · obtain ⟨hlinked, hall⟩ := h.endpoint name' charges' hcharges' key' limit hlimit
      exact ⟨hlinked, fun charge hcharge => hkeeps.isSome (hall charge hcharge)⟩

/-- The template of a pool is still there. -/
theorem KeyedInv.template (hnames : TierNames spec pools) (hbuilt : Templates api pools built)
    (h : KeyedInv api spec pools built l) {name : String}
    (hname : name ∈ pools.values.map PoolSpec.name) :
    ∃ pool ∈ pools.values, pool.name = name ∧
      api.keyed.getRawLimit built name = some (poolToRateLimit pool) ∧
      api.keyed.getRawLimit l name = some (poolToRateLimit pool) := by
  obtain ⟨pool, hpool, rfl, htemplate⟩ := hbuilt.pool name hname
  exact ⟨pool, hpool, rfl, htemplate, by rw [h.plain _ (hnames.pool_plain pool hpool), htemplate]⟩

/-- The copy of a pool was there, or is added. -/
theorem KeyedInv.addMissing (hnames : TierNames spec pools) (h : KeyedInv api spec pools built l)
    {name : String} (key : String) {template : RateLimit}
    (hname : name ∈ pools.values.map PoolSpec.name)
    (htemplate : api.keyed.getRawLimit built name = some template) :
    ∃ l', (if api.hasLimit l (keyedId name key) then l
        else api.keyed.addLimit l (keyedPool template name key)) = l' ∧
      KeyedInv api spec pools built l' ∧ Keeps api l l' ∧
      (api.keyed.getRawLimit l' (keyedId name key)).isSome ∧
      ∀ id, id ≠ keyedId name key →
        api.keyed.getRawLimit l' id = api.keyed.getRawLimit l id := by
  refine ⟨_, rfl, ?_⟩
  rw [api.hasLimit_eq]
  cases hpresent : api.keyed.getRawLimit l (keyedId name key) with
  | some limit =>
      rw [if_pos (Option.isSome_some)]
      exact ⟨h, fun _ _ hid => hid, Option.isSome_of_eq_some hpresent, fun _ _ => rfl⟩
  | none =>
      rw [if_neg (by simp)]
      refine ⟨h.addPool hnames hname htemplate hpresent, keeps_addLimit hpresent, ?_, ?_⟩
      · rw [api.getRawLimit_addLimit]
        exact Option.isSome_of_eq_some (if_pos rfl)
      · intro id hid
        rw [api.getRawLimit_addLimit]
        exact if_neg hid

/-- The loop over the charges registers the pools that are missing. -/
theorem KeyedInv.ensurePools (hnames : TierNames spec pools) (hbuilt : Templates api pools built)
    (h : KeyedInv api spec pools built l) (limitId key : String) {charges : Charges}
    (hknown : ∀ charge ∈ charges, charge.1 ∈ pools.values.map PoolSpec.name) (capacity : Int) :
    ∃ l' largest,
      Kraken.ensurePools api.hasLimit api.keyed limitId key charges capacity l =
        (l', .ok largest) ∧
      KeyedInv api spec pools built l' ∧ Keeps api l l' ∧
      (∀ charge ∈ charges, (api.keyed.getRawLimit l' (keyedId charge.1 key)).isSome) ∧
      ∀ id, (∀ charge ∈ charges, id ≠ keyedId charge.1 key) →
        api.keyed.getRawLimit l' id = api.keyed.getRawLimit l id := by
  induction charges generalizing l capacity with
  | nil =>
      exact ⟨l, capacity, rfl, h, fun _ _ hid => hid, List.forall_mem_nil _, fun _ _ => rfl⟩
  | cons charge charges ih =>
      rw [List.forall_mem_cons] at hknown
      obtain ⟨pool, hpool, hname, hbefore, htemplate⟩ := h.template hnames hbuilt hknown.1
      obtain ⟨l₁, hl₁, hinv, hkeeps, hkeyed, hothers⟩ :=
        h.addMissing hnames key hknown.1 hbefore
      obtain ⟨l', largest, hl', hdone, hrest, hall, hsame⟩ :=
        ih hinv hknown.2 (max capacity (poolToRateLimit pool).limit)
      refine ⟨l', largest, ?_, hdone, fun id limit hid => hrest id limit (hkeeps id limit hid),
        ?_, ?_⟩
      · subst hl₁
        rw [Kraken.ensurePools, htemplate]
        exact hl'
      · rw [List.forall_mem_cons]
        exact ⟨hrest.isSome hkeyed, hall⟩
      · intro id hid
        rw [List.forall_mem_cons] at hid
        rw [hsame id hid.2, hothers id hid.1]

/-- A limit that is registered is returned as it is. -/
theorem ensureKeyedLimit_of_present {name key : String} {limit : RateLimit}
    (h : api.keyed.getRawLimit l (keyedId name key) = some limit) (charges : Charges) :
    ensureKeyedLimit api.hasLimit api.keyed l name key charges =
      (l, .ok (keyedId name key)) := by
  have hpresent : api.hasLimit l (name ++ ":" ++ key) = true := by
    rw [api.hasLimit_eq]
    exact Option.isSome_of_eq_some h
  rw [ensureKeyedLimit]
  exact if_pos hpresent

/-- A limit that is not is added after its pools. -/
theorem ensureKeyedLimit_of_absent {name key : String} {charges : Charges} {l' : L}
    {capacity : Int} (h : api.keyed.getRawLimit l (keyedId name key) = none)
    (hpools : ensurePools api.hasLimit api.keyed (keyedId name key) key charges 1 l =
      (l', .ok capacity)) :
    ensureKeyedLimit api.hasLimit api.keyed l name key charges =
      (api.keyed.addLimit l'
        ⟨keyedId name key, capacity, 1, keyedCharges charges key, "token_bucket"⟩,
        .ok (keyedId name key)) := by
  have habsent : ¬ api.hasLimit l (keyedId name key) = true := by
    rw [api.hasLimit_eq, h]
    simp
  unfold keyedId at habsent hpools
  rw [ensureKeyedLimit, if_neg habsent, hpools]
  rfl

/-- A call registers the limit, if it is not yet. -/
theorem KeyedInv.ensureKeyedLimit (hnames : TierNames spec pools)
    (hbuilt : Templates api pools built) (h : KeyedInv api spec pools built l)
    {name : String} {charges : Charges}
    (hcharges : spec.keyedEndpointPools.get? name = some charges) (key : String) :
    ∃ l', Kraken.ensureKeyedLimit api.hasLimit api.keyed l name key charges =
        (l', .ok (keyedId name key)) ∧
      KeyedInv api spec pools built l' ∧ Keeps api l l' ∧
      (api.keyed.getRawLimit l' (keyedId name key)).isSome := by
  cases hpresent : api.keyed.getRawLimit l (keyedId name key) with
  | some limit =>
      exact ⟨l, ensureKeyedLimit_of_present hpresent charges, h, fun _ _ hid => hid,
        Option.isSome_of_eq_some hpresent⟩
  | none =>
      have hknown := hnames.known name charges hcharges
      have hkeys := mem_keys_of_get? hcharges
      obtain ⟨l₁, capacity, hl₁, hinv, hkeeps, hall, hsame⟩ :=
        h.ensurePools hnames hbuilt (keyedId name key) key hknown 1
      -- no pool of the key has the id of the endpoint
      have hnew : api.keyed.getRawLimit l₁ (keyedId name key) = none := by
        rw [hsame, hpresent]
        intro charge hcharge heq
        obtain ⟨pool, hpool, hname⟩ := List.mem_map.1 (hknown charge hcharge)
        rw [← hname] at heq
        obtain ⟨rfl, -⟩ :=
          join_colon_inj (hnames.keyed_plain name hkeys) (hnames.pool_plain pool hpool) heq
        exact (hnames.apart pool hpool).2 hkeys
      refine ⟨_, ensureKeyedLimit_of_absent hpresent hl₁,
        hinv.addEndpoint hnames hcharges hall hnew,
        fun id limit hid => keeps_addLimit hnew id limit (hkeeps id limit hid), ?_⟩
      rw [api.getRawLimit_addLimit]
      exact Option.isSome_of_eq_some (if_pos rfl)

/-! ## Runs -/

/-- What any calls keep. -/
theorem KeyedInv.ensureAll (hnames : TierNames spec pools) (hbuilt : Templates api pools built)
    (h : KeyedInv api spec pools built l) (calls : List (String × String)) :
    KeyedInv api spec pools built (RateLimits.ensureAll api spec l calls) ∧
      Keeps api l (RateLimits.ensureAll api spec l calls) ∧
      ∀ name key, (name, key) ∈ calls → name ∈ spec.keyedEndpointPools.keys →
        (api.keyed.getRawLimit (RateLimits.ensureAll api spec l calls)
          (keyedId name key)).isSome := by
  induction calls generalizing l with
  | nil => exact ⟨h, fun _ _ hid => hid, fun _ _ hcall => by cases hcall⟩
  | cons call calls ih =>
      obtain ⟨l₁, hl₁, hinv, hkeeps, hkeyed⟩ : ∃ l₁, ensureKeyed api spec l call = l₁ ∧
          KeyedInv api spec pools built l₁ ∧ Keeps api l l₁ ∧
          (call.1 ∈ spec.keyedEndpointPools.keys →
            (api.keyed.getRawLimit l₁ (keyedId call.1 call.2)).isSome) := by
        unfold ensureKeyed
        cases hcharges : spec.keyedEndpointPools.get? call.1 with
        | none =>
            refine ⟨l, rfl, h, fun _ _ hid => hid, fun hmem => ?_⟩
            have hknown := (spec.keyedEndpointPools.mem_keys_iff).1 hmem
            rw [Dict.contains, hcharges] at hknown
            cases hknown
        | some charges =>
            obtain ⟨l', hl', hinv, hkeeps, hkeyed⟩ :=
              h.ensureKeyedLimit hnames hbuilt hcharges call.2
            exact ⟨l', congrArg Prod.fst hl', hinv, hkeeps, fun _ => hkeyed⟩
      obtain ⟨hdone, hrest, hall⟩ := ih hinv
      rw [show RateLimits.ensureAll api spec l (call :: calls) =
        RateLimits.ensureAll api spec l₁ calls from congrArg (List.foldl _ · calls) hl₁]
      refine ⟨hdone, fun id limit hid => hrest id limit (hkeeps id limit hid), ?_⟩
      intro name key hcall hname
      rcases List.mem_cons.1 hcall with rfl | hlater
      · exact hrest.isSome (hkeyed hname)
      · exact hall name key hlater hname

/-! ## Kraken's spec -/

def publicPool : PoolSpec :=
  ⟨"public", 1, 1, by decide, by decide⟩

def privatePool (capacity : Int) (refillRate : Rat) (hcapacity : 0 < capacity)
    (hrate : 0 < refillRate) : PoolSpec :=
  ⟨"private", capacity, refillRate, hcapacity, hrate⟩

def matchingPool (capacity : Int) (refillRate : Rat) (hcapacity : 0 < capacity)
    (hrate : 0 < refillRate) : PoolSpec :=
  ⟨"matching", capacity, refillRate, hcapacity, hrate⟩

/-- `KRAKEN_RATE_LIMIT_SPEC`. -/
def krakenRateLimitSpec : TieredRateLimitSpec where
  publicPools := .ofList [("public", publicPool)]
  tiers := .ofList [
    ("STARTER", ⟨.ofList [
      ("private", privatePool 15 (33 / 100) (by decide) (by norm_num)),
      ("matching", matchingPool 60 1 (by decide) (by norm_num))]⟩),
    ("INTERMEDIATE", ⟨.ofList [
      ("private", privatePool 20 (1 / 2) (by decide) (by norm_num)),
      ("matching", matchingPool 125 (234 / 100) (by decide) (by norm_num))]⟩),
    ("PRO", ⟨.ofList [
      ("private", privatePool 20 1 (by decide) (by norm_num)),
      ("matching", matchingPool 180 (375 / 100) (by decide) (by norm_num))]⟩)]
  endpointPools := .ofList [("server_time", [("public", 1)]), ("asset_pairs", [("public", 1)]),
    ("ticker", [("public", 1)]), ("depth", [("public", 1)]), ("balance", [("private", 1)]),
    ("open_orders", [("private", 1)]), ("query_orders", [("private", 1)]),
    ("query_trades", [("private", 2)]), ("get_websockets_token", [("private", 1)])]
  keyedEndpointPools := .ofList [("add_order", [("matching", 1)]),
    ("cancel_order", [("matching", 1)]), ("amend_order", [("matching", 1)]),
    ("edit_order", [("matching", 1)]), ("add_order_batch", [("matching", 1)]),
    ("cancel_order_batch", [("matching", 1)])]

/-- Names of the spec are as they should be, in every tier. -/
theorem krakenRateLimitSpec_names :
    ∀ profile ∈ krakenRateLimitSpec.tiers.values,
      TierNames krakenRateLimitSpec (krakenRateLimitSpec.pools profile) := by
  intro profile hprofile
  refine ⟨?_, ?_, ?_, ?_, ?_⟩
  · revert profile
    decide +kernel
  · decide +kernel
  · decide +kernel
  · revert profile
    decide +kernel
  · have hentries : ∀ e ∈ krakenRateLimitSpec.keyedEndpointPools.entries, ∀ charge ∈ e.2,
        charge.1 ∈ (krakenRateLimitSpec.pools profile).values.map PoolSpec.name := by
      revert profile
      decide +kernel
    intro name charges hcharges
    exact hentries _ ((krakenRateLimitSpec.keyedEndpointPools.mem_entries_iff).2 hcharges)

/-! ## Isolation -/

/-- Ids of the pools a limit charges. -/
def poolIds (limit : RateLimit) : List String :=
  limit.linkedLimits.map Prod.fst

theorem mem_poolIds {limit : RateLimit} {charges : Charges} {key : String}
    (h : limit.linkedLimits = keyedCharges charges key) {id : String} :
    id ∈ poolIds limit ↔ ∃ name ∈ charges.map Prod.fst, id = keyedId name key := by
  rw [poolIds, h, keyedCharges, List.map_map]
  constructor
  · intro hid
    obtain ⟨charge, hcharge, rfl⟩ := List.mem_map.1 hid
    exact ⟨charge.1, List.mem_map_of_mem hcharge, rfl⟩
  · rintro ⟨name, hname, rfl⟩
    obtain ⟨charge, hcharge, rfl⟩ := List.mem_map.1 hname
    exact List.mem_map.2 ⟨charge, hcharge, rfl⟩

/-- The limit is linked to the copies of the pools for the key, with the weights of the charges. -/
structure LinkedToCopies (api : LimiterApi L) (pools : Dict String PoolSpec) (l : L)
    (charges : Charges) (key : String) (limit : RateLimit) : Prop where
  linked : limit.linkedLimits = keyedCharges charges key
  copies : ∀ charge ∈ charges, ∃ pool ∈ pools.values, pool.name = charge.1 ∧
    api.keyed.getRawLimit l charge.1 = some (poolToRateLimit pool) ∧
    api.keyed.getRawLimit l (keyedId charge.1 key) =
      some (keyedPool (poolToRateLimit pool) charge.1 key)

/-- What holds of the limits that calls asked for. -/
structure KeysIsolated (api : LimiterApi L) (spec : TieredRateLimitSpec)
    (pools : Dict String PoolSpec) (calls : List (String × String)) (l : L) : Prop where
  returned : ∀ name charges, spec.keyedEndpointPools.get? name = some charges → ∀ key,
    (ensureKeyedLimit api.hasLimit api.keyed l name key charges).2 = .ok (keyedId name key)
  linked : ∀ name key, (name, key) ∈ calls → ∀ charges,
    spec.keyedEndpointPools.get? name = some charges →
      ∃ limit, api.keyed.getRawLimit l (keyedId name key) = some limit ∧
        LinkedToCopies api pools l charges key limit
  apart : ∀ name name' charges charges', spec.keyedEndpointPools.get? name = some charges →
    spec.keyedEndpointPools.get? name' = some charges' → ∀ key key', key ≠ key' →
      ∀ limit limit', api.keyed.getRawLimit l (keyedId name key) = some limit →
        api.keyed.getRawLimit l (keyedId name' key') = some limit' →
          ∀ id ∈ poolIds limit, id ∉ poolIds limit'
  shared : ∀ name name' charges charges', spec.keyedEndpointPools.get? name = some charges →
    spec.keyedEndpointPools.get? name' = some charges' → ∀ key,
      ∀ limit limit', api.keyed.getRawLimit l (keyedId name key) = some limit →
        api.keyed.getRawLimit l (keyedId name' key) = some limit' →
          ∀ id, (id ∈ poolIds limit ∧ id ∈ poolIds limit') ↔
            ∃ pool ∈ charges.map Prod.fst, pool ∈ charges'.map Prod.fst ∧ id = keyedId pool key
  repeated : ∀ name key, (name, key) ∈ calls → ∀ charges,
    spec.keyedEndpointPools.get? name = some charges →
      ensureKeyedLimit api.hasLimit api.keyed l name key charges = (l, .ok (keyedId name key))

/-- A pool that is charged has no colon in its name. -/
theorem TierNames.charge_plain (hnames : TierNames spec pools) {name : String} {charges : Charges}
    (hcharges : spec.keyedEndpointPools.get? name = some charges) {pool : String}
    (hpool : pool ∈ charges.map Prod.fst) : ':' ∉ pool.toList := by
  obtain ⟨charge, hcharge, rfl⟩ := List.mem_map.1 hpool
  obtain ⟨spec', hspec, hname⟩ := List.mem_map.1 (hnames.known name charges hcharges charge hcharge)
  exact hname ▸ hnames.pool_plain spec' hspec

/-- The pools of an endpoint for a key are copies. -/
theorem KeyedInv.linkedToCopies (hnames : TierNames spec pools)
    (hbuilt : Templates api pools built) (h : KeyedInv api spec pools built l)
    {name key : String} {charges : Charges} {limit : RateLimit}
    (hcharges : spec.keyedEndpointPools.get? name = some charges)
    (hlimit : api.keyed.getRawLimit l (keyedId name key) = some limit) :
    LinkedToCopies api pools l charges key limit := by
  obtain ⟨hlinked, hall⟩ := h.endpoint name charges hcharges key limit hlimit
  refine ⟨hlinked, fun charge hcharge => ?_⟩
  have hknown := hnames.known name charges hcharges charge hcharge
  obtain ⟨pool, hpool, hname, hbefore, htemplate⟩ := h.template hnames hbuilt hknown
  obtain ⟨copy, hcopy⟩ := Option.isSome_iff_exists.1 (hall charge hcharge)
  obtain ⟨template, hsame, rfl⟩ := h.pool _ hknown key copy hcopy
  cases hbefore.symm.trans hsame
  exact ⟨pool, hpool, hname, htemplate, hcopy⟩

/-- Limits of different keys share no pool, those of one key the pools that both charge. -/
theorem KeyedInv.poolIds_inter (hnames : TierNames spec pools)
    (h : KeyedInv api spec pools built l) {name name' key key' : String}
    {charges charges' : Charges} {limit limit' : RateLimit}
    (hcharges : spec.keyedEndpointPools.get? name = some charges)
    (hcharges' : spec.keyedEndpointPools.get? name' = some charges')
    (hlimit : api.keyed.getRawLimit l (keyedId name key) = some limit)
    (hlimit' : api.keyed.getRawLimit l (keyedId name' key') = some limit') (id : String) :
    (id ∈ poolIds limit ∧ id ∈ poolIds limit') ↔
      ∃ pool ∈ charges.map Prod.fst, pool ∈ charges'.map Prod.fst ∧ id = keyedId pool key ∧
        key = key' := by
  have hlinked := (h.endpoint name charges hcharges key limit hlimit).1
  have hlinked' := (h.endpoint name' charges' hcharges' key' limit' hlimit').1
  rw [mem_poolIds hlinked, mem_poolIds hlinked']
  constructor
  · rintro ⟨⟨pool, hpool, rfl⟩, pool', hpool', heq⟩
    obtain ⟨rfl, rfl⟩ := join_colon_inj (hnames.charge_plain hcharges hpool)
      (hnames.charge_plain hcharges' hpool') heq
    exact ⟨pool, hpool, hpool', rfl, rfl⟩
  · rintro ⟨pool, hpool, hpool', rfl, rfl⟩
    exact ⟨⟨pool, hpool, rfl⟩, pool, hpool', rfl⟩

/-- After any calls of `ensure_keyed_limit` on a limiter built for a tier, the limits of the calls
are linked to copies of the tier's pools, and keys share none. -/
theorem ensureAll_isolates_keys (api : LimiterApi L) {spec : TieredRateLimitSpec} {tier : String}
    {profile : TierProfile} (htier : spec.tiers.get? tier = some profile)
    (hnames : TierNames spec (spec.pools profile)) {built : L}
    (hbuilt : limiterFromTieredSpec api spec tier = .ok built) (calls : List (String × String)) :
    KeysIsolated api spec (spec.pools profile) calls (ensureAll api spec built calls) := by
  rw [limiterFromTieredSpec, htier] at hbuilt
  dsimp only at hbuilt
  have htemplates : Templates api (spec.pools profile) built := by
    cases hbuild : buildLimiterWith api (spec.pools profile) spec.endpointPools with
    | error e =>
        rw [hbuild] at hbuilt
        cases hbuilt
    | ok l =>
        rw [hbuild] at hbuilt
        cases hbuilt
        exact buildLimiterWith_eq_ok hnames hbuild
  obtain ⟨hinv, -, hall⟩ := (KeyedInv.start htemplates).ensureAll hnames htemplates calls
  have hkeyed : ∀ name key, (name, key) ∈ calls → ∀ charges,
      spec.keyedEndpointPools.get? name = some charges →
        ∃ limit, api.keyed.getRawLimit (ensureAll api spec built calls) (keyedId name key) =
          some limit := fun name key hcall charges hcharges =>
    Option.isSome_iff_exists.1 (hall name key hcall (mem_keys_of_get? hcharges))
  refine ⟨?returned, ?linked, ?apart, ?shared, ?repeated⟩
  case returned =>
    intro name charges hcharges key
    obtain ⟨l', hl', -⟩ := hinv.ensureKeyedLimit hnames htemplates hcharges key
    rw [hl']
  case linked =>
    intro name key hcall charges hcharges
    obtain ⟨limit, hlimit⟩ := hkeyed name key hcall charges hcharges
    exact ⟨limit, hlimit, hinv.linkedToCopies hnames htemplates hcharges hlimit⟩
  case apart =>
    intro name name' charges charges' hname hname' key key' hne limit limit' hlimit hlimit' id
      hid hid'
    obtain ⟨_, -, -, -, hsame⟩ :=
      (hinv.poolIds_inter hnames hname hname' hlimit hlimit' id).1 ⟨hid, hid'⟩
    exact hne hsame
  case shared =>
    intro name name' charges charges' hname hname' key limit limit' hlimit hlimit' id
    rw [hinv.poolIds_inter hnames hname hname' hlimit hlimit' id]
    simp only [and_true]
  case repeated =>
    intro name key hcall charges hcharges
    obtain ⟨limit, hlimit⟩ := hkeyed name key hcall charges hcharges
    exact ensureKeyedLimit_of_present hlimit charges

end

/-- Orders of two pairs, one of which has a colon, with the limits of the starter tier. -/
theorem ensureAll_isolates_starter :
    ∃ profile built, krakenRateLimitSpec.tiers.get? "STARTER" = some profile ∧
      limiterFromTieredSpec dictLimiter krakenRateLimitSpec "STARTER" = .ok built ∧
      KeysIsolated dictLimiter krakenRateLimitSpec (krakenRateLimitSpec.pools profile)
        [("add_order", "ETHUSD"), ("add_order", "XBT:EUR"), ("cancel_order", "ETHUSD")]
        (ensureAll dictLimiter krakenRateLimitSpec built
          [("add_order", "ETHUSD"), ("add_order", "XBT:EUR"), ("cancel_order", "ETHUSD")]) := by
  refine ⟨_, _, rfl, rfl, ?_⟩
  have htier : krakenRateLimitSpec.tiers.get? "STARTER" = some _ := rfl
  have hmem := (krakenRateLimitSpec.tiers.mem_values_iff).2 ⟨"STARTER", htier⟩
  exact ensureAll_isolates_keys dictLimiter htier (krakenRateLimitSpec_names _ hmem) rfl _

end RateLimits
end MarketConnector
