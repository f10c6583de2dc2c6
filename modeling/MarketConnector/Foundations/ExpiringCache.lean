import Mathlib.Algebra.Order.Ring.Defs
import Mathlib.Data.List.Pairwise
import Mathlib.Tactic.Linarith
import MarketConnector.Foundations.Transitions

/-!
# Foundations - A value that is fetched again when it is too old

Callers share one cached value and the time it was received at.  A caller that finds the value too
old fetches a new one; callers do not wait for each other, so several fetches may be under way.

Main results:

- Theorem `used_recent`: in every run, each caller uses a value that was received recently.
- Theorem `SpacedInv.step`: callers that take turns receive one value in a lifetime.
-/

namespace Foundations
namespace ExpiringCache

variable {T K : Type*} [Field K] [LinearOrder K]

/-! ## The cache -/

/-- The cached value, the fetches under way, and what was received and used so far. -/
structure Cache (T K : Type*) where
  now : K
  cached : Option (T × K)
  pending : List Nat
  received : List (T × K)
  used : List (Nat × T × K)

inductive Event (T K : Type*) where
  /-- the clock shows another time -/
  | clock (now : K)
  /-- a caller asks for the value -/
  | call (id : Nat)
  /-- the fetch of a caller returns -/
  | receives (id : Nat) (value : T)
  /-- the fetch of a caller fails -/
  | fails (id : Nat)

/-- The cached value, if it is not too old. -/
def fresh? (ttl : K) (s : Cache T K) : Option T :=
  match s.cached with
  | none => none
  | some (value, receivedAt) => if s.now - receivedAt < ttl then some value else none

def step (ttl : K) (s : Cache T K) : Event T K → Option (Cache T K)
  | .clock now => some { s with now := now }
  | .call id =>
      match fresh? ttl s with
      | some value => some { s with used := s.used ++ [(id, value, s.now)] }
      | none => some { s with pending := id :: s.pending }
  | .receives id value =>
      if id ∈ s.pending then
        some { s with
          cached := some (value, s.now)
          pending := s.pending.erase id
          received := s.received ++ [(value, s.now)]
          used := s.used ++ [(id, value, s.now)] }
      else none
  | .fails id => if id ∈ s.pending then some { s with pending := s.pending.erase id } else none

def machine (T : Type*) (ttl now : K) : Machine (Cache T K) (Event T K) where
  init := ⟨now, none, [], [], []⟩
  step := step ttl

/-! ## What a caller uses -/

/-- The value was received less than a lifetime before it is used, or just then. -/
def Recent (ttl : K) (s : Cache T K) (value : T) (usedAt : K) : Prop :=
  ∃ receivedAt, (value, receivedAt) ∈ s.received ∧
    (usedAt - receivedAt < ttl ∨ usedAt = receivedAt)

/-- The cached value was received, and used values were recent. -/
structure UseInv (ttl : K) (s : Cache T K) : Prop where
  cached : ∀ entry, s.cached = some entry → entry ∈ s.received
  used : ∀ use ∈ s.used, Recent ttl s use.2.1 use.2.2

theorem Recent.mono {ttl : K} {s s' : Cache T K} {value : T} {usedAt : K}
    (h : Recent ttl s value usedAt) (hreceived : ∀ r ∈ s.received, r ∈ s'.received) :
    Recent ttl s' value usedAt := by
  obtain ⟨receivedAt, hmem, hage⟩ := h
  exact ⟨receivedAt, hreceived _ hmem, hage⟩

theorem UseInv.fresh {ttl : K} {s : Cache T K} (h : UseInv ttl s) {value : T}
    (hfresh : fresh? ttl s = some value) : Recent ttl s value s.now := by
  unfold fresh? at hfresh
  split at hfresh
  · cases hfresh
  · rename_i value' receivedAt hcached
    split_ifs at hfresh with hage
    cases hfresh
    exact ⟨receivedAt, h.cached _ hcached, Or.inl hage⟩

/-- Every step keeps to recent values. -/
theorem UseInv.step {ttl : K} {s s' : Cache T K} {e : Event T K} (h : UseInv ttl s)
    (hstep : ExpiringCache.step ttl s e = some s') : UseInv ttl s' := by
  cases e with
  | clock now =>
      cases hstep
      exact ⟨h.cached, h.used⟩
  | call id =>
      simp only [ExpiringCache.step] at hstep
      split at hstep
      · rename_i value hfresh
        cases hstep
        refine ⟨h.cached, fun use hmem => ?_⟩
        rcases List.mem_append.1 hmem with hold | hnew
        · exact h.used use hold
        · rw [List.mem_singleton.1 hnew]
          exact h.fresh hfresh
      · cases hstep
        exact ⟨h.cached, h.used⟩
  | receives id value =>
      simp only [ExpiringCache.step] at hstep
      split_ifs at hstep
      cases hstep
      refine ⟨fun entry hentry => ?_, fun use hmem => ?_⟩
      · cases hentry
        simp
      · rcases List.mem_append.1 hmem with hold | hnew
        · exact (h.used use hold).mono fun r hr => List.mem_append_left _ hr
        · rw [List.mem_singleton.1 hnew]
          exact ⟨s.now, by simp, Or.inr rfl⟩
  | fails id =>
      simp only [ExpiringCache.step] at hstep
      split_ifs at hstep
      cases hstep
      exact ⟨h.cached, h.used⟩

theorem useInv_init (T : Type*) (ttl now : K) : UseInv ttl (machine T ttl now).init where
  cached entry h := by cases h
  used use h := by cases h

/-- In every run, whatever the clock shows, callers use values that were received recently. -/
theorem used_recent {ttl now : K} {s : Cache T K} (hs : (machine T ttl now).Reachable s) :
    ∀ use ∈ s.used, Recent ttl s use.2.1 use.2.2 :=
  ((machine T ttl now).invariant_reachable (useInv_init T ttl now)
    (fun _ _ _ h hstep => h.step hstep) hs).used

/-! ## Callers that take turns -/

/-- A caller asks only when no fetch is under way, and the clock does not run backwards. -/
def Sequential (s : Cache T K) : Event T K → Prop
  | .clock now => s.now ≤ now
  | .call _ => s.pending = []
  | _ => True

/-- Values are received a lifetime apart, and a fetch is only under way when all are too old. -/
structure SpacedInv (ttl : K) (s : Cache T K) : Prop where
  single : s.pending.length ≤ 1
  cached : s.cached = s.received.getLast?
  past : ∀ r ∈ s.received, r.2 ≤ s.now
  expired : s.pending ≠ [] → ∀ r ∈ s.received, r.2 + ttl ≤ s.now
  spaced : s.received.Pairwise fun r r' => r.2 + ttl ≤ r'.2

theorem spacedInv_init (T : Type*) (ttl now : K) : SpacedInv ttl (machine T ttl now).init where
  single := Nat.zero_le _
  cached := rfl
  past r hr := by cases hr
  expired h := absurd rfl h
  spaced := List.Pairwise.nil

variable [IsStrictOrderedRing K]

/-- When the cached value is too old, all are. -/
theorem SpacedInv.expired_of_not_fresh {ttl : K} {s : Cache T K} (h : SpacedInv ttl s)
    (hfresh : fresh? ttl s = none) : ∀ r ∈ s.received, r.2 + ttl ≤ s.now := by
  intro r hr
  obtain ⟨last, hlast⟩ : ∃ last, s.received.getLast? = some last :=
    Option.isSome_iff_exists.1 (by simpa [List.getLast?_isSome] using List.ne_nil_of_mem hr)
  obtain ⟨earlier, hreceived⟩ := List.getLast?_eq_some_iff.1 hlast
  have hold : last.2 + ttl ≤ s.now := by
    simp only [fresh?, h.cached, hlast, ite_eq_right_iff, reduceCtorEq, imp_false, not_lt]
      at hfresh
    linarith
  rw [hreceived] at hr
  rcases List.mem_append.1 hr with hearlier | hr
  · have hspaced := h.spaced
    rw [hreceived, List.pairwise_append] at hspaced
    have hnext : r.2 + ttl ≤ last.2 := hspaced.2.2 r hearlier last (by simp)
    have hpast : last.2 ≤ s.now := h.past last (by rw [hreceived]; simp)
    exact hnext.trans hpast
  · rw [List.mem_singleton.1 hr]
    exact hold

/-- Callers that take turns keep the values a lifetime apart. -/
theorem SpacedInv.step {ttl : K} {s s' : Cache T K} {e : Event T K}
    (h : SpacedInv ttl s) (hseq : Sequential s e)
    (hstep : ExpiringCache.step ttl s e = some s') : SpacedInv ttl s' := by
  cases e with
  | clock now =>
      cases hstep
      have hnow : s.now ≤ now := hseq
      exact ⟨h.single, h.cached, fun r hr => (h.past r hr).trans hnow,
        fun hp r hr => (h.expired hp r hr).trans hnow, h.spaced⟩
  | call id =>
      simp only [ExpiringCache.step] at hstep
      split at hstep
      · cases hstep
        exact ⟨h.single, h.cached, h.past, h.expired, h.spaced⟩
      · rename_i hfresh
        cases hstep
        have hidle : s.pending = [] := hseq
        exact ⟨by simp [hidle], h.cached, h.past,
          fun _ => h.expired_of_not_fresh hfresh, h.spaced⟩
  | receives id value =>
      simp only [ExpiringCache.step] at hstep
      split_ifs at hstep with hmem
      cases hstep
      have hexpired := h.expired (List.ne_nil_of_mem hmem)
      have hidle : s.pending.erase id = [] := by
        have hlength := List.length_erase_of_mem hmem
        have hsingle := h.single
        exact List.eq_nil_of_length_eq_zero (by omega)
      refine ⟨by simp [hidle], by simp, fun r hr => ?_, fun hp => absurd hidle hp, ?_⟩
      · rcases List.mem_append.1 hr with hr | hr
        · exact h.past r hr
        · rw [List.mem_singleton.1 hr]
      · refine List.pairwise_append.2 ⟨h.spaced, List.pairwise_singleton _ _, ?_⟩
        intro r hr r' hr'
        rw [List.mem_singleton.1 hr']
        exact hexpired r hr
  | fails id =>
      simp only [ExpiringCache.step] at hstep
      split_ifs at hstep with hmem
      cases hstep
      have hexpired := h.expired (List.ne_nil_of_mem hmem)
      have hsingle : (s.pending.erase id).length ≤ 1 :=
        List.length_erase_le.trans h.single
      exact ⟨hsingle, h.cached, h.past, fun _ => hexpired, h.spaced⟩

end ExpiringCache
end Foundations
