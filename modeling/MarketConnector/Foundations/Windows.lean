import Mathlib.Algebra.Order.Group.Defs
import Mathlib.Algebra.Order.Group.Basic
import Mathlib.Data.List.MinMax
import Mathlib.Tactic.Linarith
import MarketConnector.Foundations.Totals

/-!
# Foundations - Weight in sliding windows

Records of one kind happen at most once each, at a time, under a key and with a weight.  A
limit bounds the weight that falls into any window of a fixed length, key by key.

Main results:

- Definition `Limit.Bounds`: the limit holds for every key and every closed window.
- Theorem `Limit.weightIn_le`: a window that has all the records of another weighs no less.
- Theorem `Limit.Bounds.admit`: a record that fits the window that ends with it may happen.
- Theorem `Limit.Bounds.retime`: a limit on some times is one on other times, if records are
  close at the second only when they are close at the first.
- Theorem `Limit.Bounds.spaced`: two records that exceed the limit are more than a window
  apart.
-/

namespace Foundations

variable {ι α K T : Type*}

/-- At most `permits` of weight in any window of the length, for each key. -/
structure Limit (α K T : Type*) where
  permits : Nat
  window : T
  key : α → K
  weight : α → Nat

/-- The time is known and lies between the bounds. -/
def InWindow [LE T] (time : Option T) (lo hi : T) : Prop :=
  ∃ t, time = some t ∧ lo ≤ t ∧ t ≤ hi

instance [LE T] [DecidableLE T] (time : Option T) (lo hi : T) :
    Decidable (InWindow time lo hi) :=
  match time with
  | none => isFalse (by rintro ⟨t, htime, _⟩; cases htime)
  | some t =>
      decidable_of_iff (lo ≤ t ∧ t ≤ hi) (by simp [InWindow])

/-- Among the entries with a property there is one with the least value, or there is none. -/
theorem Dict.exists_least [DecidableEq ι] [LinearOrder T] (d : Dict ι α) (p : α → Prop)
    [DecidablePred p] (f : α → T) :
    (∀ i a, d.get? i = some a → ¬ p a) ∨
      ∃ i a, d.get? i = some a ∧ p a ∧ ∀ j b, d.get? j = some b → p b → f a ≤ f b := by
  have hmem : ∀ i a, (i, a) ∈ d.entries.filter (fun e => p e.2) ↔
      d.get? i = some a ∧ p a := by
    intro i a
    rw [List.mem_filter, d.mem_entries_iff, decide_eq_true_eq]
  cases hleast : (d.entries.filter fun e => p e.2).argmin fun e => f e.2 with
  | none =>
      left
      intro i a hi ha
      have hentry := (hmem i a).mpr ⟨hi, ha⟩
      rw [List.argmin_eq_none.mp hleast] at hentry
      cases hentry
  | some e =>
      right
      obtain ⟨hi, ha⟩ := (hmem e.1 e.2).mp (List.argmin_mem hleast)
      refine ⟨e.1, e.2, hi, ha, fun j b hj hb => ?_⟩
      have hentry := (hmem j b).mpr ⟨hj, hb⟩
      exact List.le_of_mem_argmin (f := fun e => f e.2) hentry hleast

namespace Limit

/-! ## Records used near each other -/

section KeepsApart

variable [DecidableEq ι] [AddCommGroup T] [LinearOrder T]

/-- Records of a key that are within a window of each other at the times `used` are within a
window of each other at the times `granted`. -/
def KeepsApart (limit : Limit α K T) (granted used : α → Option T) (d : Dict ι α) : Prop :=
  ∀ i j a b, d.get? i = some a → d.get? j = some b → limit.key a = limit.key b →
    ∀ ta tb ra rb, used a = some ta → used b = some tb → granted a = some ra →
      granted b = some rb → ta ≤ tb + limit.window → tb ≤ ta + limit.window →
        rb ≤ ra + limit.window

variable {limit : Limit α K T} {granted used : α → Option T} {d : Dict ι α}

theorem keepsApart_empty :
    limit.KeepsApart granted used (∅ : Dict ι α) := by
  intro i j a b hi
  simp at hi

/-- A record that is not used is near no other. -/
theorem KeepsApart.set_none (h : limit.KeepsApart granted used d) (i : ι) {a : α}
    (ha : used a = none) : limit.KeepsApart granted used (d.set i a) := by
  intro j j' b b' hj hj' hkey t t' r r' ht ht'
  rw [Dict.get?_set] at hj hj'
  split_ifs at hj hj'
  · cases hj
    rw [ha] at ht
    cases ht
  · cases hj
    rw [ha] at ht
    cases ht
  · cases hj'
    rw [ha] at ht'
    cases ht'
  · exact h j j' b b' hj hj' hkey t t' r r' ht ht'

/-- A record that keeps its times. -/
theorem KeepsApart.keep (h : limit.KeepsApart granted used d) {i : ι} {a a' : α}
    (hi : d.get? i = some a) (hkey : limit.key a' = limit.key a)
    (hgranted : granted a' = granted a) (hused : used a' = used a) :
    limit.KeepsApart granted used (d.set i a') := by
  have hold : ∀ j b, (d.set i a').get? j = some b → ∃ b', d.get? j = some b' ∧
      limit.key b = limit.key b' ∧ granted b = granted b' ∧ used b = used b' := by
    intro j b hj
    rw [Dict.get?_set] at hj
    split_ifs at hj with hsame
    · cases hj
      exact ⟨a, by rw [hsame]; exact hi, hkey, hgranted, hused⟩
    · exact ⟨b, hj, rfl, rfl, rfl⟩
  intro j j' b b' hj hj' hkeys t t' r r' ht ht' hr hr'
  obtain ⟨c, hc, hkeyc, hgrantedc, husedc⟩ := hold j b hj
  obtain ⟨c', hc', hkeyc', hgrantedc', husedc'⟩ := hold j' b' hj'
  rw [hkeyc, hkeyc'] at hkeys
  exact h j j' c c' hc hc' hkeys t t' r r' (husedc ▸ ht) (husedc' ▸ ht') (hgrantedc ▸ hr)
    (hgrantedc' ▸ hr')

/-- A record may be used when those used near it were granted near it. -/
theorem KeepsApart.use (h : limit.KeepsApart granted used d) (i : ι) {a : α} {now : T}
    (hused : used a = some now) (hself : ∀ p, p ≤ p + limit.window)
    (hnear : ∀ j b t, d.get? j = some b → limit.key a = limit.key b → used b = some t →
      now ≤ t + limit.window → ∀ p q, granted a = some p → granted b = some q →
        p ≤ q + limit.window ∧ q ≤ p + limit.window) :
    limit.KeepsApart granted used (d.set i a) := by
  intro j j' b b' hj hj' hkey t t' r r' ht ht' hr hr' hle hle'
  rw [Dict.get?_set] at hj hj'
  split_ifs at hj hj'
  · cases hj
    cases hj'
    rw [hr] at hr'
    cases hr'
    exact hself r
  · cases hj
    rw [hused] at ht
    cases ht
    exact (hnear j' b' t' hj' hkey ht' hle r r' hr hr').2
  · cases hj'
    rw [hused] at ht'
    cases ht'
    exact (hnear j b t hj hkey.symm ht hle' r' r hr' hr).1
  · exact h j j' b b' hj hj' hkey t t' r r' ht ht' hr hr' hle hle'

end KeepsApart

/-! ## Weight in windows -/

section Windows

variable [DecidableEq ι] [DecidableEq K] [AddCommGroup T] [LinearOrder T]

/-- Weight of a record for a key and a window. -/
def share (limit : Limit α K T) (time : α → Option T) (k : K) (lo hi : T) (a : α) : Nat :=
  if limit.key a = k ∧ InWindow (time a) lo hi then limit.weight a else 0

/-- Weight of the records of a key in a window. -/
def weightIn (limit : Limit α K T) (time : α → Option T) (d : Dict ι α) (k : K) (lo hi : T) :
    Nat :=
  d.total (limit.share time k lo hi)

/-- No window holds more than the limit allows. -/
def Bounds (limit : Limit α K T) (time : α → Option T) (d : Dict ι α) : Prop :=
  ∀ k lo, limit.weightIn time d k lo (lo + limit.window) ≤ limit.permits

/-- The window that ends now has room for the record. -/
def Admits (limit : Limit α K T) (time : α → Option T) (d : Dict ι α) (now : T) (a : α) : Prop :=
  limit.weightIn time d (limit.key a) (now - limit.window) now + limit.weight a ≤ limit.permits

instance (limit : Limit α K T) (time : α → Option T) (d : Dict ι α) (now : T) (a : α) :
    Decidable (limit.Admits time d now a) :=
  inferInstanceAs (Decidable (_ ≤ _))

variable {limit : Limit α K T} {time time' : α → Option T} {d : Dict ι α}

omit [DecidableEq ι] in
theorem bounds_empty : limit.Bounds time (∅ : Dict ι α) := by
  intro k lo
  simp [weightIn]

theorem share_of_none {k : K} {lo hi : T} {a : α} (h : time a = none) :
    limit.share time k lo hi a = 0 := by
  simp [share, InWindow, h]

omit [AddCommGroup T] in
theorem share_of_inWindow {k : K} {lo hi : T} {a : α} (hkey : limit.key a = k)
    (hin : InWindow (time a) lo hi) : limit.share time k lo hi a = limit.weight a :=
  if_pos ⟨hkey, hin⟩

omit [AddCommGroup T] in
theorem share_le_weight (k : K) (lo hi : T) (a : α) :
    limit.share time k lo hi a ≤ limit.weight a := by
  unfold share
  split_ifs
  · exact Nat.le_refl _
  · exact Nat.zero_le _

omit [AddCommGroup T] in
/-- A window that has all the records of another weighs no less. -/
theorem weightIn_le {k : K} {lo hi lo' hi' : T}
    (h : ∀ i a, d.get? i = some a → limit.key a = k → InWindow (time' a) lo hi →
      InWindow (time a) lo' hi') :
    limit.weightIn time' d k lo hi ≤ limit.weightIn time d k lo' hi' := by
  apply Dict.total_le_total
  intro i a hget
  by_cases hcounted : limit.key a = k ∧ InWindow (time' a) lo hi
  · rw [share_of_inWindow hcounted.1 hcounted.2,
      share_of_inWindow hcounted.1 (h i a hget hcounted.1 hcounted.2)]
  · rw [share, if_neg hcounted]
    exact Nat.zero_le _

/-- A record without a time weighs nothing. -/
theorem Bounds.set_none (h : limit.Bounds time d) (i : ι) {a : α} (ha : time a = none) :
    limit.Bounds time (d.set i a) := by
  intro k lo
  have hset := d.total_set_le i a (limit.share time k lo (lo + limit.window))
  rw [share_of_none ha] at hset
  exact hset.trans (h k lo)

/-- A record that keeps its time. -/
theorem Bounds.keep (h : limit.Bounds time d) {i : ι} {a a' : α} (hi : d.get? i = some a)
    (hkey : limit.key a' = limit.key a) (hweight : limit.weight a' = limit.weight a)
    (htime : time a' = time a) : limit.Bounds time (d.set i a') := by
  intro k lo
  have hset := Dict.total_set_of_get? hi a' (limit.share time k lo (lo + limit.window))
  have hsame : limit.share time k lo (lo + limit.window) a' =
      limit.share time k lo (lo + limit.window) a := by
    simp [share, hkey, hweight, htime]
  have hold := h k lo
  unfold weightIn at hold ⊢
  omega

/-- Two records of a key that weigh too much together are more than a window apart. -/
theorem Bounds.spaced (h : limit.Bounds time d) {i j : ι} {a b : α} {ta tb : T}
    (hne : i ≠ j) (hi : d.get? i = some a) (hj : d.get? j = some b)
    (hkey : limit.key a = limit.key b) (ha : time a = some ta) (hb : time b = some tb)
    (hle : ta ≤ tb) (hheavy : limit.permits < limit.weight a + limit.weight b) :
    ta + limit.window < tb := by
  by_contra hclose
  rw [not_lt] at hclose
  have hbound := h (limit.key a) ta
  have hsharea : limit.share time (limit.key a) ta (ta + limit.window) a = limit.weight a :=
    share_of_inWindow rfl ⟨ta, ha, le_refl _, hle.trans hclose⟩
  have hshareb : limit.share time (limit.key a) ta (ta + limit.window) b = limit.weight b :=
    share_of_inWindow hkey.symm ⟨tb, hb, hle, hclose⟩
  have hpopa := Dict.total_pop_of_get? hi (limit.share time (limit.key a) ta (ta + limit.window))
  have hj' : (d.pop i).get? j = some b := by
    rw [Dict.get?_pop_of_ne d (Ne.symm hne)]
    exact hj
  have hpopb := Dict.total_pop_of_get? hj' (limit.share time (limit.key a) ta (ta + limit.window))
  unfold weightIn at hbound
  omega

variable [IsOrderedAddMonoid T]

/-- A record that fits the window that ends with it may happen, when nothing is later. -/
theorem Bounds.admit (h : limit.Bounds time d) {i : ι} {a a' : α} {now : T}
    (hi : d.get? i = some a) (hnone : time a = none)
    (hpast : ∀ j b t, d.get? j = some b → time b = some t → t ≤ now)
    (hadmits : limit.Admits time d now a) (hkey : limit.key a' = limit.key a)
    (hweight : limit.weight a' = limit.weight a) (hnow : time a' = some now) :
    limit.Bounds time (d.set i a') := by
  intro k lo
  have hset := Dict.total_set_of_get? hi a' (limit.share time k lo (lo + limit.window))
  rw [share_of_none hnone] at hset
  by_cases hcounted : limit.key a = k ∧ lo ≤ now ∧ now ≤ lo + limit.window
  · obtain ⟨rfl, hlo, hhi⟩ := hcounted
    -- all that falls into this window falls into the one that ends now
    have hle : limit.weightIn time d (limit.key a) lo (lo + limit.window) ≤
        limit.weightIn time d (limit.key a) (now - limit.window) now := by
      apply weightIn_le
      rintro j b hj - ⟨t, ht, hlot, -⟩
      exact ⟨t, ht, (sub_le_iff_le_add.mpr hhi).trans hlot, hpast j b t hj ht⟩
    have hshare : limit.share time (limit.key a) lo (lo + limit.window) a' ≤ limit.weight a :=
      (share_le_weight _ _ _ a').trans hweight.le
    unfold Admits at hadmits
    unfold weightIn at hle hadmits ⊢
    omega
  · have hshare : limit.share time k lo (lo + limit.window) a' = 0 := by
      unfold share
      rw [if_neg]
      rintro ⟨hk, t, ht, hlo, hhi⟩
      rw [hnow] at ht
      cases ht
      exact hcounted ⟨hkey.symm.trans hk, hlo, hhi⟩
    have hold := h k lo
    unfold weightIn at hold ⊢
    omega

/-- A limit on the times records were granted is one on the times they are used, when no
records come closer in between. -/
theorem Bounds.retime (h : limit.Bounds time d)
    (hgranted : ∀ i a t, d.get? i = some a → time' a = some t → ∃ r, time a = some r)
    (hapart : limit.KeepsApart time time' d) : limit.Bounds time' d := by
  intro k lo
  rcases d.exists_least (fun a => limit.key a = k ∧ InWindow (time' a) lo (lo + limit.window))
    (fun a => (time a).getD 0) with hnone | ⟨i, a, hi, ⟨hkey, t, ht, hlo, hhi⟩, hleast⟩
  · -- nothing falls into the window
    have hempty : limit.weightIn time' d k lo (lo + limit.window) ≤
        limit.weightIn time d k lo (lo + limit.window) :=
      weightIn_le fun j b hj hkey hin => absurd ⟨hkey, hin⟩ (hnone j b hj)
    exact hempty.trans (h k lo)
  · -- the window of grants that starts with the first of them has them all
    obtain ⟨r, hr⟩ := hgranted i a t hi ht
    have hle : limit.weightIn time' d k lo (lo + limit.window) ≤
        limit.weightIn time d k r (r + limit.window) := by
      apply weightIn_le
      rintro j b hj hkey' ⟨t', ht', hlo', hhi'⟩
      obtain ⟨r', hr'⟩ := hgranted j b t' hj ht'
      have hmin := hleast j b hj ⟨hkey', t', ht', hlo', hhi'⟩
      simp only [hr, hr', Option.getD_some] at hmin
      have hclose : r' ≤ r + limit.window :=
        hapart i j a b hi hj (hkey.trans hkey'.symm) t t' r r' ht ht' hr hr'
          (hhi.trans (by simpa using hlo')) (hhi'.trans (by simpa using hlo))
      exact ⟨r', hr', hmin, hclose⟩
    exact hle.trans (h k r)

end Windows

end Limit

end Foundations
