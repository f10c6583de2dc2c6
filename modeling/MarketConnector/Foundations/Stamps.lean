import Mathlib.Algebra.Order.Group.Defs
import Mathlib.Tactic.Abel
import MarketConnector.Foundations.Dict

/-!
# Foundations - Ages measured from recorded times

Things restart from time to time, and their age counts from the last restart.  An observer
records the time when it hears of one, which may be late or never, and measures ages from its
records.  The number of restarts at the time of a record says whether it is still current.

Main results:

- Theorem `Measured.of_sound`: what the observer measures now.
- Theorem `Keeps.tick`, `Keeps.foldl`: records and measured ages stay right later on.
- Theorem `Measured.le_age`: an age measured from current records is never too large.
-/

namespace Foundations

universe u v

/-- A time, and how often the thing had restarted when it was recorded. -/
structure Stamp (T : Type v) where
  time : T
  restarts : Nat

/-- The observer's clock and records, and when each thing last restarted. -/
structure Stamps (ι : Type u) (T : Type v) where
  clock : T
  since : ι → T
  restarts : ι → Nat
  recorded : Dict ι (Stamp T)

namespace Stamps

variable {ι : Type u} {T : Type v} [DecidableEq ι] [AddCommGroup T]

/-! ## Operations -/

def init : Stamps ι T where
  clock := 0
  since := fun _ => 0
  restarts := fun _ => 0
  recorded := ∅

def tick (s : Stamps ι T) (time : T) : Stamps ι T :=
  { s with clock := s.clock + time }

/-- A thing restarts, unseen. -/
def restart (s : Stamps ι T) (i : ι) : Stamps ι T :=
  { s with
    since := Function.update s.since i s.clock
    restarts := Function.update s.restarts i (s.restarts i + 1) }

/-- The observer records the time it hears of a restart. -/
def record (s : Stamps ι T) (i : ι) : Stamps ι T :=
  { s with recorded := s.recorded.set i ⟨s.clock, s.restarts i⟩ }

/-- The observer forgets a thing. -/
def forget (s : Stamps ι T) (i : ι) : Stamps ι T :=
  { s with recorded := s.recorded.pop i }

/-- The age of a thing. -/
def trueAge (s : Stamps ι T) (i : ι) : T :=
  s.clock - s.since i

/-- The age that the observer measures: zero, when it has no record. -/
def ageOf (s : Stamps ι T) (i : ι) : T :=
  match s.recorded.get? i with
  | none => 0
  | some stamp => s.clock - stamp.time

/-! ## Records -/

variable [LinearOrder T]

/-- Nothing restarted later than now, or later than its record, unless it restarted again. -/
structure Sound (s : Stamps ι T) : Prop where
  past : ∀ i, s.since i ≤ s.clock
  count : ∀ i stamp, s.recorded.get? i = some stamp → stamp.restarts ≤ s.restarts i
  current : ∀ i stamp, s.recorded.get? i = some stamp → stamp.restarts = s.restarts i →
    s.since i ≤ stamp.time

theorem sound_init : Sound (init : Stamps ι T) where
  past _ := le_rfl
  count i stamp h := by cases h
  current i stamp h := by cases h

omit [AddCommGroup T] in
theorem Sound.restart {s : Stamps ι T} (h : Sound s) (i : ι) : Sound (s.restart i) where
  past j := by
    by_cases hj : j = i
    · subst hj
      simp [Stamps.restart]
    · simpa [Stamps.restart, hj] using h.past j
  count j stamp hstamp := by
    by_cases hj : j = i
    · subst hj
      simpa [Stamps.restart] using (h.count j stamp hstamp).trans (Nat.le_succ _)
    · simpa [Stamps.restart, hj] using h.count j stamp hstamp
  current j stamp hstamp hcurrent := by
    by_cases hj : j = i
    · subst hj
      have hcount := h.count j stamp hstamp
      simp only [Stamps.restart, Function.update_self] at hcurrent
      omega
    · simp only [Stamps.restart, Function.update_of_ne hj] at hcurrent ⊢
      exact h.current j stamp hstamp hcurrent

omit [AddCommGroup T] in
theorem Sound.record {s : Stamps ι T} (h : Sound s) (i : ι) : Sound (s.record i) where
  past := h.past
  count := Dict.forall_get?_set h.count le_rfl
  current := by
    refine Dict.forall_get?_set (fun j stamp hstamp => h.current j stamp hstamp) ?_
    exact fun _ => h.past i

omit [AddCommGroup T] in
theorem Sound.forget {s : Stamps ι T} (h : Sound s) (i : ι) : Sound (s.forget i) where
  past := h.past
  count j stamp hstamp := h.count j stamp (Dict.get?_of_pop hstamp)
  current j stamp hstamp := h.current j stamp (Dict.get?_of_pop hstamp)

/-! ## Measured ages -/

/-- An age measured some time ago: zero if there was no record then, and not too large if the
record is still current. -/
def Measured (s : Stamps ι T) (recorded : Dict ι (Stamp T)) (i : ι) (age : T) : Prop :=
  match recorded.get? i with
  | none => age = 0
  | some stamp => stamp.restarts ≤ s.restarts i ∧
      (stamp.restarts = s.restarts i → age ≤ s.trueAge i)

/-- The records of a thing, if there were any, count all its restarts. -/
def Current (s : Stamps ι T) (recorded : Dict ι (Stamp T)) (i : ι) : Prop :=
  ∀ stamp, recorded.get? i = some stamp → stamp.restarts = s.restarts i

theorem Measured.restart {s : Stamps ι T} {recorded : Dict ι (Stamp T)} {i : ι} {age : T}
    (h : s.Measured recorded i age) (j : ι) : (s.restart j).Measured recorded i age := by
  unfold Measured at h ⊢
  split at h
  · exact h
  · obtain ⟨hcount, hcurrent⟩ := h
    by_cases hi : i = j
    · subst hi
      simp only [Stamps.restart, Function.update_self]
      exact ⟨by omega, fun heq => by omega⟩
    · simpa [Stamps.restart, trueAge, hi] using ⟨hcount, hcurrent⟩

theorem Measured.record {s : Stamps ι T} {recorded : Dict ι (Stamp T)} {i : ι} {age : T}
    (h : s.Measured recorded i age) (j : ι) : (s.record j).Measured recorded i age :=
  h

theorem Measured.forget {s : Stamps ι T} {recorded : Dict ι (Stamp T)} {i : ι} {age : T}
    (h : s.Measured recorded i age) (j : ι) : (s.forget j).Measured recorded i age :=
  h

/-! ## Later on -/

/-- What holds of the records and of measured ages holds later. -/
structure Keeps (s s' : Stamps ι T) : Prop where
  sound : Sound s → Sound s'
  measured : ∀ recorded i age, s.Measured recorded i age → s'.Measured recorded i age

theorem Keeps.refl (s : Stamps ι T) : Keeps s s :=
  ⟨id, fun _ _ _ => id⟩

theorem Keeps.trans {s s' s'' : Stamps ι T} (h : Keeps s s') (h' : Keeps s' s'') : Keeps s s'' :=
  ⟨fun hsound => h'.sound (h.sound hsound),
    fun recorded i age hage => h'.measured recorded i age (h.measured recorded i age hage)⟩

theorem Keeps.restart (s : Stamps ι T) (i : ι) : Keeps s (s.restart i) :=
  ⟨fun h => h.restart i, fun _ _ _ h => h.restart i⟩

theorem Keeps.record (s : Stamps ι T) (i : ι) : Keeps s (s.record i) :=
  ⟨fun h => h.record i, fun _ _ _ h => h.record i⟩

theorem Keeps.forget (s : Stamps ι T) (i : ι) : Keeps s (s.forget i) :=
  ⟨fun h => h.forget i, fun _ _ _ h => h.forget i⟩

theorem Keeps.foldl {f : Stamps ι T → ι → Stamps ι T} (hf : ∀ s i, Keeps s (f s i)) (is : List ι)
    (s : Stamps ι T) : Keeps s (is.foldl f s) := by
  induction is generalizing s with
  | nil => exact .refl s
  | cons i is ih => exact (hf s i).trans (ih (f s i))

section Ordered

variable [IsOrderedAddMonoid T]

theorem Sound.tick {s : Stamps ι T} (h : Sound s) {time : T} (htime : 0 ≤ time) :
    Sound (s.tick time) where
  past i := (h.past i).trans (le_add_of_nonneg_right htime)
  count := h.count
  current := h.current

theorem Measured.tick {s : Stamps ι T} {recorded : Dict ι (Stamp T)} {i : ι} {age : T}
    (h : s.Measured recorded i age) {time : T} (htime : 0 ≤ time) :
    (s.tick time).Measured recorded i age := by
  unfold Measured at h ⊢
  split at h
  · exact h
  · obtain ⟨hcount, hcurrent⟩ := h
    refine ⟨hcount, fun heq => (hcurrent heq).trans ?_⟩
    exact sub_le_sub_right (le_add_of_nonneg_right htime) _

theorem Keeps.tick (s : Stamps ι T) {time : T} (htime : 0 ≤ time) : Keeps s (s.tick time) :=
  ⟨fun h => h.tick htime, fun _ _ _ h => h.tick htime⟩

/-- The age that is measured now. -/
theorem Measured.of_sound {s : Stamps ι T} (h : Sound s) (i : ι) :
    s.Measured s.recorded i (s.ageOf i) := by
  unfold Measured ageOf
  cases hstamp : s.recorded.get? i with
  | none => rfl
  | some stamp =>
      refine ⟨h.count i stamp hstamp, fun heq => ?_⟩
      exact sub_le_sub_left (h.current i stamp hstamp heq) _

/-- An age measured from records that are still current is at most the age. -/
theorem Measured.le_age {s : Stamps ι T} (hsound : Sound s) {recorded : Dict ι (Stamp T)} {i : ι}
    {age : T} (h : s.Measured recorded i age) (hcurrent : s.Current recorded i) :
    age ≤ s.trueAge i := by
  unfold Measured at h
  split at h
  · rw [h]
    exact sub_nonneg.2 (hsound.past i)
  · rename_i stamp hstamp
    exact h.2 (hcurrent stamp hstamp)

end Ordered

end Stamps

end Foundations
