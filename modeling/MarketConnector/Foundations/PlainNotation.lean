import Mathlib.Algebra.Order.Field.Rat
import Mathlib.Algebra.Order.Ring.Rat
import Mathlib.Data.List.TakeWhile
import Mathlib.Tactic.FieldSimp
import Mathlib.Tactic.Linarith
import Mathlib.Tactic.Ring
import MarketConnector.Foundations.Decimal

/-!
# Foundations - Plain decimal notation

A text is in plain notation when it is an optional sign and digits with at most one point.
Reading it back tells whether the text of a decimal denotes its value.

Main results:

- Definition `plainValue?`: the number a text in plain notation denotes.
- Theorem `Decimal.plainValue?_positional`: `format(d, "f")` denotes the number.
- Theorem `Decimal.plainValue?_toText_iff`: `str(d)` does, unless it has an exponent.
-/

namespace Foundations

/-! ## Reading -/

/-- The number of some digits, the last of them after the point. -/
def digitsValue (whole fraction : List Char) : Rat :=
  (Nat.ofDigitChars 10 (whole ++ fraction) 0 : Nat) / 10 ^ fraction.length

/-- The number without its sign. -/
def plainMagnitude? (cs : List Char) : Option Rat :=
  let whole := cs.takeWhile Char.isDigit
  match cs.dropWhile Char.isDigit with
  | [] => if whole = [] then none else some (digitsValue whole [])
  | point :: fraction =>
      if point = '.' ∧ fraction.all Char.isDigit ∧ (whole ≠ [] ∨ fraction ≠ []) then
        some (digitsValue whole fraction)
      else none

/-- The number that a text in plain notation denotes. -/
def plainValue? (text : String) : Option Rat :=
  match text.toList with
  | [] => none
  | first :: rest =>
      if first = '-' then (plainMagnitude? rest).map Neg.neg
      else if first = '+' then plainMagnitude? rest
      else plainMagnitude? (first :: rest)

/-- Digits, and after a point some more. -/
theorem plainMagnitude?_of_digits {whole fraction : List Char} (hwhole : ∀ c ∈ whole, c.isDigit)
    (hfraction : ∀ c ∈ fraction, c.isDigit) (hne : whole ≠ []) :
    plainMagnitude? (whole ++ (if fraction.isEmpty then [] else ['.']) ++ fraction) =
      some (digitsValue whole fraction) := by
  have hpoint : Char.isDigit '.' = false := by decide
  cases fraction with
  | nil =>
      simp [plainMagnitude?, hne, List.dropWhile_eq_nil_iff.2 hwhole,
        List.takeWhile_eq_self_iff.2 hwhole]
  | cons c fraction =>
      have hall : (c :: fraction).all Char.isDigit := List.all_eq_true.2 hfraction
      simp only [List.isEmpty_cons, Bool.false_eq_true, if_false, List.append_assoc,
        List.cons_append, List.nil_append]
      simp only [plainMagnitude?, List.takeWhile_append_of_pos hwhole,
        List.dropWhile_append_of_pos hwhole, List.takeWhile_cons, List.dropWhile_cons, hpoint,
        Bool.false_eq_true, if_false, List.append_nil, hall]
      simp

/-- Plain notation has only digits and a point. -/
theorem plainMagnitude?_chars {cs : List Char} {v : Rat} (h : plainMagnitude? cs = some v) :
    ∀ c ∈ cs, c.isDigit ∨ c = '.' := by
  have hsplit : cs = cs.takeWhile Char.isDigit ++ cs.dropWhile Char.isDigit :=
    List.takeWhile_append_dropWhile.symm
  intro c hc
  rw [hsplit] at hc
  rcases List.mem_append.1 hc with hc | hc
  · exact Or.inl (List.mem_takeWhile_imp hc)
  · unfold plainMagnitude? at h
    dsimp only at h
    split at h
    · rename_i hnil
      rw [hnil] at hc
      cases hc
    · rename_i point fraction hcons
      rw [hcons] at hc
      split_ifs at h with hplain
      obtain ⟨hpoint, hall, -⟩ := hplain
      rcases List.mem_cons.1 hc with rfl | hc
      · exact Or.inr hpoint
      · exact Or.inl (List.all_eq_true.1 hall c hc)

/-- A text with a letter `E` is not in plain notation. -/
theorem plainValue?_of_exponent {text : String} (h : 'E' ∈ text.toList) :
    plainValue? text = none := by
  have hno : ∀ cs : List Char, 'E' ∈ cs → plainMagnitude? cs = none := by
    intro cs hcs
    cases hv : plainMagnitude? cs with
    | none => rfl
    | some v => exact absurd (plainMagnitude?_chars hv _ hcs) (by decide)
  unfold plainValue?
  split
  · rfl
  · rename_i first rest hcons
    rw [hcons] at h
    by_cases hminus : first = '-'
    · subst hminus
      rw [if_pos rfl, hno rest (by simpa using h)]
      rfl
    · by_cases hplus : first = '+'
      · subst hplus
        rw [if_neg (by decide), if_pos rfl, hno rest (by simpa using h)]
      · rw [if_neg hminus, if_neg hplus, hno _ h]

/-! ## Writing -/

namespace Decimal

theorem digits_eq (d : Decimal) : d.digits = Nat.toDigits 10 d.coefficient := by
  simp [digits]

theorem isDigit_of_mem_digits {d : Decimal} {c : Char} (h : c ∈ d.digits) : c.isDigit := by
  rw [digits_eq] at h
  exact Nat.isDigit_of_mem_toDigits (by decide) (by decide) h

/-- The digits before and after a point, and the number they denote. -/
structure SplitsAt (ds : List Char) (point : Int) (split : List Char × List Char) : Prop where
  whole : ∀ c ∈ split.1, c.isDigit
  fraction : ∀ c ∈ split.2, c.isDigit
  whole_ne : split.1 ≠ []
  value : digitsValue split.1 split.2 =
    (Nat.ofDigitChars 10 ds 0 : Nat) * (10 : Rat) ^ (point - ds.length)

theorem isDigit_of_mem_zeros {n : Nat} {c : Char} (h : c ∈ List.replicate n '0') : c.isDigit := by
  rw [(List.mem_replicate.1 h).2]
  decide

/-- Zeros stand between the point and the digits. -/
theorem splitsAt_zeros_append {ds : List Char} (hds : ∀ c ∈ ds, c.isDigit) (k : Nat) :
    SplitsAt ds (-(k : Int)) (['0'], List.replicate k '0' ++ ds) where
  whole := by simp
  fraction c hc := (List.mem_append.1 hc).elim isDigit_of_mem_zeros (hds c)
  whole_ne := by simp
  value := by
    have hpower : -(k : Int) - ds.length = -((k + ds.length : Nat) : Int) := by
      push_cast
      ring
    rw [hpower, zpow_neg, zpow_natCast, ← div_eq_mul_inv]
    simp [digitsValue, Nat.ofDigitChars_append, Nat.ofDigitChars_cons]

/-- Zeros follow the digits. -/
theorem splitsAt_append_zeros {ds : List Char} (hds : ∀ c ∈ ds, c.isDigit) {k : Nat}
    (hk : 0 < k) :
    SplitsAt ds ((ds.length : Int) + k) (ds ++ List.replicate k '0', []) where
  whole c hc := (List.mem_append.1 hc).elim (hds c) isDigit_of_mem_zeros
  fraction := by simp
  whole_ne hnil := by
    simp at hnil
    omega
  value := by
    have hpower : (ds.length : Int) + k - ds.length = k := by ring
    rw [hpower, zpow_natCast]
    simp [digitsValue, Nat.ofDigitChars_append, mul_comm]

/-- The point stands among the digits, or just before them. -/
theorem splitsAt_take_drop {ds : List Char} (hds : ∀ c ∈ ds, c.isDigit) {m : Nat}
    (hm : m ≤ ds.length) :
    SplitsAt ds m (if (ds.take m).isEmpty then ['0'] else ds.take m, ds.drop m) where
  whole c hc := by
    dsimp only at hc
    split_ifs at hc
    · rw [List.mem_singleton.1 hc]
      decide
    · exact hds c (List.mem_of_mem_take hc)
  fraction c hc := hds c (List.mem_of_mem_drop hc)
  whole_ne := by
    dsimp only
    split_ifs with hempty
    · simp
    · simpa using hempty
  value := by
    have hpower : (m : Int) - ds.length = -((ds.length - m : Nat) : Int) := by omega
    have hdigits : Nat.ofDigitChars 10
        ((if (ds.take m).isEmpty then ['0'] else ds.take m) ++ ds.drop m) 0 =
          Nat.ofDigitChars 10 ds 0 := by
      split_ifs with hempty
      · rw [List.isEmpty_iff] at hempty
        conv_rhs => rw [← List.take_append_drop m ds, hempty]
        simp [Nat.ofDigitChars_cons]
      · rw [List.take_append_drop]
    rw [hpower, zpow_neg, zpow_natCast, ← div_eq_mul_inv]
    rw [digitsValue, hdigits, List.length_drop]

theorem splitsAt_splitAtPoint {ds : List Char} (hds : ∀ c ∈ ds, c.isDigit) (point : Int) :
    SplitsAt ds point (splitAtPoint ds point) := by
  by_cases hneg : point < 0
  · obtain ⟨k, rfl⟩ : ∃ k : Nat, point = -(k : Int) := ⟨(-point).toNat, by omega⟩
    simp only [splitAtPoint, if_pos hneg, neg_neg, Int.toNat_natCast]
    exact splitsAt_zeros_append hds k
  · by_cases hlong : (ds.length : Int) < point
    · obtain ⟨k, rfl⟩ : ∃ k : Nat, point = (ds.length : Int) + k :=
        ⟨(point - ds.length).toNat, by omega⟩
      have hk : ((ds.length : Int) + k).toNat - ds.length = k := by omega
      simp only [splitAtPoint, if_neg hneg, if_pos hlong, hk]
      apply splitsAt_append_zeros hds
      omega
    · obtain ⟨m, rfl⟩ : ∃ m : Nat, point = m := ⟨point.toNat, by omega⟩
      have hm : m ≤ ds.length := by omega
      simp only [splitAtPoint, if_neg hneg, if_neg hlong, Int.toNat_natCast]
      exact splitsAt_take_drop hds hm

theorem magnitude_eq (d : Decimal) : d.magnitude = d.coefficient * (10 : Rat) ^ d.exponent := by
  unfold magnitude
  split_ifs with hexponent
  · obtain ⟨k, hk⟩ : ∃ k : Nat, d.exponent = k := ⟨d.exponent.toNat, by omega⟩
    rw [hk, zpow_natCast]
    simp
  · obtain ⟨k, hk⟩ : ∃ k : Nat, d.exponent = -(k : Int) := ⟨(-d.exponent).toNat, by omega⟩
    rw [hk, zpow_neg, zpow_natCast, ← div_eq_mul_inv]
    simp [Rat.mkRat_eq_div]

/-- A sign before a text without one. -/
theorem plainValue?_sign (negative : Bool) {cs : List Char} {v : Rat}
    (h : plainMagnitude? cs = some v) (hdigit : ∃ c rest, cs = c :: rest ∧ c.isDigit) :
    plainValue? (String.ofList ((if negative then ['-'] else []) ++ cs)) =
      some (if negative then -v else v) := by
  cases negative with
  | true => simp [plainValue?, h]
  | false =>
      obtain ⟨c, rest, rfl, hc⟩ := hdigit
      have hminus : c ≠ '-' := by
        rintro rfl
        exact absurd hc (by decide)
      have hplus : c ≠ '+' := by
        rintro rfl
        exact absurd hc (by decide)
      simp [plainValue?, hminus, hplus, h]

/-- `format(d, "f")` denotes the number. -/
theorem plainValue?_positional (d : Decimal) : plainValue? d.positional = some d.value := by
  have hwritten : ∀ d : Decimal, plainValue? (String.ofList
      ((if d.negative then ['-'] else []) ++
        (splitAtPoint d.digits (d.exponent + d.digits.length)).1 ++
        (if (splitAtPoint d.digits (d.exponent + d.digits.length)).2.isEmpty then [] else ['.']) ++
        (splitAtPoint d.digits (d.exponent + d.digits.length)).2)) = some d.value := by
    intro d
    have hdigits : ∀ c ∈ d.digits, c.isDigit := fun c hc => isDigit_of_mem_digits hc
    obtain ⟨hwhole, hfraction, hne, hvalue⟩ :=
      splitsAt_splitAtPoint hdigits (d.exponent + d.digits.length)
    obtain ⟨c, rest, hfirst⟩ := List.exists_cons_of_ne_nil hne
    have hread := plainMagnitude?_of_digits hwhole hfraction hne
    rw [hvalue, digits_eq, Nat.ofDigitChars_ten_toDigits, add_sub_cancel_right,
      ← magnitude_eq, ← digits_eq] at hread
    have hsigned := plainValue?_sign d.negative hread
      ⟨c, _, by rw [hfirst]; rfl, hwhole c (by simp [hfirst])⟩
    simpa only [List.append_assoc, value] using hsigned
  unfold positional
  split_ifs with hzero
  · rw [hwritten]
    simp [value, magnitude_eq, hzero.1]
  · exact hwritten d

/-- The numbers that `str(d)` writes without an exponent. -/
def HasPlainText (d : Decimal) : Prop :=
  d.exponent ≤ 0 ∧ -6 < d.exponent + d.digits.length

instance (d : Decimal) : Decidable d.HasPlainText :=
  inferInstanceAs (Decidable (_ ∧ _))

/-- They are written as `format(d, "f")` writes them. -/
theorem toText_eq_positional {d : Decimal} (h : d.HasPlainText) : d.toText = d.positional := by
  have hzero : ¬ (d.coefficient = 0 ∧ 0 < d.exponent) := by
    have hexponent := h.1
    omega
  have hplace : d.exponent ≤ 0 ∧ -6 < d.exponent + (d.digits.length : Int) := h
  simp only [toText, positional, if_neg hzero, if_pos hplace, sub_self, if_true, List.append_nil]

/-- The others get an exponent. -/
theorem exponent_mem_toText {d : Decimal} (h : ¬ d.HasPlainText) : 'E' ∈ d.toText.toList := by
  have hplace : ¬ (d.exponent ≤ 0 ∧ -6 < d.exponent + (d.digits.length : Int)) := h
  have hdigits : 1 ≤ d.digits.length := by
    rw [digits_eq]
    exact Nat.length_toDigits_pos
  have hshift : d.exponent + (d.digits.length : Int) - 1 ≠ 0 := by
    intro hone
    exact hplace (by omega)
  simp only [toText, if_neg hplace, if_neg hshift, String.toList_ofList]
  exact List.mem_append_right _ List.mem_cons_self

/-- `str(d)` denotes the number in plain notation exactly when it has no exponent. -/
theorem plainValue?_toText_iff (d : Decimal) :
    plainValue? d.toText = some d.value ↔ d.HasPlainText := by
  constructor
  · intro hread
    by_contra hplain
    rw [plainValue?_of_exponent (exponent_mem_toText hplain)] at hread
    cases hread
  · intro hplain
    rw [toText_eq_positional hplain, plainValue?_positional]

end Decimal

end Foundations
