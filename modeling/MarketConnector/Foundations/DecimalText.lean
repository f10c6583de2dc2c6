import MarketConnector.Foundations.Characters
import MarketConnector.Foundations.PlainNotation

/-!
# Foundations - Decimals from texts

`Decimal(text)` reads digits with at most one point, a sign before them and an exponent after
them; blanks around them and underscores do not count, and neither does the script of the
digits.  Its exponent and the sign of a zero are kept, so `str(d)` gives back `d` and not only a
number equal to it.  Infinities and NaNs have texts, too.

Main results:

- Definition `Numeral.ofText?`: `Decimal(text)`.
- Theorem `Numeral.ofText?_toText`: `Decimal(str(d))` is `d`.
-/

namespace Foundations

/-! ## Reading -/

/-- The exponent after the letter: digits, and a sign before them. -/
def exponent? (cs : List Char) : Option Int :=
  match cs with
  | [] => none
  | first :: rest =>
      let digits := if first = '-' ∨ first = '+' then rest else first :: rest
      if digits.all Char.isDigit ∧ digits ≠ [] then
        some (if first = '-' then -(Nat.ofDigitChars 10 digits 0 : Nat)
          else Nat.ofDigitChars 10 digits 0)
      else none

/-- The exponent of a number, by what follows its digits. -/
def exponentOf? (cs : List Char) : Option Int :=
  match cs with
  | [] => some 0
  | letter :: rest => if letter = 'E' ∨ letter = 'e' then exponent? rest else none

/-- Digits after a point, if there is one, and what follows them. -/
def fractionDigits (cs : List Char) : List Char × List Char :=
  match cs with
  | [] => ([], [])
  | first :: rest =>
      if first = '.' then (rest.takeWhile Char.isDigit, rest.dropWhile Char.isDigit)
      else ([], first :: rest)

namespace Decimal

/-- The decimal of some digits, the last ones after the point, and an exponent. -/
def ofDigits (negative : Bool) (whole fraction : List Char) (exponent : Int) : Decimal :=
  ⟨negative, Nat.ofDigitChars 10 (whole ++ fraction) 0, exponent - fraction.length⟩

/-- The text after the sign. -/
def ofUnsigned? (negative : Bool) (cs : List Char) : Option Decimal :=
  let whole := cs.takeWhile Char.isDigit
  let (fraction, rest) := fractionDigits (cs.dropWhile Char.isDigit)
  if whole = [] ∧ fraction = [] then none
  else (exponentOf? rest).map (ofDigits negative whole fraction)

/-- The exponents decimals can have, counted at the last digit and at the first. -/
def InRange (d : Decimal) : Prop :=
  -1999999999999999997 ≤ d.exponent ∧ d.exponent + d.digits.length - 1 ≤ 999999999999999999

instance (d : Decimal) : Decidable d.InRange :=
  inferInstanceAs (Decidable (_ ∧ _))

end Decimal

/-- Values of type `Decimal`: finite numbers, and infinities and NaNs. -/
inductive Numeral where
  | finite (d : Decimal)
  | special
deriving DecidableEq

namespace Numeral

/-- A character in ASCII: blanks are one, and digits of any script are digits. -/
def asciiChar? (c : Char) : Option Char :=
  if 0 < c.toNat ∧ c.toNat < 128 then some c
  else if isSpace c then some ' '
  else (decimalDigit? c).map Nat.digitChar

/-- A text in ASCII, without its underscores. -/
def asciiText? : List Char → Option (List Char)
  | [] => some []
  | c :: cs =>
      if c = '_' then asciiText? cs
      else (asciiChar? c).bind fun first => (asciiText? cs).map (first :: ·)

/-- `nan`, with the digits of a payload. -/
def isNan (cs : List Char) : Bool :=
  cs.take 3 = "nan".toList && (cs.drop 3).all Char.isDigit

/-- Infinities, quiet NaNs and signalling ones, in any case. -/
def isSpecial (cs : List Char) : Bool :=
  let word := cs.map Char.toLower
  word = "inf".toList || word = "infinity".toList || isNan word ||
    (word.head? = some 's' && isNan word.tail)

/-- The text after the sign. -/
def ofUnsigned? (negative : Bool) (cs : List Char) : Option Numeral :=
  if isSpecial cs then some .special
  else (Decimal.ofUnsigned? negative cs).bind fun d => if d.InRange then some (.finite d) else none

/-- `Decimal(text)`; `none` is `InvalidOperation`. -/
def ofText? (text : String) : Option Numeral :=
  (asciiText? (strip text.toList)).bind fun cs =>
    match cs with
    | [] => none
    | first :: rest =>
        if first = '-' then ofUnsigned? true rest
        else if first = '+' then ofUnsigned? false rest
        else ofUnsigned? false (first :: rest)

example : ofText? " -1_0.50E+3\n" = some (.finite ⟨true, 1050, 1⟩) := by decide

/-- The number, unless it is an infinity or a NaN. -/
def finite? : Numeral → Option Decimal
  | .finite d => some d
  | .special => none

end Numeral

namespace Decimal

/-- The finite number a text denotes. -/
def ofText? (text : String) : Option Decimal :=
  (Numeral.ofText? text).bind Numeral.finite?

/-! ## Digits -/

/-- Digits end where another character stands. -/
theorem takeWhile_digits {ds rest : List Char} (hds : ∀ c ∈ ds, c.isDigit)
    (hrest : ∀ c ∈ rest.head?, c.isDigit = false) :
    (ds ++ rest).takeWhile Char.isDigit = ds ∧ (ds ++ rest).dropWhile Char.isDigit = rest := by
  rw [List.takeWhile_append_of_pos hds, List.dropWhile_append_of_pos hds]
  cases rest with
  | nil => simp
  | cons c rest =>
      have hc : c.isDigit = false := hrest c rfl
      simp [hc]

/-- What follows the digits of a number: nothing, or an exponent. -/
def ExponentText (cs : List Char) : Prop :=
  cs = [] ∨ ∃ rest, cs = 'E' :: rest

theorem ExponentText.head? {cs : List Char} (h : ExponentText cs) :
    ∀ c ∈ cs.head?, c.isDigit = false ∧ c ≠ '.' := by
  rcases h with rfl | ⟨rest, rfl⟩
  · simp
  · simp only [List.head?_cons, Option.mem_some_iff, forall_eq']
    decide

/-- The digits of a number are read up to its exponent. -/
theorem fractionDigits_of_digits {fraction rest : List Char} (hfraction : ∀ c ∈ fraction, c.isDigit)
    (hrest : ExponentText rest) :
    fractionDigits ((if fraction.isEmpty then [] else ['.']) ++ fraction ++ rest) =
      (fraction, rest) := by
  cases fraction with
  | nil =>
      cases rest with
      | nil => rfl
      | cons c rest =>
          have hpoint : c ≠ '.' := (hrest.head? c rfl).2
          simp [fractionDigits, hpoint]
  | cons c fraction =>
      have hstop : ∀ c ∈ rest.head?, c.isDigit = false := fun c hc => (hrest.head? c hc).1
      obtain ⟨htake, hdrop⟩ := takeWhile_digits hfraction hstop
      simpa [fractionDigits] using And.intro htake hdrop

/-- What is read of a number without its sign. -/
theorem ofUnsigned?_of_digits (negative : Bool) {whole fraction rest : List Char}
    (hwhole : ∀ c ∈ whole, c.isDigit) (hne : whole ≠ []) (hfraction : ∀ c ∈ fraction, c.isDigit)
    (hrest : ExponentText rest) :
    ofUnsigned? negative (whole ++ (if fraction.isEmpty then [] else ['.']) ++ fraction ++ rest) =
      (exponentOf? rest).map (ofDigits negative whole fraction) := by
  have hstop : ∀ c ∈ ((if fraction.isEmpty then [] else ['.']) ++ fraction ++ rest).head?,
      c.isDigit = false := by
    cases fraction with
    | nil => simpa using fun c hc => (hrest.head? c hc).1
    | cons c fraction =>
        simp only [List.isEmpty_cons, Bool.false_eq_true, if_false, List.cons_append,
          List.nil_append, List.head?_cons, Option.mem_some_iff, forall_eq']
        decide
  obtain ⟨htake, hdrop⟩ := takeWhile_digits hwhole hstop
  have hfract := fractionDigits_of_digits hfraction hrest
  simp only [List.append_assoc] at htake hdrop hfract ⊢
  simp only [ofUnsigned?, htake, hdrop, hfract, hne, false_and, if_false]

/-! ## Reading back -/

/-- A point among the digits, or zeros between them: the digits denote the same number, and
their last ones stand after the point. -/
theorem splitAtPoint_spec {ds : List Char} {point : Int} (h : point ≤ ds.length) :
    Nat.ofDigitChars 10 ((splitAtPoint ds point).1 ++ (splitAtPoint ds point).2) 0 =
        Nat.ofDigitChars 10 ds 0 ∧
      ((splitAtPoint ds point).2.length : Int) = ds.length - point := by
  by_cases hneg : point < 0
  · simp only [splitAtPoint, if_pos hneg]
    constructor
    · simp [Nat.ofDigitChars_append, Nat.ofDigitChars_cons]
    · simp only [List.length_append, List.length_replicate]
      omega
  · have hlong : ¬ (ds.length : Int) < point := by omega
    simp only [splitAtPoint, if_neg hneg, if_neg hlong]
    constructor
    · split_ifs with hempty
      · rw [List.isEmpty_iff] at hempty
        conv_rhs => rw [← List.take_append_drop point.toNat ds, hempty]
        simp [Nat.ofDigitChars_cons]
      · rw [List.take_append_drop]
    · rw [List.length_drop]
      omega

/-- The digits of `d`, with the point at `point`, and an exponent that makes up for it. -/
theorem ofDigits_splitAtPoint (d : Decimal) {point : Int} (h : point ≤ d.digits.length) :
    ofDigits d.negative (splitAtPoint d.digits point).1 (splitAtPoint d.digits point).2
      (d.exponent + d.digits.length - point) = d := by
  obtain ⟨hdigits, hlength⟩ := splitAtPoint_spec h
  have hcoefficient : Nat.ofDigitChars 10 d.digits 0 = d.coefficient := by
    rw [digits_eq]
    exact Nat.ofDigitChars_ten_toDigits
  rw [ofDigits, hdigits, hlength, hcoefficient]
  have hexponent : d.exponent + d.digits.length - point - (d.digits.length - point) =
      d.exponent := by ring
  rw [hexponent]

/-- The exponent `str(d)` writes. -/
theorem exponentOf?_shift (shift : Int) :
    exponentOf? ('E' :: (if shift < 0 then '-' else '+') :: (toString shift.natAbs).toList) =
      some shift := by
  have hdigits : (toString shift.natAbs).toList = Nat.toDigits 10 shift.natAbs := by simp
  have hall : (Nat.toDigits 10 shift.natAbs).all Char.isDigit := by
    refine List.all_eq_true.2 fun c hc => ?_
    exact Nat.isDigit_of_mem_toDigits (by decide) (by decide) hc
  rw [hdigits, exponentOf?, if_pos (Or.inl rfl)]
  by_cases hneg : shift < 0
  · simp only [exponent?, if_pos hneg, true_or, if_true, hall, true_and, ne_eq,
      Nat.toDigits_ne_nil, not_false_eq_true, Nat.ofDigitChars_ten_toDigits]
    congr 1
    omega
  · simp only [exponent?, if_neg hneg, or_true, if_true, hall, true_and, ne_eq,
      Nat.toDigits_ne_nil, not_false_eq_true, Nat.ofDigitChars_ten_toDigits]
    rw [if_neg (by decide)]
    congr 1
    omega

/-- `str(d)` is never empty. -/
theorem toText_ne_empty (d : Decimal) : d.toText ≠ "" := by
  have hdigits : ∀ c ∈ d.digits, c.isDigit := fun c hc => isDigit_of_mem_digits hc
  intro hempty
  have hchars := congrArg String.toList hempty
  simp only [toText, String.toList_ofList, String.toList_empty, List.append_eq_nil_iff] at hchars
  exact (splitsAt_splitAtPoint hdigits _).whole_ne hchars.1.1.1.2

end Decimal

namespace Numeral

/-- Characters that are read as they stand. -/
def PlainChar (c : Char) : Prop :=
  33 ≤ c.toNat ∧ c.toNat < 127 ∧ c ≠ '_'

theorem plainChar_of_isDigit {c : Char} (h : c.isDigit) : PlainChar c := by
  have hge : 48 ≤ c.toNat := (Char.isDigit_iff_toNat.1 h).1
  have hle : c.toNat ≤ 57 := (Char.isDigit_iff_toNat.1 h).2
  refine ⟨by omega, by omega, ?_⟩
  rintro rfl
  exact absurd h (by decide)

theorem isSpace_of_plainChar {c : Char} (h : PlainChar c) : isSpace c = false := by
  obtain ⟨hge, hle, -⟩ := h
  simp only [isSpace, List.mem_cons, List.not_mem_nil, or_false, Bool.or_eq_false_iff,
    Bool.and_eq_false_iff, decide_eq_false_iff_not]
  omega

/-- A text of such characters is read as it stands. -/
theorem asciiText?_of_plain {cs : List Char} (h : ∀ c ∈ cs, PlainChar c) :
    asciiText? cs = some cs := by
  induction cs with
  | nil => rfl
  | cons c cs ih =>
      obtain ⟨⟨hge, hle, hscore⟩, hrest⟩ := List.forall_mem_cons.1 h
      rw [asciiText?, if_neg hscore, asciiChar?, if_pos (by omega), ih hrest]
      rfl

/-- A number is no infinity and no NaN. -/
theorem isSpecial_of_isDigit {c : Char} (h : c.isDigit) (cs : List Char) :
    isSpecial (c :: cs) = false := by
  have hupper : ¬ (c.val ≥ 'A'.val ∧ c.val ≤ 'Z'.val) := by
    intro hupper
    have hle : c.toNat ≤ 57 := (Char.isDigit_iff_toNat.1 h).2
    have hge : 65 ≤ c.toNat := hupper.1
    omega
  have hlower : c.toLower = c := dif_neg hupper
  have hletter : ∀ letter : Char, letter.isDigit = false → c.toLower ≠ letter := by
    rintro letter hletter rfl
    rw [hlower, h] at hletter
    cases hletter
  simp [isSpecial, isNan, hletter 'i' (by decide), hletter 'n' (by decide), hletter 's' (by decide)]

/-- A sign is read before a digit. -/
theorem ofText?_sign (negative : Bool) {c : Char} {cs : List Char} (hc : c.isDigit)
    (hplain : ∀ c ∈ cs, PlainChar c) :
    ofText? (String.ofList ((if negative then ['-'] else []) ++ c :: cs)) =
      (Decimal.ofUnsigned? negative (c :: cs)).bind fun d =>
        if d.InRange then some (.finite d) else none := by
  have hminus : c ≠ '-' := by
    rintro rfl
    exact absurd hc (by decide)
  have hplus : c ≠ '+' := by
    rintro rfl
    exact absurd hc (by decide)
  have hall : ∀ x ∈ (if negative then ['-'] else []) ++ c :: cs, PlainChar x := by
    intro x hx
    simp only [List.mem_append, List.mem_cons] at hx
    rcases hx with hsign | rfl | hx
    · cases negative with
      | true =>
          rw [List.mem_singleton.1 hsign]
          unfold PlainChar
          decide
      | false => cases hsign
    · exact plainChar_of_isDigit hc
    · exact hplain x hx
  have hread : asciiText? (strip (String.ofList ((if negative then ['-'] else []) ++
      c :: cs)).toList) = some ((if negative then ['-'] else []) ++ c :: cs) := by
    rw [String.toList_ofList, strip_of_forall fun x hx => isSpace_of_plainChar (hall x hx),
      asciiText?_of_plain hall]
  unfold ofText?
  rw [hread]
  cases negative with
  | true => simp [ofUnsigned?, isSpecial_of_isDigit hc]
  | false => simp [ofUnsigned?, isSpecial_of_isDigit hc, hminus, hplus]

/-- A text with the digits of `d` reads as `d`. -/
theorem ofText?_of_point (d : Decimal) {point : Int} (h : point ≤ d.digits.length)
    {rest : List Char} (hrest : Decimal.ExponentText rest) (hplain : ∀ c ∈ rest, PlainChar c)
    (hread : exponentOf? rest = some (d.exponent + d.digits.length - point)) :
    ofText? (String.ofList ((if d.negative then ['-'] else []) ++
      ((Decimal.splitAtPoint d.digits point).1 ++
        (if (Decimal.splitAtPoint d.digits point).2.isEmpty then [] else ['.']) ++
        (Decimal.splitAtPoint d.digits point).2 ++ rest))) =
      if d.InRange then some (.finite d) else none := by
  have hdigits : ∀ c ∈ d.digits, c.isDigit := fun c hc => Decimal.isDigit_of_mem_digits hc
  obtain ⟨hwhole, hfraction, hne, -⟩ := Decimal.splitsAt_splitAtPoint hdigits point
  have hnumber := Decimal.ofUnsigned?_of_digits d.negative hwhole hne hfraction hrest
  rw [hread, Option.map_some, Decimal.ofDigits_splitAtPoint d h] at hnumber
  obtain ⟨c, cs, hfirst⟩ := List.exists_cons_of_ne_nil hne
  rw [hfirst] at hnumber hwhole ⊢
  have hpoint : ∀ x ∈ (if (Decimal.splitAtPoint d.digits point).2.isEmpty then [] else ['.']),
      PlainChar x := by
    intro x hx
    split_ifs at hx with hempty
    · cases hx
    · rw [List.mem_singleton.1 hx]
      unfold PlainChar
      decide
  have htail : ∀ x ∈ cs ++
      (if (Decimal.splitAtPoint d.digits point).2.isEmpty then [] else ['.']) ++
      (Decimal.splitAtPoint d.digits point).2 ++ rest, PlainChar x := by
    intro x hx
    simp only [List.mem_append] at hx
    rcases hx with ((hx | hx) | hx) | hx
    · exact plainChar_of_isDigit (hwhole x (List.mem_cons_of_mem c hx))
    · exact hpoint x hx
    · exact plainChar_of_isDigit (hfraction x hx)
    · exact hplain x hx
  have hsign := ofText?_sign d.negative (hwhole c List.mem_cons_self) htail
  simp only [List.cons_append] at hnumber hsign ⊢
  rw [hsign, hnumber]
  rfl

/-- `Decimal(str(d))` is `d`, with its exponent and the sign of a zero. -/
theorem ofText?_toText (d : Decimal) :
    ofText? d.toText = if d.InRange then some (.finite d) else none := by
  have hdigits : 1 ≤ d.digits.length := by
    rw [Decimal.digits_eq]
    exact Nat.length_toDigits_pos
  obtain ⟨point, hpoint, hle⟩ : ∃ point : Int,
      (if d.exponent ≤ 0 ∧ -6 < d.exponent + (d.digits.length : Int) then
        d.exponent + d.digits.length else 1) = point ∧ point ≤ d.digits.length := by
    refine ⟨_, rfl, ?_⟩
    split_ifs <;> omega
  simp only [Decimal.toText, hpoint]
  by_cases hshift : d.exponent + d.digits.length - point = 0
  · have hread := ofText?_of_point d hle (Or.inl rfl) (by simp) (by rw [hshift]; rfl)
    rw [if_pos hshift]
    simpa only [List.append_assoc] using hread
  · have hread := ofText?_of_point d hle (Or.inr ⟨_, rfl⟩) ?_
      (Decimal.exponentOf?_shift (d.exponent + d.digits.length - point))
    · rw [if_neg hshift]
      simpa only [List.append_assoc] using hread
    · intro c hc
      have hdigit : ∀ x ∈ (toString (d.exponent + d.digits.length - point).natAbs).toList,
          x.isDigit := by
        intro x hx
        rw [Nat.toString_eq_repr, Nat.toList_repr] at hx
        exact Nat.isDigit_of_mem_toDigits (by decide) (by decide) hx
      simp only [List.mem_cons] at hc
      rcases hc with rfl | rfl | hc
      · unfold PlainChar
        decide
      · unfold PlainChar
        split_ifs <;> decide
      · exact plainChar_of_isDigit (hdigit c hc)

end Numeral

end Foundations
