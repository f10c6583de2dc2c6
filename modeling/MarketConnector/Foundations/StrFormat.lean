import MarketConnector.Foundations.Characters

/-!
# Foundations - Format specifications of texts

A replacement field may say how its text is laid out: a fill character and an alignment, a
width, and how many characters are kept.  What else a specification may hold is for numbers,
and a text refuses it.

Main results:

- Definition `formatText`: `format(text, spec)`.
- Theorem `formatText_plain`: the empty specification and `s` leave a text as it is.
-/

namespace Foundations
namespace StrFormat

/-! ## Specifications -/

/-- Alignments that a text accepts. -/
inductive Align where
  | left | right | center
deriving DecidableEq

/-- A specification; a width of zero asks for nothing. -/
structure Spec where
  fill : Char
  align : Align
  width : Nat
  precision : Option Nat
deriving DecidableEq

/-- `is_alignment_token`. -/
def isAlign (c : Char) : Bool :=
  c ∈ ['<', '>', '^', '=']

/-- Alignment by an equals sign is for numbers. -/
def align? : Char → Option Align
  | '<' => some .left
  | '>' => some .right
  | '^' => some .center
  | _ => none

/-- The largest width and precision, `2 ^ 63 - 1`. -/
def sizeMax : Nat :=
  9223372036854775807

/-- The number at the start of a text; none if it is too large. -/
def readSize (cs : List Char) : Option (Nat × List Char) :=
  let isDigit := fun c => (decimalDigit? c).isSome
  match numberOf? 0 (cs.takeWhile isDigit) with
  | none => none
  | some n => if n ≤ sizeMax then some (n, cs.dropWhile isDigit) else none

/-- The precision, and the type after it. -/
def readPrecision (cs : List Char) : Option (Option Nat) :=
  match cs with
  | '.' :: digits =>
      match readSize digits with
      | none => none
      | some (n, rest) =>
          if rest = digits then none
          else if rest = [] ∨ rest = ['s'] then some (some n)
          else none
  | rest => if rest = [] ∨ rest = ['s'] then some none else none

/-- Width and precision after fill and alignment; a zero before the width is a fill. -/
def readSizes (fill : Option Char) (align : Align) (cs : List Char) : Option Spec :=
  let padded := fill = none ∧ cs.head? = some '0'
  match readSize (if padded then cs.drop 1 else cs) with
  | none => none
  | some (width, rest) =>
      (readPrecision rest).map fun precision =>
        ⟨if padded then '0' else fill.getD ' ', align, width, precision⟩

/-- The specification a text accepts. -/
def readSpec (cs : List Char) : Option Spec :=
  match cs with
  | fill :: c :: rest =>
      if isAlign c then (align? c).bind fun align => readSizes (some fill) align rest
      else if isAlign fill then (align? fill).bind fun align => readSizes none align (c :: rest)
      else readSizes none .left cs
  | [c] =>
      if isAlign c then (align? c).bind fun align => readSizes none align []
      else readSizes none .left cs
  | [] => readSizes none .left []

/-! ## Layout -/

/-- Characters before the text, of some that are missing. -/
def leftPadding (align : Align) (missing : Nat) : Nat :=
  match align with
  | .left => 0
  | .right => missing
  | .center => missing / 2

/-- The text in its field. -/
def layOut (spec : Spec) (cs : List Char) : List Char :=
  let kept := match spec.precision with
    | none => cs
    | some n => cs.take n
  let missing := spec.width - kept.length
  let before := leftPadding spec.align missing
  List.replicate before spec.fill ++ kept ++ List.replicate (missing - before) spec.fill

/-- `format(text, spec)`. -/
def formatText (text spec : String) : Option String :=
  (readSpec spec.toList).map fun spec => String.ofList (layOut spec text.toList)

example : formatText "abc" "007.1s" = some "a000000" := by decide

example : formatText "abc" "^7" = some "  abc  " := by decide

example : formatText "abc" "5d" = none := by decide

/-- The specifications that leave every text as it is. -/
theorem formatText_plain (text : String) {spec : String} (h : spec = "" ∨ spec = "s") :
    formatText text spec = some text := by
  have hread : readSpec spec.toList = some ⟨' ', .left, 0, none⟩ := by
    rcases h with rfl | rfl <;> decide
  simp [formatText, hread, layOut, leftPadding]

end StrFormat
end Foundations
