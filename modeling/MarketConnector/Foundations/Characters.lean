import Mathlib.Data.List.Basic

/-!
# Foundations - Blanks and digits of a text

Texts are read character by character; digits of any script count as decimal digits, and
there are more blanks than the ASCII ones.

Main results:

- Definition `decimalDigit?`: the value of a decimal digit.
- Definition `isSpace`: `str.isspace` of a character.
- Theorem `decimalDigit?_of_isDigit`: the ASCII digits have their value.
-/

namespace Foundations

/-- The zeros of the scripts; each is followed by the digits one to nine. -/
def decimalZeros : List Nat :=
  [0x30, 0x660, 0x6f0, 0x7c0, 0x966, 0x9e6, 0xa66, 0xae6, 0xb66, 0xbe6, 0xc66, 0xce6, 0xd66,
    0xde6, 0xe50, 0xed0, 0xf20, 0x1040, 0x1090, 0x17e0, 0x1810, 0x1946, 0x19d0, 0x1a80, 0x1a90,
    0x1b50, 0x1bb0, 0x1c40, 0x1c50, 0xa620, 0xa8d0, 0xa900, 0xa9d0, 0xa9f0, 0xaa50, 0xabf0,
    0xff10, 0x104a0, 0x10d30, 0x11066, 0x110f0, 0x11136, 0x111d0, 0x112f0, 0x11450, 0x114d0,
    0x11650, 0x116c0, 0x11730, 0x118e0, 0x11950, 0x11c50, 0x11d50, 0x11da0, 0x11f50, 0x16a60,
    0x16ac0, 0x16b50, 0x1d7ce, 0x1d7d8, 0x1d7e2, 0x1d7ec, 0x1d7f6, 0x1e140, 0x1e2f0, 0x1e4f0,
    0x1e950, 0x1fbf0]

/-- The value of a decimal digit. -/
def decimalDigit? (c : Char) : Option Nat :=
  decimalZeros.findSome? fun start =>
    if start ≤ c.toNat ∧ c.toNat < start + 10 then some (c.toNat - start) else none

/-- The number that digits denote, after those read so far. -/
def numberOf? (n : Nat) : List Char → Option Nat
  | [] => some n
  | c :: cs =>
      match decimalDigit? c with
      | none => none
      | some d => numberOf? (10 * n + d) cs

/-- Blanks, with the separators that only texts in Unicode have. -/
def isSpace (c : Char) : Bool :=
  (9 ≤ c.toNat && c.toNat ≤ 13) || (0x1c ≤ c.toNat && c.toNat ≤ 0x20) ||
    (0x2000 ≤ c.toNat && c.toNat ≤ 0x200a) ||
      c.toNat ∈ [0x85, 0xa0, 0x1680, 0x2028, 0x2029, 0x202f, 0x205f, 0x3000]

/-- `text.strip()`. -/
def strip (cs : List Char) : List Char :=
  ((cs.dropWhile isSpace).reverse.dropWhile isSpace).reverse

/-- The ASCII digits are digits. -/
theorem decimalDigit?_of_isDigit {c : Char} (h : c.isDigit = true) :
    decimalDigit? c = some (c.toNat - 48) := by
  have hge : 48 ≤ c.toNat := (Char.isDigit_iff_toNat.1 h).1
  have hle : c.toNat ≤ 57 := (Char.isDigit_iff_toNat.1 h).2
  have hrange : 48 ≤ c.toNat ∧ c.toNat < 48 + 10 := ⟨hge, by omega⟩
  unfold decimalDigit? decimalZeros
  rw [List.findSome?_cons, if_pos hrange]

/-- Nothing is dropped of a text none of whose characters is to be dropped. -/
theorem dropWhile_of_forall {p : Char → Bool} {cs : List Char} (h : ∀ c ∈ cs, p c = false) :
    cs.dropWhile p = cs := by
  cases cs with
  | nil => rfl
  | cons c cs => rw [List.dropWhile_cons_of_neg (by simp [h c List.mem_cons_self])]

/-- A text without blanks is stripped of nothing. -/
theorem strip_of_forall {cs : List Char} (h : ∀ c ∈ cs, isSpace c = false) : strip cs = cs := by
  rw [strip, dropWhile_of_forall h, dropWhile_of_forall fun c hc => h c (List.mem_reverse.1 hc),
    List.reverse_reverse]

end Foundations
