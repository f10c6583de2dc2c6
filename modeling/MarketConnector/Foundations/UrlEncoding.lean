/-!
# Foundations - Percent encoding and query strings

Text is encoded byte by byte from its UTF-8 form: the unreserved characters stay,
every other byte becomes `%XX`.  The query form writes a blank as `+` and joins
`key=value` pairs with `&`.

Main results:

- Definitions `quote` and `quotePlus`: the two encodings of one text.
- Theorem `unquote_quote`: what `quote` writes is read back.
- Theorem `urlencode_size_pos`: a query string with a parameter is not empty.
-/

namespace Foundations
namespace UrlEncoding

/-- Upper-case hexadecimal digit of a number below 16. -/
def hexDigit (n : Nat) : Char :=
  "0123456789ABCDEF".toList.getD n '0'

/-- ASCII letters, digits and `_.-~`. -/
def isUnreserved (b : UInt8) : Bool :=
  let c := Char.ofNat b.toNat
  b < 128 && (c.isAlphanum || c ∈ ['_', '.', '-', '~'])

/-- Encoding of one byte. -/
def quoteByte (b : UInt8) : List Char :=
  if isUnreserved b then [Char.ofNat b.toNat]
  else ['%', hexDigit (b.toNat / 16), hexDigit (b.toNat % 16)]

/-- Encoding of one byte in a query string. -/
def quotePlusByte (b : UInt8) : List Char :=
  if b = 32 then ['+'] else quoteByte b

/-- `quote(s, safe="")`. -/
def quote (s : String) : String :=
  String.ofList (s.toUTF8.data.toList.flatMap quoteByte)

/-- `quote_plus(s)`. -/
def quotePlus (s : String) : String :=
  String.ofList (s.toUTF8.data.toList.flatMap quotePlusByte)

/-- One `key=value` pair of a query string. -/
def queryPair (k v : String) : String :=
  quotePlus k ++ "=" ++ quotePlus v

/-- `urlencode(kvs)`. -/
def urlencode : List (String × String) → String
  | [] => ""
  | [(k, v)] => queryPair k v
  | (k, v) :: kv :: kvs => queryPair k v ++ "&" ++ urlencode (kv :: kvs)

example : urlencode [("pair", "ETH/USD"), ("n", "1 2")] = "pair=ETH%2FUSD&n=1+2" := by decide

theorem queryPair_size_pos (k v : String) : 0 < (queryPair k v).utf8ByteSize := by
  simp only [queryPair, String.utf8ByteSize_append]
  have : "=".utf8ByteSize = 1 := rfl
  omega

/-- A query string with at least one parameter is not empty. -/
theorem urlencode_size_pos {kvs : List (String × String)} (h : kvs ≠ []) :
    0 < (urlencode kvs).utf8ByteSize := by
  match kvs with
  | [] => exact absurd rfl h
  | [(k, v)] => exact queryPair_size_pos k v
  | (k, v) :: kv :: kvs =>
      have := queryPair_size_pos k v
      simp only [urlencode, String.utf8ByteSize_append]
      omega

/-! ## Reading back -/

/-- Value of a hexadecimal digit. -/
def hexValue? (c : Char) : Option Nat :=
  if '0' ≤ c ∧ c ≤ '9' then some (c.toNat - 48)
  else if 'A' ≤ c ∧ c ≤ 'F' then some (c.toNat - 55)
  else if 'a' ≤ c ∧ c ≤ 'f' then some (c.toNat - 87)
  else none

/-- The UTF-8 form of a character. -/
def charBytes (c : Char) : List UInt8 :=
  (String.singleton c).toUTF8.data.toList

/-- `unquote_to_bytes(s)`: a `%` without two digits stands for itself. -/
def unquoteBytes : List Char → List UInt8
  | [] => []
  | '%' :: high :: low :: cs =>
      match hexValue? high, hexValue? low with
      | some h, some l => UInt8.ofNat (16 * h + l) :: unquoteBytes cs
      | _, _ => charBytes '%' ++ unquoteBytes (high :: low :: cs)
  | c :: cs => charBytes c ++ unquoteBytes cs

/-- `unquote(s, errors="strict")`. -/
def unquote (s : String) : Option String :=
  String.fromUTF8? ⟨(unquoteBytes s.toList).toArray⟩

example : unquote "a%2Fb%C3%A9" = some "a/bé" := by decide

theorem unquoteBytes_cons_of_ne {c : Char} (hc : c ≠ '%') (cs : List Char) :
    unquoteBytes (c :: cs) = charBytes c ++ unquoteBytes cs := by
  rw [unquoteBytes]
  intro high low rest hpercent
  exact absurd hpercent hc

theorem forall_byte {P : UInt8 → Prop} (h : ∀ n < 256, P (UInt8.ofNat n)) (b : UInt8) : P b := by
  have hb := h b.toNat b.toNat_lt
  rwa [UInt8.ofNat_toNat] at hb

/-- An unreserved byte is the UTF-8 form of its character. -/
theorem charBytes_of_unreserved (b : UInt8) (h : isUnreserved b = true) :
    Char.ofNat b.toNat ≠ '%' ∧ charBytes (Char.ofNat b.toNat) = [b] := by
  revert h
  refine forall_byte (P := fun b => isUnreserved b = true →
    Char.ofNat b.toNat ≠ '%' ∧ charBytes (Char.ofNat b.toNat) = [b]) ?_ b
  decide +kernel

theorem hexValue?_hexDigit {n : Nat} (h : n < 16) : hexValue? (hexDigit n) = some n := by
  revert n
  decide

/-- One encoded byte is read back. -/
theorem unquoteBytes_quoteByte (b : UInt8) (cs : List Char) :
    unquoteBytes (quoteByte b ++ cs) = b :: unquoteBytes cs := by
  unfold quoteByte
  split
  · rename_i hunreserved
    obtain ⟨hpercent, hbytes⟩ := charBytes_of_unreserved b hunreserved
    rw [List.cons_append, unquoteBytes_cons_of_ne hpercent, hbytes]
    rfl
  · have hb := b.toNat_lt
    have hbyte : 16 * (b.toNat / 16) + b.toNat % 16 = b.toNat := Nat.div_add_mod _ _
    simp only [List.cons_append, List.nil_append, unquoteBytes,
      hexValue?_hexDigit (show b.toNat / 16 < 16 by omega),
      hexValue?_hexDigit (Nat.mod_lt b.toNat (by decide)), hbyte, UInt8.ofNat_toNat]

theorem unquoteBytes_quote (bytes : List UInt8) :
    unquoteBytes (bytes.flatMap quoteByte) = bytes := by
  induction bytes with
  | nil => rfl
  | cons b bytes ih => rw [List.flatMap_cons, unquoteBytes_quoteByte, ih]

/-- Quoted text is read back. -/
theorem unquote_quote (s : String) : unquote (quote s) = some s := by
  unfold unquote quote
  rw [String.toList_ofList, unquoteBytes_quote]
  unfold String.fromUTF8?
  exact dif_pos s.isValidUTF8

theorem notMem_quoteByte {c : Char} (hc : c ∈ ['/', '?', '#', '{', '}']) (b : UInt8) :
    c ∉ quoteByte b := by
  have hunreserved : isUnreserved b = true →
      Char.ofNat b.toNat ∉ ['/', '?', '#', '{', '}'] := by
    refine forall_byte (P := fun b => isUnreserved b = true →
      Char.ofNat b.toNat ∉ ['/', '?', '#', '{', '}']) ?_ b
    decide +kernel
  have hdigit : ∀ n < 16, hexDigit n ∉ ['/', '?', '#', '{', '}'] := by decide
  have hbyte := b.toNat_lt
  unfold quoteByte
  split
  · rename_i h
    rw [List.mem_singleton]
    rintro rfl
    exact hunreserved h hc
  · simp only [List.mem_cons, List.not_mem_nil, or_false, not_or]
    refine ⟨?_, ?_, ?_⟩
    · rintro rfl
      exact absurd hc (by decide)
    · rintro rfl
      exact hdigit _ (by omega) hc
    · rintro rfl
      exact hdigit _ (by omega) hc

/-- Quoting leaves no slash, no query mark, no hash and no brace. -/
theorem notMem_quote {c : Char} (hc : c ∈ ['/', '?', '#', '{', '}']) (s : String) :
    c ∉ (quote s).toList := by
  unfold quote
  rw [String.toList_ofList, List.mem_flatMap]
  rintro ⟨b, -, hb⟩
  exact notMem_quoteByte hc b hb

end UrlEncoding
end Foundations
