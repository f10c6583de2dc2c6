import MarketConnector.Foundations.Dict
import MarketConnector.Foundations.PyValue
import MarketConnector.Foundations.Splitting

/-!
# Symbols - Pairs and exchange pairs

A canonical pair is `BASE-QUOTE`.  An exchange joins its codes for the two assets with a
separator of its own, or with none; then the quote is the longest of the known quote assets
that the pair ends in.  Codes are translated by one table in each direction.

Main results:

- Definitions `RuleBasedMapper.fromExchangePair` and `toExchangePair`: the two directions.
- Theorem `toExchangePair_eq_ok_iff`: the canonical pairs that have an exchange pair.
- Theorem `fromExchangePair_eq_ok_iff`: the exchange pairs that have a canonical pair, for a
  mapper with neither separator nor fallback.
-/

namespace MarketConnector
namespace Symbols

open Foundations

/-! ## Errors -/

inductive MapperError where
  /-- `UnknownPairError(pair)` -/
  | unknownPair (pair : String)
  /-- `ValueError("empty separator")` of `str.split` -/
  | emptySeparator
deriving DecidableEq

/-! ## The mapper -/

structure RuleBasedMapper where
  separator : Option String
  knownQuoteAssets : List String
  assetAliasesToHb : Dict String String
  assetAliasesFromHb : Dict String String
  fallbackLookup : Option (String → Option String)

/-- `text.split(sep)`. -/
def splitText (sep text : String) : List String :=
  (split sep.toList text.toList).map String.ofList

/-- `text[:-n]`. -/
def dropRight (text : String) (n : Nat) : String :=
  if n = 0 then "" else String.ofList (text.toList.take (text.toList.length - n))

namespace RuleBasedMapper

variable (m : RuleBasedMapper)

/-- The two parts of a text. -/
def pairOf (error : MapperError) : List String → Except MapperError (String × String)
  | [first, second] => .ok (first, second)
  | _ => .error error

/-- `_try_fallback` -/
def tryFallback (exchPair : String) : Except MapperError (String × String) :=
  match m.fallbackLookup.bind fun lookup => lookup exchPair with
  | none => .error (.unknownPair exchPair)
  | some result => pairOf (.unknownPair exchPair) (splitText "-" result)

/-- `_split_exchange_pair` -/
def splitExchangePair (exchPair : String) : Except MapperError (String × String) :=
  match m.separator with
  | some separator =>
      if separator = "" then .error .emptySeparator
      else
        match splitText separator exchPair with
        | [base, quote] => .ok (base, quote)
        | _ => m.tryFallback exchPair
  | none =>
      match longestSuffix String.toList m.knownQuoteAssets exchPair.toList with
      | none => m.tryFallback exchPair
      | some bestQuote =>
          let base := dropRight exchPair bestQuote.toList.length
          if base = "" then m.tryFallback exchPair else .ok (base, bestQuote)

def fromExchangeAsset (exchAsset : String) : String :=
  (m.assetAliasesToHb.get? exchAsset).getD exchAsset

def toExchangeAsset (hbAsset : String) : String :=
  (m.assetAliasesFromHb.get? hbAsset).getD hbAsset

def fromExchangePair (exchPair : String) : Except MapperError String := do
  let (baseRaw, quoteRaw) ← m.splitExchangePair exchPair
  return m.fromExchangeAsset baseRaw ++ "-" ++ m.fromExchangeAsset quoteRaw

def toExchangePair (hbPair : String) : Except MapperError String := do
  let (baseHb, quoteHb) ← pairOf (.unknownPair hbPair) (splitText "-" hbPair)
  return m.toExchangeAsset baseHb ++ m.separator.getD "" ++ m.toExchangeAsset quoteHb

/-! ## Canonical pairs -/

/-- A text has two parts when its separator occurs once. -/
theorem splitText_singleton_eq_pair_iff {sep : Char} {text base quote : String} :
    splitText (String.singleton sep) text = [base, quote] ↔
      text = base ++ String.singleton sep ++ quote ∧ sep ∉ base.toList ∧ sep ∉ quote.toList := by
  have hmap : splitText (String.singleton sep) text = [base, quote] ↔
      split [sep] text.toList = [base.toList, quote.toList] := by
    have hinj : Function.Injective (List.map String.ofList) :=
      List.map_injective_iff.2 fun _ _ => String.ofList_injective
    have hpair : [base, quote] = [base.toList, quote.toList].map String.ofList := by simp
    rw [hpair, splitText, String.toList_singleton]
    exact hinj.eq_iff
  rw [hmap, split_eq_pair_iff]
  have htext : text = base ++ String.singleton sep ++ quote ↔
      text.toList = base.toList ++ sep :: quote.toList := by
    rw [← String.toList_inj]
    simp
  rw [htext]

theorem splitText_eq_pair_iff {text base quote : String} :
    splitText "-" text = [base, quote] ↔
      text = base ++ "-" ++ quote ∧ '-' ∉ base.toList ∧ '-' ∉ quote.toList := by
  have hdash : "-" = String.singleton '-' := by decide
  rw [hdash]
  exact splitText_singleton_eq_pair_iff

theorem pairOf_eq_ok_iff {error : MapperError} {parts : List String} {first second : String} :
    pairOf error parts = .ok (first, second) ↔ parts = [first, second] := by
  unfold pairOf
  split
  · simp
  · simp_all

/-- The canonical pairs of two assets without a dash have an exchange pair. -/
theorem toExchangePair_eq_ok_iff {hbPair exchPair : String} :
    m.toExchangePair hbPair = .ok exchPair ↔
      ∃ base quote, hbPair = base ++ "-" ++ quote ∧ '-' ∉ base.toList ∧ '-' ∉ quote.toList ∧
        exchPair =
          m.toExchangeAsset base ++ m.separator.getD "" ++ m.toExchangeAsset quote := by
  simp only [toExchangePair, bind_eq_ok, Prod.exists, pairOf_eq_ok_iff, splitText_eq_pair_iff,
    and_assoc, pure, Except.pure, Except.ok.injEq, eq_comm (a := exchPair)]

/-! ## Exchange pairs without a separator -/

theorem dropRight_append (base quote : String) (h : quote ≠ "") :
    dropRight (base ++ quote) quote.toList.length = base := by
  have hlength : quote.toList.length ≠ 0 := by
    simpa using h
  simp [dropRight, hlength]

theorem injective_toList : Function.Injective String.toList :=
  fun _ _ h => String.toList_injective h

/-- A known quote that no longer known suffix hides. -/
def IsQuoteOf (quote exchPair : String) : Prop :=
  quote ∈ m.knownQuoteAssets ∧
    ∀ other ∈ m.knownQuoteAssets, other.toList <:+ exchPair.toList →
      other.toList.length ≤ quote.toList.length

theorem longestSuffix_append_iff {base quote : String} :
    longestSuffix String.toList m.knownQuoteAssets (base ++ quote).toList = some quote ↔
      m.IsQuoteOf quote (base ++ quote) := by
  rw [longestSuffix_eq_some_iff injective_toList]
  simp [IsQuoteOf]

/-- A pair is cut before its quote, whatever the fallback. -/
theorem splitExchangePair_append (hsep : m.separator = none) {base quote : String}
    (hbase : base ≠ "") (hempty : quote ≠ "") (hquote : m.IsQuoteOf quote (base ++ quote)) :
    m.splitExchangePair (base ++ quote) = .ok (base, quote) := by
  simp only [splitExchangePair, hsep, m.longestSuffix_append_iff.2 hquote,
    dropRight_append _ _ hempty, if_neg hbase]

/-- A pair is cut before its quote and nowhere else. -/
theorem splitExchangePair_eq_ok_iff (hsep : m.separator = none)
    (hfallback : m.fallbackLookup = none) {exchPair base quote : String} :
    m.splitExchangePair exchPair = .ok (base, quote) ↔
      exchPair = base ++ quote ∧ base ≠ "" ∧ quote ≠ "" ∧ m.IsQuoteOf quote exchPair := by
  have hunknown : m.tryFallback exchPair = .error (.unknownPair exchPair) := by
    simp [tryFallback, hfallback]
  constructor
  · intro h
    simp only [splitExchangePair, hsep, hunknown] at h
    cases hbest : longestSuffix String.toList m.knownQuoteAssets exchPair.toList with
    | none => simp [hbest] at h
    | some best =>
        obtain ⟨hknown, ⟨front, hfront⟩, hlongest⟩ :=
          (longestSuffix_eq_some_iff injective_toList).1 hbest
        have hpair : exchPair = String.ofList front ++ best := by
          rw [← String.toList_inj]
          simp [hfront]
        rw [hbest] at h
        by_cases hempty : best = ""
        · simp [hempty, dropRight] at h
        · simp only [hpair, dropRight_append _ _ hempty] at h
          split_ifs at h with hbase
          simp only [Except.ok.injEq, Prod.mk.injEq] at h
          obtain ⟨rfl, rfl⟩ := h
          exact ⟨hpair, hbase, hempty, hknown, hlongest⟩
  · rintro ⟨rfl, hbase, hempty, hquote⟩
    exact m.splitExchangePair_append hsep hbase hempty hquote

/-- The canonical pair of a pair that is cut before its quote. -/
theorem fromExchangePair_eq_ok_iff (hsep : m.separator = none)
    (hfallback : m.fallbackLookup = none) {exchPair hbPair : String} :
    m.fromExchangePair exchPair = .ok hbPair ↔
      ∃ base quote, exchPair = base ++ quote ∧ base ≠ "" ∧ quote ≠ "" ∧
        m.IsQuoteOf quote exchPair ∧
        hbPair = m.fromExchangeAsset base ++ "-" ++ m.fromExchangeAsset quote := by
  simp only [fromExchangePair, bind_eq_ok, Prod.exists,
    m.splitExchangePair_eq_ok_iff hsep hfallback, and_assoc, pure, Except.pure, Except.ok.injEq,
    eq_comm (a := hbPair)]

end RuleBasedMapper

end Symbols
end MarketConnector
