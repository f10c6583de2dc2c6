import MarketConnector.Symbols.Mapper

/-!
# Symbols - Pairs that come back

A canonical pair goes to the exchange and comes back.  The tables have to undo each other, and
the exchange pair has to be cut where it was joined.

Main results:

- Definition `RuleBasedMapper.CutsBack`: the exchange pair is cut where it was joined.
- Theorem `canonicalPair_roundTrip`: canonical pairs come back, and the order of the known
  quote assets does not matter.
-/

namespace MarketConnector
namespace Symbols

open Foundations

namespace RuleBasedMapper

variable (m : RuleBasedMapper)

/-! ## Canonical assets -/

/-- Each alias table undoes the other. -/
def MutuallyInverse : Prop :=
  ∀ hbAsset exchAsset, m.assetAliasesFromHb.get? hbAsset = some exchAsset ↔
    m.assetAliasesToHb.get? exchAsset = some hbAsset

theorem mutuallyInverse_iff_entries :
    (∀ e ∈ m.assetAliasesFromHb.entries, m.assetAliasesToHb.get? e.2 = some e.1) ∧
        (∀ e ∈ m.assetAliasesToHb.entries, m.assetAliasesFromHb.get? e.2 = some e.1) ↔
      m.MutuallyInverse := by
  constructor
  · rintro ⟨hfrom, hto⟩ hbAsset exchAsset
    constructor
    · intro h
      exact hfrom _ ((Dict.mem_entries_iff _).2 h)
    · intro h
      exact hto _ ((Dict.mem_entries_iff _).2 h)
  · intro h
    constructor
    · intro e he
      exact (h e.1 e.2).1 ((Dict.mem_entries_iff _).1 he)
    · intro e he
      exact (h e.2 e.1).2 ((Dict.mem_entries_iff _).1 he)

instance : Decidable m.MutuallyInverse :=
  decidable_of_iff _ m.mutuallyInverse_iff_entries

/-- An asset of a canonical pair that the tables can translate back. -/
structure Canonical (asset : String) : Prop where
  nonempty : asset ≠ ""
  noDash : '-' ∉ asset.toList
  translated : asset ∈ m.assetAliasesFromHb.keys ∨ asset ∉ m.assetAliasesToHb.keys
  code_nonempty : m.toExchangeAsset asset ≠ ""

variable {m}

/-- An asset comes back from its code. -/
theorem Canonical.fromExchangeAsset_toExchangeAsset (hinverse : m.MutuallyInverse)
    {asset : String} (h : m.Canonical asset) :
    m.fromExchangeAsset (m.toExchangeAsset asset) = asset := by
  unfold fromExchangeAsset toExchangeAsset
  cases hcode : m.assetAliasesFromHb.get? asset with
  | some code =>
      have hback := (hinverse asset code).1 hcode
      rw [Option.getD_some, hback, Option.getD_some]
  | none =>
      have hkey : asset ∉ m.assetAliasesFromHb.keys := by
        rw [Dict.mem_keys_iff, Dict.contains, hcode]
        simp
      have hother := h.translated.resolve_left hkey
      rw [Dict.mem_keys_iff, Dict.contains, Bool.not_eq_true, Option.isSome_eq_false_iff,
        Option.isNone_iff_eq_none] at hother
      rw [Option.getD_none, hother, Option.getD_none]

/-! ## Cutting an exchange pair -/

variable (m)

/-- The exchange pair of two assets is cut between their codes: the separator occurs in
neither, or no known quote hides the code of the quote. -/
def CutsBack (base quote : String) : Prop :=
  match m.separator with
  | some separator =>
      ∃ sep, separator = String.singleton sep ∧ sep ∉ (m.toExchangeAsset base).toList ∧
        sep ∉ (m.toExchangeAsset quote).toList
  | none =>
      m.IsQuoteOf (m.toExchangeAsset quote) (m.toExchangeAsset base ++ m.toExchangeAsset quote)

variable {m}

theorem splitExchangePair_of_cutsBack {base quote : String} (hbase : m.toExchangeAsset base ≠ "")
    (hquote : m.toExchangeAsset quote ≠ "") (hcut : m.CutsBack base quote) :
    m.splitExchangePair
        (m.toExchangeAsset base ++ m.separator.getD "" ++ m.toExchangeAsset quote) =
      .ok (m.toExchangeAsset base, m.toExchangeAsset quote) := by
  unfold CutsBack at hcut
  cases hsep : m.separator with
  | some separator =>
      rw [hsep] at hcut
      obtain ⟨sep, rfl, hbase', hquote'⟩ := hcut
      have hparts : splitText (String.singleton sep)
          (m.toExchangeAsset base ++ String.singleton sep ++ m.toExchangeAsset quote) =
            [m.toExchangeAsset base, m.toExchangeAsset quote] :=
        splitText_singleton_eq_pair_iff.2 ⟨rfl, hbase', hquote'⟩
      have hne : String.singleton sep ≠ "" := by
        simp
      simp only [splitExchangePair, hsep, Option.getD_some, if_neg hne, hparts]
  | none =>
      rw [hsep] at hcut
      rw [Option.getD_none, String.append_empty]
      exact m.splitExchangePair_append hsep hbase hquote hcut

/-- The pair of two canonical assets has an exchange pair, and comes back from it. -/
def RoundTrips (m : RuleBasedMapper) (base quote : String) : Prop :=
  ∃ exchPair, m.toExchangePair (base ++ "-" ++ quote) = .ok exchPair ∧
    m.fromExchangePair exchPair = .ok (base ++ "-" ++ quote)

theorem roundTrips_of_cutsBack (hinverse : m.MutuallyInverse) {base quote : String}
    (hbase : m.Canonical base) (hquote : m.Canonical quote) (hcut : m.CutsBack base quote) :
    m.RoundTrips base quote := by
  refine ⟨_, m.toExchangePair_eq_ok_iff.2 ⟨base, quote, rfl, hbase.noDash, hquote.noDash, rfl⟩, ?_⟩
  unfold fromExchangePair
  rw [splitExchangePair_of_cutsBack hbase.code_nonempty hquote.code_nonempty hcut]
  simp only [bind, Except.bind, pure, Except.pure,
    hbase.fromExchangeAsset_toExchangeAsset hinverse,
    hquote.fromExchangeAsset_toExchangeAsset hinverse]

/-! ## The order of the known quote assets -/

/-- The mapper with other known quote assets. -/
def withQuotes (m : RuleBasedMapper) (known : List String) : RuleBasedMapper :=
  { m with knownQuoteAssets := known }

/-- Which quote assets are known decides; neither their order nor repetitions do. -/
theorem fromExchangePair_withQuotes {known : List String}
    (hsame : ∀ quote, quote ∈ known ↔ quote ∈ m.knownQuoteAssets) (exchPair : String) :
    (m.withQuotes known).fromExchangePair exchPair = m.fromExchangePair exchPair := by
  have hlongest := longestSuffix_congr injective_toList hsame exchPair.toList
  have hsplit : (m.withQuotes known).splitExchangePair exchPair = m.splitExchangePair exchPair := by
    unfold splitExchangePair withQuotes
    rw [hlongest]
    rfl
  unfold fromExchangePair
  rw [hsplit]
  rfl

/-! ## Pairs that come back -/

/-- Canonical pairs come back when their exchange pair is cut where it was joined, and what an
exchange pair means does not depend on the order of the known quote assets. -/
theorem canonicalPair_roundTrip (m : RuleBasedMapper) :
    (m.MutuallyInverse → ∀ base quote, m.Canonical base → m.Canonical quote →
      m.CutsBack base quote → m.RoundTrips base quote) ∧
    ∀ known : List String, (∀ quote, quote ∈ known ↔ quote ∈ m.knownQuoteAssets) →
      ∀ exchPair, (m.withQuotes known).fromExchangePair exchPair = m.fromExchangePair exchPair :=
  ⟨fun hinverse _ _ => roundTrips_of_cutsBack hinverse, fun _ => fromExchangePair_withQuotes⟩

/-- Kraken codes for two assets. -/
def aliasedMapper (separator : Option String) : RuleBasedMapper where
  separator := separator
  knownQuoteAssets := ["USD", "ZUSD"]
  assetAliasesToHb := Dict.ofList [("XBT", "BTC"), ("ZUSD", "USD")]
  assetAliasesFromHb := Dict.ofList [("BTC", "XBT"), ("USD", "ZUSD")]
  fallbackLookup := none

theorem aliasedMapper_inverse (separator : Option String) :
    (aliasedMapper separator).MutuallyInverse := by
  have hunseparated : (aliasedMapper none).MutuallyInverse := by
    decide
  exact hunseparated

theorem canonicalPair_roundTrip_btcUsd :
    (aliasedMapper none).RoundTrips "BTC" "USD" ∧
      (aliasedMapper (some "/")).RoundTrips "BTC" "USD" ∧
      ((aliasedMapper none).withQuotes ["ZUSD", "USD"]).fromExchangePair "XBTZUSD" =
        (aliasedMapper none).fromExchangePair "XBTZUSD" := by
  refine ⟨?_, ?_, ?_⟩
  · refine (canonicalPair_roundTrip _).1 (aliasedMapper_inverse _) "BTC" "USD" ?_ ?_ ?_
    · exact ⟨by decide, by decide, by decide, by decide⟩
    · exact ⟨by decide, by decide, by decide, by decide⟩
    · have hquote : (aliasedMapper none).IsQuoteOf "ZUSD" "XBTZUSD" := by
        unfold IsQuoteOf
        decide
      exact hquote
  · refine (canonicalPair_roundTrip _).1 (aliasedMapper_inverse _) "BTC" "USD" ?_ ?_ ?_
    · exact ⟨by decide, by decide, by decide, by decide⟩
    · exact ⟨by decide, by decide, by decide, by decide⟩
    · exact ⟨'/', by decide, by decide, by decide⟩
  · exact (canonicalPair_roundTrip _).2 _ (by simp [aliasedMapper, or_comm]) _

end RuleBasedMapper

end Symbols
end MarketConnector
