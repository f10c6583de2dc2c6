import MarketConnector.Symbols.Mapper

/-!
# Kraken - Symbol mapper

Pairs of native asset codes are joined without a separator.  Several codes stand for one
asset, one of them is preferred on the way back.

Main results:

- Definition `krakenSymbolMapper`: the mapper.
- Theorem `krakenSymbolMapper_roundTrip_iff`: which pairs come back.
-/

namespace MarketConnector
namespace Kraken

open Foundations Symbols

/-! ## Tables -/

def krakenAssetAliases : Dict String String :=
  Dict.ofList
    [("XBT", "BTC"), ("XDG", "DOGE"), ("XETC", "ETC"), ("XETH", "ETH"), ("XLTC", "LTC"),
      ("XMLN", "MLN"), ("XREP", "REP"), ("XXBT", "BTC"), ("XXDG", "DOGE"), ("XXLM", "XLM"),
      ("XXMR", "XMR"), ("XXRP", "XRP"), ("XZEC", "ZEC"), ("ZAUD", "AUD"), ("ZCAD", "CAD"),
      ("ZEUR", "EUR"), ("ZGBP", "GBP"), ("ZJPY", "JPY"), ("ZUSD", "USD")]

def preferredFromHb : Dict String String :=
  Dict.ofList
    [("BTC", "XBT"), ("DOGE", "XDG"), ("ETC", "XETC"), ("ETH", "XETH"), ("LTC", "XLTC"),
      ("MLN", "XMLN"), ("REP", "XREP"), ("XLM", "XXLM"), ("XMR", "XXMR"), ("XRP", "XXRP"),
      ("ZEC", "XZEC"), ("AUD", "ZAUD"), ("CAD", "ZCAD"), ("EUR", "ZEUR"), ("GBP", "ZGBP"),
      ("JPY", "ZJPY"), ("USD", "ZUSD")]

def knownQuoteAssets : List String :=
  ["ZUSD", "ZEUR", "ZGBP", "ZCAD", "ZJPY", "ZAUD", "XXBT", "XETH", "USD", "EUR", "GBP", "CAD",
    "JPY", "AUD", "BTC", "ETH"]

/-- `KRAKEN_SYMBOL_MAPPER` -/
def krakenSymbolMapper : RuleBasedMapper where
  separator := none
  knownQuoteAssets := knownQuoteAssets
  assetAliasesToHb := krakenAssetAliases
  assetAliasesFromHb := preferredFromHb
  fallbackLookup := none

/-! ## What the tables have in common -/

theorem krakenAssetAliases_plain : ∀ e ∈ krakenAssetAliases.entries,
    '-' ∉ e.1.toList ∧ '-' ∉ e.2.toList ∧ e.2 ≠ "" ∧ e.2.toList.getLast? ≠ some 'X' ∧
      (preferredFromHb.get? e.2).isSome := by
  decide +kernel

theorem preferredFromHb_inverse : ∀ e ∈ preferredFromHb.entries,
    krakenAssetAliases.get? e.2 = some e.1 ∧ e.2 ≠ "" ∧ e.2.toList.getLast? ≠ some 'X' := by
  decide +kernel

theorem knownQuoteAssets_plain : ∀ quote ∈ knownQuoteAssets,
    '-' ∉ quote.toList ∧ quote.toList.length ≤ 4 ∧
      (quote.toList.getLast? = some 'T' → quote = "XXBT") ∧
      ("XXBT".toList <:+ quote.toList → quote = "XXBT") ∧
      ("BTC".toList <:+ quote.toList → quote = "BTC") := by
  decide +kernel

/-- Quotes other than bitcoin have a preferred code that is itself a known quote. -/
theorem knownQuoteAssets_back : ∀ quote ∈ knownQuoteAssets,
    let hbQuote := krakenSymbolMapper.fromExchangeAsset quote
    let code := krakenSymbolMapper.toExchangeAsset hbQuote
    '-' ∉ hbQuote.toList ∧ (quote = "XXBT" ∨ quote = "BTC" ∨
      code ∈ knownQuoteAssets ∧ code.toList.length = 4 ∧
        krakenSymbolMapper.fromExchangeAsset code = hbQuote) := by
  decide +kernel

/-! ## Assets -/

/-- An asset is a value of the table, or a code the table does not have. -/
theorem fromExchangeAsset_cases (code : String) :
    (∃ e ∈ krakenAssetAliases.entries, e.1 = code ∧
      krakenSymbolMapper.fromExchangeAsset code = e.2) ∨
    (krakenAssetAliases.get? code = none ∧ krakenSymbolMapper.fromExchangeAsset code = code) := by
  unfold RuleBasedMapper.fromExchangeAsset krakenSymbolMapper
  cases h : krakenAssetAliases.get? code with
  | none => exact Or.inr ⟨rfl, rfl⟩
  | some asset => exact Or.inl ⟨(code, asset), (Dict.mem_entries_iff _).2 h, rfl, rfl⟩

/-- An asset is a key of the table, or its own code. -/
theorem toExchangeAsset_cases (asset : String) :
    (∃ e ∈ preferredFromHb.entries, e.1 = asset ∧
      krakenSymbolMapper.toExchangeAsset asset = e.2) ∨
    (preferredFromHb.get? asset = none ∧ krakenSymbolMapper.toExchangeAsset asset = asset) := by
  unfold RuleBasedMapper.toExchangeAsset krakenSymbolMapper
  cases h : preferredFromHb.get? asset with
  | none => exact Or.inr ⟨rfl, rfl⟩
  | some code => exact Or.inl ⟨(asset, code), (Dict.mem_entries_iff _).2 h, rfl, rfl⟩

theorem dash_mem_fromExchangeAsset_iff (code : String) :
    '-' ∈ (krakenSymbolMapper.fromExchangeAsset code).toList ↔ '-' ∈ code.toList := by
  rcases fromExchangeAsset_cases code with ⟨e, hmem, rfl, hasset⟩ | ⟨-, hasset⟩
  · obtain ⟨hkey, hvalue, -⟩ := krakenAssetAliases_plain e hmem
    rw [hasset]
    exact iff_of_false hvalue hkey
  · rw [hasset]

/-- The preferred code of a code's asset stands for the same asset. -/
theorem fromExchangeAsset_toExchangeAsset (code : String) :
    krakenSymbolMapper.fromExchangeAsset
        (krakenSymbolMapper.toExchangeAsset (krakenSymbolMapper.fromExchangeAsset code)) =
      krakenSymbolMapper.fromExchangeAsset code := by
  rcases toExchangeAsset_cases (krakenSymbolMapper.fromExchangeAsset code) with
    ⟨e, hmem, hasset, hcode⟩ | ⟨hnone, hcode⟩
  · rw [hcode, ← hasset]
    have hback := (preferredFromHb_inverse e hmem).1
    simp [RuleBasedMapper.fromExchangeAsset, krakenSymbolMapper, hback]
  · rw [hcode]
    rcases fromExchangeAsset_cases code with ⟨e, hmem, -, hasset⟩ | ⟨-, hasset⟩
    · have hback := (krakenAssetAliases_plain e hmem).2.2.2.2
      rw [← hasset, hnone] at hback
      simp at hback
    · rw [hasset, hasset]

theorem fromExchangeAsset_ne_empty {code : String} (h : code ≠ "") :
    krakenSymbolMapper.fromExchangeAsset code ≠ "" := by
  rcases fromExchangeAsset_cases code with ⟨e, hmem, -, hasset⟩ | ⟨-, hasset⟩
  · rw [hasset]
    exact (krakenAssetAliases_plain e hmem).2.2.1
  · rwa [hasset]

theorem toExchangeAsset_ne_empty {asset : String} (h : asset ≠ "") :
    krakenSymbolMapper.toExchangeAsset asset ≠ "" := by
  rcases toExchangeAsset_cases asset with ⟨e, hmem, -, hcode⟩ | ⟨-, hcode⟩
  · rw [hcode]
    exact (preferredFromHb_inverse e hmem).2.1
  · rwa [hcode]

/-- No code with one more `X` is the code of the same asset. -/
theorem toExchangeAsset_ne_append (code : String) :
    krakenSymbolMapper.toExchangeAsset (krakenSymbolMapper.fromExchangeAsset code) ≠
      code ++ "X" := by
  intro h
  have hlast : (code ++ "X").toList.getLast? = some 'X' := by simp
  rcases toExchangeAsset_cases (krakenSymbolMapper.fromExchangeAsset code) with
    ⟨e, hmem, -, hcode⟩ | ⟨-, hcode⟩
  · rw [← h, hcode] at hlast
    exact (preferredFromHb_inverse e hmem).2.2 hlast
  · rw [hcode] at h
    rcases fromExchangeAsset_cases code with ⟨e, hmem, -, hasset⟩ | ⟨-, hasset⟩
    · rw [← h, hasset] at hlast
      exact (krakenAssetAliases_plain e hmem).2.2.2.1 hlast
    · rw [hasset] at h
      have hlength := congrArg (List.length ∘ String.toList) h
      simp at hlength

/-! ## Pairs -/

theorem fromExchangePair_krakenSymbolMapper_iff {exchPair hbPair : String} :
    krakenSymbolMapper.fromExchangePair exchPair = .ok hbPair ↔
      ∃ base quote, exchPair = base ++ quote ∧ base ≠ "" ∧ quote ≠ "" ∧
        krakenSymbolMapper.IsQuoteOf quote exchPair ∧
        hbPair = krakenSymbolMapper.fromExchangeAsset base ++ "-" ++
          krakenSymbolMapper.fromExchangeAsset quote :=
  krakenSymbolMapper.fromExchangePair_eq_ok_iff rfl rfl

theorem toExchangePair_join {base quote : String} (hbase : '-' ∉ base.toList)
    (hquote : '-' ∉ quote.toList) :
    krakenSymbolMapper.toExchangePair (base ++ "-" ++ quote) =
      .ok (krakenSymbolMapper.toExchangeAsset base ++
        krakenSymbolMapper.toExchangeAsset quote) := by
  rw [RuleBasedMapper.toExchangePair_eq_ok_iff]
  refine ⟨base, quote, rfl, hbase, hquote, ?_⟩
  rw [show krakenSymbolMapper.separator.getD "" = "" from rfl, String.append_empty]

/-- A dash in the base makes one too many. -/
theorem toExchangePair_join_error {base quote : String} (hbase : '-' ∈ base.toList)
    {exchPair : String} :
    krakenSymbolMapper.toExchangePair (base ++ "-" ++ quote) ≠ .ok exchPair := by
  rw [Ne, RuleBasedMapper.toExchangePair_eq_ok_iff]
  rintro ⟨first, second, hpair, hfirst, hsecond, -⟩
  have hcount := congrArg (fun text : String => text.toList.count '-') hpair
  have hpos : 0 < base.toList.count '-' := List.count_pos_iff.2 hbase
  simp [List.count_eq_zero_of_not_mem hfirst, List.count_eq_zero_of_not_mem hsecond] at hcount
  omega

/-- No known quote hides one of four letters. -/
theorem isQuoteOf_of_length {base code : String} (hknown : code ∈ knownQuoteAssets)
    (hlength : code.toList.length = 4) : krakenSymbolMapper.IsQuoteOf code (base ++ code) := by
  refine ⟨hknown, fun other hother _ => ?_⟩
  rw [hlength]
  exact (knownQuoteAssets_plain other hother).2.1

/-- `XXBT` and `BTC` are quotes whenever a pair ends in them. -/
theorem eq_bitcoin_of_suffix {exchPair quote : String}
    (hquote : krakenSymbolMapper.IsQuoteOf quote exchPair)
    (hsuffix : quote.toList <:+ exchPair.toList) :
    ("XXBT".toList <:+ exchPair.toList ↔ quote = "XXBT") ∧
      ("BTC".toList <:+ exchPair.toList ↔ quote = "BTC") := by
  obtain ⟨hknown, hlongest⟩ := hquote
  obtain ⟨-, -, -, hxxbt, hbtc⟩ := knownQuoteAssets_plain quote hknown
  constructor
  · refine ⟨fun h => hxxbt ?_, fun h => h ▸ hsuffix⟩
    exact List.suffix_of_suffix_length_le h hsuffix (hlongest "XXBT" (by decide) h)
  · refine ⟨fun h => hbtc ?_, fun h => h ▸ hsuffix⟩
    exact List.suffix_of_suffix_length_le h hsuffix (hlongest "BTC" (by decide) h)

/-- A pair with the preferred code of bitcoin at its end is no pair of bitcoin. -/
theorem fromExchangePair_bitcoin_ne (code : String) :
    krakenSymbolMapper.fromExchangePair
        (krakenSymbolMapper.toExchangeAsset (krakenSymbolMapper.fromExchangeAsset code) ++ "XBT") ≠
      .ok (krakenSymbolMapper.fromExchangeAsset code ++ "-" ++ "BTC") := by
  rw [Ne, fromExchangePair_krakenSymbolMapper_iff]
  rintro ⟨base, quote, hpair, -, hne, ⟨hknown, -⟩, hhb⟩
  have hlast : quote.toList.getLast? = some 'T' := by
    have hnil : quote.toList ≠ [] := by simpa using hne
    rw [← List.getLast?_append_of_ne_nil base.toList hnil, ← String.toList_append, ← hpair]
    simp
  obtain rfl : quote = "XXBT" := (knownQuoteAssets_plain quote hknown).2.2.1 hlast
  have hbtc : krakenSymbolMapper.fromExchangeAsset "XXBT" = "BTC" := by decide +kernel
  have hasset : krakenSymbolMapper.fromExchangeAsset code =
      krakenSymbolMapper.fromExchangeAsset base := by
    rw [hbtc] at hhb
    simpa using hhb
  have hfront : krakenSymbolMapper.toExchangeAsset (krakenSymbolMapper.fromExchangeAsset code) =
      base ++ "X" := by
    have hsplit : base ++ "XXBT" = base ++ "X" ++ "XBT" := by
      rw [String.append_assoc]
      rfl
    rw [hsplit] at hpair
    simpa using hpair
  rw [hasset] at hfront
  exact toExchangeAsset_ne_append base hfront

/-- A pair in another quote comes back, if its base has no dash. -/
theorem fromExchangePair_toExchangePair {base quote : String} (hbase : base ≠ "")
    (hdash : '-' ∉ base.toList) (hknown : quote ∈ knownQuoteAssets) (hxxbt : quote ≠ "XXBT")
    (hbtc : quote ≠ "BTC") :
    (krakenSymbolMapper.toExchangePair (krakenSymbolMapper.fromExchangeAsset base ++ "-" ++
        krakenSymbolMapper.fromExchangeAsset quote) >>= krakenSymbolMapper.fromExchangePair) =
      .ok (krakenSymbolMapper.fromExchangeAsset base ++ "-" ++
        krakenSymbolMapper.fromExchangeAsset quote) := by
  obtain ⟨hhbQuote, hback⟩ := knownQuoteAssets_back quote hknown
  obtain ⟨hcode, hlength, hasset⟩ := (hback.resolve_left hxxbt).resolve_left hbtc
  have hhbBase : '-' ∉ (krakenSymbolMapper.fromExchangeAsset base).toList :=
    fun h => hdash ((dash_mem_fromExchangeAsset_iff base).1 h)
  rw [toExchangePair_join hhbBase hhbQuote]
  refine fromExchangePair_krakenSymbolMapper_iff.2 ⟨_, _, rfl,
    toExchangeAsset_ne_empty (fromExchangeAsset_ne_empty hbase), ?_,
    isQuoteOf_of_length hcode hlength, ?_⟩
  · intro hempty
    rw [hempty] at hlength
    simp at hlength
  · rw [fromExchangeAsset_toExchangeAsset, hasset]

/-- A pair in bitcoin does not come back. -/
theorem fromExchangePair_toExchangePair_bitcoin {base quote : String}
    (hdash : '-' ∉ base.toList) (hquote : quote = "XXBT" ∨ quote = "BTC") :
    (krakenSymbolMapper.toExchangePair (krakenSymbolMapper.fromExchangeAsset base ++ "-" ++
        krakenSymbolMapper.fromExchangeAsset quote) >>= krakenSymbolMapper.fromExchangePair) ≠
      .ok (krakenSymbolMapper.fromExchangeAsset base ++ "-" ++
        krakenSymbolMapper.fromExchangeAsset quote) := by
  have hbtc : krakenSymbolMapper.fromExchangeAsset quote = "BTC" := by
    rcases hquote with rfl | rfl <;> decide +kernel
  have hxbt : krakenSymbolMapper.toExchangeAsset "BTC" = "XBT" := by decide +kernel
  have hhbBase : '-' ∉ (krakenSymbolMapper.fromExchangeAsset base).toList :=
    fun h => hdash ((dash_mem_fromExchangeAsset_iff base).1 h)
  rw [hbtc, toExchangePair_join hhbBase (by decide), hxbt]
  exact fromExchangePair_bitcoin_ne base

/-- Pairs come back that have no dash and do not end in a code of bitcoin. -/
theorem krakenSymbolMapper_roundTrip_iff {exchPair hbPair : String}
    (h : krakenSymbolMapper.fromExchangePair exchPair = .ok hbPair) :
    (krakenSymbolMapper.toExchangePair hbPair >>= krakenSymbolMapper.fromExchangePair) =
        .ok hbPair ↔
      '-' ∉ exchPair.toList ∧ ¬ "XXBT".toList <:+ exchPair.toList ∧
        ¬ "BTC".toList <:+ exchPair.toList := by
  obtain ⟨base, quote, rfl, hbase, -, hquote, rfl⟩ := fromExchangePair_krakenSymbolMapper_iff.1 h
  obtain ⟨hxxbt, hbtc⟩ := eq_bitcoin_of_suffix hquote (by simp)
  have hplain : '-' ∉ quote.toList := (knownQuoteAssets_plain quote hquote.1).1
  rw [hxxbt, hbtc, String.toList_append, List.mem_append, not_or]
  constructor
  · intro hback
    have hdash : '-' ∉ base.toList := by
      intro hmem
      obtain ⟨code, hcode, -⟩ := bind_eq_ok.1 hback
      exact toExchangePair_join_error ((dash_mem_fromExchangeAsset_iff base).2 hmem) hcode
    refine ⟨⟨hdash, hplain⟩, ?_, ?_⟩
    · intro heq
      exact fromExchangePair_toExchangePair_bitcoin hdash (Or.inl heq) hback
    · intro heq
      exact fromExchangePair_toExchangePair_bitcoin hdash (Or.inr heq) hback
  · rintro ⟨⟨hdash, -⟩, hne, hne'⟩
    exact fromExchangePair_toExchangePair hbase hdash hquote.1 hne hne'

theorem krakenSymbolMapper_roundTrip_dollar :
    krakenSymbolMapper.fromExchangePair "XXBTZUSD" = .ok "BTC-USD" ∧
      (krakenSymbolMapper.toExchangePair "BTC-USD" >>= krakenSymbolMapper.fromExchangePair) =
        .ok "BTC-USD" :=
  have h : krakenSymbolMapper.fromExchangePair "XXBTZUSD" = .ok "BTC-USD" := by decide +kernel
  ⟨h, (krakenSymbolMapper_roundTrip_iff h).2 (by decide +kernel)⟩

/-- Ether in bitcoin becomes a pair without a known quote. -/
theorem krakenSymbolMapper_bitcoin :
    ¬ ∀ exchPair hbPair, krakenSymbolMapper.fromExchangePair exchPair = .ok hbPair →
      (krakenSymbolMapper.toExchangePair hbPair >>= krakenSymbolMapper.fromExchangePair) =
        .ok hbPair := by
  intro h
  have hpair : krakenSymbolMapper.fromExchangePair "XETHXXBT" = .ok "ETH-BTC" := by
    decide +kernel
  have hlost : (krakenSymbolMapper.toExchangePair "ETH-BTC" >>=
      krakenSymbolMapper.fromExchangePair) = .error (.unknownPair "XETHXBT") := by
    decide +kernel
  rw [h _ _ hpair] at hlost
  cases hlost

end Kraken
end MarketConnector
