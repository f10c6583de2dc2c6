import MarketConnector.Foundations.PlainNotation
import MarketConnector.Ib.Orders
import MarketConnector.Kraken.Orders

/-!
# Wire - Amounts and prices of orders

The connectors put the amounts and the prices of orders on the wire as texts: Kraken and
Coinbase as `str(d)`, which has an exponent for some decimals, IB in positional notation.

Main results:

- Definition `WireOrder.fields`: the numbers of a request with their texts on the wire.
- Theorem `plainEncoding_iff`: the requests whose texts are plain and exact.
- Theorem `small_amount_has_exponent`: an amended amount of `1E-7`.
-/

namespace MarketConnector

open Foundations

/-! ## Kraken -/

namespace Kraken

/-- Add a field unless it is unset. -/
def withDecimal (body : Dict String PyValue) (field : String) (d : Option Decimal) :
    Dict String PyValue :=
  match d with
  | none => body
  | some d => body.set field (.str d.toText)

/-- The body of an AmendOrder request. -/
def amendOrderBody (txid : String) (amount price : Option Decimal) : Dict String PyValue :=
  withDecimal (withDecimal (.ofList [("txid", .str txid)]) "order_qty" amount) "limit_price" price

/-- The body of an EditOrder request. -/
def editOrderBody (tradingPair txid : String) (amount price : Option Decimal) :
    Dict String PyValue :=
  withDecimal (withDecimal (.ofList [("txid", .str txid), ("pair", .str tradingPair)])
    "volume" amount) "price" price

end Kraken

/-! ## Coinbase -/

namespace Coinbase

/-- `str(price)`. -/
def priceText : Option Decimal → String
  | none => "None"
  | some price => price.toText

/-- `_build_order_config`: the text of the `ValueError` it raises, or the configuration. -/
def buildOrderConfig (orderType : Ib.OrderType) (amount : Decimal) (price : Option Decimal) :
    Except String (Dict String (Dict String PyValue)) :=
  match orderType with
  | .limit =>
      .ok (.ofList [("limit_limit_gtc", .ofList
        [("base_size", .str amount.toText), ("limit_price", .str (priceText price)),
          ("post_only", .bool false)])])
  | .limitMaker =>
      .ok (.ofList [("limit_limit_gtc", .ofList
        [("base_size", .str amount.toText), ("limit_price", .str (priceText price)),
          ("post_only", .bool true)])])
  | .market => .ok (.ofList [("market_market_ioc", .ofList [("base_size", .str amount.toText)])])
  | _ => .error ("Unsupported order type: " ++ orderType.text)

end Coinbase

/-! ## IB -/

namespace Ib

/-- `str` of a `_WireDecimal`. -/
def wireText (d : Decimal) : String :=
  d.positional

end Ib

namespace Wire

/-! ## Texts on the wire -/

/-- The text at a key of a body. -/
def textAt (body : Dict String PyValue) (key : String) : Option String :=
  match body.get? key with
  | some (.str text) => some text
  | _ => none

/-- A number that is sent, unless it is unset. -/
def fieldOf (d : Option Decimal) (text : Option String) : List (Decimal × Option String) :=
  d.toList.map fun d => (d, text)

inductive WireOrder where
  | krakenPlace (args : Kraken.PlaceArgs) (ordertype : String)
  | krakenAmend (txid : String) (amount price : Option Decimal)
  | krakenEdit (tradingPair txid : String) (amount price : Option Decimal)
  | coinbasePlace (orderType : Ib.OrderType) (amount : Decimal) (price : Option Decimal)
  | ibPlace (order : Ib.HBOrder)

/-- The numbers of a request that are sent, with the texts of their fields. -/
def WireOrder.fields : WireOrder → List (Decimal × Option String)
  | .krakenPlace args ordertype =>
      let body := Kraken.addOrderBody args ordertype
      fieldOf (some args.amount) (textAt body "volume") ++ fieldOf args.price (textAt body "price")
  | .krakenAmend txid amount price =>
      let body := Kraken.amendOrderBody txid amount price
      fieldOf amount (textAt body "order_qty") ++ fieldOf price (textAt body "limit_price")
  | .krakenEdit tradingPair txid amount price =>
      let body := Kraken.editOrderBody tradingPair txid amount price
      fieldOf amount (textAt body "volume") ++ fieldOf price (textAt body "price")
  | .coinbasePlace orderType amount price =>
      match Coinbase.buildOrderConfig orderType amount price with
      | .error _ => []
      | .ok config =>
          match config.get? "limit_limit_gtc", config.get? "market_market_ioc" with
          | some limit, _ =>
              fieldOf (some amount) (textAt limit "base_size") ++
                fieldOf price (textAt limit "limit_price")
          | _, some market => fieldOf (some amount) (textAt market "base_size")
          | none, none => []
  | .ibPlace order =>
      match Ib.hbToIbOrder order with
      | .error _ => []
      | .ok ib =>
          fieldOf (some order.amount) (some (Ib.wireText ib.totalQuantity)) ++
            (if ib.lmtPrice.isSome then fieldOf order.price (ib.lmtPrice.map Ib.wireText)
              else []) ++
            (if ib.auxPrice.isSome then fieldOf order.stopPrice (ib.auxPrice.map Ib.wireText)
              else [])

/-- Every number that is sent has a text in plain notation that denotes it. -/
def PlainEncoding (o : WireOrder) : Prop :=
  ∀ field ∈ o.fields, ∃ text, field.2 = some text ∧ plainValue? text = some field.1.value

/-- Orders that go to IB. -/
def WireOrder.ToIb : WireOrder → Prop
  | .ibPlace _ => True
  | _ => False

/-! ## The text of a number -/

theorem textAt_set_self (body : Dict String PyValue) (key text : String) :
    textAt (body.set key (.str text)) key = some text := by
  simp [textAt]

theorem textAt_set_of_ne (body : Dict String PyValue) {key key' : String} (h : key' ≠ key)
    (v : PyValue) : textAt (body.set key v) key' = textAt body key' := by
  simp only [textAt, Dict.get?_set_of_ne _ h]

theorem textAt_withDecimal_of_ne (body : Dict String PyValue) {field key : String}
    (h : key ≠ field) (d : Option Decimal) :
    textAt (Kraken.withDecimal body field d) key = textAt body key := by
  cases d with
  | none => rfl
  | some d => exact textAt_set_of_ne body h _

theorem forall_fieldOf {P : Decimal × Option String → Prop} {d : Option Decimal}
    {text : Option String} (h : ∀ d', d = some d' → P (d', text)) :
    ∀ field ∈ fieldOf d text, P field := by
  intro field hfield
  obtain ⟨d', hd', rfl⟩ := List.mem_map.1 hfield
  exact h d' (Option.mem_toList.1 hd')

/-- The field of a number that is set last is its text. -/
theorem textAt_withDecimal_self (body : Dict String PyValue) (field : String) {d : Option Decimal}
    {d' : Decimal} (h : d = some d') :
    textAt (Kraken.withDecimal body field d) field = some d'.toText := by
  subst h
  exact textAt_set_self body field _

theorem textAt_addOrderBody (args : Kraken.PlaceArgs) (ordertype : String) :
    textAt (Kraken.addOrderBody args ordertype) "volume" = some args.amount.toText ∧
      ∀ price, args.price = some price →
        textAt (Kraken.addOrderBody args ordertype) "price" = some price.toText := by
  obtain ⟨tradingPair, orderType, side, amount, price⟩ := args
  have hne : "volume" ≠ "price" := by decide
  cases price with
  | none => exact ⟨rfl, fun price h => by cases h⟩
  | some price =>
      refine ⟨(textAt_set_of_ne _ hne _).trans rfl, fun price' h => ?_⟩
      cases h
      exact textAt_set_self _ "price" _

/-- Requests to Kraken and Coinbase have the numbers as `str(d)`. -/
theorem fields_toText {o : WireOrder} (ho : ¬ o.ToIb) :
    ∀ field ∈ o.fields, field.2 = some field.1.toText := by
  cases o with
  | krakenPlace args ordertype =>
      refine List.forall_mem_append.2 ⟨forall_fieldOf fun d hd => ?_, forall_fieldOf fun d hd => ?_⟩
      · cases hd
        exact (textAt_addOrderBody args ordertype).1
      · exact (textAt_addOrderBody args ordertype).2 d hd
  | krakenAmend txid amount price =>
      refine List.forall_mem_append.2 ⟨forall_fieldOf fun d hd => ?_, forall_fieldOf fun d hd => ?_⟩
      · exact (textAt_withDecimal_of_ne _ (by decide) _).trans (textAt_withDecimal_self _ _ hd)
      · exact textAt_withDecimal_self _ _ hd
  | krakenEdit tradingPair txid amount price =>
      refine List.forall_mem_append.2 ⟨forall_fieldOf fun d hd => ?_, forall_fieldOf fun d hd => ?_⟩
      · exact (textAt_withDecimal_of_ne _ (by decide) _).trans (textAt_withDecimal_self _ _ hd)
      · exact textAt_withDecimal_self _ _ hd
  | coinbasePlace orderType amount price =>
      have hlimit : ∀ field ∈ fieldOf (some amount) (some amount.toText) ++
          fieldOf price (some (Coinbase.priceText price)), field.2 = some field.1.toText := by
        refine List.forall_mem_append.2 ⟨forall_fieldOf fun d hd => ?_,
          forall_fieldOf fun d hd => ?_⟩
        · cases hd
          rfl
        · rw [hd]
          rfl
      cases orderType with
      | limit => exact hlimit
      | limitMaker => exact hlimit
      | market =>
          refine forall_fieldOf fun d hd => ?_
          cases hd
          rfl
      | stopLoss => exact fun field h => by cases h
      | stopLossLimit => exact fun field h => by cases h
  | ibPlace order => exact absurd trivial ho

/-- Requests to IB have them in positional notation. -/
theorem fields_positional {o : WireOrder} (ho : o.ToIb) :
    ∀ field ∈ o.fields, field.2 = some field.1.positional := by
  cases o with
  | ibPlace order =>
      simp only [WireOrder.fields]
      cases hib : Ib.hbToIbOrder order with
      | error e => exact fun field h => by cases h
      | ok ib =>
          obtain ⟨hamount, hprice, hstop⟩ := Ib.hbToIbOrder_exact hib
          refine List.forall_mem_append.2 ⟨List.forall_mem_append.2
            ⟨forall_fieldOf fun d hd => ?_, ?_⟩, ?_⟩
          · cases hd
            rw [hamount]
            rfl
          · rcases hprice with hnone | hsame
            · simp [hnone]
            · split_ifs
              · refine forall_fieldOf fun d hd => ?_
                rw [hsame, hd]
                rfl
              · simp
          · rcases hstop with hnone | hsame
            · simp [hnone]
            · split_ifs
              · refine forall_fieldOf fun d hd => ?_
                rw [hsame, hd]
                rfl
              · simp
  | _ => exact absurd ho id

/-! ## Plain requests -/

/-- The texts of a request are plain and exact exactly when it goes to IB, or `str(d)` writes
every number it sends without an exponent. -/
theorem plainEncoding_iff (o : WireOrder) :
    PlainEncoding o ↔ o.ToIb ∨ ∀ field ∈ o.fields, field.1.HasPlainText := by
  by_cases ho : o.ToIb
  · refine ⟨fun _ => Or.inl ho, fun _ field hfield => ?_⟩
    exact ⟨_, fields_positional ho field hfield, Decimal.plainValue?_positional _⟩
  · constructor
    · refine fun hplain => Or.inr fun field hfield => ?_
      obtain ⟨text, htext, hvalue⟩ := hplain field hfield
      rw [fields_toText ho field hfield] at htext
      cases htext
      exact (Decimal.plainValue?_toText_iff _).1 hvalue
    · rintro (hib | hplain) field hfield
      · exact absurd hib ho
      · exact ⟨_, fields_toText ho field hfield,
          (Decimal.plainValue?_toText_iff _).2 (hplain field hfield)⟩

/-- An order is amended to the amount `0.0000001`, which goes out as `1E-7`. -/
theorem small_amount_has_exponent :
    ¬ ∀ o : WireOrder, PlainEncoding o := by
  intro h
  obtain ⟨text, htext, hvalue⟩ := h (.krakenAmend "OABC" (some ⟨false, 1, -7⟩) none)
    (⟨false, 1, -7⟩, some "1E-7") (by decide)
  cases htext
  have hnone : plainValue? "1E-7" = none := by decide
  rw [hnone] at hvalue
  cases hvalue

end Wire
end MarketConnector
