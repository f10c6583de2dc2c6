import MarketConnector.Foundations.PyValue

/-!
# Kraken - REST envelopes and error codes

Every reply is an object with a list of error codes and a result.  An error code raises
the exception of its class; a result is validated by the model of its endpoint.

Main results:

- Definition `raiseOnKrakenError`: the exception of a list of error codes.
- Definition `readResult`: the result of an envelope, or the exception.
- Theorem `readResult_eq_ok`: a result comes from a valid envelope without error codes.
-/

namespace MarketConnector
namespace Kraken

open Foundations

/-! ## Error codes -/

/-- Exception classes of `ERROR_CODE_MAPPING`. -/
inductive KrakenErrorKind where
  | orderNotFound | rateLimit | openOrdersLimit | authentication | exchangePermission
  | serviceUnavailable
deriving DecidableEq

/-- What reading a reply raises: a mapped exception with its message, `KrakenAPIError`, or an
exception of the language or of validation. -/
inductive ReplyError where
  | kraken (kind : KrakenErrorKind) (message : String)
  | krakenApi (errorCodes : PyValue)
  | python (e : PyError)

/-- `ERROR_CODE_MAPPING`. -/
def errorCodeMapping : Dict String KrakenErrorKind :=
  Dict.ofList
    [("EOrder:Unknown order", .orderNotFound),
      ("EOrder:Rate limit exceeded", .rateLimit),
      ("EOrder:Insufficient funds", .orderNotFound),
      ("EOrder:Orders limit exceeded", .openOrdersLimit),
      ("EAPI:Invalid key", .authentication),
      ("EAPI:Invalid signature", .authentication),
      ("EAPI:Invalid nonce", .authentication),
      ("EAPI:Rate limit exceeded", .rateLimit),
      ("EGeneral:Permission denied", .exchangePermission),
      ("EService:Unavailable", .serviceUnavailable),
      ("EService:Market in cancel_only mode", .serviceUnavailable),
      ("EService:Busy", .serviceUnavailable)]

/-- Texts of values, and the numbers that texts denote. -/
structure Numerals where
  reprText : PyValue → String
  parseInt : String → Option Int
  parseFloat : String → Option Rat

/-- `raise_on_kraken_error`: the first code decides. -/
def raiseOnKrakenError (num : Numerals) (codes : PyValue) : Except ReplyError Unit :=
  if codes.truthy then do
    let first ← (codes.subscript 0).mapError .python
    if first.hashable then
      match first.asStr?.bind errorCodeMapping.get? with
      | some kind => do
          let n ← codes.length.mapError .python
          .error (.kraken kind ((if n = 1 then first else codes).toText num.reprText))
      | none => .error (.krakenApi codes)
    else .error (.python .typeError)
  else .ok ()

/-! ## Validation -/

/-- Validation of a list of texts. -/
def requireStrList : PyValue → Except PyError (List String)
  | .list xs => xs.mapM PyValue.requireStr
  | _ => .error .validationError

/-- Validation of a list of texts that is empty by default. -/
def strListField (kvs : List (String × PyValue)) (key : String) :
    Except PyError (List String) :=
  match PyValue.field? kvs key with
  | none => .ok []
  | some v => requireStrList v

/-- Validation of a field that may be missing or `None`. -/
def optionalField {T : Type} (validate : PyValue → Except PyError T)
    (kvs : List (String × PyValue)) (key : String) : Except PyError (Option T) :=
  match PyValue.field? kvs key with
  | none => .ok none
  | some .none => .ok none
  | some v => (validate v).map some

/-- Validation of a field without a default. -/
def requiredField {T : Type} (validate : PyValue → Except PyError T)
    (kvs : List (String × PyValue)) (key : String) : Except PyError T :=
  match PyValue.field? kvs key with
  | none => .error .validationError
  | some v => validate v

/-- Validation of a float field with the default 0. -/
def floatField (num : Numerals) (kvs : List (String × PyValue)) (key : String) :
    Except PyError Rat :=
  match PyValue.field? kvs key with
  | none => .ok 0
  | some (.float q) => .ok q
  | some (.int n) => .ok n
  | some (.bool b) => .ok (if b then 1 else 0)
  | some (.str s) =>
      match num.parseFloat s with
      | some q => .ok q
      | none => .error .validationError
  | some _ => .error .validationError

/-- `KrakenResponse[T].model_validate`: the error codes and the result. -/
def envelope {T : Type} (validate : PyValue → Except PyError T) :
    PyValue → Except PyError (List String × Option T)
  | .dict kvs => do
      let error ← strListField kvs "error"
      let result ← optionalField validate kvs "result"
      return (error, result)
  | _ => .error .validationError

/-- Validate an envelope, raise for its error codes and take its result. -/
def readResult {T : Type} (num : Numerals) (validate : PyValue → Except PyError T)
    (raw : Option PyValue) : Except ReplyError T := do
  let (error, result) ← (envelope validate (raw.getD .none)).mapError .python
  raiseOnKrakenError num (.list (error.map .str))
  match result with
  | some result => .ok result
  | none => .error (.python .attributeError)

/-! ## Results -/

structure AddOrderDescr where
  order : String
  close : Option String

/-- `AddOrderDescr.model_validate`. -/
def AddOrderDescr.modelValidate : PyValue → Except PyError AddOrderDescr
  | .dict kvs => do
      return {
        order := ← PyValue.strField kvs "order" ""
        close := ← optionalField PyValue.requireStr kvs "close" }
  | _ => .error .validationError

structure AddOrderResult where
  txid : List String
  descr : AddOrderDescr

/-- `AddOrderResult.model_validate`. -/
def AddOrderResult.modelValidate : PyValue → Except PyError AddOrderResult
  | .dict kvs => do
      return {
        txid := ← strListField kvs "txid"
        descr := ← requiredField AddOrderDescr.modelValidate kvs "descr" }
  | _ => .error .validationError

structure OrderDescription where
  pair : String
  type : String
  ordertype : String
  price : String
  price2 : String
  leverage : String
  order : String

/-- `OrderDescription.model_validate`. -/
def OrderDescription.modelValidate : PyValue → Except PyError OrderDescription
  | .dict kvs => do
      return {
        pair := ← PyValue.strField kvs "pair" ""
        type := ← PyValue.strField kvs "type" ""
        ordertype := ← PyValue.strField kvs "ordertype" ""
        price := ← PyValue.strField kvs "price" "0"
        price2 := ← PyValue.strField kvs "price2" "0"
        leverage := ← PyValue.strField kvs "leverage" "none"
        order := ← PyValue.strField kvs "order" "" }
  | _ => .error .validationError

structure OrderInfo where
  refid : Option String
  userref : Option Int
  status : String
  opentm : Rat
  starttm : Rat
  expiretm : Rat
  descr : OrderDescription
  vol : String
  volExec : String
  cost : String
  fee : String
  price : String
  misc : String

/-- `OrderInfo.model_validate`. -/
def OrderInfo.modelValidate (num : Numerals) : PyValue → Except PyError OrderInfo
  | .dict kvs => do
      return {
        refid := ← optionalField PyValue.requireStr kvs "refid"
        userref := ← optionalField (PyValue.requireInt num.parseInt) kvs "userref"
        status := ← PyValue.strField kvs "status" ""
        opentm := ← floatField num kvs "opentm"
        starttm := ← floatField num kvs "starttm"
        expiretm := ← floatField num kvs "expiretm"
        descr := ← requiredField OrderDescription.modelValidate kvs "descr"
        vol := ← PyValue.strField kvs "vol" "0"
        volExec := ← PyValue.strField kvs "vol_exec" "0"
        cost := ← PyValue.strField kvs "cost" "0"
        fee := ← PyValue.strField kvs "fee" "0"
        price := ← PyValue.strField kvs "price" "0"
        misc := ← PyValue.strField kvs "misc" "" }
  | _ => .error .validationError

/-- Validate the orders of an OpenOrders result, keyed by txid. -/
def readOrders (num : Numerals) (items : List (String × PyValue)) :
    Except PyError (Dict String OrderInfo) :=
  items.foldlM (fun orders item => (OrderInfo.modelValidate num item.2).map (orders.set item.1)) ∅

/-! ## What a reply that does not raise says -/

/-- Only an empty list of codes does not raise. -/
theorem raiseOnKrakenError_eq_ok (num : Numerals) (codes : PyValue) :
    raiseOnKrakenError num codes = .ok () ↔ codes.truthy = false := by
  unfold raiseOnKrakenError
  cases htruthy : codes.truthy with
  | false => simp
  | true =>
      simp only [if_true, Bool.true_eq_false, iff_false]
      intro h
      obtain ⟨first, -, hraised⟩ := bind_eq_ok.1 h
      split_ifs at hraised
      split at hraised
      · obtain ⟨n, -, hn⟩ := bind_eq_ok.1 hraised
        cases hn
      · cases hraised

/-- A result is read from a valid envelope without error codes. -/
theorem readResult_eq_ok {T : Type} {num : Numerals} {validate : PyValue → Except PyError T}
    {raw : Option PyValue} {result : T} (h : readResult num validate raw = .ok result) :
    envelope validate (raw.getD .none) = .ok ([], some result) := by
  unfold readResult at h
  obtain ⟨⟨error, result?⟩, hread, hrest⟩ := bind_eq_ok.1 h
  obtain ⟨_, hraise, hresult⟩ := bind_eq_ok.1 hrest
  have herror : error = [] := by
    simpa [PyValue.truthy] using (raiseOnKrakenError_eq_ok num _).1 hraise
  have hsome : result? = some result := by
    split at hresult
    · cases hresult
      rfl
    · cases hresult
  cases henvelope : envelope validate (raw.getD .none) with
  | error e =>
      rw [henvelope] at hread
      cases hread
  | ok read =>
      rw [henvelope] at hread
      cases hread
      rw [herror, hsome]

/-- A valid envelope without error codes is read as its result. -/
theorem readResult_of_envelope {T : Type} {num : Numerals} {validate : PyValue → Except PyError T}
    {raw : Option PyValue} {result : T}
    (h : envelope validate (raw.getD .none) = .ok ([], some result)) :
    readResult num validate raw = .ok result := by
  unfold readResult
  rw [h]
  rfl

end Kraken
end MarketConnector
