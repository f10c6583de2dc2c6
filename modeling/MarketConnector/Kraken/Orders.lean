import MarketConnector.Foundations.Decimal
import MarketConnector.Kraken.RestReplies
import MarketConnector.Transport.RestBase

/-!
# Kraken - Placing an order

One `place_order` call on the gateway's REST client: the checks, the room under the
open-order cap with its resync, the keyed rate limit, the request with its retries, and
what the reply does to the placement times and the open-order counts.

Main results:

- Definition `placeOrder`: the call.
- Theorem `placeOrder_addOrders`: the AddOrder requests it makes, one per attempt.
-/

namespace MarketConnector
namespace Kraken

open Foundations Transport

variable {L Charge : Type}

/-! ## Arguments -/

inductive OrderType where
  | limit | market | limitMaker | stopLoss | stopLossLimit
deriving DecidableEq

def OrderType.name : OrderType → String
  | .limit => "LIMIT"
  | .market => "MARKET"
  | .limitMaker => "LIMIT_MAKER"
  | .stopLoss => "STOP_LOSS"
  | .stopLossLimit => "STOP_LOSS_LIMIT"

inductive TradeType where
  | buy | sell
deriving DecidableEq

def TradeType.name : TradeType → String
  | .buy => "BUY"
  | .sell => "SELL"

/-- An enumeration member or a text. -/
inductive EnumOr (E : Type) where
  | member (e : E)
  | text (s : String)

inductive KrakenAPITier where
  | starter | intermediate | pro
deriving DecidableEq

/-- Exceptions that leave an order call. -/
inductive OrderCallError where
  | notStarted (message : String)
  | unsupportedOrderType (orderType : EnumOr OrderType)
  | priceRequired (message : String)
  | openOrdersLimit (message : String)
  | noTemplatePool (pool limitId : String)
  | request (e : RequestError)
  | reply (e : ReplyError)

/-- `_ORDER_TYPE_MAP`. -/
def orderTypeMap : Dict String String :=
  Dict.ofList [("MARKET", "market"), ("LIMIT", "limit")]

/-- `text.upper()` as a key of `orderTypeMap`: besides the ASCII letters only the dotless `ı` has
an upper case that a key contains, and what the others become is in no key either way. -/
def upperKey (text : String) : String :=
  text.map fun c => if c = 'ı' then 'I' else c.toUpper

/-- `_to_kraken_ordertype`. -/
def toKrakenOrdertype (orderType : EnumOr OrderType) : Except OrderCallError String :=
  let key := match orderType with
    | .member e => e.name
    | .text s => upperKey s
  match orderTypeMap.get? key with
  | some ordertype => .ok ordertype
  | none => .error (.unsupportedOrderType orderType)

/-- `_to_kraken_side`, for sides in ASCII: a letter outside it stays as it is, and Kraken knows no
side with one. -/
def toKrakenSide : EnumOr TradeType → String
  | .member e => e.name.toLower
  | .text s => s.toLower

/-! ## Configuration -/

/-- `KRAKEN_MAX_OPEN_ORDERS_PER_PAIR`. -/
def maxOpenOrdersPerPair : KrakenAPITier → Int
  | .starter => 60
  | .intermediate => 80
  | .pro => 225

/-- `min(KRAKEN_MAX_OPEN_ORDERS_PER_PAIR.values())`. -/
def minOpenOrdersPerPair : Int :=
  min (maxOpenOrdersPerPair .starter)
    (min (maxOpenOrdersPerPair .intermediate) (maxOpenOrdersPerPair .pro))

/-- The POST endpoints of `ENDPOINT_REGISTRY` that order calls use. -/
def endpointRegistry : Dict String Endpoint :=
  Dict.ofList
    [("open_orders", { path := "/0/private/OpenOrders", method := "POST" }),
      ("add_order", { path := "/0/private/AddOrder", method := "POST" }),
      ("cancel_order", { path := "/0/private/CancelOrder", method := "POST" }),
      ("amend_order", { path := "/0/private/AmendOrder", method := "POST" }),
      ("edit_order", { path := "/0/private/EditOrder", method := "POST" }),
      ("add_order_batch", { path := "/0/private/AddOrderBatch", method := "POST" }),
      ("cancel_order_batch", { path := "/0/private/CancelOrderBatch", method := "POST" })]

/-- The gateway's REST client. -/
def krakenTransport (baseUrl : String) (signer : Option Signer) : Client where
  baseUrl := baseUrl
  endpoints := endpointRegistry
  signer := signer
  maxRetries := 3
  retryDelay := 1

/-- A limit of the limiter with the pools linked to it. -/
structure RateLimit where
  limitId : String
  limit : Int
  timeInterval : Rat
  linkedLimits : List (String × Int)
  kind : String

/-- The limiter operations of `ensure_keyed_limit` besides `has_limit`. -/
structure KeyedLimiter (L : Type) where
  getRawLimit : L → String → Option RateLimit
  addLimit : L → RateLimit → L

/-- Register the keyed pools of the charges; the largest template is the capacity. -/
def ensurePools (hasLimit : L → String → Bool) (keyed : KeyedLimiter L) (limitId key : String) :
    List (String × Int) → Int → L → L × Except OrderCallError Int
  | [], capacity, limiter => (limiter, .ok capacity)
  | (pool, _) :: charges, capacity, limiter =>
      match keyed.getRawLimit limiter pool with
      | none => (limiter, .error (.noTemplatePool pool limitId))
      | some template =>
          let keyedPool := pool ++ ":" ++ key
          let limiter :=
            if hasLimit limiter keyedPool then limiter
            else keyed.addLimit limiter
              ⟨keyedPool, template.limit, template.timeInterval, [], template.kind⟩
          ensurePools hasLimit keyed limitId key charges (max capacity template.limit) limiter

/-- `ensure_keyed_limit`. -/
def ensureKeyedLimit (hasLimit : L → String → Bool) (keyed : KeyedLimiter L) (limiter : L)
    (endpointName key : String) (charges : List (String × Int)) :
    L × Except OrderCallError String :=
  let limitId := endpointName ++ ":" ++ key
  if hasLimit limiter limitId then (limiter, .ok limitId)
  else match ensurePools hasLimit keyed limitId key charges 1 limiter with
    | (limiter, .error e) => (limiter, .error e)
    | (limiter, .ok capacity) =>
        (keyed.addLimit limiter
          ⟨limitId, capacity, 1, charges.map fun c => (c.1 ++ ":" ++ key, c.2), "token_bucket"⟩,
          .ok limitId)

/-- `KRAKEN_RATE_LIMIT_SPEC.keyed_endpoint_pools` of every order endpoint. -/
def keyedEndpointPools : List (String × Int) :=
  [("matching", 1)]

/-! ## Open-order counts -/

/-- The count of a pair. -/
def openCount (counts : Dict String Int) (pair : String) : Int :=
  (counts.get? pair).getD 0

/-- `_add_open`. -/
def addOpen (counts : Dict String Int) (pair : String) (delta : Int) : Dict String Int :=
  counts.set pair (max 0 (openCount counts pair + delta))

/-- `n` more orders fit, as far as the local count says. -/
def hasRoom (tier : KrakenAPITier) (counts : Dict String Int) (pair : String) (n : Int) : Bool :=
  openCount counts pair + n ≤ minOpenOrdersPerPair ||
    openCount counts pair + n ≤ maxOpenOrdersPerPair tier

/-- The count of a pair re-read from the open orders. -/
def recount (counts : Dict String Int) (pair : String) (reported : List String) :
    Dict String Int :=
  counts.set pair (reported.count pair)

@[simp]
theorem openCount_addOpen_self (counts : Dict String Int) (pair : String) (delta : Int) :
    openCount (addOpen counts pair delta) pair = max 0 (openCount counts pair + delta) := by
  simp [openCount, addOpen]

theorem openCount_addOpen_of_ne (counts : Dict String Int) {pair pair' : String}
    (h : pair' ≠ pair) (delta : Int) :
    openCount (addOpen counts pair delta) pair' = openCount counts pair' := by
  simp [openCount, addOpen, Dict.get?_set_of_ne _ h]

@[simp]
theorem openCount_recount_self (counts : Dict String Int) (pair : String)
    (reported : List String) :
    openCount (recount counts pair reported) pair = reported.count pair := by
  simp [openCount, recount]

theorem openCount_recount_of_ne (counts : Dict String Int) {pair pair' : String}
    (h : pair' ≠ pair) (reported : List String) :
    openCount (recount counts pair reported) pair' = openCount counts pair' := by
  simp [openCount, recount, Dict.get?_set_of_ne _ h]

/-- The smaller test never decides: a pair has room exactly up to its tier's cap. -/
theorem hasRoom_iff (tier : KrakenAPITier) (counts : Dict String Int) (pair : String) (n : Int) :
    hasRoom tier counts pair n = true ↔
      openCount counts pair + n ≤ maxOpenOrdersPerPair tier := by
  have hmin : minOpenOrdersPerPair ≤ maxOpenOrdersPerPair tier := by
    cases tier <;> decide
  simp only [hasRoom, Bool.or_eq_true, decide_eq_true_eq]
  omega

/-! ## The call -/

/-- What an order call finds and changes. -/
structure OrdersState (L : Type) where
  rest : CallState L
  openCounts : Dict String Int
  placedAt : Dict String Rat

/-- The gateway around an order call. -/
structure OrdersEnv (L Charge : Type) where
  http : Env L Charge
  keyed : KeyedLimiter L
  num : Numerals
  ready : Bool
  tier : KrakenAPITier
  baseUrl : String
  signer : Option Signer
  orderClock : Rat

/-- Arguments of `place_order`. -/
structure PlaceArgs where
  tradingPair : String
  orderType : EnumOr OrderType
  side : EnumOr TradeType
  amount : Decimal
  price : Option Decimal

/-- The gateway's REST client. -/
def OrdersEnv.client (env : OrdersEnv L Charge) : Client :=
  krakenTransport env.baseUrl env.signer

/-- `rest.request`. -/
def restRequest (env : OrdersEnv L Charge) (args : CallArgs) (st : OrdersState L) :
    OrdersState L × Except OrderCallError Response :=
  match request env.http env.client args st.rest with
  | (rest, .error e) => ({ st with rest := rest }, .error (.request e))
  | (rest, .ok response) => ({ st with rest := rest }, .ok response)

/-- `response.raw.get(key, default)`. -/
def rawField (raw : Option PyValue) (key : String) (default : PyValue) :
    Except PyError PyValue :=
  match raw with
  | some (.dict kvs) => .ok ((PyValue.field? kvs key).getD default)
  | _ => .error .attributeError

/-- The orders of an OpenOrders reply. -/
def readOpenOrders (num : Numerals) (raw : Option PyValue) :
    Except ReplyError (Dict String OrderInfo) := do
  let codes ← (rawField raw "error" (.list [])).mapError .python
  raiseOnKrakenError num codes
  let result ← (rawField raw "result" (.dict [])).mapError .python
  let opened ← (rawField (some result) "open" (.dict [])).mapError .python
  let items ← opened.items.mapError .python
  (readOrders num items).mapError .python

/-- `get_open_orders`. -/
def getOpenOrders (env : OrdersEnv L Charge) (st : OrdersState L) :
    OrdersState L × Except OrderCallError (Dict String OrderInfo) :=
  if env.ready then
    match restRequest env { endpointName := "open_orders" } st with
    | (st, .error e) => (st, .error e)
    | (st, .ok response) =>
        match readOpenOrders env.num response.raw with
        | .error e => (st, .error (.reply e))
        | .ok orders => (st, .ok orders)
  else (st, .error (.notStarted "Gateway not started"))

/-- The message of `OpenOrdersLimitError`. -/
def limitMessage (pair : String) (count cap : Int) : String :=
  pair ++ " has " ++ toString count ++ " open orders; cap is " ++ toString cap

/-- `_ensure_room`. -/
def ensureRoom (env : OrdersEnv L Charge) (pair : String) (n : Int) (st : OrdersState L) :
    OrdersState L × Except OrderCallError Unit :=
  if hasRoom env.tier st.openCounts pair n then (st, .ok ())
  else match getOpenOrders env st with
    | (st, .error e) => (st, .error e)
    | (st, .ok orders) =>
        let counts := recount st.openCounts pair (orders.values.map fun order => order.descr.pair)
        let cap := maxOpenOrdersPerPair env.tier
        if openCount counts pair + n ≤ cap then ({ st with openCounts := counts }, .ok ())
        else ({ st with openCounts := counts },
          .error (.openOrdersLimit (limitMessage pair (openCount counts pair) cap)))

/-- The body of an AddOrder request. -/
def addOrderBody (args : PlaceArgs) (ordertype : String) : Dict String PyValue :=
  let body := Dict.ofList
    [("pair", .str args.tradingPair), ("type", .str (toKrakenSide args.side)),
      ("ordertype", .str ordertype), ("volume", .str args.amount.toText)]
  match args.price with
  | none => body
  | some price => body.set "price" (.str price.toText)

/-- `place_order` up to `rest.request`: the checks, the room and the keyed limit. -/
def prepareAdd (env : OrdersEnv L Charge) (args : PlaceArgs) (st : OrdersState L) :
    OrdersState L × Except OrderCallError CallArgs :=
  if env.ready then
    match toKrakenOrdertype args.orderType with
    | .error e => (st, .error e)
    | .ok ordertype =>
        if ordertype = "limit" ∧ args.price = none then
          (st, .error (.priceRequired "price is required for LIMIT orders"))
        else match ensureRoom env args.tradingPair 1 st with
          | (st, .error e) => (st, .error e)
          | (st, .ok _) =>
              match ensureKeyedLimit env.http.limiter.hasLimit env.keyed st.rest.limiter
                "add_order" args.tradingPair keyedEndpointPools with
              | (limiter, .error e) =>
                  ({ st with rest := { st.rest with limiter := limiter } }, .error e)
              | (limiter, .ok limitId) =>
                  ({ st with rest := { st.rest with limiter := limiter } },
                    .ok
                      { endpointName := "add_order"
                        data := some (addOrderBody args ordertype)
                        limitId := some limitId })
  else (st, .error (.notStarted "Gateway not started"))

/-- The result of an AddOrder reply. -/
def readAddOrder (num : Numerals) (raw : Option PyValue) : Except ReplyError AddOrderResult := do
  -- error replies carry no result
  let codes ← (rawField raw "error" (.list [])).mapError .python
  raiseOnKrakenError num codes
  readResult num AddOrderResult.modelValidate raw

/-- Record the accepted orders of a pair. -/
def recordPlaced (env : OrdersEnv L Charge) (pair : String) (txids : List String)
    (st : OrdersState L) : OrdersState L :=
  { st with
    placedAt := st.placedAt.update (txids.map fun txid => (txid, env.orderClock))
    openCounts := addOpen st.openCounts pair txids.length }

/-- `place_order`. -/
def placeOrder (env : OrdersEnv L Charge) (args : PlaceArgs) (st : OrdersState L) :
    OrdersState L × Except OrderCallError String :=
  match prepareAdd env args st with
  | (st, .error e) => (st, .error e)
  | (st, .ok callArgs) =>
      match restRequest env callArgs st with
      | (st, .error e) => (st, .error e)
      | (st, .ok response) =>
          match readAddOrder env.num response.raw with
          | .error e => (st, .error (.reply e))
          | .ok result =>
              let st := recordPlaced env args.tradingPair result.txid st
              match result.txid with
              | [] => (st, .error (.reply (.python .indexError)))
              | txid :: _ => (st, .ok txid)

/-! ## The AddOrder requests of a call -/

/-- The AddOrder requests among the actions of the REST client. -/
def addOrderCalls (env : OrdersEnv L Charge) (actions : List Action) : List HttpCall :=
  (sentCalls actions).filter fun call => call.url = env.baseUrl ++ "/0/private/AddOrder"

/-- The AddOrder request a call is going to make, unless it raises before. -/
def plannedAdd (env : OrdersEnv L Charge) (args : PlaceArgs) (st : OrdersState L) :
    Option HttpCall :=
  match prepareAdd env args st with
  | (_, .error _) => none
  | (st, .ok callArgs) => plannedCall env.http env.client callArgs st.rest

/-- The paths of the registry have no placeholders. -/
theorem resolvePath_registry {reprText : PyValue → String} {name : String} {endpoint : Endpoint}
    (h : endpointRegistry.get? name = some endpoint) :
    resolvePath reprText endpoint none = .ok endpoint.path := by
  have hall : ∀ e ∈ endpointRegistry.entries,
      resolvePath reprText e.2 none = .ok e.2.path := by
    intro e he
    simp only [endpointRegistry, Dict.ofList, Dict.update, Dict.set, Dict.empty, List.foldl,
      Dict.setEntries, String.reduceEq, if_false, List.mem_cons, List.not_mem_nil, or_false] at he
    obtain rfl | rfl | rfl | rfl | rfl | rfl | rfl := he <;> rfl
  exact hall (name, endpoint) ((Dict.mem_entries_iff _).2 h)

theorem restRequest_sends (env : OrdersEnv L Charge) (args : CallArgs) (st : OrdersState L) :
    sentCalls (restRequest env args st).1.rest.actions =
      sentCalls st.rest.actions ++
        callsMade env.http env.client (plannedCall env.http env.client args st.rest) := by
  rw [← request_sends]
  unfold restRequest
  rcases request env.http env.client args st.rest with ⟨rest, e | response⟩ <;> rfl

/-- A call without path parameters goes to the path the registry has for it. -/
theorem plannedCall_path {env : OrdersEnv L Charge} {args : CallArgs} {st : CallState L}
    {call : HttpCall} {endpoint : Endpoint} (hargs : args.pathParams = none)
    (hendpoint : endpointRegistry.get? args.endpointName = some endpoint)
    (h : plannedCall env.http env.client args st = some call) :
    call.url = env.baseUrl ++ endpoint.path := by
  obtain ⟨endpoint', resolvedPath, hfound, hpath, hurl⟩ := plannedCall_url h
  have hsame : endpoint' = endpoint := by
    have hfound' : endpointRegistry.get? args.endpointName = some endpoint' := hfound
    rw [hendpoint] at hfound'
    cases hfound'
    rfl
  subst hsame
  rw [hargs, resolvePath_registry hendpoint] at hpath
  cases hpath
  exact hurl

theorem addOrderCalls_append_of_path {env : OrdersEnv L Charge} {args : CallArgs}
    {st : CallState L} {endpoint : Endpoint} {before after : List Action}
    (hargs : args.pathParams = none)
    (hendpoint : endpointRegistry.get? args.endpointName = some endpoint)
    (hsends : sentCalls after = sentCalls before ++
      callsMade env.http env.client (plannedCall env.http env.client args st)) :
    addOrderCalls env after = addOrderCalls env before ++
      if endpoint.path = "/0/private/AddOrder" then
        callsMade env.http env.client (plannedCall env.http env.client args st)
      else [] := by
  unfold addOrderCalls
  rw [hsends, List.filter_append]
  congr 1
  cases hplanned : plannedCall env.http env.client args st with
  | none => simp [callsMade]
  | some call =>
      have hurl := plannedCall_path hargs hendpoint hplanned
      simp only [callsMade]
      split_ifs with hpath
      · rw [List.filter_eq_self]
        intro call' hcall'
        rw [(List.mem_replicate.1 hcall').2, hurl, hpath]
        exact decide_eq_true rfl
      · rw [List.filter_eq_nil_iff]
        intro call' hcall'
        rw [(List.mem_replicate.1 hcall').2, hurl, decide_eq_true_eq]
        intro hsame
        have hchars := congrArg String.toList hsame
        rw [String.toList_append, String.toList_append, List.append_cancel_left_eq] at hchars
        exact hpath (String.toList_inj.1 hchars)

/-- Reading the open orders adds no order. -/
theorem addOrderCalls_getOpenOrders (env : OrdersEnv L Charge) (st : OrdersState L) :
    addOrderCalls env (getOpenOrders env st).1.rest.actions =
      addOrderCalls env st.rest.actions := by
  have hrequest : addOrderCalls env
      (restRequest env { endpointName := "open_orders" } st).1.rest.actions =
        addOrderCalls env st.rest.actions := by
    have hendpoint : endpointRegistry.get? "open_orders" =
        some { path := "/0/private/OpenOrders", method := "POST" } := rfl
    have hsends := restRequest_sends env { endpointName := "open_orders" } st
    rw [addOrderCalls_append_of_path rfl hendpoint hsends]
    simp
  unfold getOpenOrders
  split_ifs
  · rcases hresult : restRequest env { endpointName := "open_orders" } st with ⟨st', e | response⟩
    · rw [hresult] at hrequest
      exact hrequest
    · rw [hresult] at hrequest
      simp only
      cases readOpenOrders env.num response.raw <;> exact hrequest
  · rfl

theorem addOrderCalls_ensureRoom (env : OrdersEnv L Charge) (pair : String) (n : Int)
    (st : OrdersState L) :
    addOrderCalls env (ensureRoom env pair n st).1.rest.actions =
      addOrderCalls env st.rest.actions := by
  have horders := addOrderCalls_getOpenOrders env st
  unfold ensureRoom
  split_ifs
  · rfl
  · rcases hresult : getOpenOrders env st with ⟨st', e | orders⟩
    · rw [hresult] at horders
      exact horders
    · rw [hresult] at horders
      simp only
      split_ifs <;> exact horders

/-- Preparing an order adds none, and names the endpoint. -/
theorem prepareAdd_quiet (env : OrdersEnv L Charge) (args : PlaceArgs) (st : OrdersState L) :
    addOrderCalls env (prepareAdd env args st).1.rest.actions =
        addOrderCalls env st.rest.actions ∧
      ∀ callArgs, (prepareAdd env args st).2 = .ok callArgs →
        callArgs.endpointName = "add_order" ∧ callArgs.pathParams = none := by
  unfold prepareAdd
  split_ifs
  · cases toKrakenOrdertype args.orderType with
    | error e => exact ⟨rfl, by simp⟩
    | ok ordertype =>
        simp only
        split_ifs
        · exact ⟨rfl, by simp⟩
        have hroom := addOrderCalls_ensureRoom env args.tradingPair 1 st
        rcases hresult : ensureRoom env args.tradingPair 1 st with ⟨st', e | _⟩
        · rw [hresult] at hroom
          exact ⟨hroom, by simp⟩
        · rw [hresult] at hroom
          simp only
          rcases ensureKeyedLimit env.http.limiter.hasLimit env.keyed st'.rest.limiter
            "add_order" args.tradingPair keyedEndpointPools with ⟨limiter, e | limitId⟩
          · exact ⟨hroom, by simp⟩
          · refine ⟨hroom, fun callArgs hcall => ?_⟩
            cases hcall
            exact ⟨rfl, rfl⟩
  · exact ⟨rfl, by simp⟩

/-- A call makes its planned AddOrder request once per attempt, and no other. -/
theorem placeOrder_addOrders (env : OrdersEnv L Charge) (args : PlaceArgs)
    (st : OrdersState L) :
    addOrderCalls env (placeOrder env args st).1.rest.actions =
      addOrderCalls env st.rest.actions ++
        callsMade env.http env.client (plannedAdd env args st) := by
  obtain ⟨hquiet, hnames⟩ := prepareAdd_quiet env args st
  unfold placeOrder plannedAdd
  rcases hprepare : prepareAdd env args st with ⟨st', e | callArgs⟩
  · rw [hprepare] at hquiet
    simp [callsMade, hquiet]
  · rw [hprepare] at hquiet hnames
    obtain ⟨hname, hparams⟩ := hnames callArgs rfl
    have hendpoint : endpointRegistry.get? callArgs.endpointName =
        some { path := "/0/private/AddOrder", method := "POST" } := by
      rw [hname]
      rfl
    have hrequest :=
      addOrderCalls_append_of_path hparams hendpoint (restRequest_sends env callArgs st')
    rw [if_pos rfl] at hrequest
    simp only
    rw [← hquiet, ← hrequest]
    rcases restRequest env callArgs st' with ⟨st'', e | response⟩
    · rfl
    · simp only
      cases readAddOrder env.num response.raw with
      | error e => rfl
      | ok result =>
          simp only
          cases result.txid <;> rfl

end Kraken
end MarketConnector
