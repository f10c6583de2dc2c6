import MarketConnector.Kraken.OneOrder

/-!
# Kraken - Placing a batch

One `place_orders_batch` call.  Its reply is validated as a whole before any order of it is
recorded: an entry without a txid, which is how an order is refused, makes the call forget
the orders that were accepted.

Main results:

- Definition `placeOrdersBatch`: the call.
- Theorem `placeOrdersBatch_records_iff`: the replies whose orders are all recorded.
-/

namespace MarketConnector
namespace Kraken

open Foundations Transport

variable {L Charge : Type}

/-! ## Replies -/

@[ext]
structure BatchOrderEntry where
  txid : String

/-- `BatchOrderEntry.model_validate` -/
def BatchOrderEntry.modelValidate : PyValue → Except PyError BatchOrderEntry
  | .dict kvs => do return { txid := ← PyValue.requiredStr kvs "txid" }
  | _ => .error .validationError

structure AddOrderBatchResult where
  orders : List BatchOrderEntry

/-- Validation of the entries, an empty list by default. -/
def batchOrders (kvs : List (String × PyValue)) : Except PyError (List BatchOrderEntry) :=
  match PyValue.field? kvs "orders" with
  | none => .ok []
  | some (.list entries) => entries.mapM BatchOrderEntry.modelValidate
  | some _ => .error .validationError

/-- `AddOrderBatchResult.model_validate` -/
def AddOrderBatchResult.modelValidate : PyValue → Except PyError AddOrderBatchResult
  | .dict kvs => do return { orders := ← batchOrders kvs }
  | _ => .error .validationError

/-! ## The call -/

/-- What `place_orders_batch` raises: `ValueError` for its size, or what order calls raise. -/
inductive BatchCallError where
  | batchSize (message : String)
  | order (e : OrderCallError)

/-- Arguments of `place_orders_batch`. -/
structure BatchArgs where
  tradingPair : String
  orders : List (List (String × PyValue))

/-- The body of an AddOrderBatch request. -/
def addOrderBatchBody (args : BatchArgs) : Dict String PyValue :=
  Dict.ofList [("pair", .str args.tradingPair), ("orders", .list (args.orders.map .dict))]

/-- `place_orders_batch` up to `rest.request`: the checks, the room and the keyed limit. -/
def prepareBatch (env : OrdersEnv L Charge) (args : BatchArgs) (st : OrdersState L) :
    OrdersState L × Except BatchCallError CallArgs :=
  if env.ready then
    if 2 ≤ args.orders.length ∧ args.orders.length ≤ 15 then
      match ensureRoom env args.tradingPair args.orders.length st with
      | (st, .error e) => (st, .error (.order e))
      | (st, .ok _) =>
          match ensureKeyedLimit env.http.limiter.hasLimit env.keyed st.rest.limiter
            "add_order_batch" args.tradingPair keyedEndpointPools with
          | (limiter, .error e) =>
              ({ st with rest := { st.rest with limiter := limiter } }, .error (.order e))
          | (limiter, .ok limitId) =>
              ({ st with rest := { st.rest with limiter := limiter } },
                .ok
                  { endpointName := "add_order_batch"
                    data := some (addOrderBatchBody args)
                    limitId := some limitId
                    pools := some (Dict.ofList
                      [("matching:" ++ args.tradingPair, ((args.orders.length + 1) / 2 : Nat))]) })
    else
      (st, .error (.batchSize
        ("A batch takes 2 to 15 orders, got " ++ toString args.orders.length)))
  else (st, .error (.order (.notStarted "Gateway not started")))

/-- `place_orders_batch` from the reply on. -/
def settleBatch (env : OrdersEnv L Charge) (args : BatchArgs) (raw : Option PyValue)
    (st : OrdersState L) : OrdersState L × Except BatchCallError (List String) :=
  match readResult env.num AddOrderBatchResult.modelValidate raw with
  | .error e => (st, .error (.order (.reply e)))
  | .ok result =>
      let txids := result.orders.map BatchOrderEntry.txid
      (recordPlaced env args.tradingPair txids st, .ok txids)

/-- `place_orders_batch` -/
def placeOrdersBatch (env : OrdersEnv L Charge) (args : BatchArgs) (st : OrdersState L) :
    OrdersState L × Except BatchCallError (List String) :=
  match prepareBatch env args st with
  | (st, .error e) => (st, .error e)
  | (st, .ok callArgs) =>
      match restRequest env callArgs st with
      | (st, .error e) => (st, .error (.order e))
      | (st, .ok response) => settleBatch env args response.raw st

/-! ## What a reply says -/

/-- The entries of a reply, unchecked. -/
def batchEntries : PyValue → List PyValue
  | .dict kvs =>
      match PyValue.field? kvs "result" with
      | some (.dict result) =>
          match PyValue.field? result "orders" with
          | some (.list entries) => entries
          | _ => []
      | _ => []
  | _ => []

/-- The txid of an entry that was placed. -/
def entryTxid : PyValue → Option String
  | .dict kvs => (PyValue.field? kvs "txid").bind PyValue.asStr?
  | _ => none

/-- The txids of the orders a reply says are placed. -/
def replyTxids (raw : Option PyValue) : List String :=
  (batchEntries (raw.getD .none)).filterMap entryTxid

/-- The reply has no error codes. -/
def errorFree : PyValue → Bool
  | .dict kvs =>
      match PyValue.field? kvs "error" with
      | none => true
      | some (.list codes) => codes.isEmpty
      | some _ => false
  | _ => false

theorem entry_modelValidate_eq_ok {entry : PyValue} {placed : BatchOrderEntry} :
    BatchOrderEntry.modelValidate entry = .ok placed ↔ entryTxid entry = some placed.txid := by
  cases entry with
  | dict kvs =>
      cases hfield : PyValue.field? kvs "txid" with
      | none =>
          simp [BatchOrderEntry.modelValidate, PyValue.requiredStr, entryTxid, hfield, bind,
            Except.bind]
      | some v =>
          cases v <;>
            simp [BatchOrderEntry.modelValidate, PyValue.requiredStr, PyValue.requireStr, entryTxid,
              PyValue.asStr?, hfield, bind, Except.bind, pure, Except.pure,
              BatchOrderEntry.ext_iff]
  | _ => simp [BatchOrderEntry.modelValidate, entryTxid]

/-- A list of entries is valid when each of them has a txid. -/
theorem entries_mapM_eq_ok {entries : List PyValue} {placed : List BatchOrderEntry} :
    entries.mapM BatchOrderEntry.modelValidate = .ok placed ↔
      entries.map entryTxid = placed.map fun entry => some entry.txid := by
  induction entries generalizing placed with
  | nil => cases placed <;> simp [pure, Except.pure]
  | cons entry entries ih =>
      rw [List.mapM_cons, bind_eq_ok]
      constructor
      · rintro ⟨first, hfirst, hbind⟩
        obtain ⟨rest, hrest, heq⟩ := bind_eq_ok.1 hbind
        cases heq
        rw [List.map_cons, List.map_cons, entry_modelValidate_eq_ok.1 hfirst, ih.1 hrest]
      · intro h
        cases placed with
        | nil => simp at h
        | cons first rest =>
            rw [List.map_cons, List.map_cons, List.cons.injEq] at h
            refine ⟨first, entry_modelValidate_eq_ok.2 h.1, ?_⟩
            rw [ih.2 h.2]
            rfl

/-- Entries that all have a txid are as many as the txids. -/
theorem map_entryTxid {entries : List PyValue}
    (h : ∀ entry ∈ entries, (entryTxid entry).isSome) :
    entries.map entryTxid = (entries.filterMap entryTxid).map some := by
  induction entries with
  | nil => rfl
  | cons entry entries ih =>
      obtain ⟨txid, htxid⟩ := Option.isSome_iff_exists.1 (h entry List.mem_cons_self)
      have hrest := ih fun other hother => h other (List.mem_cons_of_mem _ hother)
      rw [List.map_cons, List.filterMap_cons_some htxid, List.map_cons, htxid, hrest]

/-- No list with a code in it is read as empty. -/
theorem requireStrList_eq_nil {codes : List PyValue} :
    requireStrList (.list codes) = .ok [] ↔ codes = [] := by
  cases codes with
  | nil => simp [requireStrList, pure, Except.pure]
  | cons code codes =>
      simp only [requireStrList, List.mapM_cons, bind_eq_ok, reduceCtorEq, iff_false]
      rintro ⟨first, -, rest, -, h⟩
      cases h

/-- Only the empty list of error codes lets a reply through. -/
theorem errorFree_iff {kvs : List (String × PyValue)} :
    errorFree (.dict kvs) = true ↔ strListField kvs "error" = .ok [] := by
  simp only [errorFree, strListField]
  cases hfield : PyValue.field? kvs "error" with
  | none => simp
  | some v =>
      cases v with
      | list codes => simp [requireStrList_eq_nil]
      | _ => simp [requireStrList]

/-- The parts of a reply that says an order was placed. -/
theorem exists_entries_of_txid {raw : Option PyValue} {txid : String}
    (h : txid ∈ replyTxids raw) :
    ∃ kvs result entries, raw = some (.dict kvs) ∧
      PyValue.field? kvs "result" = some (.dict result) ∧
      PyValue.field? result "orders" = some (.list entries) ∧
      batchEntries (raw.getD .none) = entries := by
  obtain ⟨entry, hentry, -⟩ := List.mem_filterMap.1 h
  rcases raw with _ | raw
  · simp [batchEntries] at hentry
  · unfold batchEntries at hentry ⊢
    simp only [Option.getD_some] at hentry ⊢
    split at hentry
    · next kvs =>
      split at hentry
      · next result hresult =>
        split at hentry
        · next entries horders =>
          exact ⟨kvs, result, entries, rfl, hresult, horders, rfl⟩
        · simp at hentry
      · simp at hentry
    · simp at hentry

/-- A reply that says an order was placed is read exactly when it has no error codes and all its
entries have a txid. -/
theorem readResult_batch_eq_ok_iff {num : Numerals} {raw : Option PyValue} {txid : String}
    (htxid : txid ∈ replyTxids raw) {result : AddOrderBatchResult} :
    readResult num AddOrderBatchResult.modelValidate raw = .ok result ↔
      errorFree (raw.getD .none) = true ∧
        (batchEntries (raw.getD .none)).map entryTxid =
          result.orders.map fun entry => some entry.txid := by
  obtain ⟨kvs, fields, entries, rfl, hresult, horders, hentries⟩ := exists_entries_of_txid htxid
  have hvalidate : AddOrderBatchResult.modelValidate (.dict fields) = .ok result ↔
      entries.mapM BatchOrderEntry.modelValidate = .ok result.orders := by
    simp only [AddOrderBatchResult.modelValidate, batchOrders, horders, bind_eq_ok]
    constructor
    · rintro ⟨orders, horders, heq⟩
      cases heq
      exact horders
    · intro h
      exact ⟨result.orders, h, rfl⟩
  have henvelope : envelope AddOrderBatchResult.modelValidate (.dict kvs) = .ok ([], some result) ↔
      strListField kvs "error" = .ok [] ∧
        AddOrderBatchResult.modelValidate (.dict fields) = .ok result := by
    simp only [envelope, optionalField, hresult, bind_eq_ok, map_eq_ok]
    constructor
    · rintro ⟨error, herror, _, ⟨result', hresult', rfl⟩, heq⟩
      cases heq
      exact ⟨herror, hresult'⟩
    · rintro ⟨herror, hvalid⟩
      exact ⟨[], herror, some result, ⟨result, hvalid, rfl⟩, rfl⟩
  rw [hentries, Option.getD_some, errorFree_iff, ← entries_mapM_eq_ok, ← hvalidate, ← henvelope]
  exact ⟨readResult_eq_ok, fun h => readResult_of_envelope h⟩

/-! ## What a reply leaves behind -/

/-- The reply to a call, and the state it is met in. -/
def batchReply (env : OrdersEnv L Charge) (args : BatchArgs) (st : OrdersState L) :
    Option (OrdersState L × Option PyValue) :=
  match prepareBatch env args st with
  | (_, .error _) => none
  | (st, .ok callArgs) =>
      match restRequest env callArgs st with
      | (_, .error _) => none
      | (st, .ok response) => some (st, response.raw)

theorem batchReply_of_request {env : OrdersEnv L Charge} {args : BatchArgs}
    {st ready : OrdersState L} {callArgs : CallArgs} {rest : CallState L} {response : Response}
    (hprepare : prepareBatch env args st = (ready, .ok callArgs))
    (hrequest : request env.http env.client callArgs ready.rest = (rest, .ok response)) :
    batchReply env args st = some ({ ready with rest := rest }, response.raw) := by
  simp only [batchReply, hprepare, restRequest, hrequest]

theorem placeOrdersBatch_of_reply {env : OrdersEnv L Charge} {args : BatchArgs}
    {st met : OrdersState L} {raw : Option PyValue}
    (h : batchReply env args st = some (met, raw)) :
    placeOrdersBatch env args st = settleBatch env args raw met := by
  unfold batchReply at h
  unfold placeOrdersBatch
  rcases hprepare : prepareBatch env args st with ⟨st', e | callArgs⟩
  · simp [hprepare] at h
  · rw [hprepare] at h
    rcases hrequest : restRequest env callArgs st' with ⟨st'', e | response⟩
    · simp [hrequest] at h
    · simp only [hrequest, Option.some.injEq, Prod.mk.injEq] at h
      obtain ⟨rfl, rfl⟩ := h
      simp only [hrequest]

/-- Every order that a reply says is placed has its time recorded and is counted. -/
def RecordsPlaced (env : OrdersEnv L Charge) (pair : String) (raw : Option PyValue)
    (before after : OrdersState L) : Prop :=
  (∀ txid ∈ replyTxids raw, after.placedAt.get? txid = some env.orderClock) ∧
    openCount before.openCounts pair + (replyTxids raw).length ≤ openCount after.openCounts pair

theorem recordPlaced_records {env : OrdersEnv L Charge} {pair : String} {raw : Option PyValue}
    {txids : List String} (h : replyTxids raw = [] ∨ replyTxids raw = txids)
    (st : OrdersState L) :
    RecordsPlaced env pair raw st (recordPlaced env pair txids st) := by
  have hlength : (replyTxids raw).length ≤ txids.length := by
    rcases h with h | h
    · simp [h]
    · rw [h]
  constructor
  · intro txid htxid
    have hmem : txid ∈ txids := by
      rcases h with h | h
      · simp [h] at htxid
      · exact h ▸ htxid
    refine Dict.get?_update_of_forall _ ?_ (by simp)
    simpa using hmem
  · simp only [recordPlaced, openCount_addOpen_self]
    omega

/-- A reply whose entries all have a txid, and without error codes, records its orders; another
one only if it has none. -/
theorem settleBatch_records_iff (env : OrdersEnv L Charge) (args : BatchArgs)
    (raw : Option PyValue) (st : OrdersState L) :
    RecordsPlaced env args.tradingPair raw st (settleBatch env args raw st).1 ↔
      replyTxids raw = [] ∨ (errorFree (raw.getD .none) = true ∧
        ∀ entry ∈ batchEntries (raw.getD .none), (entryTxid entry).isSome) := by
  by_cases hempty : replyTxids raw = []
  · refine iff_of_true ?_ (Or.inl hempty)
    unfold settleBatch
    cases readResult env.num AddOrderBatchResult.modelValidate raw with
    | error e => exact ⟨by simp [hempty], by simp [hempty]⟩
    | ok result => exact recordPlaced_records (Or.inl hempty) st
  obtain ⟨txid, htxid⟩ := List.exists_mem_of_ne_nil _ hempty
  constructor
  · intro h
    right
    unfold settleBatch at h
    cases hread : readResult env.num AddOrderBatchResult.modelValidate raw with
    | error e =>
        rw [hread] at h
        have hcount := h.2
        have hpos := List.length_pos_of_ne_nil hempty
        simp only at hcount
        omega
    | ok result =>
        obtain ⟨herror, hentries⟩ := (readResult_batch_eq_ok_iff htxid).1 hread
        refine ⟨herror, fun entry hentry => ?_⟩
        have hmem := List.mem_map_of_mem (f := entryTxid) hentry
        rw [hentries] at hmem
        obtain ⟨placed, -, hplaced⟩ := List.mem_map.1 hmem
        rw [← hplaced]
        rfl
  · rintro (h | ⟨herror, hentries⟩)
    · exact absurd h hempty
    have hplaced : (batchEntries (raw.getD .none)).map entryTxid =
        ((replyTxids raw).map BatchOrderEntry.mk).map fun entry => some entry.txid := by
      rw [map_entryTxid hentries, List.map_map]
      rfl
    have hread : readResult env.num AddOrderBatchResult.modelValidate raw =
        .ok ⟨(replyTxids raw).map BatchOrderEntry.mk⟩ :=
      (readResult_batch_eq_ok_iff htxid).2 ⟨herror, hplaced⟩
    unfold settleBatch
    rw [hread]
    exact recordPlaced_records (Or.inr (by simp [Function.comp_def])) st

/-- A call records all orders that its reply says are placed exactly when there are none, or the
reply has no error codes and a txid in each entry. -/
theorem placeOrdersBatch_records_iff {env : OrdersEnv L Charge} {args : BatchArgs}
    {st met : OrdersState L} {raw : Option PyValue}
    (h : batchReply env args st = some (met, raw)) :
    RecordsPlaced env args.tradingPair raw met (placeOrdersBatch env args st).1 ↔
      replyTxids raw = [] ∨ (errorFree (raw.getD .none) = true ∧
        ∀ entry ∈ batchEntries (raw.getD .none), (entryTxid entry).isSome) := by
  rw [placeOrdersBatch_of_reply h]
  exact settleBatch_records_iff env args raw met

/-! ## An exchange that answers in JSON -/

theorem splitOnAux_skip {s : String} {b i : String.Pos.Raw} {r : List String}
    (hend : i.atEnd s = false) (hne : i.get s ≠ ';') :
    s.splitOnAux ";" b i 0 r = s.splitOnAux ";" b (i.next s) 0 r := by
  have hsep : String.Pos.Raw.get ";" 0 = ';' := by decide
  conv_lhs => unfold String.splitOnAux
  rw [if_neg (by simp [hend]), hsep, if_neg (by simpa using hne)]
  rfl

theorem splitOn_json : "application/json".splitOn ";" = ["application/json"] := by
  unfold String.splitOn
  rw [if_neg (by decide)]
  iterate 16 rw [splitOnAux_skip (by decide) (by decide)]
  unfold String.splitOnAux
  rw [if_pos (by decide)]
  decide

theorem trimAscii_json : "application/json".trimAscii.toString = "application/json" := by
  have hstart : "application/json".toSlice.trimAsciiStart = "application/json".toSlice := by
    rw [String.Slice.trimAsciiStart, String.Slice.dropWhile_eq_self_iff,
      String.startsWith_toSlice, String.startsWith_bool_eq_head?]
    decide
  have hend : "application/json".toSlice.trimAsciiEnd = "application/json".toSlice := by
    rw [String.Slice.trimAsciiEnd, String.Slice.dropEndWhile_eq_self_iff,
      String.endsWith_toSlice, String.endsWith_bool_eq_getLast?]
    decide
  simp [String.trimAscii, String.Slice.trimAscii, hstart, hend]

/-- A reply with a JSON document. -/
def jsonReply (raw : PyValue) : HttpReply where
  statusCode := 200
  header name := if name = "content-type" then some "application/json" else none
  text := ""
  content := "\x7b\x7d".toUTF8
  json := .ok raw

theorem decodeBody_jsonReply (raw : PyValue) : decodeBody (jsonReply raw) = .ok (some raw) := by
  have hheader : (jsonReply raw).header "content-type" = some "application/json" := rfl
  have hlower : "application/json".toLower = "application/json" := by
    show "application/json".map Char.toLower = "application/json"
    rw [← String.toList_inj, String.toList_map]
    decide
  have hmedia : mediaType (jsonReply raw) = "application/json" := by
    rw [mediaType, hheader, Option.getD_some, splitOn_json, List.headD_cons, trimAscii_json, hlower]
  have hsize : (jsonReply raw).content.size ≠ 0 := by
    show "\x7b\x7d".toUTF8.size ≠ 0
    decide
  rw [decodeBody, if_neg hsize, if_neg (not_not.2 hmedia)]
  rfl

/-- A gateway whose batches are answered by a document. -/
def answeringGateway (raw : PyValue) : OrdersEnv Unit Unit :=
  { unavailableGateway with
    http := { emptyReplies with reply := fun _ _ => .returned (jsonReply raw) }
    signer := none }

/-- Two orders on one pair. -/
def batchOfTwo : BatchArgs where
  tradingPair := "XBTUSD"
  orders := [[("ordertype", .str "market")], [("ordertype", .str "market")]]

/-- An entry of an order that was placed, and of one that was refused. -/
def placedAndRefused : PyValue :=
  .dict [("error", .list []), ("result", .dict [("orders", .list
    [.dict [("txid", .str "OBATCH-AAAAA-AAAAAA")],
      .dict [("error", .str "EOrder:Insufficient funds")]])])]

def bothPlaced : PyValue :=
  .dict [("error", .list []), ("result", .dict [("orders", .list
    [.dict [("txid", .str "OBATCH-AAAAA-AAAAAA")],
      .dict [("txid", .str "OBATCH-BBBBB-BBBBBB")]])])]

/-- The first attempt is answered by the document. -/
theorem sendLoop_answeringGateway (raw : PyValue) (client : Client) (args : CallArgs)
    (endpoint : Endpoint) (limitId : String) (call : HttpCall) (remaining attempt : Nat)
    (st : CallState Unit) :
    sendLoop (answeringGateway raw).http client args endpoint limitId call (remaining + 1) attempt
        st =
      (st.act (.send call), .ok ⟨some raw, 200, (jsonReply raw).header, args.endpointName,
        endpoint.responseType⟩) := by
  have hreply : (answeringGateway raw).http.reply attempt call = .returned (jsonReply raw) := rfl
  have hstatus : (jsonReply raw).statusCode = 200 := rfl
  unfold sendLoop
  simp only [hreply, hstatus, decodeBody_jsonReply]
  rfl

/-- The request of the two orders. -/
def batchOfTwoCall : CallArgs where
  endpointName := "add_order_batch"
  data := some (addOrderBatchBody batchOfTwo)
  limitId := some "add_order_batch:XBTUSD"
  pools := some (Dict.ofList [("matching:XBTUSD", 1)])

theorem batchReply_answeringGateway (raw : PyValue) :
    ∃ met, batchReply (answeringGateway raw) batchOfTwo (.start () [] ∅ ∅) =
      some (met, some raw) := by
  have hprepare : prepareBatch (answeringGateway raw) batchOfTwo (.start () [] ∅ ∅) =
      (.start () [] ∅ ∅, .ok batchOfTwoCall) := rfl
  have hcharged : Charged (answeringGateway raw).http (answeringGateway raw).client batchOfTwoCall
      (.start () []) { path := "/0/private/AddOrderBatch", method := "POST" }
      "/0/private/AddOrderBatch" "add_order_batch:XBTUSD" () _ :=
    ⟨rfl, rfl, _, _, rfl, rfl, rfl⟩
  have hattempt : ∀ st, ∃ call, chargedRequest (answeringGateway raw).http
      (answeringGateway raw).client batchOfTwoCall
      { path := "/0/private/AddOrderBatch", method := "POST" } "/0/private/AddOrderBatch"
      "add_order_batch:XBTUSD" () st =
        sendLoop (answeringGateway raw).http (answeringGateway raw).client batchOfTwoCall
          { path := "/0/private/AddOrderBatch", method := "POST" } "add_order_batch:XBTUSD" call
          (3 + 1) 0 st :=
    fun _ => ⟨_, rfl⟩
  obtain ⟨call, hsent⟩ := hattempt _
  have hrequest := (request_of_charged hcharged).trans hsent
  rw [sendLoop_answeringGateway] at hrequest
  exact ⟨_, batchReply_of_request hprepare hrequest⟩

/-- Two orders that are both placed are recorded. -/
theorem placeOrdersBatch_records_bothPlaced :
    ∃ met, batchReply (answeringGateway bothPlaced) batchOfTwo (.start () [] ∅ ∅) =
        some (met, some bothPlaced) ∧
      RecordsPlaced (answeringGateway bothPlaced) "XBTUSD" (some bothPlaced) met
        (placeOrdersBatch (answeringGateway bothPlaced) batchOfTwo (.start () [] ∅ ∅)).1 :=
  have ⟨met, hreply⟩ := batchReply_answeringGateway bothPlaced
  ⟨met, hreply, (placeOrdersBatch_records_iff hreply).2 (Or.inr ⟨by decide, by decide⟩)⟩

/-- The order that was placed is forgotten with the one that was refused. -/
theorem placeOrdersBatch_forgets_placed :
    ¬ ∀ (env : OrdersEnv Unit Unit) (args : BatchArgs) (st met : OrdersState Unit)
      (raw : Option PyValue), batchReply env args st = some (met, raw) →
      RecordsPlaced env args.tradingPair raw met (placeOrdersBatch env args st).1 := by
  intro h
  obtain ⟨met, hreply⟩ := batchReply_answeringGateway placedAndRefused
  have hrecords := h _ _ _ _ _ hreply
  rw [placeOrdersBatch_of_reply hreply, settleBatch_records_iff] at hrecords
  revert hrecords
  decide

end Kraken
end MarketConnector
