import MarketConnector.Foundations.PyValue

/-!
# Kraken - Array-frame payload models

Builders of the event models from raw frames.  A builder reads its elements first and
validates them afterwards; text fields accept nothing but text.

Main results:

- Definition `BookSnapshot.fromPayload`, `TradeEvent.fromFrame`,
  `OwnTradesEvent.fromRawFrame`, `OpenOrdersEvent.fromRawFrame`.
- Theorem `TradeEvent.fromFrame_trade_lists`: a list of trade entries is no frame.
-/

namespace MarketConnector
namespace Kraken

open Foundations

/-! ## Order book -/

/-- A single price-level entry. -/
structure BookLevel where
  price : String
  volume : String
  timestamp : String
  updateType : Option String
deriving DecidableEq

/-- `BookLevel.from_list`. -/
def BookLevel.fromList (raw : PyValue) : Except PyError BookLevel := do
  let price ← raw.subscript 0
  let volume ← raw.subscript 1
  let timestamp ← raw.subscript 2
  let n ← raw.length
  let updateType ← if 3 < n then raw.subscript 3 else .ok .none
  let price ← price.requireStr
  let volume ← volume.requireStr
  let timestamp ← timestamp.requireStr
  let updateType ← match updateType with
    | .none => .ok none
    | v => v.requireStr.map some
  return { price := price, volume := volume, timestamp := timestamp, updateType := updateType }

/-- Payload of a book-snapshot frame. -/
structure BookSnapshot where
  asks : List BookLevel
  bids : List BookLevel
deriving DecidableEq

/-- Levels stored under a key; an absent key has none. -/
def levelsUnder (payload : List (String × PyValue)) (key : String) :
    Except PyError (List BookLevel) := do
  let raw ← ((PyValue.field? payload key).getD (.list [])).iterate
  raw.mapM BookLevel.fromList

/-- `BookSnapshot.from_payload`. -/
def BookSnapshot.fromPayload (payload : List (String × PyValue)) :
    Except PyError BookSnapshot := do
  let asks ← levelsUnder payload "as"
  let bids ← levelsUnder payload "bs"
  return { asks := asks, bids := bids }

/-! ## Trades -/

/-- A single trade entry. -/
structure Trade where
  price : String
  volume : String
  time : String
  side : String
  orderType : String
  misc : String
deriving DecidableEq

/-- `Trade.from_list`. -/
def Trade.fromList (raw : PyValue) : Except PyError Trade := do
  let price ← raw.subscript 0
  let volume ← raw.subscript 1
  let time ← raw.subscript 2
  let side ← raw.subscript 3
  let orderType ← raw.subscript 4
  let n ← raw.length
  let misc ← if 5 < n then raw.subscript 5 else .ok (.str "")
  return {
    price := ← price.requireStr
    volume := ← volume.requireStr
    time := ← time.requireStr
    side := ← side.requireStr
    orderType := ← orderType.requireStr
    misc := ← misc.requireStr }

/-- All trades of one frame. -/
structure TradeEvent where
  trades : List Trade
  channel : String
  pair : String
deriving DecidableEq

/-- `TradeEvent.from_frame`. -/
def TradeEvent.fromFrame (raw : PyValue) : Except PyError TradeEvent := do
  let entries ← raw.subscript 1
  let entries ← entries.iterate
  let trades ← entries.mapM Trade.fromList
  let channel ← raw.subscript (-2)
  let pair ← raw.subscript (-1)
  let channel ← channel.requireStr
  let pair ← pair.requireStr
  return { trades := trades, channel := channel, pair := pair }

/-- A list whose elements are lists has no text where a frame has its channel. -/
theorem TradeEvent.fromFrame_trade_lists (trades : List (List PyValue)) (event : TradeEvent) :
    TradeEvent.fromFrame (.list (trades.map .list)) ≠ .ok event := by
  intro h
  simp only [fromFrame, bind_eq_ok] at h
  rcases h with ⟨_, _, _, _, _, _, channel, hchannel, _, _, text, htext, _⟩
  have hmem : channel ∈ trades.map PyValue.list := PyValue.mem_of_indexOrRaise hchannel
  rcases List.mem_map.1 hmem with ⟨entry, _, rfl⟩
  cases htext

/-! ## Private channels -/

/-- Detail record for a single own trade. -/
structure OwnTradeDetail where
  cost : String
  fee : String
  margin : String
  ordertxid : String
  ordertype : String
  pair : String
  postxid : String
  price : String
  time : String
  type : String
  vol : String
deriving DecidableEq

/-- `OwnTradeDetail.model_validate`. -/
def OwnTradeDetail.modelValidate : PyValue → Except PyError OwnTradeDetail
  | .dict kvs => do
      return {
        cost := ← PyValue.strField kvs "cost" "0"
        fee := ← PyValue.strField kvs "fee" "0"
        margin := ← PyValue.strField kvs "margin" "0"
        ordertxid := ← PyValue.strField kvs "ordertxid" ""
        ordertype := ← PyValue.strField kvs "ordertype" ""
        pair := ← PyValue.strField kvs "pair" ""
        postxid := ← PyValue.strField kvs "postxid" ""
        price := ← PyValue.strField kvs "price" "0"
        time := ← PyValue.strField kvs "time" ""
        type := ← PyValue.strField kvs "type" ""
        vol := ← PyValue.strField kvs "vol" "0" }
  | _ => .error .validationError

/-- Detail record for a single open order. -/
structure OpenOrderDetail where
  status : String
  vol : String
  volExec : String
  cost : String
  fee : String
  avgPrice : String
deriving DecidableEq

/-- `OpenOrderDetail.model_validate`. -/
def OpenOrderDetail.modelValidate : PyValue → Except PyError OpenOrderDetail
  | .dict kvs => do
      return {
        status := ← PyValue.strField kvs "status" ""
        vol := ← PyValue.strField kvs "vol" "0"
        volExec := ← PyValue.strField kvs "vol_exec" "0"
        cost := ← PyValue.strField kvs "cost" "0"
        fee := ← PyValue.strField kvs "fee" "0"
        avgPrice := ← PyValue.strField kvs "avg_price" "0" }
  | _ => .error .validationError

section PrivateFrames

variable {D : Type} (validate : PyValue → Except PyError D)

/-- Merge the items of one entry into the details read so far. -/
def mergeItems (merged : Dict String D) : List (String × PyValue) →
    Except PyError (Dict String D)
  | [] => .ok merged
  | (key, detail) :: items => do
      let d ← validate detail
      mergeItems (merged.set key d) items

/-- Merge the dictionaries of a private frame. -/
def mergeEntries (merged : Dict String D) : List PyValue → Except PyError (Dict String D)
  | [] => .ok merged
  | entry :: entries => do
      let items ← entry.items
      let merged ← mergeItems validate merged items
      mergeEntries merged entries

/-- Details and sequence number of a raw private frame. -/
def readPrivateFrame (parseInt : String → Option Int) (raw : PyValue) :
    Except PyError (Dict String D × Int) := do
  let entries ← raw.subscript 0
  let entries ← entries.iterate
  let merged ← mergeEntries validate ∅ entries
  let last ← raw.subscript (-1)
  let sequence := match last with
    | .dict kvs => (PyValue.field? kvs "sequence").getD (.int 0)
    | _ => .int 0
  let sequence ← sequence.requireInt parseInt
  return (merged, sequence)

end PrivateFrames

/-- Private channel `ownTrades` event. -/
structure OwnTradesEvent where
  trades : Dict String OwnTradeDetail
  sequence : Int

/-- `OwnTradesEvent.from_raw_frame`. -/
def OwnTradesEvent.fromRawFrame (parseInt : String → Option Int) (raw : PyValue) :
    Except PyError OwnTradesEvent :=
  (readPrivateFrame OwnTradeDetail.modelValidate parseInt raw).map fun p => ⟨p.1, p.2⟩

/-- Private channel `openOrders` event. -/
structure OpenOrdersEvent where
  orders : Dict String OpenOrderDetail
  sequence : Int

/-- `OpenOrdersEvent.from_raw_frame`. -/
def OpenOrdersEvent.fromRawFrame (parseInt : String → Option Int) (raw : PyValue) :
    Except PyError OpenOrdersEvent :=
  (readPrivateFrame OpenOrderDetail.modelValidate parseInt raw).map fun p => ⟨p.1, p.2⟩

end Kraken
end MarketConnector
