import MarketConnector.Foundations.PyValue

/-!
# Ws - Frame decoders

Stage 1 of the WebSocket pipeline: a raw frame becomes a normalized message with a
kind, routing keys and a payload.  Array frames are read by position, object frames
by field name.

Main results:

- Definition `PositionalArrayDecoder.decode`: array frames, with negative indices.
- Definition `JsonEnvelopeDecoder.decode`: object frames.
- Theorem `PositionalArrayDecoder.decode_list`: what an array frame decodes to.
-/

namespace MarketConnector
namespace Ws

open Foundations

/-- Classification of a WebSocket frame. -/
inductive WsMessageKind where
  | data | heartbeat | subscribeAck | error | unknown
deriving DecidableEq

/-- Shape-decoded WebSocket message.  The decoders copy channel and pair from the
frame, so both can be any value. -/
structure NormalizedWsMessage where
  kind : WsMessageKind
  channel : PyValue
  pair : PyValue
  payload : PyValue
  error : PyValue

/-! ## Object frames -/

/-- A field name or a callable. -/
inductive FieldExtractor where
  | key (name : String)
  | callable (f : PyValue → PyValue)

/-- Apply a string key lookup or callable extractor to an object. -/
def extract (reprText : PyValue → String) (field : FieldExtractor)
    (raw : List (String × PyValue)) : PyValue :=
  match field with
  | .callable f => f (.dict raw)
  | .key name =>
      match PyValue.get? raw name with
      | .none => .none
      | v => .str (v.toText reprText)

/-- Decoder for JSON-object frames. -/
structure JsonEnvelopeDecoder where
  channelField : FieldExtractor
  pairField : Option FieldExtractor
  payloadField : String
  kindDispatch : Dict String WsMessageKind
  errorField : Option String := none

/-- Kind of an object frame from its channel, when no error overrides it. -/
def JsonEnvelopeDecoder.kindOf (d : JsonEnvelopeDecoder) (channel : PyValue) : WsMessageKind :=
  if channel.truthy then
    match channel with
    | .str c => (d.kindDispatch.get? c).getD .data
    | _ => .data
  else .unknown

/-- `JsonEnvelopeDecoder.decode`; anything but an object fails its assertion. -/
def JsonEnvelopeDecoder.decode (d : JsonEnvelopeDecoder) (reprText : PyValue → String)
    (raw : PyValue) : Except PyError NormalizedWsMessage :=
  match raw with
  | .dict kvs =>
      let channel := extract reprText d.channelField kvs
      let pair := match d.pairField with
        | none => PyValue.none
        | some field => extract reprText field kvs
      let error := match d.errorField with
        | none => PyValue.none
        | some field => PyValue.get? kvs field
      .ok
        { kind := if error.truthy then .error else d.kindOf channel
          channel := channel
          pair := pair
          payload := (PyValue.field? kvs d.payloadField).getD (.dict [])
          error := error }
  | _ => .error .assertionError

/-! ## Array frames -/

/-- Decoder for positional-array frames. -/
structure PositionalArrayDecoder where
  channelIndex : Int
  pairIndex : Option Int
  payloadIndex : Int
  heartbeatPredicate : Option (List PyValue → Bool)
  subscribeAckPredicate : Option (PyValue → Bool)

/-- Channel, pair and payload of an array frame. -/
def PositionalArrayDecoder.readFrame (d : PositionalArrayDecoder) (kind : WsMessageKind)
    (xs : List PyValue) : Except PyError NormalizedWsMessage := do
  let channel ← PyValue.indexOrRaise xs d.channelIndex
  let pair ← match d.pairIndex with
    | none => .ok .none
    | some i => PyValue.indexOrRaise xs i
  let payload ← PyValue.indexOrRaise xs d.payloadIndex
  return { kind := kind, channel := channel, pair := pair, payload := payload, error := .none }

/-- `PositionalArrayDecoder.decode`: acknowledgements first, then array frames. -/
def PositionalArrayDecoder.decode (d : PositionalArrayDecoder) (raw : PyValue) :
    Except PyError NormalizedWsMessage :=
  if (d.subscribeAckPredicate.map fun p => p raw) = some true then
    .ok { kind := .subscribeAck, channel := .none, pair := .none, payload := raw, error := .none }
  else match raw with
    | .list xs =>
        if (d.heartbeatPredicate.map fun p => p xs) = some true then d.readFrame .heartbeat xs
        else d.readFrame .data xs
    | _ => .error .assertionError

/-- An array frame that is neither acknowledgement nor heartbeat is read as data. -/
theorem PositionalArrayDecoder.decode_list {d : PositionalArrayDecoder} {xs : List PyValue}
    (hack : (d.subscribeAckPredicate.map fun p => p (.list xs)) ≠ some true)
    (hbeat : (d.heartbeatPredicate.map fun p => p xs) ≠ some true) :
    d.decode (.list xs) = d.readFrame .data xs := by
  unfold decode
  rw [if_neg hack]
  simp only [if_neg hbeat]

end Ws
end MarketConnector
