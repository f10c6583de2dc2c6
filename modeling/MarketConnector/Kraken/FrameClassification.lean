import MarketConnector.Kraken.Streaming

/-!
# Kraken - What frames are decoded to

Control frames are objects and are told apart by their event; data frames are arrays, with the
pair at the end if they are public.  The decoder reads arrays by position, whatever stands
there, and expects no object of another event than those it knows.

Main results:

- Definition `Frame.Describes`: the message a frame stands for.
- Theorem `krakenWsDecoder_isOk_iff`: which frames are decoded at all.
- Theorem `krakenWsDecoder_faithful_iff`: which frames are decoded to what they stand for.
-/

namespace MarketConnector
namespace Kraken

open Foundations Ws

/-! ## What a frame stands for -/

/-- A JSON frame. -/
inductive Frame where
  | object (kvs : List (String × PyValue))
  | array (xs : List PyValue)

def Frame.value : Frame → PyValue
  | .object kvs => .dict kvs
  | .array xs => .list xs

/-- Data frames: public ones end with channel and pair, private ones have a sequence record
after the channel. -/
inductive ArrayShape where
  | ofPair (channel pair : String)
  | ofAccount (channel : String)
  | other
deriving DecidableEq

/-- Channel and pair at the end of an array. -/
def pairShape (xs : List PyValue) : ArrayShape :=
  match xs.drop (xs.length - 2) with
  | [.str channel, .str pair] => .ofPair channel pair
  | _ => .other

def arrayShape (xs : List PyValue) : ArrayShape :=
  match xs with
  | [.list _, .str channel, .dict _] => .ofAccount channel
  | _ => if 4 ≤ xs.length then pairShape xs else .other

/-- The text of an entry. -/
def textOf (kvs : List (String × PyValue)) (key : String) : Option String :=
  (PyValue.get? kvs key).asStr?

/-- The message says what the frame is: control frames by their event, a subscription that
failed apart from the others, data frames with channel and pair, and anything else as unknown. -/
def Frame.Describes (frame : Frame) (msg : NormalizedWsMessage) : Prop :=
  match frame with
  | .object kvs =>
      if textOf kvs "event" = some "heartbeat" then msg.kind = .heartbeat
      else if textOf kvs "event" = some "subscriptionStatus" then
        if textOf kvs "status" = some "error" then
          msg.kind = .error ∧ msg.error = PyValue.get? kvs "errorMessage"
        else msg.kind = .subscribeAck
      else msg.kind = .unknown
  | .array xs =>
      match arrayShape xs with
      | .ofPair channel pair => msg.kind = .data ∧ msg.channel = .str channel ∧
          msg.pair = .str pair ∧ xs[1]? = some msg.payload
      | .ofAccount channel => msg.kind = .data ∧ msg.channel = .str channel ∧ msg.pair = .none
      | .other => msg.kind = .unknown

/-- The frame is decoded to a message that says what it is. -/
def Frame.Faithful (frame : Frame) : Prop :=
  ∃ msg, krakenWsDecoder frame.value = .ok msg ∧ frame.Describes msg

/-- Control frames of the known events other than a subscription that failed, and public data
frames. -/
def Frame.Expected : Frame → Prop
  | .object kvs =>
      textOf kvs "event" = some "heartbeat" ∨ textOf kvs "event" = some "systemStatus" ∨
        textOf kvs "event" = some "subscriptionStatus" ∧ textOf kvs "status" ≠ some "error"
  | .array xs => ∃ channel pair, arrayShape xs = .ofPair channel pair

/-! ## What the decoder makes of it -/

/-- The message of a control frame carries the frame, and no channel. -/
def controlMessage (kind : WsMessageKind) (kvs : List (String × PyValue)) :
    NormalizedWsMessage where
  kind := kind
  channel := .none
  pair := .none
  payload := .dict kvs
  error := .none

/-- The message of an array. -/
def dataMessage (channel pair payload : PyValue) : NormalizedWsMessage where
  kind := .data
  channel := channel
  pair := pair
  payload := payload
  error := .none

theorem isEvent_iff {event : String} {kvs : List (String × PyValue)} :
    isEvent event (.dict kvs) = true ↔ textOf kvs "event" = some event :=
  decide_eq_true_iff

/-- Objects of another event are passed on, and only subscriptions are expected there. -/
theorem krakenWsDecoder_passedOn {kvs : List (String × PyValue)}
    (hheartbeat : textOf kvs "event" ≠ some "heartbeat")
    (hstatus : textOf kvs "event" ≠ some "systemStatus") :
    krakenWsDecoder (.dict kvs) =
      if isEvent "subscriptionStatus" (.dict kvs) then .ok (controlMessage .subscribeAck kvs)
      else .error .assertionError := by
  unfold krakenWsDecoder
  rw [if_neg (by rwa [isEvent_iff]), if_neg (by rwa [isEvent_iff])]
  unfold PositionalArrayDecoder.decode krakenInnerDecoder
  cases hack : isEvent "subscriptionStatus" (.dict kvs) with
  | true => exact if_pos (congrArg some hack)
  | false => exact if_neg fun hsome => by simp [hack] at hsome

/-- The last two elements of an array. -/
theorem exists_eq_append_pair {α : Type} {xs : List α} (h : 2 ≤ xs.length) :
    ∃ front x y, xs = front ++ [x, y] := by
  have hdrop : (xs.drop (xs.length - 2)).length = 2 := by
    rw [List.length_drop]
    omega
  obtain ⟨x, y, hpair⟩ := List.length_eq_two.1 hdrop
  refine ⟨xs.take (xs.length - 2), x, y, ?_⟩
  rw [← hpair, List.take_append_drop]

theorem krakenWsDecoder_array {xs front : List PyValue} {channel pair payload : PyValue}
    (hxs : xs = front ++ [channel, pair]) (hpayload : xs[1]? = some payload) :
    krakenWsDecoder (.list xs) = .ok (dataMessage channel pair payload) := by
  have hlength : xs.length = front.length + 2 := by
    rw [hxs, List.length_append]
    rfl
  have hchannel : PyValue.index? xs (-2) = some channel := by
    unfold PyValue.index?
    rw [if_neg (by decide), if_pos (by omega), show ((xs.length : Int) + -2).toNat = front.length by
      omega, hxs]
    simp
  have hpair : PyValue.index? xs (-1) = some pair := by
    unfold PyValue.index?
    rw [if_neg (by decide), if_pos (by omega),
      show ((xs.length : Int) + -1).toNat = front.length + 1 by omega, hxs]
    simp
  have hindex : PyValue.index? xs 1 = some payload := by
    unfold PyValue.index?
    rw [if_pos (by decide)]
    exact hpayload
  rw [krakenWsDecoder_list]
  simp only [PositionalArrayDecoder.readFrame, krakenInnerDecoder, PyValue.indexOrRaise, hchannel,
    hpair, hindex]
  rfl

/-- An array of one element has no channel. -/
theorem krakenWsDecoder_short {xs : List PyValue} (h : ¬ 2 ≤ xs.length) :
    krakenWsDecoder (.list xs) = .error .indexError := by
  have hchannel : PyValue.indexOrRaise xs (-2) = .error .indexError := by
    unfold PyValue.indexOrRaise PyValue.index?
    rw [if_neg (by decide), if_neg (by omega)]
  rw [krakenWsDecoder_list, PositionalArrayDecoder.readFrame, krakenInnerDecoder, hchannel]
  rfl

/-- Frames that are decoded: control frames, and arrays of two elements or more. -/
theorem krakenWsDecoder_isOk_iff (raw : PyValue) :
    (∃ msg, krakenWsDecoder raw = .ok msg) ↔
      (∃ event ∈ ["heartbeat", "systemStatus", "subscriptionStatus"], isEvent event raw = true) ∨
      ∃ xs, raw = .list xs ∧ 2 ≤ xs.length := by
  cases raw with
  | list xs =>
      by_cases hlength : 2 ≤ xs.length
      · obtain ⟨front, channel, pair, hxs⟩ := exists_eq_append_pair hlength
        have hpayload : xs[1]? = some xs[1] := List.getElem?_eq_getElem (by omega)
        exact iff_of_true ⟨_, krakenWsDecoder_array hxs hpayload⟩ (Or.inr ⟨xs, rfl, hlength⟩)
      · rw [krakenWsDecoder_short hlength]
        simp [isEvent, hlength]
  | _ =>
      -- anything else is told apart by its event
      unfold krakenWsDecoder PositionalArrayDecoder.decode krakenInnerDecoder
      simp only [Option.map_some, Option.some.injEq]
      split_ifs <;> simp_all

theorem krakenWsDecoder_heartbeat {kvs : List (String × PyValue)}
    (h : textOf kvs "event" = some "heartbeat") :
    krakenWsDecoder (.dict kvs) = .ok (controlMessage .heartbeat kvs) := by
  unfold krakenWsDecoder
  rw [if_pos (isEvent_iff.2 h)]
  rfl

theorem krakenWsDecoder_systemStatus {kvs : List (String × PyValue)}
    (h : textOf kvs "event" = some "systemStatus") :
    krakenWsDecoder (.dict kvs) = .ok (controlMessage .unknown kvs) := by
  unfold krakenWsDecoder
  rw [if_neg (by rw [isEvent_iff, h]; simp), if_pos (isEvent_iff.2 h)]
  rfl

theorem krakenWsDecoder_subscriptionStatus {kvs : List (String × PyValue)}
    (h : textOf kvs "event" = some "subscriptionStatus") :
    krakenWsDecoder (.dict kvs) = .ok (controlMessage .subscribeAck kvs) := by
  rw [krakenWsDecoder_passedOn (by simp [h]) (by simp [h]), if_pos (isEvent_iff.2 h)]

/-! ## Which frames are decoded faithfully -/

theorem object_faithful_iff (kvs : List (String × PyValue)) :
    (Frame.object kvs).Faithful ↔ (Frame.object kvs).Expected := by
  unfold Frame.Faithful Frame.Expected Frame.Describes
  dsimp only [Frame.value]
  by_cases hheartbeat : textOf kvs "event" = some "heartbeat"
  · simp [krakenWsDecoder_heartbeat hheartbeat, hheartbeat, controlMessage]
  by_cases hstatus : textOf kvs "event" = some "systemStatus"
  · simp [krakenWsDecoder_systemStatus hstatus, hstatus, controlMessage]
  by_cases hsubscription : textOf kvs "event" = some "subscriptionStatus"
  · -- a subscription that failed is acknowledged like the others
    rw [krakenWsDecoder_subscriptionStatus hsubscription]
    by_cases hfailed : textOf kvs "status" = some "error"
    · simp [hsubscription, hfailed, controlMessage]
    · simp [hsubscription, hfailed, controlMessage]
  · -- an object of another event is not decoded
    refine iff_of_false ?_ (by simp [hheartbeat, hstatus, hsubscription])
    rintro ⟨msg, hdecode, -⟩
    rcases (krakenWsDecoder_isOk_iff _).1 ⟨msg, hdecode⟩ with ⟨event, hevent, hin⟩ | ⟨xs, hxs, -⟩
    · rw [isEvent_iff] at hin
      simp only [List.mem_cons, List.not_mem_nil, or_false] at hevent
      rcases hevent with rfl | rfl | rfl
      · exact hheartbeat hin
      · exact hstatus hin
      · exact hsubscription hin
    · cases hxs

/-- The shape of an array by its last two elements. -/
theorem pairShape_append (front : List PyValue) (channel pair : PyValue) :
    pairShape (front ++ [channel, pair]) =
      match channel, pair with
      | .str channel, .str pair => .ofPair channel pair
      | _, _ => .other := by
  have hdrop : (front ++ [channel, pair]).drop ((front ++ [channel, pair]).length - 2) =
      [channel, pair] := by
    rw [List.length_append, List.length_cons, List.length_singleton, Nat.add_sub_cancel,
      List.drop_left]
  unfold pairShape
  rw [hdrop]
  cases channel <;> cases pair <;> rfl

theorem arrayShape_ofPair {xs : List PyValue} {channel pair : String}
    (h : arrayShape xs = .ofPair channel pair) :
    ∃ front, xs = front ++ [.str channel, .str pair] := by
  unfold arrayShape at h
  split at h
  · cases h
  · split_ifs at h with hlength
    obtain ⟨front, x, y, rfl⟩ := exists_eq_append_pair (show 2 ≤ xs.length by omega)
    rw [pairShape_append] at h
    split at h
    · cases h
      exact ⟨front, rfl⟩
    · cases h

/-- A private frame has its sequence record where a public one has the pair. -/
theorem arrayShape_ofAccount {xs : List PyValue} {channel : String}
    (h : arrayShape xs = .ofAccount channel) :
    ∃ entries kvs, xs = [.list entries, .str channel, .dict kvs] := by
  unfold arrayShape at h
  split at h
  · rename_i entries channel' kvs
    cases h
    exact ⟨entries, kvs, rfl⟩
  · split_ifs at h
    unfold pairShape at h
    split at h <;> cases h

theorem array_faithful_iff (xs : List PyValue) :
    (Frame.array xs).Faithful ↔ (Frame.array xs).Expected := by
  unfold Frame.Faithful Frame.Expected Frame.Describes
  dsimp only [Frame.value]
  cases hshape : arrayShape xs with
  | ofPair channel pair =>
      obtain ⟨front, hxs⟩ := arrayShape_ofPair hshape
      have hlength : 2 ≤ xs.length := by
        rw [hxs, List.length_append]
        exact Nat.le_add_left 2 _
      have hpayload : xs[1]? = some xs[1] := List.getElem?_eq_getElem (by omega)
      exact iff_of_true ⟨_, krakenWsDecoder_array hxs hpayload, rfl, rfl, rfl, hpayload⟩
        ⟨channel, pair, rfl⟩
  | ofAccount channel =>
      obtain ⟨entries, kvs, rfl⟩ := arrayShape_ofAccount hshape
      refine iff_of_false ?_ (by simp)
      rintro ⟨msg, hdecode, -, -, hpair⟩
      have hdata : krakenWsDecoder (.list ([.list entries] ++ [.str channel, .dict kvs])) =
          .ok (dataMessage (.str channel) (.dict kvs) (.str channel)) :=
        krakenWsDecoder_array rfl rfl
      cases hdata.symm.trans hdecode
      cases hpair
  | other =>
      -- whatever is decoded of an array is data
      refine iff_of_false ?_ (by simp)
      rintro ⟨msg, hdecode, hkind⟩
      rcases (krakenWsDecoder_isOk_iff _).1 ⟨msg, hdecode⟩ with ⟨_, _, hin⟩ | ⟨xs', hxs', hlength⟩
      · cases hin
      · cases hxs'
        obtain ⟨front, channel, pair, hxs⟩ := exists_eq_append_pair hlength
        have hpayload : xs[1]? = some xs[1] := List.getElem?_eq_getElem (by omega)
        cases (krakenWsDecoder_array hxs hpayload).symm.trans hdecode
        cases hkind

/-- Frames are decoded to what they stand for exactly when they are expected: objects of the
known events, failed subscriptions apart, and public data frames. -/
theorem krakenWsDecoder_faithful_iff (frame : Frame) : frame.Faithful ↔ frame.Expected := by
  cases frame with
  | object kvs => exact object_faithful_iff kvs
  | array xs => exact array_faithful_iff xs

/-- An object of another event and an empty array are not decoded, a failed subscription is
acknowledged, and a private frame has a pair. -/
theorem krakenWsDecoder_unfaithful :
    krakenWsDecoder (.dict [("event", .str "pong")]) = .error .assertionError ∧
      krakenWsDecoder (.list []) = .error .indexError ∧
      (∃ msg, krakenWsDecoder (.dict [("event", .str "subscriptionStatus"),
        ("status", .str "error"), ("errorMessage", .str "Subscription depth not supported")]) =
          .ok msg ∧ msg.kind = .subscribeAck ∧ msg.error = .none) ∧
      (∃ msg, krakenWsDecoder (.list [.list [], .str "ownTrades", .dict [("sequence", .int 1)]]) =
        .ok msg ∧ msg.pair = .dict [("sequence", .int 1)]) ∧
      ¬ ∀ frame : Frame, frame.Faithful := by
  have hpong : krakenWsDecoder (.dict [("event", .str "pong")]) = .error .assertionError := rfl
  refine ⟨hpong, rfl, ⟨_, rfl, rfl, rfl⟩, ⟨_, rfl, rfl⟩, fun h => ?_⟩
  obtain ⟨msg, hdecode, -⟩ := h (.object [("event", .str "pong")])
  cases hpong.symm.trans hdecode

end Kraken
end MarketConnector
