import Mathlib.Data.List.Perm.Subperm
import MarketConnector.Foundations.Calendar
import MarketConnector.Foundations.Decimal
import MarketConnector.Foundations.PyValue
import MarketConnector.Foundations.Splitting
import MarketConnector.Ib.ContractResolver
import MarketConnector.Ib.Pacing

/-!
# Ib - Candles

`get_candles` asks IB for the duration of `limit` bars and makes a candle of each bar it gets.
A duration of up to a day is asked for in seconds, a longer one in whole days.

Main results:

- Theorem `candleRequest_covers`: `limit` bars fit into the requested duration, which is less
  than a day longer.
- Theorem `candleWindow_iff`: at most `limit` candles are returned exactly when the duration
  need not be rounded up.
- Theorem `barEpoch_dateText` and `barEpoch_dateTimeText`: the texts of dates and times are read
  as the dates and times.
-/

namespace MarketConnector
namespace Ib

open Foundations
open ContractResolver

/-! ## Intervals -/

/-- `_INTERVAL_SECONDS`. -/
def intervalSeconds : List (String × Int) :=
  [("1m", 60), ("5m", 300), ("15m", 900), ("30m", 1800), ("1h", 3600), ("4h", 14400),
    ("1d", 86400)]

/-- `_IB_BAR_SIZE`. -/
def ibBarSize : List (String × String) :=
  [("1m", "1 min"), ("5m", "5 mins"), ("15m", "15 mins"), ("30m", "30 mins"), ("1h", "1 hour"),
    ("4h", "4 hours"), ("1d", "1 day")]

/-- What `get_candles` raises; `raised` are the errors of the resolver and of IB. -/
inductive CandleError (E : Type) where
  | invalidIntervalError (message : String)
  | raised (error : E)
  | decimalError (error : PyError)

/-- `to_ib_bar_size`. -/
def toIbBarSize {E : Type} (reprText : String → String) (interval : String) :
    Except (CandleError E) String :=
  match ibBarSize.lookup interval with
  | some barSize => .ok barSize
  | none => .error (.invalidIntervalError
      ("Interval " ++ reprText interval ++ " has no IB bar-size mapping. Supported: " ++
        ", ".intercalate (ibBarSize.map Prod.fst)))

/-- `_duration_string`. -/
def durationString (interval : String) (limit : Int) : String :=
  if interval = "1d" then toString limit ++ " D"
  else
    let secs := (intervalSeconds.lookup interval).getD 0 * limit
    if secs ≤ 86400 then toString secs ++ " S"
    else toString ((secs + 86399) / 86400) ++ " D"

/-! ## Bars -/

/-- The date of a bar; `other` is a value of any other type. -/
inductive BarDate where
  | dateTime (t : DateTime)
  | date (d : CivilDate)
  | text (s : String)
  | other

/-- `_bar_epoch`; `none` when the date cannot be parsed. -/
def barEpoch : BarDate → Option Rat
  | .dateTime t =>
      let t := if t.utcOffset = none then { t with utcOffset := some 0 } else t
      some t.timestamp
  | .date d => some d.midnight.timestamp
  | .text s =>
      let format : List Directive :=
        if ' ' ∈ s.toList then
          [.year, .month, .day, .blanks, .hour, .literal ':', .minute, .literal ':', .second]
        else [.year, .month, .day]
      (strptime isSpace format s).map fun t => { t with utcOffset := some 0 }.timestamp
  | .other => none

/-- A bar of IB; the numbers are what `Decimal(str(..))` makes of them, `openPrice` is `open`. -/
structure Bar where
  date : BarDate
  openPrice : Except PyError Decimal
  high : Except PyError Decimal
  low : Except PyError Decimal
  close : Except PyError Decimal
  volume : Except PyError Decimal

structure CandleData where
  tradingPair : String
  timestamp : Rat
  interval : String
  openPrice : Decimal
  high : Decimal
  low : Decimal
  close : Decimal
  volume : Decimal

/-- The candle of a bar; `none` when its date cannot be parsed.  IB reports the volume -1 when
there is none. -/
def candleOf (label interval : String) (bar : Bar) : Except PyError (Option CandleData) :=
  match barEpoch bar.date with
  | none => .ok none
  | some timestamp => do
      let openPrice ← bar.openPrice
      let high ← bar.high
      let low ← bar.low
      let close ← bar.close
      let volume ← bar.volume
      return some {
        tradingPair := label
        timestamp := timestamp
        interval := interval
        openPrice := openPrice
        high := high
        low := low
        close := close
        volume := if volume.value = -1 then Decimal.ofNat 0 else volume }

/-- The loop over the bars. -/
def candlesOf (label interval : String) : List Bar → Except PyError (List CandleData)
  | [] => .ok []
  | bar :: bars => do
      let candle ← candleOf label interval bar
      let candles ← candlesOf label interval bars
      return candle.toList ++ candles

/-! ## Requests -/

/-- `contract_key`: the conId, or other fields where it is 0. -/
inductive ContractKey where
  | conId (conId : Int)
  | fields (symbol secType exchange currency : String)
deriving DecidableEq

/-- Arguments of `reqHistoricalDataAsync`. -/
structure CandleRequest where
  contract : IbContract
  endDateTime : String
  durationStr : String
  barSizeSetting : String
  whatToShow : String
  useRTH : Bool

namespace CandleRequest

variable (r : CandleRequest)

def contractKey : ContractKey :=
  if r.contract.conId ≠ 0 then .conId r.contract.conId
  else .fields r.contract.symbol r.contract.secType r.contract.exchange r.contract.currency

/-- Arguments of `pacer.historical`. -/
def pacing :
    HistoricalRequest ContractKey (ContractKey × String × String × String × String × Bool) where
  contractKey := r.contractKey
  exchange := r.contract.exchange
  whatToShow := r.whatToShow
  barSize := r.barSizeSetting
  requestKey :=
    (r.contractKey, r.endDateTime, r.durationStr, r.barSizeSetting, r.whatToShow, r.useRTH)

end CandleRequest

/-- The fields of a reference besides its symbol and conId. -/
structure QuotedFields (Rest : Type) where
  quoteCurrency : Option String
  rest : Rest

section Host

variable {Rest E : Type}

/-- `InstrumentRef | ConnectorPair`. -/
inductive Target (Rest : Type) where
  | ref (ref : InstrumentRef (QuotedFields Rest))
  | pair (tradingPair : String)

/-- The resolver and the transport: what a call returns or raises.  `historical` is a request
sent in the pacer's body. -/
structure CandleHost (Rest E : Type) where
  reprText : String → String
  resolve : InstrumentRef (QuotedFields Rest) → Except E (ResolvedContract (QuotedFields Rest))
  resolveFromPair : String → Except E (ResolvedContract (QuotedFields Rest))
  historical :
    HistoricalRequest ContractKey (ContractKey × String × String × String × String × Bool) →
      CandleRequest → Except E (List Bar)

/-- `resolve_target`. -/
def resolveTarget (host : CandleHost Rest E) :
    Target Rest → Except E (ResolvedContract (QuotedFields Rest) × String)
  | .ref ref => do
      let label := match ref.other.quoteCurrency with
        | some quote => if quote ≠ "" then ref.symbol ++ "-" ++ quote else ref.symbol
        | none => ref.symbol
      return (← host.resolve ref, label)
  | .pair tradingPair => return (← host.resolveFromPair tradingPair, tradingPair)

/-- The request that `get_candles` sends, and the label of its candles. -/
def candleRequest (host : CandleHost Rest E) (target : Target Rest) (interval : String)
    (limit : Int) : Except (CandleError E) (CandleRequest × String) := do
  let barSize ← toIbBarSize host.reprText interval
  let (contract, label) ← (resolveTarget host target).mapError .raised
  return ({
    contract := contract.native
    endDateTime := ""
    durationStr := durationString interval limit
    barSizeSetting := barSize
    whatToShow := "TRADES"
    useRTH := false }, label)

/-- `get_candles`. -/
def getCandles (host : CandleHost Rest E) (target : Target Rest) (interval : String)
    (limit : Int) : Except (CandleError E) (List CandleData) := do
  let (request, label) ← candleRequest host target interval limit
  let bars ← (host.historical request.pacing request).mapError .raised
  (candlesOf label interval bars).mapError .decimalError

theorem candleRequest_eq_ok {host : CandleHost Rest E} {target : Target Rest} {interval : String}
    {limit : Int} {request : CandleRequest} {label : String} :
    candleRequest host target interval limit = .ok (request, label) ↔
      ∃ barSize contract, toIbBarSize (E := E) host.reprText interval = .ok barSize ∧
        resolveTarget host target = .ok (contract, label) ∧
          request = ⟨contract.native, "", durationString interval limit, barSize, "TRADES",
            false⟩ := by
  constructor
  · intro h
    obtain ⟨barSize, hsize, h⟩ := bind_eq_ok.mp h
    obtain ⟨⟨contract, label'⟩, htarget, h⟩ := bind_eq_ok.mp h
    cases h
    exact ⟨barSize, contract, hsize, mapError_eq_ok.mp htarget, rfl⟩
  · rintro ⟨barSize, contract, hsize, htarget, rfl⟩
    refine bind_eq_ok.mpr ⟨barSize, hsize, ?_⟩
    exact bind_eq_ok.mpr ⟨(contract, label), mapError_eq_ok.mpr htarget, rfl⟩

theorem getCandles_eq_ok {host : CandleHost Rest E} {target : Target Rest} {interval : String}
    {limit : Int} {candles : List CandleData} :
    getCandles host target interval limit = .ok candles ↔
      ∃ request label bars, candleRequest host target interval limit = .ok (request, label) ∧
        host.historical request.pacing request = .ok bars ∧
          candlesOf label interval bars = .ok candles := by
  constructor
  · intro h
    obtain ⟨⟨request, label⟩, hrequest, h⟩ := bind_eq_ok.mp h
    obtain ⟨bars, hbars, h⟩ := bind_eq_ok.mp h
    exact ⟨request, label, bars, hrequest, mapError_eq_ok.mp hbars, mapError_eq_ok.mp h⟩
  · rintro ⟨request, label, bars, hrequest, hbars, hcandles⟩
    refine bind_eq_ok.mpr ⟨(request, label), hrequest, ?_⟩
    exact bind_eq_ok.mpr ⟨bars, mapError_eq_ok.mpr hbars, mapError_eq_ok.mpr hcandles⟩

/-! ## The property -/

/-- The seconds of a duration, `N S` or `N D`. -/
def durationSeconds (text : String) : Option Nat :=
  match split [' '] text.toList with
  | [digits, unit] =>
      if !digits.isEmpty && digits.all Char.isDigit then
        match unit with
        | ['S'] => some (Nat.ofDigitChars 10 digits 0)
        | ['D'] => some (Nat.ofDigitChars 10 digits 0 * 86400)
        | _ => none
      else none
  | _ => none

example : durationSeconds "3 D" = some 259200 := by decide

/-- The seconds of a bar of the given size. -/
def barSeconds (barSize : String) : Option Int :=
  (ibBarSize.find? fun e => e.2 = barSize).bind fun e => intervalSeconds.lookup e.1

/-- Each bar has an interval of the duration to itself, in order. -/
def Slotted (seconds duration : Int) (bars : List Bar) : Prop :=
  ∃ slots : List Nat, slots.length = bars.length ∧ slots.Pairwise (· < ·) ∧
    ∀ slot ∈ slots, (slot + 1) * seconds ≤ duration

/-- IB returns at most one bar per interval of the requested duration, in order. -/
def OneBarPerInterval (host : CandleHost Rest E) : Prop :=
  ∀ pacing request bars seconds duration, host.historical pacing request = .ok bars →
    barSeconds request.barSizeSetting = some seconds →
      durationSeconds request.durationStr = some duration → Slotted seconds duration bars

/-- The requested duration covers `limit` bars and less than a day more, and at most `limit`
candles are returned. -/
structure CandleWindow (Rest E : Type) (interval : String) (seconds limit : Int) : Prop where
  covers : ∀ (host : CandleHost Rest E) target request label,
    candleRequest host target interval limit = .ok (request, label) →
      ∃ duration, durationSeconds request.durationStr = some duration ∧
        limit * seconds ≤ duration ∧ duration < limit * seconds + 86400
  bounded : ∀ (host : CandleHost Rest E) target candles, OneBarPerInterval host →
    getCandles host target interval limit = .ok candles → candles.length ≤ limit

/-! ## Durations -/

theorem durationSeconds_repr (n : Nat) (unit : Char) (hunit : unit ≠ ' ') :
    durationSeconds (n.repr ++ String.ofList [' ', unit]) =
      match [unit] with
      | ['S'] => some n
      | ['D'] => some (n * 86400)
      | _ => none := by
  have hdigits : ∀ c ∈ Nat.toDigits 10 n, c.isDigit := fun c hc =>
    Nat.isDigit_of_mem_toDigits (by decide) (by decide) hc
  have hblank : ' ' ∉ Nat.toDigits 10 n := by
    intro hmem
    exact absurd (hdigits ' ' hmem) (by decide)
  have hsplit : split [' '] (n.repr ++ String.ofList [' ', unit]).toList =
      [Nat.toDigits 10 n, [unit]] := by
    rw [String.toList_append, Nat.toList_repr, String.toList_ofList, split_append hblank,
      split_of_notMem (by simpa using hunit.symm)]
  unfold durationSeconds
  rw [hsplit]
  simp only [Nat.ofDigitChars_toDigits (show 1 < 10 by decide) (show 10 ≤ 10 by decide)]
  rw [if_pos]
  simp only [Bool.and_eq_true, Bool.not_eq_true', List.isEmpty_eq_false_iff, List.all_eq_true]
  exact ⟨Nat.toDigits_ne_nil, hdigits⟩

theorem durationSeconds_inSeconds {n : Int} (hn : 0 ≤ n) :
    ∃ duration : Nat, durationSeconds (toString n ++ " S") = some duration ∧ duration = n := by
  obtain ⟨m, rfl⟩ := Int.eq_ofNat_of_zero_le hn
  exact ⟨m, durationSeconds_repr m 'S' (by decide), rfl⟩

theorem durationSeconds_inDays {n : Int} (hn : 0 ≤ n) :
    ∃ duration : Nat,
      durationSeconds (toString n ++ " D") = some duration ∧ duration = n * 86400 := by
  obtain ⟨m, rfl⟩ := Int.eq_ofNat_of_zero_le hn
  exact ⟨m * 86400, durationSeconds_repr m 'D' (by decide), by push_cast; rfl⟩

/-- A time of more than a day in whole days, rounded up. -/
def roundedSeconds (total : Int) : Int :=
  if total ≤ 86400 then total else (total + 86399) / 86400 * 86400

theorem roundedSeconds_bounds {total : Int} :
    total ≤ roundedSeconds total ∧ roundedSeconds total < total + 86400 := by
  unfold roundedSeconds
  split_ifs <;> omega

/-- Rounding changes nothing up to a day and for whole days. -/
theorem roundedSeconds_eq_iff {total : Int} :
    roundedSeconds total = total ↔ total ≤ 86400 ∨ 86400 ∣ total := by
  unfold roundedSeconds
  split_ifs <;> omega

/-- The supported intervals divide a day, and each has a bar size. -/
theorem intervalSeconds_spec : ∀ e ∈ intervalSeconds,
    intervalSeconds.lookup e.1 = some e.2 ∧ 0 < e.2 ∧ e.2 ∣ 86400 ∧
      (e.1 = "1d" → e.2 = 86400) ∧ (ibBarSize.lookup e.1).bind barSeconds = some e.2 := by
  decide

section Interval

variable {interval : String} {seconds limit : Int}

/-- The requested duration is that of `limit` bars, rounded up if it is more than a day. -/
theorem durationSeconds_durationString (hinterval : (interval, seconds) ∈ intervalSeconds)
    (hlimit : 1 ≤ limit) : ∃ duration : Nat,
      durationSeconds (durationString interval limit) = some duration ∧
        duration = roundedSeconds (limit * seconds) := by
  obtain ⟨hlookup, hpos, -, hday, -⟩ := intervalSeconds_spec _ hinterval
  dsimp only at hlookup hpos hday
  by_cases h1d : interval = "1d"
  · have hwhole : roundedSeconds (limit * seconds) = limit * 86400 := by
      rw [hday h1d]
      exact roundedSeconds_eq_iff.mpr (Or.inr (Int.dvd_mul_left _ _))
    rw [durationString, if_pos h1d, hwhole]
    exact durationSeconds_inDays (by omega)
  · have htotal : 0 < limit * seconds := Int.mul_pos (by omega) hpos
    have hsecs : (intervalSeconds.lookup interval).getD 0 * limit = limit * seconds := by
      rw [hlookup, Option.getD_some, Int.mul_comm]
    rw [durationString, if_neg h1d, hsecs]
    dsimp only
    unfold roundedSeconds
    split_ifs
    · exact durationSeconds_inSeconds (by omega)
    · exact durationSeconds_inDays (by omega)

/-- `limit` bars fit into the requested duration, which is less than a day longer. -/
theorem candleRequest_covers (hinterval : (interval, seconds) ∈ intervalSeconds)
    (hlimit : 1 ≤ limit) {host : CandleHost Rest E} {target : Target Rest}
    {request : CandleRequest} {label : String}
    (h : candleRequest host target interval limit = .ok (request, label)) :
    ∃ duration, durationSeconds request.durationStr = some duration ∧
      limit * seconds ≤ duration ∧ duration < limit * seconds + 86400 := by
  obtain ⟨barSize, contract, -, -, rfl⟩ := candleRequest_eq_ok.mp h
  obtain ⟨duration, hduration, hrounded⟩ := durationSeconds_durationString hinterval hlimit
  refine ⟨duration, hduration, ?_⟩
  rw [hrounded]
  exact roundedSeconds_bounds

end Interval

/-! ## Bars of a duration -/

/-- There are at most as many bars as intervals. -/
theorem Slotted.length_le {seconds duration : Int} {bars : List Bar}
    (h : Slotted seconds duration bars) (hseconds : 0 < seconds) (hduration : 0 ≤ duration) :
    bars.length ≤ duration / seconds := by
  obtain ⟨slots, hlength, hordered, hfits⟩ := h
  have hcount : 0 ≤ duration / seconds := Int.ediv_nonneg hduration (by omega)
  have hsubset : slots ⊆ List.range (duration / seconds).toNat := by
    intro slot hslot
    have hslot' := (Int.le_ediv_iff_mul_le hseconds).mpr (hfits slot hslot)
    rw [List.mem_range]
    omega
  have hnodup : slots.Nodup := hordered.imp Nat.ne_of_lt
  have hle := (hnodup.subperm hsubset).length_le
  rw [List.length_range] at hle
  omega

/-- A bar in each interval. -/
theorem slotted_range {seconds duration : Int} (hseconds : 0 < seconds) (bars : Nat → Bar) :
    Slotted seconds duration ((List.range (duration / seconds).toNat).map bars) := by
  refine ⟨List.range (duration / seconds).toNat, by rw [List.length_map],
    List.pairwise_lt_range, ?_⟩
  intro slot hslot
  rw [List.mem_range] at hslot
  exact (Int.le_ediv_iff_mul_le hseconds).mp (by omega)

/-- No bar makes more than one candle. -/
theorem length_candlesOf_le {label interval : String} {bars : List Bar}
    {candles : List CandleData} (h : candlesOf label interval bars = .ok candles) :
    candles.length ≤ bars.length := by
  induction bars generalizing candles with
  | nil =>
      cases h
      exact le_rfl
  | cons bar bars ih =>
      obtain ⟨candle, -, h⟩ := bind_eq_ok.mp h
      obtain ⟨rest, hrest, h⟩ := bind_eq_ok.mp h
      cases h
      have hcandle : candle.toList.length ≤ 1 := by
        cases candle <;> simp
      have := ih hrest
      rw [List.length_append, List.length_cons]
      omega

/-- A bar with a date and numbers makes a candle. -/
theorem length_candlesOf {label interval : String} {bars : List Bar}
    (h : ∀ bar ∈ bars, ∃ candle, candleOf label interval bar = .ok (some candle)) :
    ∃ candles, candlesOf label interval bars = .ok candles ∧ candles.length = bars.length := by
  induction bars with
  | nil => exact ⟨[], rfl, rfl⟩
  | cons bar bars ih =>
      obtain ⟨candle, hcandle⟩ := h bar List.mem_cons_self
      obtain ⟨rest, hrest, hlength⟩ := ih fun b hb => h b (List.mem_cons_of_mem bar hb)
      refine ⟨candle :: rest, ?_, by rw [List.length_cons, List.length_cons, hlength]⟩
      rw [candlesOf, hcandle, hrest]
      rfl

/-! ## The number of candles -/

theorem barSeconds_of_toIbBarSize {interval barSize : String} {seconds : Int}
    (hinterval : (interval, seconds) ∈ intervalSeconds) {reprText : String → String}
    (h : toIbBarSize (E := E) reprText interval = .ok barSize) :
    barSeconds barSize = some seconds := by
  obtain ⟨-, -, -, -, hbar⟩ := intervalSeconds_spec _ hinterval
  dsimp only at hbar
  unfold toIbBarSize at h
  split at h
  · rename_i found hfound
    cases h
    rwa [hfound] at hbar
  · cases h

section Interval

variable {interval : String} {seconds limit : Int}

/-- The candles are at most the bars that fit into the requested duration. -/
theorem length_getCandles_le (hinterval : (interval, seconds) ∈ intervalSeconds)
    (hlimit : 1 ≤ limit) {host : CandleHost Rest E} (hhost : OneBarPerInterval host)
    {target : Target Rest} {candles : List CandleData}
    (h : getCandles host target interval limit = .ok candles) :
    candles.length ≤ roundedSeconds (limit * seconds) / seconds := by
  obtain ⟨-, hpos, -⟩ := intervalSeconds_spec _ hinterval
  obtain ⟨request, label, bars, hrequest, hbars, hcandles⟩ := getCandles_eq_ok.mp h
  obtain ⟨barSize, contract, hsize, -, rfl⟩ := candleRequest_eq_ok.mp hrequest
  obtain ⟨duration, hduration, hrounded⟩ := durationSeconds_durationString hinterval hlimit
  have hslotted := hhost _ _ bars seconds duration hbars
    (barSeconds_of_toIbBarSize hinterval hsize) hduration
  have hcandles := length_candlesOf_le hcandles
  have hle := hslotted.length_le hpos (Int.natCast_nonneg duration)
  rw [hrounded] at hle
  omega

/-- IB with a bar in each interval of `seconds`. -/
def fullHost (seconds : Int) (contract : ResolvedContract (QuotedFields Rest))
    (bars : Nat → Bar) : CandleHost Rest E where
  reprText text := text
  resolve _ := .ok contract
  resolveFromPair _ := .ok contract
  historical _ request :=
    match durationSeconds request.durationStr with
    | some duration =>
        if barSeconds request.barSizeSetting = some seconds then
          .ok ((List.range ((duration : Int) / seconds).toNat).map bars)
        else .ok []
    | none => .ok []

theorem fullHost_oneBarPerInterval (hseconds : 0 < seconds)
    (contract : ResolvedContract (QuotedFields Rest)) (bars : Nat → Bar) :
    OneBarPerInterval (fullHost (E := E) seconds contract bars) := by
  intro _ request answer seconds' duration hanswer hsize hduration
  simp only [fullHost, hduration, hsize, Option.some.injEq] at hanswer
  split_ifs at hanswer with heq
  · cases hanswer
    rw [heq]
    exact slotted_range hseconds bars
  · cases hanswer
    exact ⟨[], rfl, List.Pairwise.nil, by simp⟩

/-- With a bar in each interval there are as many candles as intervals. -/
theorem length_getCandles_fullHost (hinterval : (interval, seconds) ∈ intervalSeconds)
    (hlimit : 1 ≤ limit) (contract : ResolvedContract (QuotedFields Rest)) {bars : Nat → Bar}
    {label : String}
    (hbars : ∀ k, ∃ candle, candleOf label interval (bars k) = .ok (some candle)) :
    ∃ candles,
      getCandles (fullHost (E := E) seconds contract bars) (.pair label) interval limit =
          .ok candles ∧
        candles.length = roundedSeconds (limit * seconds) / seconds := by
  obtain ⟨-, hpos, -, -, hbar⟩ := intervalSeconds_spec _ hinterval
  obtain ⟨barSize, hsize, hbarSeconds⟩ := Option.bind_eq_some_iff.mp hbar
  obtain ⟨duration, hduration, hrounded⟩ := durationSeconds_durationString hinterval hlimit
  have hreadable : ∀ bar ∈ (List.range ((duration : Int) / seconds).toNat).map bars,
      ∃ candle, candleOf label interval bar = .ok (some candle) := by
    intro bar hbar
    obtain ⟨k, -, rfl⟩ := List.mem_map.mp hbar
    exact hbars k
  obtain ⟨candles, hcandles, hlength⟩ := length_candlesOf hreadable
  refine ⟨candles, getCandles_eq_ok.mpr ⟨_, label, _, candleRequest_eq_ok.mpr
    ⟨barSize, contract, ?_, rfl, rfl⟩, ?_, hcandles⟩, ?_⟩
  · rw [toIbBarSize, hsize]
  · simp only [fullHost, hduration, hbarSeconds, if_true]
  · have hcount : 0 ≤ (duration : Int) / seconds :=
      Int.ediv_nonneg (Int.natCast_nonneg duration) (le_of_lt hpos)
    rw [hlength, List.length_map, List.length_range, ← hrounded]
    omega

/-- More bars than `limit` fit exactly when the duration is rounded up. -/
theorem roundedSeconds_ediv_le_iff (hseconds : 0 < seconds) (hday : seconds ∣ 86400) :
    roundedSeconds (limit * seconds) / seconds ≤ limit ↔
      limit * seconds ≤ 86400 ∨ 86400 ∣ limit * seconds := by
  have hdvd : seconds ∣ roundedSeconds (limit * seconds) := by
    unfold roundedSeconds
    split_ifs
    · exact Int.dvd_mul_left limit seconds
    · exact hday.trans (Int.dvd_mul_left _ _)
  rw [← roundedSeconds_eq_iff]
  constructor
  · intro h
    have hle : roundedSeconds (limit * seconds) ≤ limit * seconds := by
      calc roundedSeconds (limit * seconds)
          = roundedSeconds (limit * seconds) / seconds * seconds := (Int.ediv_mul_cancel hdvd).symm
        _ ≤ limit * seconds := Int.mul_le_mul_of_nonneg_right h (le_of_lt hseconds)
    exact le_antisymm hle roundedSeconds_bounds.1
  · intro h
    rw [h, Int.mul_ediv_cancel _ (ne_of_gt hseconds)]

end Interval

/-! ## When the window is kept -/

/-- A bar of 2026-10-26 or 2026-10-27, by its hour. -/
def hourBar (k : Nat) : Bar where
  date := .dateTime {
    date := if k < 24 then ⟨2026, 10, 26, by decide, by decide, by decide⟩
      else ⟨2026, 10, 27, by decide, by decide, by decide⟩
    hour := k % 24
    minute := 0
    second := 0
    microsecond := 0
    utcOffset := some 0
    time_mem := ⟨Nat.mod_lt k (by decide), by decide, by decide, by decide⟩ }
  openPrice := .ok (.ofNat 150)
  high := .ok (.ofNat 151)
  low := .ok (.ofNat 149)
  close := .ok (.ofNat 150)
  volume := .ok (.ofNat 1000)

theorem candleOf_hourBar (label interval : String) (k : Nat) :
    ∃ candle, candleOf label interval (hourBar k) = .ok (some candle) :=
  ⟨_, rfl⟩

/-- A contract for any pair. -/
def pairContract [Inhabited Rest] : ResolvedContract (QuotedFields Rest) :=
  let native : IbContract := ⟨"AAPL", "STK", "SMART", "NASDAQ", "USD", 265598⟩
  ⟨⟨"AAPL", none, ⟨some "USD", default⟩⟩, native, 265598, ⟨native, none⟩⟩

/-- `limit` candles at most are returned exactly when the duration is not rounded up: it is a day
or less, or it is in whole days. -/
theorem candleWindow_iff [Inhabited Rest] {interval : String} {seconds limit : Int}
    (hinterval : (interval, seconds) ∈ intervalSeconds) (hlimit : 1 ≤ limit) :
    CandleWindow Rest E interval seconds limit ↔
      limit * seconds ≤ 86400 ∨ 86400 ∣ limit * seconds := by
  obtain ⟨-, hpos, hday, -⟩ := intervalSeconds_spec _ hinterval
  rw [← roundedSeconds_ediv_le_iff hpos hday]
  constructor
  · intro h
    let contract : ResolvedContract (QuotedFields Rest) := pairContract
    obtain ⟨candles, hcandles, hlength⟩ := length_getCandles_fullHost (E := E) hinterval hlimit
      contract (candleOf_hourBar "AAPL-USD" interval)
    rw [← hlength]
    exact h.bounded _ _ _ (fullHost_oneBarPerInterval hpos _ _) hcandles
  · intro hfits
    refine ⟨fun _ _ _ _ => candleRequest_covers hinterval hlimit, ?_⟩
    intro host target candles hhost hcandles
    exact le_trans (length_getCandles_le hinterval hlimit hhost hcandles) hfits

theorem candleWindow_twoDays : CandleWindow Unit Unit "1h" 3600 48 :=
  (candleWindow_iff (by decide) (by decide)).mpr (Or.inr (by decide))

/-- IB with a bar in each hour. -/
def hourHost : CandleHost Unit Unit :=
  fullHost 3600 pairContract hourBar

/-- 25 hours are asked for as 2 days, which makes 48 candles. -/
theorem hourly_exceeds_limit :
    (∃ candles, getCandles hourHost (.pair "AAPL-USD") "1h" 25 = .ok candles ∧
      (candles.length : Int) = 48) ∧ ¬CandleWindow Unit Unit "1h" 3600 25 := by
  have hfull : ∃ candles, getCandles hourHost (.pair "AAPL-USD") "1h" 25 = .ok candles ∧
      (candles.length : Int) = roundedSeconds (25 * 3600) / 3600 :=
    length_getCandles_fullHost (by decide) (by decide) pairContract
      (candleOf_hourBar "AAPL-USD" "1h")
  obtain ⟨candles, hcandles, hlength⟩ := hfull
  have hcount : (candles.length : Int) = 48 := hlength.trans (by decide)
  refine ⟨⟨candles, hcandles, hcount⟩, fun h => ?_⟩
  have hle := h.bounded hourHost _ _ (fullHost_oneBarPerInterval (by decide) _ _) hcandles
  omega

end Host

/-! ## Texts of dates -/

/-- The text of a date is read as the date. -/
theorem barEpoch_dateText (d : CivilDate) :
    barEpoch (.text (String.ofList d.digits)) = barEpoch (.date d) := by
  simp only [barEpoch, String.toList_ofList, d.blank_notMem_digits, if_false, strptime_date]
  rfl

/-- The text of a time is read as the time in UTC, to the second. -/
theorem barEpoch_dateTimeText (t : DateTime) :
    barEpoch (.text (String.ofList (t.date.digits ++ ' ' :: t.clockDigits))) =
      barEpoch (.dateTime { t.wholeSeconds with utcOffset := none }) := by
  have hblank : ' ' ∈ t.date.digits ++ ' ' :: t.clockDigits :=
    List.mem_append_right _ List.mem_cons_self
  have hdigit : ∀ n, n < 10 → isSpace (Nat.digitChar n) = false := by decide
  simp only [barEpoch, String.toList_ofList, hblank, if_true,
    strptime_dateTime (show isSpace ' ' = true by decide) hdigit]
  rfl

end Ib
end MarketConnector
