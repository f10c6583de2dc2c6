import Mathlib.Algebra.Order.Ring.Rat
import Mathlib.Algebra.Order.Field.Rat
import Mathlib.Data.Rat.Defs
import Mathlib.Tactic.FieldSimp
import Mathlib.Tactic.Linarith
import Mathlib.Tactic.Ring

/-!
# Foundations - Dates and times of day

Dates of the proleptic Gregorian calendar, times with an optional offset, and the reading of
texts in a given format.

Main results:

- Definitions `CivilDate.epochDay` and `DateTime.timestamp`: days and seconds since the epoch.
- Definition `strptime`: reading a text in a format.
-/

namespace Foundations

/-! ## Dates -/

def isLeap (year : Nat) : Bool :=
  year % 4 = 0 && (year % 100 ≠ 0 || year % 400 = 0)

def daysInMonth (year month : Nat) : Nat :=
  if month = 2 then (if isLeap year then 29 else 28)
  else if month ∈ [4, 6, 9, 11] then 30 else 31

/-- A date of the years 1 to 9999. -/
structure CivilDate where
  year : Nat
  month : Nat
  day : Nat
  year_mem : 1 ≤ year ∧ year ≤ 9999
  month_mem : 1 ≤ month ∧ month ≤ 12
  day_mem : 1 ≤ day ∧ day ≤ daysInMonth year month

namespace CivilDate

/-- `date.toordinal()`: the first day of year 1 is day 1. -/
def toOrdinal (d : CivilDate) : Nat :=
  let before := d.year - 1
  before * 365 + before / 4 - before / 100 + before / 400 +
    (List.range (d.month - 1)).foldl (fun days m => days + daysInMonth d.year (m + 1)) 0 + d.day

/-- Days since 1970-01-01. -/
def epochDay (d : CivilDate) : Int :=
  d.toOrdinal - 719163

/-- `date(year, month, day)`. -/
def ofFields? (year month day : Nat) : Option CivilDate :=
  if h : (1 ≤ year ∧ year ≤ 9999) ∧ (1 ≤ month ∧ month ≤ 12) ∧
      1 ≤ day ∧ day ≤ daysInMonth year month then
    some ⟨year, month, day, h.1, h.2.1, h.2.2⟩
  else none

example : (ofFields? 2026 10 26).map epochDay = some 20752 := by decide

/-! ## Dates of days -/

/-- Days before a year. -/
def daysBeforeYear (year : Nat) : Nat :=
  let before := year - 1
  before * 365 + before / 4 - before / 100 + before / 400

/-- Days of a year before a month. -/
def daysBeforeMonth (year month : Nat) : Nat :=
  (List.range (month - 1)).foldl (fun days m => days + daysInMonth year (m + 1)) 0

/-- The year of the day `n`, counted from zero, and the day in that year. -/
def yearOfDay (n : Nat) : Nat × Nat :=
  let inEra := n % 146097
  let inCentury := inEra % 36524
  let inCycle := inCentury % 1461
  let year := n / 146097 * 400 + inEra / 36524 * 100 + inCentury / 1461 * 4 + inCycle / 365 + 1
  -- the last day of a cycle, or of an era, would start a fifth year, or century
  if inCycle / 365 = 4 ∨ inEra / 36524 = 4 then (year - 1, 365) else (year, inCycle % 365)

/-- `date.fromordinal(n)`; `none` is `ValueError`. -/
def ofOrdinal? (n : Nat) : Option CivilDate :=
  if n = 0 then none
  else
    let (year, inYear) := yearOfDay (n - 1)
    match (List.range 12).find? fun m => inYear < daysBeforeMonth year (m + 2) with
    | none => none
    | some m => ofFields? year (m + 1) (inYear - daysBeforeMonth year (m + 1) + 1)

example : (ofOrdinal? 739850).map toOrdinal = some 739850 := by decide

/-- Days of whole eras, centuries, cycles and years. -/
theorem daysBeforeYear_succ {a c e f : Nat} (hc : c ≤ 3) (he : e ≤ 24) (hf : f ≤ 3) :
    daysBeforeYear (a * 400 + c * 100 + e * 4 + f + 1) =
      a * 146097 + c * 36524 + e * 1461 + f * 365 := by
  have hcycles : (a * 400 + c * 100 + e * 4 + f) / 4 = a * 100 + c * 25 + e := by omega
  have hcenturies : (a * 400 + c * 100 + e * 4 + f) / 100 = a * 4 + c := by omega
  have heras : (a * 400 + c * 100 + e * 4 + f) / 400 = a := by omega
  unfold daysBeforeYear
  rw [Nat.add_sub_cancel]
  dsimp only
  rw [hcycles, hcenturies, heras]
  omega

theorem daysBeforeYear_yearOfDay (n : Nat) :
    daysBeforeYear (yearOfDay n).1 + (yearOfDay n).2 = n := by
  unfold yearOfDay
  dsimp only
  have hera : n % 146097 < 146097 := Nat.mod_lt _ (by decide)
  have hcentury : n % 146097 % 36524 < 36524 := Nat.mod_lt _ (by decide)
  have hcycle : n % 146097 % 36524 % 1461 < 1461 := Nat.mod_lt _ (by decide)
  split_ifs with hlast
  · rcases hlast with hfifth | hfifth
    · have hyear := @daysBeforeYear_succ (n / 146097) (n % 146097 / 36524)
        (n % 146097 % 36524 / 1461) 3 (by omega) (by omega) le_rfl
      rw [hfifth, show ∀ y, y + 4 + 1 - 1 = y + 3 + 1 from fun _ => rfl, hyear]
      omega
    · have hyear := @daysBeforeYear_succ (n / 146097) 3 24 3 le_rfl le_rfl le_rfl
      have hsame : n / 146097 * 400 + n % 146097 / 36524 * 100 +
          n % 146097 % 36524 / 1461 * 4 + n % 146097 % 36524 % 1461 / 365 + 1 - 1 =
          n / 146097 * 400 + 3 * 100 + 24 * 4 + 3 + 1 := by
        omega
      rw [hsame, hyear]
      omega
  · rw [daysBeforeYear_succ (by omega) (by omega) (by omega)]
    omega

/-- The date of a day has that day. -/
theorem toOrdinal_of_ofOrdinal? {n : Nat} {d : CivilDate} (h : ofOrdinal? n = some d) :
    d.toOrdinal = n := by
  unfold ofOrdinal? at h
  split_ifs at h with hzero
  have hyear := daysBeforeYear_yearOfDay (n - 1)
  revert h hyear
  generalize yearOfDay (n - 1) = found
  obtain ⟨year, inYear⟩ := found
  intro h hyear
  dsimp only at h hyear
  cases hfind : (List.range 12).find? fun m => decide (inYear < daysBeforeMonth year (m + 2)) with
  | none => simp [hfind] at h
  | some m =>
      obtain ⟨-, -, hbefore⟩ := List.find?_range_eq_some.1 hfind
      simp only [hfind, ofFields?] at h
      split_ifs at h
      cases h
      have hle : daysBeforeMonth year (m + 1) ≤ inYear := by
        cases m with
        | zero => exact Nat.zero_le _
        | succ m => simpa using hbefore m (Nat.lt_succ_self m)
      have hday : daysBeforeYear year + daysBeforeMonth year (m + 1) +
          (inYear - daysBeforeMonth year (m + 1) + 1) = n := by
        omega
      exact hday

end CivilDate

/-! ## Times -/

/-- A date with a time of day; the offset from UTC is in microseconds, and `none` for a naive
time. -/
structure DateTime where
  date : CivilDate
  hour : Nat
  minute : Nat
  second : Nat
  microsecond : Nat
  utcOffset : Option Int
  time_mem : hour < 24 ∧ minute < 60 ∧ second < 60 ∧ microsecond < 1000000

namespace DateTime

/-- `datetime(year, month, day, hour, minute, second)`. -/
def ofFields? (year month day hour minute second : Nat) : Option DateTime :=
  match CivilDate.ofFields? year month day with
  | none => none
  | some date =>
      if h : hour < 24 ∧ minute < 60 ∧ second < 60 then
        some ⟨date, hour, minute, second, 0, none, h.1, h.2.1, h.2.2, by decide⟩
      else none

/-- `t.timestamp()` of a time with an offset; a naive time is taken as UTC. -/
def timestamp (t : DateTime) : Rat :=
  (t.date.epochDay * 86400 + t.hour * 3600 + t.minute * 60 + t.second : Int) +
    mkRat (t.microsecond - t.utcOffset.getD 0) 1000000

/-- `t.replace(microsecond=0)`. -/
def wholeSeconds (t : DateTime) : DateTime :=
  { t with
    microsecond := 0
    time_mem := ⟨t.time_mem.1, t.time_mem.2.1, t.time_mem.2.2.1, by decide⟩ }

/-- Microseconds of a time with an offset, from midnight UTC before day 0 on. -/
def microseconds (t : DateTime) : Int :=
  (((t.date.toOrdinal * 24 + t.hour) * 60 + t.minute) * 60 + t.second : Nat) * 1000000 +
    t.microsecond - t.utcOffset.getD 0

/-- `t.astimezone(timezone.utc)` of a time with an offset; `none` is `OverflowError`. -/
def toUtc? (t : DateTime) : Option DateTime :=
  let inDay := (t.microseconds % 86400000000).toNat
  match CivilDate.ofOrdinal? (t.microseconds / 86400000000).toNat with
  | none => none
  | some date =>
      some {
        date := date
        hour := inDay / 3600000000
        minute := inDay / 60000000 % 60
        second := inDay / 1000000 % 60
        microsecond := inDay % 1000000
        utcOffset := some 0
        time_mem := by
          have hday : t.microseconds % 86400000000 < 86400000000 :=
            Int.emod_lt_of_pos _ (by decide)
          omega }

theorem timestamp_eq (t : DateTime) :
    t.timestamp = (t.microseconds - 719163 * 86400000000 : Int) / 1000000 := by
  unfold timestamp microseconds CivilDate.epochDay
  rw [Rat.mkRat_eq_div]
  push_cast
  field_simp
  ring

/-- The time in UTC is the same time. -/
theorem timestamp_of_toUtc? {t utc : DateTime} (h : t.toUtc? = some utc) :
    utc.timestamp = t.timestamp := by
  have hsame : utc.microseconds = t.microseconds := by
    unfold toUtc? at h
    dsimp only at h
    cases hdate : CivilDate.ofOrdinal? (t.microseconds / 86400000000).toNat with
    | none => simp [hdate] at h
    | some date =>
        have hordinal := CivilDate.toOrdinal_of_ofOrdinal? hdate
        have hpositive : 0 < date.toOrdinal :=
          Nat.lt_of_lt_of_le date.day_mem.1 (Nat.le_add_left _ _)
        simp only [hdate, Option.some.injEq] at h
        rw [← h]
        unfold microseconds at hordinal ⊢
        simp only [Option.getD_some]
        omega
  rw [timestamp_eq, timestamp_eq, hsame]

theorem utcOffset_of_toUtc? {t utc : DateTime} (h : t.toUtc? = some utc) :
    utc.utcOffset = some 0 := by
  unfold toUtc? at h
  dsimp only at h
  split at h
  · cases h
  · cases h
    rfl

/-- The whole seconds of a time are less than a second before it. -/
theorem timestamp_wholeSeconds (t : DateTime) :
    t.wholeSeconds.timestamp ≤ t.timestamp ∧ t.timestamp < t.wholeSeconds.timestamp + 1 := by
  obtain ⟨-, -, -, hmicro⟩ := t.time_mem
  have hmicro' : (t.microsecond : Rat) < 1000000 := by exact_mod_cast hmicro
  have hnonneg : (0 : Rat) ≤ t.microsecond := Nat.cast_nonneg _
  unfold timestamp wholeSeconds
  simp only [Rat.mkRat_eq_div]
  push_cast
  constructor
  · linarith
  · linarith

end DateTime

/-- Midnight UTC of a date. -/
def CivilDate.midnight (d : CivilDate) : DateTime where
  date := d
  hour := 0
  minute := 0
  second := 0
  microsecond := 0
  utcOffset := some 0
  time_mem := by decide

/-! ## Reading a text -/

/-- Directives of a format. -/
inductive Directive where
  | year | month | day | hour | minute | second
  /-- one or more blanks -/
  | blanks
  | literal (c : Char)

/-- Fields read so far, with the values of those that are not read. -/
structure TimeFields where
  year : Nat := 1900
  month : Nat := 1
  day : Nat := 1
  hour : Nat := 0
  minute : Nat := 0
  second : Nat := 0

def digit? (c : Char) : Option Nat :=
  if c.isDigit then some (c.toNat - 48) else none

/-- A number of one digit, with the text after it. -/
def readDigit (low : Nat) : List Char → List (Nat × List Char)
  | [] => []
  | a :: rest =>
      match digit? a with
      | some n => if low ≤ n then [(n, rest)] else []
      | none => []

/-- A number of two digits, or else of one. -/
def readNumber (low high : Nat) (cs : List Char) : List (Nat × List Char) :=
  (match cs with
    | a :: b :: rest =>
        match digit? a, digit? b with
        | some m, some n =>
            if low ≤ 10 * m + n ∧ 10 * m + n ≤ high then [(10 * m + n, rest)] else []
        | _, _ => []
    | _ => []) ++ readDigit low cs

/-- A number of four digits. -/
def readYear : List Char → List (Nat × List Char)
  | a :: b :: c :: d :: rest =>
      match digit? a, digit? b, digit? c, digit? d with
      | some i, some j, some k, some l => [(1000 * i + 100 * j + 10 * k + l, rest)]
      | _, _, _, _ => []
  | _ => []

/-- A day may have a blank in place of its first digit. -/
def readDay (cs : List Char) : List (Nat × List Char) :=
  readNumber 1 31 cs ++
    match cs with
    | ' ' :: rest => readDigit 1 rest
    | _ => []

/-- The blanks at the start of a text, as many of them as possible first. -/
def readBlanks (isSpace : Char → Bool) (cs : List Char) : List (List Char) :=
  let blanks := (cs.takeWhile isSpace).length
  (List.range blanks).map fun fewer => cs.drop (blanks - fewer)

/-- The ways to read one directive, in the order in which they are tried. -/
def Directive.read (isSpace : Char → Bool) (fields : TimeFields) (cs : List Char) :
    Directive → List (TimeFields × List Char)
  | .year => (readYear cs).map fun (n, rest) => ({ fields with year := n }, rest)
  | .month => (readNumber 1 12 cs).map fun (n, rest) => ({ fields with month := n }, rest)
  | .day => (readDay cs).map fun (n, rest) => ({ fields with day := n }, rest)
  | .hour => (readNumber 0 23 cs).map fun (n, rest) => ({ fields with hour := n }, rest)
  | .minute => (readNumber 0 59 cs).map fun (n, rest) => ({ fields with minute := n }, rest)
  | .second => (readNumber 0 61 cs).map fun (n, rest) => ({ fields with second := n }, rest)
  | .blanks => (readBlanks isSpace cs).map fun rest => (fields, rest)
  | .literal c =>
      match cs with
      | a :: rest => if a = c then [(fields, rest)] else []
      | [] => []

/-- The ways to read the directives of a format one after the other. -/
def readAll (isSpace : Char → Bool) :
    List Directive → TimeFields → List Char → List (TimeFields × List Char)
  | [], fields, cs => [(fields, cs)]
  | directive :: format, fields, cs =>
      (directive.read isSpace fields cs).flatMap fun (fields, rest) =>
        readAll isSpace format fields rest

/-- `datetime.strptime(text, format)`; `none` is `ValueError`.  The first way to read the format
counts, and it has to read the whole text. -/
def strptime (isSpace : Char → Bool) (format : List Directive) (text : String) :
    Option DateTime :=
  match (readAll isSpace format {} text.toList).head? with
  | some (fields, []) =>
      DateTime.ofFields? fields.year fields.month fields.day fields.hour fields.minute
        fields.second
  | _ => none

/-! ## Texts that are read back -/

/-- The decimal digits of a number below 100. -/
def twoDigits (n : Nat) : List Char :=
  [Nat.digitChar (n / 10), Nat.digitChar (n % 10)]

/-- `format(d, "%Y%m%d")`. -/
def CivilDate.digits (d : CivilDate) : List Char :=
  twoDigits (d.year / 100) ++ twoDigits (d.year % 100) ++ twoDigits d.month ++ twoDigits d.day

/-- `format(t, "%H:%M:%S")`. -/
def DateTime.clockDigits (t : DateTime) : List Char :=
  twoDigits t.hour ++ ':' :: twoDigits t.minute ++ ':' :: twoDigits t.second

theorem digit?_digitChar {n : Nat} (h : n < 10) : digit? (Nat.digitChar n) = some n := by
  revert n
  decide

theorem blank_notMem_twoDigits {n : Nat} (h : n < 100) : ' ' ∉ twoDigits n := by
  revert n
  decide

theorem CivilDate.day_le (d : CivilDate) : d.day ≤ 31 := by
  have hday := d.day_mem.2
  unfold daysInMonth at hday
  split_ifs at hday <;> omega

theorem CivilDate.blank_notMem_digits (d : CivilDate) : ' ' ∉ d.digits := by
  have hyear := d.year_mem
  have hmonth := d.month_mem
  have hday := d.day_le
  simp only [CivilDate.digits, List.mem_append, not_or]
  exact ⟨⟨⟨blank_notMem_twoDigits (by omega), blank_notMem_twoDigits (by omega)⟩,
    blank_notMem_twoDigits (by omega)⟩, blank_notMem_twoDigits (by omega)⟩

/-- Two digits are read before one. -/
theorem readNumber_twoDigits {low high n : Nat} (hlow : low ≤ n) (hhigh : n ≤ high)
    (hn : n < 100) (rest : List Char) :
    ∃ others, readNumber low high (twoDigits n ++ rest) = (n, rest) :: others := by
  have hvalue : 10 * (n / 10) + n % 10 = n := Nat.div_add_mod n 10
  refine ⟨readDigit low (twoDigits n ++ rest), ?_⟩
  unfold readNumber
  simp only [twoDigits, List.cons_append, List.nil_append,
    digit?_digitChar (show n / 10 < 10 by omega), digit?_digitChar (Nat.mod_lt n (by decide)),
    hvalue, hlow, hhigh, and_self, if_true]

theorem readDay_twoDigits {n : Nat} (hlow : 1 ≤ n) (hhigh : n ≤ 31) (rest : List Char) :
    ∃ others, readDay (twoDigits n ++ rest) = (n, rest) :: others := by
  obtain ⟨others, hothers⟩ := readNumber_twoDigits hlow hhigh (by omega) rest
  unfold readDay
  rw [hothers, List.cons_append]
  exact ⟨_, rfl⟩

theorem readYear_twoDigits {n : Nat} (hn : n < 10000) (rest : List Char) :
    readYear (twoDigits (n / 100) ++ twoDigits (n % 100) ++ rest) = [(n, rest)] := by
  have hvalue : 1000 * (n / 100 / 10) + 100 * (n / 100 % 10) + 10 * (n % 100 / 10) +
      n % 100 % 10 = n := by
    omega
  simp only [twoDigits, List.cons_append, List.nil_append, readYear,
    digit?_digitChar (show n / 100 / 10 < 10 by omega),
    digit?_digitChar (show n / 100 % 10 < 10 by omega),
    digit?_digitChar (show n % 100 / 10 < 10 by omega),
    digit?_digitChar (show n % 100 % 10 < 10 by omega), hvalue]

section Reading

variable (isSpace : Char → Bool)

/-- The first way to read a format. -/
def Reads (format : List Directive) (fields : TimeFields) (cs : List Char)
    (found : TimeFields × List Char) : Prop :=
  (readAll isSpace format fields cs).head? = some found

variable {isSpace}

theorem Reads.cons {directive : Directive} {format : List Directive} {fields fields' : TimeFields}
    {cs rest : List Char} {found : TimeFields × List Char}
    (hfirst : ∃ others, directive.read isSpace fields cs = (fields', rest) :: others)
    (h : Reads isSpace format fields' rest found) :
    Reads isSpace (directive :: format) fields cs found := by
  obtain ⟨others, hothers⟩ := hfirst
  unfold Reads at h ⊢
  rw [readAll, hothers, List.flatMap_cons, List.head?_append, h]
  rfl

theorem exists_map_cons {α β : Type} {f : α → β} {found : List α} {a : α}
    (h : ∃ others, found = a :: others) : ∃ others, found.map f = f a :: others := by
  obtain ⟨others, rfl⟩ := h
  exact ⟨others.map f, rfl⟩

/-- The digits of a date are read as the date. -/
theorem CivilDate.reads_digits (d : CivilDate) {format : List Directive} {fields : TimeFields}
    {rest : List Char} {found : TimeFields × List Char}
    (h : Reads isSpace format { fields with year := d.year, month := d.month, day := d.day } rest
      found) :
    Reads isSpace (.year :: .month :: .day :: format) fields (d.digits ++ rest) found := by
  have hyear := d.year_mem
  have hmonth := d.month_mem
  have hday := d.day_le
  unfold CivilDate.digits
  rw [List.append_assoc _ (twoDigits d.day), List.append_assoc _ (twoDigits d.month)]
  refine Reads.cons (exists_map_cons ⟨[], readYear_twoDigits (by omega) _⟩) ?_
  refine Reads.cons
    (exists_map_cons (readNumber_twoDigits hmonth.1 hmonth.2 (by omega) _)) ?_
  exact Reads.cons (exists_map_cons (readDay_twoDigits d.day_mem.1 hday rest)) h

/-- The digits of a time of day are read as the time. -/
theorem DateTime.reads_clockDigits (t : DateTime) {format : List Directive} {fields : TimeFields}
    {rest : List Char} {found : TimeFields × List Char}
    (h : Reads isSpace format
      { fields with hour := t.hour, minute := t.minute, second := t.second } rest found) :
    Reads isSpace (.hour :: .literal ':' :: .minute :: .literal ':' :: .second :: format) fields
      (t.clockDigits ++ rest) found := by
  obtain ⟨hhour, hminute, hsecond, -⟩ := t.time_mem
  unfold DateTime.clockDigits
  simp only [List.append_assoc, List.cons_append]
  refine Reads.cons (exists_map_cons
    (readNumber_twoDigits (Nat.zero_le _) (by omega) (by omega) _)) ?_
  refine Reads.cons ⟨[], rfl⟩ ?_
  refine Reads.cons (exists_map_cons
    (readNumber_twoDigits (Nat.zero_le _) (by omega) (by omega) _)) ?_
  refine Reads.cons ⟨[], rfl⟩ ?_
  exact Reads.cons (exists_map_cons
    (readNumber_twoDigits (Nat.zero_le _) (by omega) (by omega) _)) h

/-- One blank before something else is read. -/
theorem Reads.blank (hblank : isSpace ' ' = true) {format : List Directive} {fields : TimeFields}
    {c : Char} {rest : List Char} {found : TimeFields × List Char} (hc : isSpace c = false)
    (h : Reads isSpace format fields (c :: rest) found) :
    Reads isSpace (.blanks :: format) fields (' ' :: c :: rest) found := by
  refine Reads.cons (exists_map_cons ⟨[], ?_⟩) h
  simp [readBlanks, hblank, hc]

/-- The digits of a date alone are midnight of the date. -/
theorem strptime_date (d : CivilDate) :
    strptime isSpace [.year, .month, .day] (String.ofList d.digits) =
      some { d.midnight with utcOffset := none } := by
  have hreads : Reads isSpace [.year, .month, .day] {} d.digits
      ({ year := d.year, month := d.month, day := d.day }, []) := by
    rw [← List.append_nil d.digits]
    exact d.reads_digits rfl
  unfold strptime
  rw [String.toList_ofList, hreads]
  simp [DateTime.ofFields?, CivilDate.ofFields?, d.year_mem, d.month_mem, d.day_mem,
    CivilDate.midnight]

/-- The digits of a date and of a time of day, with a blank between them, are that time. -/
theorem strptime_dateTime (hblank : isSpace ' ' = true)
    (hdigit : ∀ n, n < 10 → isSpace (Nat.digitChar n) = false) (t : DateTime) :
    strptime isSpace
      [.year, .month, .day, .blanks, .hour, .literal ':', .minute, .literal ':', .second]
      (String.ofList (t.date.digits ++ ' ' :: t.clockDigits)) =
      some { t.wholeSeconds with utcOffset := none } := by
  obtain ⟨hhour, hminute, hsecond, -⟩ := t.time_mem
  have hclock : Reads isSpace [.hour, .literal ':', .minute, .literal ':', .second]
      { year := t.date.year, month := t.date.month, day := t.date.day } t.clockDigits
      ({ year := t.date.year, month := t.date.month, day := t.date.day, hour := t.hour,
         minute := t.minute, second := t.second }, []) := by
    rw [← List.append_nil t.clockDigits]
    exact t.reads_clockDigits rfl
  have hreads : Reads isSpace
      [.year, .month, .day, .blanks, .hour, .literal ':', .minute, .literal ':', .second] {}
      (t.date.digits ++ ' ' :: t.clockDigits)
      ({ year := t.date.year, month := t.date.month, day := t.date.day, hour := t.hour,
         minute := t.minute, second := t.second }, []) :=
    t.date.reads_digits (Reads.blank hblank (hdigit (t.hour / 10) (by omega)) hclock)
  unfold strptime
  rw [String.toList_ofList, hreads]
  simp [DateTime.ofFields?, CivilDate.ofFields?, t.date.year_mem, t.date.month_mem,
    t.date.day_mem, DateTime.wholeSeconds, hhour, hminute, hsecond]

/-- The digits of a date and of a time of day, with a dash between them, are that time. -/
theorem strptime_stamp (t : DateTime) :
    strptime isSpace
      [.year, .month, .day, .literal '-', .hour, .literal ':', .minute, .literal ':', .second]
      (String.ofList (t.date.digits ++ '-' :: t.clockDigits)) =
      some { t.wholeSeconds with utcOffset := none } := by
  obtain ⟨hhour, hminute, hsecond, -⟩ := t.time_mem
  have hclock : Reads isSpace [.hour, .literal ':', .minute, .literal ':', .second]
      { year := t.date.year, month := t.date.month, day := t.date.day } t.clockDigits
      ({ year := t.date.year, month := t.date.month, day := t.date.day, hour := t.hour,
         minute := t.minute, second := t.second }, []) := by
    rw [← List.append_nil t.clockDigits]
    exact t.reads_clockDigits rfl
  have hdash : Reads isSpace
      [.literal '-', .hour, .literal ':', .minute, .literal ':', .second]
      { year := t.date.year, month := t.date.month, day := t.date.day } ('-' :: t.clockDigits)
      ({ year := t.date.year, month := t.date.month, day := t.date.day, hour := t.hour,
         minute := t.minute, second := t.second }, []) :=
    Reads.cons ⟨[], rfl⟩ hclock
  have hreads : Reads isSpace
      [.year, .month, .day, .literal '-', .hour, .literal ':', .minute, .literal ':', .second] {}
      (t.date.digits ++ '-' :: t.clockDigits)
      ({ year := t.date.year, month := t.date.month, day := t.date.day, hour := t.hour,
         minute := t.minute, second := t.second }, []) :=
    t.date.reads_digits hdash
  unfold strptime
  rw [String.toList_ofList, hreads]
  simp [DateTime.ofFields?, CivilDate.ofFields?, t.date.year_mem, t.date.month_mem,
    t.date.day_mem, DateTime.wholeSeconds, hhour, hminute, hsecond]

end Reading

end Foundations
