/-
ImportCensus/Timestamp.lean

Dates in timestamps.  A timestamp is a date of the Gregorian calendar, a time of day, and the offset of
its clock, in the profile of ISO 8601 that network protocols use: all fields are there, with their full
number of digits, only the fraction of a second may be missing, and nothing follows.

A timestamp names a moment.  A moment is kept as a clock without an offset shows it, beside the offset of
its own clock, so that reading a timestamp may move the date to the day before or after.  The date that is
shown is that of the moment's own clock.

Main statements: the day before the next day is the day itself, and the other way round
(`previous_next`, `next_previous`), and a moment shows the day that it was made of
(`localDate_ofLocal`).
-/

namespace ImportCensus.Timestamp

/-! ### Fields -/

/-- The number that decimal digits spell. -/
def number? (ds : List Char) : Option Nat :=
  if ds.all Char.isDigit then some (ds.foldl (fun n d => 10 * n + (d.toNat - '0'.toNat)) 0) else none

/-- Is there such a time of day?  A minute may end in a leap second. -/
def isTime (hour minute second : Nat) : Bool :=
  hour < 24 && minute < 60 && second ≤ 60

/-- The letters and the blank that may stand between the date and the time. -/
def isSeparator (c : Char) : Bool :=
  c == 'T' || c == 't' || c == ' '

/-- The signs of an offset. -/
def isSign (c : Char) : Bool :=
  c == '+' || c == '-' || c == '−'

/-! ### The calendar -/

/-- Is a year a leap year? -/
def isLeapYear (year : Int) : Bool :=
  year % 4 == 0 && (year % 100 != 0 || year % 400 == 0)

/-- The number of days of a month. -/
def daysInMonth (year : Int) (month : Nat) : Nat :=
  match month with
  | 2 => if isLeapYear year then 29 else 28
  | 4 | 6 | 9 | 11 => 30
  | _ => 31

/-- Is there such a day in the calendar? -/
def isDate (year : Int) (month day : Nat) : Bool :=
  1 ≤ month && month ≤ 12 && 1 ≤ day && day ≤ daysInMonth year month

/-- A day of the calendar. -/
structure Date where
  year : Int
  month : Nat
  day : Nat
  isDate : isDate year month day = true
  deriving DecidableEq, Repr

theorem isDate_iff {year : Int} {month day : Nat} :
    isDate year month day = true ↔
      1 ≤ month ∧ month ≤ 12 ∧ 1 ≤ day ∧ day ≤ daysInMonth year month := by
  simp [isDate, and_assoc]

theorem daysInMonth_pos (year : Int) (month : Nat) : 1 ≤ daysInMonth year month := by
  unfold daysInMonth
  split
  · split <;> decide
  all_goals decide

namespace Date

/-- The day with the given numbers, if there is one. -/
def of? (year : Int) (month day : Nat) : Option Date :=
  if h : Timestamp.isDate year month day = true then some ⟨year, month, day, h⟩ else none

/-- The first day of a month. -/
def first (year : Int) (month : Nat) (h : 1 ≤ month ∧ month ≤ 12) : Date :=
  ⟨year, month, 1, isDate_iff.2 ⟨h.1, h.2, Nat.le_refl 1, daysInMonth_pos year month⟩⟩

/-- The last day of a month. -/
def last (year : Int) (month : Nat) (h : 1 ≤ month ∧ month ≤ 12) : Date :=
  ⟨year, month, daysInMonth year month,
    isDate_iff.2 ⟨h.1, h.2, daysInMonth_pos year month, Nat.le_refl _⟩⟩

/-- The day after a day. -/
def next (d : Date) : Date :=
  if hday : d.day < daysInMonth d.year d.month then
    ⟨d.year, d.month, d.day + 1, by
      have h := isDate_iff.1 d.isDate
      exact isDate_iff.2 ⟨h.1, h.2.1, Nat.le_add_left 1 d.day, hday⟩⟩
  else if hmonth : d.month < 12 then first d.year (d.month + 1) ⟨Nat.le_add_left 1 d.month, hmonth⟩
  else first (d.year + 1) 1 (by decide)

/-- The day before a day. -/
def previous (d : Date) : Date :=
  if hday : 1 < d.day then
    ⟨d.year, d.month, d.day - 1, by
      have h := isDate_iff.1 d.isDate
      exact isDate_iff.2 ⟨h.1, h.2.1, by omega, by omega⟩⟩
  else if hmonth : 1 < d.month then
    last d.year (d.month - 1) (by have h := isDate_iff.1 d.isDate; omega)
  else last (d.year - 1) 12 (by decide)

/-- A day is its three numbers. -/
theorem eq_of_numbers {a b : Date} (hyear : a.year = b.year) (hmonth : a.month = b.month)
    (hday : a.day = b.day) : a = b := by
  cases a
  cases b
  cases hyear
  cases hmonth
  cases hday
  rfl

/-! The months meet at their first and last days. -/

theorem previous_first_of_lt {year : Int} {month : Nat} {h : 1 ≤ month + 1 ∧ month + 1 ≤ 12}
    (hmonth : 1 ≤ month) :
    (first year (month + 1) h).previous = last year month ⟨hmonth, Nat.le_of_succ_le h.2⟩ :=
  (dif_neg (Nat.lt_irrefl 1)).trans (dif_pos (Nat.succ_lt_succ hmonth))

theorem previous_first_of_year {year : Int} :
    (first year 1 (by decide)).previous = last (year - 1) 12 (by decide) :=
  (dif_neg (Nat.lt_irrefl 1)).trans (dif_neg (Nat.lt_irrefl 1))

theorem next_last_of_lt {year : Int} {month : Nat} {h : 1 ≤ month ∧ month ≤ 12}
    (hmonth : month < 12) :
    (last year month h).next = first year (month + 1) ⟨Nat.le_add_left 1 month, hmonth⟩ :=
  (dif_neg (Nat.lt_irrefl _)).trans (dif_pos hmonth)

theorem next_last_of_year {year : Int} :
    (last year 12 (by decide)).next = first (year + 1) 1 (by decide) :=
  (dif_neg (Nat.lt_irrefl _)).trans (dif_neg (Nat.lt_irrefl 12))

theorem previous_next (d : Date) : d.next.previous = d := by
  have h := isDate_iff.1 d.isDate
  unfold next
  split
  · next hday =>
    -- within a month
    rw [previous, dif_pos (show 1 < d.day + 1 by omega)]
    exact eq_of_numbers rfl rfl rfl
  · next hday =>
    have hlast : daysInMonth d.year d.month = d.day := by omega
    split
    · next hmonth =>
      calc (first d.year (d.month + 1) _).previous
          = last d.year d.month ⟨h.1, h.2.1⟩ := previous_first_of_lt (by omega)
        _ = d := eq_of_numbers rfl rfl hlast
    · next hmonth =>
      have hdecember : 12 = d.month := by omega
      calc (first (d.year + 1) 1 _).previous
          = last (d.year + 1 - 1) 12 (by decide) := previous_first_of_year
        _ = last d.year d.month ⟨h.1, h.2.1⟩ := by simp only [Int.add_sub_cancel, hdecember]
        _ = d := eq_of_numbers rfl rfl hlast

theorem next_previous (d : Date) : d.previous.next = d := by
  have h := isDate_iff.1 d.isDate
  unfold previous
  split
  · next hday =>
    have hback : d.day - 1 + 1 = d.day := by omega
    rw [next, dif_pos (show d.day - 1 < daysInMonth d.year d.month by omega)]
    exact eq_of_numbers rfl rfl hback
  · next hday =>
    have hfirst : 1 = d.day := by omega
    split
    · next hmonth =>
      calc (last d.year (d.month - 1) _).next
          = first d.year (d.month - 1 + 1) (by omega) := next_last_of_lt (by omega)
        _ = d := eq_of_numbers rfl (show d.month - 1 + 1 = d.month by omega) hfirst
    · next hmonth =>
      have hjanuary : 1 = d.month := by omega
      calc (last (d.year - 1) 12 _).next
          = first (d.year - 1 + 1) 1 (by decide) := next_last_of_year
        _ = d := eq_of_numbers (Int.sub_add_cancel d.year 1) hjanuary hfirst

/-! ### How a date is written -/

/-- A number below a hundred in two digits. -/
def twoDigits (n : Nat) : List Char :=
  [Nat.digitChar (n / 10), Nat.digitChar (n % 10)]

/-- A year in four digits; one that has no four digits is written with its sign. -/
def yearText (year : Int) : List Char :=
  if 0 ≤ year ∧ year ≤ 9999 then twoDigits (year.toNat / 100) ++ twoDigits (year.toNat % 100)
  else
    let digits := Nat.toDigits 10 year.natAbs
    (if year < 0 then '-' else '+') :: (List.replicate (4 - digits.length) '0' ++ digits)

/-- A day in digits and hyphens. -/
def text (d : Date) : List Char :=
  yearText d.year ++ '-' :: twoDigits d.month ++ '-' :: twoDigits d.day

end Date

/-! ### Moments -/

/-- The number of seconds of a day. -/
def secondsInDay : Nat :=
  86400

/-- A second of a day.  A leap second counts as the one before it. -/
structure TimeOfDay where
  second : Nat
  second_lt : second < secondsInDay
  deriving DecidableEq, Repr

/-- How many seconds a clock is ahead. -/
structure Offset where
  seconds : Int
  lt_seconds : -(secondsInDay : Int) < seconds
  seconds_lt : seconds < secondsInDay
  deriving DecidableEq, Repr

/-- A moment: the day and the second of it that a clock without an offset shows, and the offset of the
clock by which the moment was given. -/
structure Moment where
  day : Date
  time : TimeOfDay
  offset : Offset
  deriving DecidableEq, Repr

/-- The day and time at a second that is counted from the start of a day, and which may be on the day
before or after. -/
def timeAt (day : Date) (second : Int) : Date × TimeOfDay :=
  (match second / secondsInDay with
    | -1 => day.previous
    | 1 => day.next
    | _ => day,
   ⟨(second % secondsInDay).toNat, by
      have h := Int.emod_lt_of_pos second (show (0 : Int) < secondsInDay by decide)
      have h' := Int.emod_nonneg second (show (secondsInDay : Int) ≠ 0 by decide)
      omega⟩)

namespace Moment

/-- The moment at which a clock with an offset shows a day and a time. -/
def ofLocal (day : Date) (time : TimeOfDay) (offset : Offset) : Moment :=
  let t := timeAt day (time.second - offset.seconds)
  ⟨t.1, t.2, offset⟩

/-- The day that the moment's own clock shows. -/
def localDate (m : Moment) : Date :=
  (timeAt m.day (m.time.second + m.offset.seconds)).1

end Moment

theorem timeAt_same {day : Date} {second : Int} (h : second / secondsInDay = 0) :
    (timeAt day second).1 = day := by
  rw [timeAt, h]
  rfl

theorem timeAt_next {day : Date} {second : Int} (h : second / secondsInDay = 1) :
    (timeAt day second).1 = day.next := by
  rw [timeAt, h]
  rfl

theorem timeAt_previous {day : Date} {second : Int} (h : second / secondsInDay = -1) :
    (timeAt day second).1 = day.previous := by
  rw [timeAt, h]
  rfl

/-- A moment shows the day that it was made of, also where it lies on another day without the offset. -/
theorem localDate_ofLocal (day : Date) (time : TimeOfDay) (offset : Offset) :
    (Moment.ofLocal day time offset).localDate = day := by
  have htime := time.second_lt
  have hoffset := offset.lt_seconds
  have hoffset' := offset.seconds_lt
  let second : Int := time.second - offset.seconds
  -- the clock without an offset shows one of three days, and its own clock is that many days off
  have hback : ((timeAt day second).2.second + offset.seconds) / secondsInDay
      = -(second / secondsInDay) := by
    show ((second % secondsInDay).toNat + offset.seconds) / secondsInDay = _
    simp only [second, secondsInDay] at *
    omega
  have hthree : second / secondsInDay = -1 ∨ second / secondsInDay = 0 ∨ second / secondsInDay = 1 := by
    simp only [second, secondsInDay] at *
    omega
  show (timeAt (timeAt day second).1 ((timeAt day second).2.second + offset.seconds)).1 = day
  rcases hthree with hdays | hdays | hdays
  · rw [timeAt_next (by rw [hback, hdays]; rfl), timeAt_previous hdays, Date.next_previous]
  · rw [timeAt_same (by rw [hback, hdays]; rfl), timeAt_same hdays]
  · rw [timeAt_previous (by rw [hback, hdays]), timeAt_next hdays, Date.previous_next]

/-! ### Reading -/

/-- The second of a day at a time, if there is such a time. -/
def timeOfDay? (hour minute second : Nat) : Option TimeOfDay :=
  if h : isTime hour minute second = true then
    some ⟨3600 * hour + 60 * minute + min second 59, by
      simp only [isTime, Bool.and_eq_true, decide_eq_true_eq] at h
      simp only [secondsInDay]
      omega⟩
  else none

/-- The offset of hours and minutes before or behind, if there is such an offset. -/
def signedOffset? (ahead : Bool) (hour minute : Nat) : Option Offset :=
  if h : hour < 24 ∧ minute < 60 then
    let seconds : Nat := 3600 * hour + 60 * minute
    have hlt : seconds < secondsInDay := by
      simp only [seconds, secondsInDay]
      omega
    some (if ahead then ⟨seconds, by omega, by omega⟩ else ⟨-seconds, by omega, by omega⟩)
  else none

/-- The offset of a clock, with nothing behind it. -/
def offset? (s : List Char) : Option Offset :=
  match s with
  | ['Z'] | ['z'] => some ⟨0, by decide, by decide⟩
  | [sign, h₁, h₂, ':', m₁, m₂] => do
    let hour ← number? [h₁, h₂]
    let minute ← number? [m₁, m₂]
    guard (isSign sign)
    signedOffset? (sign == '+') hour minute
  | _ => none

/-- The offset behind the seconds, where a fraction of a second may stand before it. -/
def offsetBehind? (s : List Char) : Option Offset :=
  match s with
  | '.' :: r => if r.head?.any Char.isDigit then offset? (r.dropWhile Char.isDigit) else none
  | s => offset? s

/-- The moment of a timestamp. -/
def moment? (s : List Char) : Option Moment :=
  match s with
  | y₁ :: y₂ :: y₃ :: y₄ :: '-' :: m₁ :: m₂ :: '-' :: d₁ :: d₂ :: separator ::
      h₁ :: h₂ :: ':' :: n₁ :: n₂ :: ':' :: s₁ :: s₂ :: tail => do
    let year ← number? [y₁, y₂, y₃, y₄]
    let month ← number? [m₁, m₂]
    let day ← number? [d₁, d₂]
    guard (isSeparator separator)
    let hour ← number? [h₁, h₂]
    let minute ← number? [n₁, n₂]
    let second ← number? [s₁, s₂]
    let offset ← offsetBehind? tail
    return .ofLocal (← Date.of? year month day) (← timeOfDay? hour minute second) offset
  | _ => none

/-- The day on which a timestamp says that something was published. -/
def publishDate (timestamp : String) : Option String :=
  (moment? timestamp.toList).map fun m => String.ofList m.localDate.text

end ImportCensus.Timestamp
