/-
ImportCensus/Proofs/Timestamp.lean

Which texts are timestamps, and which day they show.

The texts are said without the reader (`Parts.IsProper`): a timestamp is put together from numerals of a
fixed width, the numerals of the date name a day of the Gregorian calendar, and those of the time and the
offset keep within their bounds.  Reading and writing go through a moment, whose day without the offset may
be another one; but the day of the moment's own clock is the one that was read, and its three numbers are
written in as many digits as they were read from.

Main statement: a text has a date exactly if it is a timestamp, and the date is how it starts
(`publishDate_eq_some_iff`).
-/
import ImportCensus.Timestamp
import Mathlib.Data.List.Basic
import Mathlib.Data.Option.Basic

namespace ImportCensus.Timestamp

variable {s ds : List Char}

/-! ### Numerals -/

/-- Are these so many decimal digits? -/
structure IsNumeral (width : ℕ) (ds : List Char) : Prop where
  length : ds.length = width
  digits : ∀ d ∈ ds, d.isDigit = true

/-- The number that a numeral spells. -/
def value (ds : List Char) : ℕ :=
  Nat.ofDigitChars 10 ds 0

theorem number?_eq_some_iff {n : ℕ} :
    number? ds = some n ↔ (∀ d ∈ ds, d.isDigit = true) ∧ value ds = n := by
  simp [number?, value, Nat.ofDigitChars_eq_foldl]

theorem IsNumeral.number? {width : ℕ} (h : IsNumeral width ds) : number? ds = some (value ds) :=
  number?_eq_some_iff.2 ⟨h.digits, rfl⟩

/-- A digit is the digit of a number below ten. -/
theorem exists_digitChar_of_isDigit {c : Char} (h : c.isDigit = true) :
    ∃ k < 10, c = Nat.digitChar k := by
  have hbounds : 48 ≤ c.toNat ∧ c.toNat ≤ 57 := by
    simpa [Char.isDigit, UInt32.le_iff_toNat_le] using h
  refine ⟨c.toNat - 48, by omega, ?_⟩
  apply Char.toNat_inj.1
  rw [Nat.toNat_digitChar_of_lt_ten (by omega)]
  omega

theorem isNumeral_of_number? {n : ℕ} (h : number? ds = some n) :
    IsNumeral ds.length ds ∧ value ds = n := by
  obtain ⟨hdigits, hvalue⟩ := number?_eq_some_iff.1 h
  exact ⟨⟨rfl, hdigits⟩, hvalue⟩

theorem IsNumeral.exists_two (h : IsNumeral 2 ds) : ∃ a b, ds = [a, b] :=
  List.length_eq_two.1 h.length

theorem IsNumeral.exists_four (h : IsNumeral 4 ds) : ∃ a b c d, ds = [a, b, c, d] := by
  match ds, h.length with
  | [a, b, c, d], _ => exact ⟨a, b, c, d, rfl⟩

/-- Two digits are read and written again. -/
theorem twoDigits_value (h : IsNumeral 2 ds) :
    value ds < 100 ∧ Date.twoDigits (value ds) = ds := by
  obtain ⟨a, b, rfl⟩ := h.exists_two
  obtain ⟨i, hi, rfl⟩ := exists_digitChar_of_isDigit (h.digits a (by simp))
  obtain ⟨j, hj, rfl⟩ := exists_digitChar_of_isDigit (h.digits b (by simp))
  have hvalue : value [Nat.digitChar i, Nat.digitChar j] = 10 * i + j := by
    rw [value, Nat.ofDigitChars_cons_digitChar_of_lt_ten hi,
      Nat.ofDigitChars_cons_digitChar_of_lt_ten hj, Nat.ofDigitChars_nil]
    omega
  have htens : (10 * i + j) / 10 = i := by omega
  have hones : (10 * i + j) % 10 = j := by omega
  rw [hvalue, Date.twoDigits, htens, hones]
  exact ⟨by omega, rfl⟩

/-- Four digits are read and written again as a year, without a sign. -/
theorem yearText_value (h : IsNumeral 4 ds) : Date.yearText (value ds) = ds := by
  obtain ⟨a, b, c, d, rfl⟩ := h.exists_four
  have hab : IsNumeral 2 [a, b] := ⟨rfl, fun x hx => h.digits x (by grind)⟩
  have hcd : IsNumeral 2 [c, d] := ⟨rfl, fun x hx => h.digits x (by grind)⟩
  obtain ⟨hfront_lt, hfront⟩ := twoDigits_value hab
  obtain ⟨hback_lt, hback⟩ := twoDigits_value hcd
  have hvalue : value [a, b, c, d] = 100 * value [a, b] + value [c, d] := by
    have happend : [a, b, c, d] = [a, b] ++ [c, d] := rfl
    rw [happend, value, Nat.ofDigitChars_append, Nat.ofDigitChars_eq_ofDigitChars_zero]
    rfl
  have hhundreds : (100 * value [a, b] + value [c, d]) / 100 = value [a, b] := by omega
  have hrest : (100 * value [a, b] + value [c, d]) % 100 = value [c, d] := by omega
  rw [Date.yearText, hvalue, if_pos (by omega), Int.toNat_natCast, hhundreds, hrest, hfront, hback]
  rfl

/-! ### The calendar -/

/-- Is a year a leap year of the Gregorian calendar? -/
def IsLeapYear (year : ℕ) : Prop :=
  4 ∣ year ∧ (100 ∣ year → 400 ∣ year)

/-- The months of a year and their numbers of days. -/
inductive MonthHas (year : ℕ) : ℕ → ℕ → Prop
  | long {month : ℕ} (h : month ∈ [1, 3, 5, 7, 8, 10, 12]) : MonthHas year month 31
  | short {month : ℕ} (h : month ∈ [4, 6, 9, 11]) : MonthHas year month 30
  | leapFebruary (h : IsLeapYear year) : MonthHas year 2 29
  | february (h : ¬IsLeapYear year) : MonthHas year 2 28

/-- Is there such a day in the Gregorian calendar? -/
def IsCalendarDay (year month day : ℕ) : Prop :=
  ∃ days, MonthHas year month days ∧ 1 ≤ day ∧ day ≤ days

theorem isLeapYear_iff {year : ℕ} : isLeapYear year = true ↔ IsLeapYear year := by
  simp only [isLeapYear, IsLeapYear, Bool.and_eq_true, Bool.or_eq_true, beq_iff_eq, bne_iff_ne, ne_eq]
  omega

theorem daysInMonth_long {year : Int} {month : ℕ} (h : month ∈ [1, 3, 5, 7, 8, 10, 12]) :
    daysInMonth year month = 31 := by
  simp only [List.mem_cons, List.not_mem_nil, or_false] at h
  rcases h with rfl | rfl | rfl | rfl | rfl | rfl | rfl <;> rfl

theorem daysInMonth_short {year : Int} {month : ℕ} (h : month ∈ [4, 6, 9, 11]) :
    daysInMonth year month = 30 := by
  simp only [List.mem_cons, List.not_mem_nil, or_false] at h
  rcases h with rfl | rfl | rfl | rfl <;> rfl

/-- There are twelve months. -/
theorem month_cases {month : ℕ} :
    1 ≤ month ∧ month ≤ 12 ↔
      month ∈ [1, 3, 5, 7, 8, 10, 12] ∨ month ∈ [4, 6, 9, 11] ∨ month = 2 := by
  simp only [List.mem_cons, List.not_mem_nil, or_false]
  omega

theorem monthHas_iff {year month days : ℕ} :
    MonthHas year month days ↔ (1 ≤ month ∧ month ≤ 12) ∧ days = daysInMonth year month := by
  have hleap : IsLeapYear year → daysInMonth year 2 = 29 := fun h => if_pos (isLeapYear_iff.2 h)
  have hcommon : ¬IsLeapYear year → daysInMonth year 2 = 28 :=
    fun h => if_neg fun hyear => h (isLeapYear_iff.1 hyear)
  constructor
  · intro h
    cases h with
    | long h => exact ⟨month_cases.2 (.inl h), (daysInMonth_long h).symm⟩
    | short h => exact ⟨month_cases.2 (.inr (.inl h)), (daysInMonth_short h).symm⟩
    | leapFebruary h => exact ⟨by decide, (hleap h).symm⟩
    | february h => exact ⟨by decide, (hcommon h).symm⟩
  · rintro ⟨hmonth, rfl⟩
    rcases month_cases.1 hmonth with h | h | rfl
    · rw [daysInMonth_long h]
      exact .long h
    · rw [daysInMonth_short h]
      exact .short h
    · by_cases h : IsLeapYear year
      · rw [hleap h]
        exact .leapFebruary h
      · rw [hcommon h]
        exact .february h

theorem isCalendarDay_iff {year month day : ℕ} :
    IsCalendarDay year month day ↔ isDate year month day = true := by
  simp only [IsCalendarDay, monthHas_iff, isDate_iff]
  constructor
  · rintro ⟨days, ⟨hmonth, rfl⟩, hday⟩
    exact ⟨hmonth.1, hmonth.2, hday⟩
  · rintro ⟨hlow, hhigh, hday⟩
    exact ⟨_, ⟨⟨hlow, hhigh⟩, rfl⟩, hday⟩

/-! ### Offsets -/

/-- Is this a clock's offset: none, or hours and minutes behind a sign? -/
inductive IsZone : List Char → Prop
  | zulu : IsZone ['Z']
  | small : IsZone ['z']
  | signed {sign : Char} {hour minute : List Char} (hsign : sign ∈ ['+', '-', '\u2212'])
      (hhour : IsNumeral 2 hour) (hminute : IsNumeral 2 minute) (hhour_lt : value hour < 24)
      (hminute_lt : value minute < 60) : IsZone (sign :: hour ++ ':' :: minute)

/-- Is this a fraction of a second: nothing, or a dot and digits? -/
inductive IsFraction : List Char → Prop
  | none : IsFraction []
  | digits {ds : List Char} (hne : ds ≠ []) (hdigits : ∀ d ∈ ds, d.isDigit = true) :
      IsFraction ('.' :: ds)

theorem isSome_signedOffset?_iff {ahead : Bool} {hour minute : ℕ} :
    (signedOffset? ahead hour minute).isSome = true ↔ hour < 24 ∧ minute < 60 := by
  unfold signedOffset?
  split <;> simp_all

theorem isSign_iff {c : Char} : isSign c = true ↔ c ∈ ['+', '-', '\u2212'] := by
  simp [isSign, or_assoc]

theorem isSeparator_iff {c : Char} : isSeparator c = true ↔ c ∈ ['T', 't', ' '] := by
  simp [isSeparator, or_assoc]

theorem isZone_iff : IsZone s ↔ ∃ offset, offset? s = some offset := by
  constructor
  · intro h
    cases h with
    | zulu => exact ⟨_, rfl⟩
    | small => exact ⟨_, rfl⟩
    | signed hsign hhour hminute hhour_lt hminute_lt =>
      obtain ⟨h₁, h₂, rfl⟩ := hhour.exists_two
      obtain ⟨m₁, m₂, rfl⟩ := hminute.exists_two
      obtain ⟨offset, hoffset⟩ :=
        Option.isSome_iff_exists.1 (isSome_signedOffset?_iff.2 ⟨hhour_lt, hminute_lt⟩)
      refine ⟨offset, ?_⟩
      rw [List.cons_append, List.cons_append, List.cons_append, List.nil_append, offset?, hhour.number?,
        hminute.number?, (Option.guard_eq_some' ()).2 (isSign_iff.2 hsign)]
      exact hoffset
  · rintro ⟨offset, h⟩
    unfold offset? at h
    split at h
    · exact .zulu
    · exact .small
    · next sign h₁ h₂ m₁ m₂ =>
      obtain ⟨hour, hourRead, h⟩ := Option.bind_eq_some_iff.1 h
      obtain ⟨minute, minuteRead, h⟩ := Option.bind_eq_some_iff.1 h
      obtain ⟨_, hsign, hoffset⟩ := Option.bind_eq_some_iff.1 h
      obtain ⟨hhour, rfl⟩ := isNumeral_of_number? hourRead
      obtain ⟨hminute, rfl⟩ := isNumeral_of_number? minuteRead
      have hbounds := isSome_signedOffset?_iff.1 (Option.isSome_iff_exists.2 ⟨offset, hoffset⟩)
      rw [Option.guard_eq_some', isSign_iff] at hsign
      exact .signed hsign hhour hminute hbounds.1 hbounds.2
    · cases h

/-- An offset starts with neither a digit nor a dot. -/
theorem IsZone.exists_cons (h : IsZone s) : ∃ c r, s = c :: r ∧ c.isDigit = false ∧ c ≠ '.' := by
  cases h with
  | zulu => exact ⟨_, _, rfl, by decide, by decide⟩
  | small => exact ⟨_, _, rfl, by decide, by decide⟩
  | @signed sign _ _ hsign _ _ _ _ =>
    refine ⟨sign, _, rfl, ?_⟩
    simp only [List.mem_cons, List.not_mem_nil, or_false] at hsign
    rcases hsign with rfl | rfl | rfl <;> decide

theorem offsetBehind?_of_ne {c : Char} {r : List Char} (h : c ≠ '.') :
    offsetBehind? (c :: r) = offset? (c :: r) := by
  rw [offsetBehind?.eq_def]
  split
  · next heq => exact absurd (List.cons.inj heq).1 h
  · rfl

theorem offsetBehind?_dot (r : List Char) :
    offsetBehind? ('.' :: r)
      = if r.head?.any Char.isDigit then offset? (r.dropWhile Char.isDigit) else none := by
  rfl

/-- Behind the seconds stand a fraction and an offset. -/
theorem exists_offsetBehind?_iff :
    (∃ offset, offsetBehind? s = some offset) ↔
      ∃ fraction zone, IsFraction fraction ∧ IsZone zone ∧ fraction ++ zone = s := by
  constructor
  · rintro ⟨offset, h⟩
    rcases s with - | ⟨c, r⟩
    · cases h
    · by_cases hc : c = '.'
      · subst hc
        rw [offsetBehind?_dot] at h
        split at h
        · next hhead =>
          refine ⟨'.' :: r.takeWhile Char.isDigit, r.dropWhile Char.isDigit, .digits ?_ ?_,
            isZone_iff.2 ⟨offset, h⟩, ?_⟩
          · cases r with
            | nil => cases hhead
            | cons d r =>
              have hd : d.isDigit = true := hhead
              rw [List.takeWhile_cons_of_pos hd]
              exact List.cons_ne_nil _ _
          · exact List.all_eq_true.1 List.all_takeWhile
          · rw [List.cons_append, List.takeWhile_append_dropWhile]
        · cases h
      · rw [offsetBehind?_of_ne hc] at h
        exact ⟨[], c :: r, .none, isZone_iff.2 ⟨offset, h⟩, rfl⟩
  · rintro ⟨fraction, zone, hfraction, hzone, rfl⟩
    obtain ⟨c, r, rfl, hdigit, hdot⟩ := hzone.exists_cons
    obtain ⟨offset, hoffset⟩ := isZone_iff.1 hzone
    refine ⟨offset, ?_⟩
    cases hfraction with
    | none => rw [List.nil_append, offsetBehind?_of_ne hdot, hoffset]
    | @digits ds hne hdigits =>
      have hrest : (ds ++ c :: r).dropWhile Char.isDigit = c :: r := by
        rw [List.dropWhile_append_of_pos hdigits, List.dropWhile_cons_of_neg (by simp [hdigit])]
      obtain ⟨d, others, rfl⟩ := List.exists_cons_of_ne_nil hne
      have hhead : ((d :: others) ++ c :: r).head?.any Char.isDigit = true :=
        hdigits d List.mem_cons_self
      rw [List.cons_append, offsetBehind?_dot, if_pos hhead, hrest, hoffset]

/-! ### Timestamps -/

/-- The texts that a timestamp is put together from. -/
structure Parts where
  year : List Char
  month : List Char
  day : List Char
  separator : Char
  hour : List Char
  minute : List Char
  second : List Char
  fraction : List Char
  zone : List Char

namespace Parts

/-- The date, as it is written in a timestamp. -/
def date (p : Parts) : List Char :=
  p.year ++ '-' :: p.month ++ '-' :: p.day

/-- The time of day, as it is written in a timestamp. -/
def time (p : Parts) : List Char :=
  p.hour ++ ':' :: p.minute ++ ':' :: p.second ++ p.fraction

/-- The timestamp. -/
def text (p : Parts) : List Char :=
  p.date ++ p.separator :: p.time ++ p.zone

/-- Are these the parts of a timestamp? -/
structure IsProper (p : Parts) : Prop where
  year : IsNumeral 4 p.year
  month : IsNumeral 2 p.month
  day : IsNumeral 2 p.day
  calendar : IsCalendarDay (value p.year) (value p.month) (value p.day)
  separator : p.separator ∈ ['T', 't', ' ']
  hour : IsNumeral 2 p.hour
  hour_lt : value p.hour < 24
  minute : IsNumeral 2 p.minute
  minute_lt : value p.minute < 60
  second : IsNumeral 2 p.second
  second_le : value p.second ≤ 60
  fraction : IsFraction p.fraction
  zone : IsZone p.zone

/-- A timestamp starts with its date, which has ten characters. -/
theorem IsProper.take_text {p : Parts} (h : p.IsProper) : p.text.take 10 = p.date := by
  have hlength : p.date.length = 10 := by
    simp [date, h.year.length, h.month.length, h.day.length]
  rw [text, List.append_assoc, List.take_append_of_le_length (Nat.le_of_eq hlength.symm),
    List.take_of_length_le (Nat.le_of_eq hlength)]

end Parts

theorem of?_eq_some_iff {year : Int} {month day : ℕ} {date : Date} :
    Date.of? year month day = some date ↔ date.year = year ∧ date.month = month ∧ date.day = day := by
  unfold Date.of?
  constructor
  · intro h
    split at h
    · cases h
      exact ⟨rfl, rfl, rfl⟩
    · cases h
  · rintro ⟨rfl, rfl, rfl⟩
    rw [dif_pos date.isDate]

theorem exists_timeOfDay?_iff {hour minute second : ℕ} :
    (∃ time, timeOfDay? hour minute second = some time) ↔ hour < 24 ∧ minute < 60 ∧ second ≤ 60 := by
  have htime : isTime hour minute second = true ↔ hour < 24 ∧ minute < 60 ∧ second ≤ 60 := by
    simp [isTime, and_assoc]
  rw [← htime, timeOfDay?]
  split <;> simp_all

/-- **The moment of a timestamp shows the day that is written there.** -/
theorem exists_parts_of_moment? {m : Moment} (h : moment? s = some m) :
    ∃ p : Parts, p.IsProper ∧ p.text = s ∧ m.localDate.text = p.date := by
  rw [moment?.eq_def] at h
  split at h
  · next y₁ y₂ y₃ y₄ m₁ m₂ d₁ d₂ separator h₁ h₂ n₁ n₂ s₁ s₂ tail =>
    -- the fields, in the order in which they are read
    obtain ⟨year, yearRead, h⟩ := Option.bind_eq_some_iff.1 h
    obtain ⟨month, monthRead, h⟩ := Option.bind_eq_some_iff.1 h
    obtain ⟨day, dayRead, h⟩ := Option.bind_eq_some_iff.1 h
    obtain ⟨_, hseparator, h⟩ := Option.bind_eq_some_iff.1 h
    obtain ⟨hour, hourRead, h⟩ := Option.bind_eq_some_iff.1 h
    obtain ⟨minute, minuteRead, h⟩ := Option.bind_eq_some_iff.1 h
    obtain ⟨second, secondRead, h⟩ := Option.bind_eq_some_iff.1 h
    obtain ⟨offset, hoffset, h⟩ := Option.bind_eq_some_iff.1 h
    obtain ⟨date, hdate, h⟩ := Option.bind_eq_some_iff.1 h
    obtain ⟨time, htime, h⟩ := Option.bind_eq_some_iff.1 h
    cases Option.some.inj h
    -- what each of them says about its text
    obtain ⟨hyear, rfl⟩ := isNumeral_of_number? yearRead
    obtain ⟨hmonth, rfl⟩ := isNumeral_of_number? monthRead
    obtain ⟨hday, rfl⟩ := isNumeral_of_number? dayRead
    obtain ⟨hhour, rfl⟩ := isNumeral_of_number? hourRead
    obtain ⟨hminute, rfl⟩ := isNumeral_of_number? minuteRead
    obtain ⟨hsecond, rfl⟩ := isNumeral_of_number? secondRead
    obtain ⟨hdateYear, hdateMonth, hdateDay⟩ := of?_eq_some_iff.1 hdate
    obtain ⟨hhour_lt, hminute_lt, hsecond_le⟩ := exists_timeOfDay?_iff.1 ⟨time, htime⟩
    obtain ⟨fraction, zone, hfraction, hzone, htail⟩ := exists_offsetBehind?_iff.1 ⟨offset, hoffset⟩
    have hcalendar : IsCalendarDay (value [y₁, y₂, y₃, y₄]) (value [m₁, m₂]) (value [d₁, d₂]) := by
      rw [isCalendarDay_iff, ← hdateYear, ← hdateMonth, ← hdateDay]
      exact date.isDate
    refine ⟨⟨[y₁, y₂, y₃, y₄], [m₁, m₂], [d₁, d₂], separator, [h₁, h₂], [n₁, n₂], [s₁, s₂], fraction,
      zone⟩, ?_, ?_, ?_⟩
    · rw [Option.guard_eq_some', isSeparator_iff] at hseparator
      exact ⟨hyear, hmonth, hday, hcalendar, hseparator, hhour, hhour_lt, hminute, hminute_lt, hsecond,
        hsecond_le, hfraction, hzone⟩
    · rw [← htail]
      simp [Parts.text, Parts.date, Parts.time]
    · rw [localDate_ofLocal, Date.text, hdateYear, hdateMonth, hdateDay, yearText_value hyear,
        (twoDigits_value hmonth).2, (twoDigits_value hday).2]
      rfl
  · cases h

/-- Its clock still shows the last day of a year that is over on a clock without an offset. -/
example : (moment? "2024-12-31T23:59:60-00:30".toList).map (·.day.text) = some "2025-01-01".toList := by
  decide

/-- Every timestamp names a moment. -/
theorem Parts.IsProper.exists_moment {p : Parts} (h : p.IsProper) : ∃ m, moment? p.text = some m := by
  obtain ⟨year, month, day, separator, hour, minute, second, fraction, zone⟩ := p
  obtain ⟨hyear, hmonth, hday, hcalendar, hseparator, hhour, hhour_lt, hminute, hminute_lt, hsecond,
    hsecond_le, hfraction, hzone⟩ := h
  obtain ⟨y₁, y₂, y₃, y₄, rfl⟩ := hyear.exists_four
  obtain ⟨m₁, m₂, rfl⟩ := hmonth.exists_two
  obtain ⟨d₁, d₂, rfl⟩ := hday.exists_two
  obtain ⟨h₁, h₂, rfl⟩ := hhour.exists_two
  obtain ⟨n₁, n₂, rfl⟩ := hminute.exists_two
  obtain ⟨s₁, s₂, rfl⟩ := hsecond.exists_two
  obtain ⟨offset, hoffset⟩ := exists_offsetBehind?_iff.2 ⟨fraction, zone, hfraction, hzone, rfl⟩
  obtain ⟨time, htime⟩ := exists_timeOfDay?_iff.2 ⟨hhour_lt, hminute_lt, hsecond_le⟩
  have hdate : Date.of? (value [y₁, y₂, y₃, y₄]) (value [m₁, m₂]) (value [d₁, d₂])
      = some ⟨_, _, _, isCalendarDay_iff.1 hcalendar⟩ := of?_eq_some_iff.2 ⟨rfl, rfl, rfl⟩
  have htext : Parts.text ⟨[y₁, y₂, y₃, y₄], [m₁, m₂], [d₁, d₂], separator, [h₁, h₂], [n₁, n₂],
      [s₁, s₂], fraction, zone⟩
      = y₁ :: y₂ :: y₃ :: y₄ :: '-' :: m₁ :: m₂ :: '-' :: d₁ :: d₂ :: separator :: h₁ :: h₂ :: ':' ::
        n₁ :: n₂ :: ':' :: s₁ :: s₂ :: (fraction ++ zone) := by
    simp [text, date, Parts.time]
  refine ⟨.ofLocal ⟨_, _, _, isCalendarDay_iff.1 hcalendar⟩ time offset, ?_⟩
  rw [htext, moment?, hyear.number?, hmonth.number?, hday.number?, hhour.number?, hminute.number?,
    hsecond.number?, hoffset, (Option.guard_eq_some' ()).2 (isSeparator_iff.2 hseparator)]
  simp only [Option.bind_eq_bind, Option.bind_some, htime, hdate, Option.pure_def]

/-- The day of a publication is spelled by characters of the timestamp. -/
theorem mem_of_mem_publishDate {timestamp date : String} {c : Char}
    (hdate : publishDate timestamp = some date) (h : c ∈ date.toList) : c ∈ timestamp.toList := by
  obtain ⟨m, hm, rfl⟩ := Option.map_eq_some_iff.1 hdate
  obtain ⟨p, hp, htext, hdate⟩ := exists_parts_of_moment? hm
  rw [String.toList_ofList, hdate, ← hp.take_text, htext] at h
  exact List.mem_of_mem_take h

/-- **A text has a date exactly if it is a timestamp, and the date is how it starts.** -/
theorem publishDate_eq_some_iff (timestamp date : String) :
    publishDate timestamp = some date ↔
      (∃ p : Parts, p.IsProper ∧ p.text = timestamp.toList) ∧
      date.toList = timestamp.toList.take 10 := by
  rw [publishDate, Option.map_eq_some_iff]
  constructor
  · rintro ⟨m, hm, rfl⟩
    obtain ⟨p, hp, htext, hdate⟩ := exists_parts_of_moment? hm
    refine ⟨⟨p, hp, htext⟩, ?_⟩
    rw [String.toList_ofList, hdate, ← htext, hp.take_text]
  · rintro ⟨⟨p, hp, htext⟩, hdate⟩
    obtain ⟨m, hm⟩ := hp.exists_moment
    rw [htext] at hm
    obtain ⟨q, hq, hqtext, hqdate⟩ := exists_parts_of_moment? hm
    refine ⟨m, hm, ?_⟩
    rw [hqdate, ← hq.take_text, hqtext, ← hdate, String.ofList_toList]

end ImportCensus.Timestamp
