import ControlPlane.Texts

/-!
Instants and the texts that name them. A time value counts milliseconds, before
and after the first of January 1970, and `toISOString` writes the date of the
Gregorian calendar and the time of day; the text is read back as the time value
that it was written from.
-/
namespace ControlPlane.IsoDates
open ControlPlane.Texts

/-! ### The calendar -/

structure Civil where
  year : Int
  month : Int
  day : Int

/-- The days of an era of 400 years. -/
def eraDays : Int := 146097

/-- The days from the first of March of year 0 to the first of January 1970. -/
def epochDays : Int := 719468

/-- The days of the years of an era before a year. -/
def daysBefore (year : Int) : Int := 365 * year + year / 4 - year / 100

/-- The year of a day of an era. Years begin in March, so that a leap day is the last
    one of its year, and the last century and the last year of four may be longer. -/
def yearOf (day : Int) : Int :=
  let century := min 3 (day / 36524)
  let ofCentury := day - 36524 * century
  100 * century + 4 * (ofCentury / 1461) + min 3 (ofCentury % 1461 / 365)

theorem yearOf_spec {day : Int} (first : 0 ≤ day) (last : day < eraDays) :
    0 ≤ yearOf day ∧ yearOf day < 400 ∧ 0 ≤ day - daysBefore (yearOf day) ∧ day - daysBefore (yearOf day) ≤ 365 := by
  simp only [eraDays, yearOf, daysBefore] at *
  generalize century_eq : min 3 (day / 36524) = century
  have centuries : 0 ≤ century ∧ century ≤ 3 ∧ 0 ≤ day - 36524 * century ∧ day - 36524 * century ≤ 36524 := by omega
  generalize day_eq : day - 36524 * century = ofCentury at centuries ⊢
  obtain ⟨least, most, first, last⟩ := centuries
  have fours : 0 ≤ ofCentury / 1461 ∧ ofCentury / 1461 ≤ 24 := by omega
  generalize four_eq : ofCentury / 1461 = four at fours ⊢
  generalize single_eq : min 3 (ofCentury % 1461 / 365) = single
  have singles : 0 ≤ single ∧ single ≤ 3 := by omega
  have quarters : (100 * century + 4 * four + single) / 4 = 25 * century + four := by omega
  have hundreds : (100 * century + 4 * four + single) / 100 = century := by omega
  rw [quarters, hundreds]
  omega

/-- The month, counted from March, of a day of a year. -/
def monthOf (ofYear : Int) : Int := (5 * ofYear + 2) / 153

/-- The day of the year, which begins in March, of a day. -/
def ofYear (day : Int) : Int := (day + epochDays) % eraDays - daysBefore (yearOf ((day + epochDays) % eraDays))

/-- A date, from the day of the first of March of its year on and a month counted from March. -/
def dated (year month day : Int) : Civil :=
  if month < 10 then ⟨year, month + 3, day⟩ else ⟨year + 1, month - 9, day⟩

/-- The date of a day, counted from the first of January 1970. -/
def civilOf (day : Int) : Civil :=
  dated (400 * ((day + epochDays) / eraDays) + yearOf ((day + epochDays) % eraDays)) (monthOf (ofYear day))
    (ofYear day - (153 * monthOf (ofYear day) + 2) / 5 + 1)

/-- The day of a date. -/
def dayOf (date : Civil) : Int :=
  let (year, month) := if date.month ≤ 2 then (date.year - 1, date.month + 9) else (date.year, date.month - 3)
  eraDays * (year / 400) + daysBefore (year % 400) + ((153 * month + 2) / 5 + date.day - 1) - epochDays

theorem dayOf_dated {year month day : Int} (least : 0 ≤ month) (most : month ≤ 11) : dayOf (dated year month day) =
    eraDays * (year / 400) + daysBefore (year % 400) + ((153 * month + 2) / 5 + day - 1) - epochDays := by
  unfold dated
  split
  next spring =>
    have later : ¬ month + 3 ≤ 2 := by omega
    simp only [dayOf, if_neg later, Int.add_sub_cancel]
  next winter =>
    have early : month - 9 ≤ 2 := by omega
    simp only [dayOf, if_pos early, Int.add_sub_cancel, Int.sub_add_cancel]

section
variable (day : Int)

theorem yearOf_day : 0 ≤ yearOf ((day + epochDays) % eraDays) ∧ yearOf ((day + epochDays) % eraDays) < 400 ∧
    0 ≤ ofYear day ∧ ofYear day ≤ 365 :=
  yearOf_spec (by simp only [eraDays]; omega) (by simp only [eraDays]; omega)

theorem civilOf_month : 1 ≤ (civilOf day).month ∧ (civilOf day).month ≤ 12 := by
  obtain ⟨-, -, first, last⟩ := yearOf_day day
  unfold civilOf dated monthOf
  split <;> dsimp only <;> omega

theorem civilOf_day : 1 ≤ (civilOf day).day ∧ (civilOf day).day ≤ 31 := by
  obtain ⟨-, -, first, last⟩ := yearOf_day day
  unfold civilOf dated monthOf
  split <;> dsimp only <;> omega

/-- The years of the time values. -/
theorem civilOf_year {day : Int} (near : day.natAbs ≤ 100000000) : (civilOf day).year.natAbs < 1000000 := by
  obtain ⟨least, most, -, -⟩ := yearOf_day day
  simp only [eraDays, epochDays] at least most
  unfold civilOf dated eraDays epochDays
  split <;> dsimp only <;> omega

/-- A day is the day of its date. -/
theorem dayOf_civilOf : dayOf (civilOf day) = day := by
  obtain ⟨least, most, first, last⟩ := yearOf_day day
  have whole := Int.mul_ediv_add_emod (day + epochDays) eraDays
  rw [civilOf, dayOf_dated (by simp only [monthOf]; omega) (by simp only [monthOf]; omega)]
  have era : (400 * ((day + epochDays) / eraDays) + yearOf ((day + epochDays) % eraDays)) / 400 =
      (day + epochDays) / eraDays := by omega
  have year : (400 * ((day + epochDays) / eraDays) + yearOf ((day + epochDays) % eraDays)) % 400 =
      yearOf ((day + epochDays) % eraDays) := by omega
  rw [era, year]
  simp only [ofYear]
  omega

end

/-! ### Texts -/

/-- The last digits of a number. -/
def padded : Nat → Nat → List Char
  | 0, _ => []
  | width + 1, value => padded width (value / 10) ++ [Char.ofNat ('0'.toNat + value % 10)]

@[simp] theorem padded_length (width value : Nat) : (padded width value).length = width := by
  induction width generalizing value with
  | zero => rfl
  | succ width ih => simp [padded, ih]

theorem digitsValue_concat (digits : List Char) {digit : Nat} (small : digit < 10) :
    digitsValue (digits ++ [Char.ofNat ('0'.toNat + digit)]) = 10 * digitsValue digits + digit := by
  have read : (Char.ofNat ('0'.toNat + digit)).toNat - '0'.toNat = digit := by
    revert digit
    decide
  rw [digitsValue, List.foldl_concat, read]
  rfl

/-- Digits that suffice for a number write it. -/
theorem digitsValue_padded {width value : Nat} (fits : value < 10 ^ width) : digitsValue (padded width value) = value := by
  induction width generalizing value with
  | zero =>
    obtain rfl : value = 0 := by simpa using fits
    rfl
  | succ width ih =>
    have rest : value / 10 < 10 ^ width := by
      rw [Nat.div_lt_iff_lt_mul (by decide)]
      exact fits
    rw [padded, digitsValue_concat _ (Nat.mod_lt _ (by decide)), ih rest]
    omega

/-- A year of four digits, or one of six with a sign. -/
def yearText (year : Int) : List Char :=
  if 0 ≤ year ∧ year ≤ 9999 then padded 4 year.toNat
  else (if year < 0 then '-' else '+') :: padded 6 year.natAbs

/-- The largest time value. -/
def maximumTime : Int := 8640000000000000

def dayMs : Int := 86400000

/-- The date and the time of day, after the year. -/
def dayText (month day ofDay : Nat) : List Char :=
  '-' :: (padded 2 month ++ '-' :: (padded 2 day ++ 'T' :: (padded 2 (ofDay / 3600000) ++
    ':' :: (padded 2 (ofDay / 60000 % 60) ++ ':' :: (padded 2 (ofDay / 1000 % 60) ++ '.' :: (padded 3 (ofDay % 1000) ++ ['Z']))))))

/-- The text of a time value. -/
def isoText (time : Int) : List Char :=
  let date := civilOf (time / dayMs)
  yearText date.year ++ dayText date.month.toNat date.day.toNat (time % dayMs).toNat

/-- A time value. -/
structure TimeValue where
  milliseconds : Int
  near : (milliseconds.natAbs : Int) ≤ maximumTime

/-- `new Date(time).toISOString()`, which throws for what is no time value. -/
def toISOString (time : Int) : Option String :=
  if time.natAbs ≤ maximumTime then some (String.ofList (isoText time)) else none

/-! ### Reading -/

/-- The number that the digits at a place write. -/
def field (text : List Char) (place width : Nat) : Nat := digitsValue ((text.drop place).take width)

/-- The year that a text begins with, and what follows it. -/
def splitYear (text : List Char) : Int × List Char :=
  if text.head? = some '-' then (-(field text 1 6 : Int), text.drop 7)
  else if text.head? = some '+' then (field text 1 6, text.drop 7)
  else (field text 0 4, text.drop 4)

/-- The time value that the digits of a text write. -/
def timeOf (text : List Char) : Int :=
  let (year, rest) := splitYear text
  dayMs * dayOf ⟨year, field rest 1 2, field rest 4 2⟩ +
    (3600000 * field rest 7 2 + 60000 * field rest 10 2 + 1000 * field rest 13 2 + field rest 16 3 : Nat)

/-- The time value that a text was written from. -/
def ofISOString (text : String) : Option Int :=
  (some (timeOf text.toList)).filter fun time => toISOString time = some text

theorem digit_ne {digit : Nat} (small : digit < 10) :
    Char.ofNat ('0'.toNat + digit) ≠ '-' ∧ Char.ofNat ('0'.toNat + digit) ≠ '+' := by
  revert digit
  decide

theorem splitYear_yearText {year : Int} (near : year.natAbs < 1000000) (rest : List Char) :
    splitYear (yearText year ++ rest) = (year, rest) := by
  unfold yearText
  split
  next short =>
    have apart := @digit_ne (year.toNat / 10 / 10 / 10 % 10) (Nat.mod_lt _ (by decide))
    have first : (padded 4 year.toNat ++ rest).head? = some (Char.ofNat ('0'.toNat + year.toNat / 10 / 10 / 10 % 10)) := rfl
    have read : field (padded 4 year.toNat ++ rest) 0 4 = year.toNat :=
      @digitsValue_padded 4 year.toNat (by omega)
    have rest_ : (padded 4 year.toNat ++ rest).drop 4 = rest := rfl
    rw [splitYear, first, if_neg (by simpa using apart.1), if_neg (by simpa using apart.2), read, rest_,
      Int.toNat_of_nonneg short.1]
  next long =>
    by_cases negative : year < 0
    · have read : field ('-' :: padded 6 year.natAbs ++ rest) 1 6 = year.natAbs :=
        @digitsValue_padded 6 year.natAbs near
      have first : ('-' :: padded 6 year.natAbs ++ rest).head? = some '-' := rfl
      have rest_ : ('-' :: padded 6 year.natAbs ++ rest).drop 7 = rest := rfl
      rw [if_pos negative, splitYear, first, if_pos rfl, read, rest_]
      refine congrArg (·, rest) ?_
      omega
    · have read : field ('+' :: padded 6 year.natAbs ++ rest) 1 6 = year.natAbs :=
        @digitsValue_padded 6 year.natAbs near
      have first : ('+' :: padded 6 year.natAbs ++ rest).head? = some '+' := rfl
      have rest_ : ('+' :: padded 6 year.natAbs ++ rest).drop 7 = rest := rfl
      rw [if_neg negative, splitYear, first, if_neg (by decide), if_pos rfl, read, rest_]
      refine congrArg (·, rest) ?_
      omega

/-- The numbers that the digits of a date and a time of day write. -/
theorem field_dayText {month day ofDay : Nat} (months : month < 100) (days : day < 100) (inDay : ofDay < 86400000) :
    field (dayText month day ofDay) 1 2 = month ∧ field (dayText month day ofDay) 4 2 = day ∧
      3600000 * field (dayText month day ofDay) 7 2 + 60000 * field (dayText month day ofDay) 10 2 +
        1000 * field (dayText month day ofDay) 13 2 + field (dayText month day ofDay) 16 3 = ofDay := by
  have hours : field (dayText month day ofDay) 7 2 = ofDay / 3600000 := @digitsValue_padded 2 _ (by omega)
  have minutes : field (dayText month day ofDay) 10 2 = ofDay / 60000 % 60 := @digitsValue_padded 2 _ (by omega)
  have seconds : field (dayText month day ofDay) 13 2 = ofDay / 1000 % 60 := @digitsValue_padded 2 _ (by omega)
  have thousandths : field (dayText month day ofDay) 16 3 = ofDay % 1000 := @digitsValue_padded 3 _ (by omega)
  refine ⟨@digitsValue_padded 2 month months, @digitsValue_padded 2 day days, ?_⟩
  rw [hours, minutes, seconds, thousandths]
  omega

/-- The digits of a text write the time value that it was written from. -/
theorem timeOf_isoText {time : Int} (near : time.natAbs ≤ maximumTime) : timeOf (isoText time) = time := by
  simp only [maximumTime] at near
  have month := civilOf_month (time / dayMs)
  have day := civilOf_day (time / dayMs)
  have year := @civilOf_year (time / dayMs) (by simp only [dayMs]; omega)
  have parts := Int.mul_ediv_add_emod time dayMs
  have early : 0 ≤ time % dayMs ∧ time % dayMs < 86400000 := by
    simp only [dayMs]
    omega
  obtain ⟨months, days, ofDay⟩ := @field_dayText (civilOf (time / dayMs)).month.toNat (civilOf (time / dayMs)).day.toNat
    (time % dayMs).toNat (by omega) (by omega) (by omega)
  unfold timeOf isoText
  rw [splitYear_yearText year]
  dsimp only
  rw [months, days, ofDay, Int.toNat_of_nonneg (by omega), Int.toNat_of_nonneg (by omega), Int.toNat_of_nonneg early.1]
  exact (congrArg (dayMs * · + _) (dayOf_civilOf _)).trans parts

/-- A text names the time value that it was written from. -/
theorem ofISOString_toISOString {time : Int} {text : String} (written : toISOString time = some text) :
    ofISOString text = some time := by
  have near : time.natAbs ≤ maximumTime := by
    by_contra far
    rw [toISOString, if_neg far] at written
    cases written
  have same : text = String.ofList (isoText time) := by
    rw [toISOString, if_pos near] at written
    exact (Option.some.inj written).symm
  have read : timeOf text.toList = time := by rw [same, String.toList_ofList, timeOf_isoText near]
  rw [ofISOString, read, Option.filter_some, if_pos (by simpa using written)]

/-- The text of a time value. -/
def TimeValue.text (time : TimeValue) : String := String.ofList (isoText time.milliseconds)

theorem TimeValue.toISOString_eq (time : TimeValue) : toISOString time.milliseconds = some time.text := if_pos time.near

theorem TimeValue.ofISOString_text (time : TimeValue) : ofISOString time.text = some time.milliseconds :=
  ofISOString_toISOString time.toISOString_eq

theorem TimeValue.text_ne_empty (time : TimeValue) : time.text ≠ "" := by
  intro empty
  have characters : isoText time.milliseconds = [] := by
    rw [← @String.toList_ofList (isoText time.milliseconds)]
    exact congrArg String.toList empty
  exact absurd characters (by simp [isoText, dayText])

end ControlPlane.IsoDates
