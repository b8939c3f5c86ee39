import LintLedger.Proofs.Data.Digits
import LintLedger.Timestamp
import Mathlib.Algebra.Order.Ring.Rat
import Mathlib.Data.Nat.Cast.Order.Ring
import Mathlib.Data.Prod.Lex

/-!
# The calendar and the order of time

A date is a number of days since the beginning of the year zero, and a time is a place among the
minutes that follow each other.  Going a day back or forth and taking off an offset are what they
should be in these numbers, for every year, leap years and centuries included; and the order of the
parts of times is the order of time.

Timestamps are compared as texts.  For years of four digits all parts of a text have their fixed
width, so that the order of texts is the order of time.  A year outside of them has a sign in front,
and signs come before digits: such a text is less than all those of four digits, also if its time
is after all of them.

## Main Definitions

* `Timestamp.dayNumber`, `Timestamp.minuteNumber` -- days and minutes since the year zero
* `Timestamp.OnDate`, `Timestamp.OnClock` -- times that there are
* `Timestamp.Instant`, `Timestamp.instant` -- places in time
* `Timestamp.Before` -- the order of the parts of times
* `Timestamp.FourDigits` -- times with a year of four digits
* `Timestamp.yearTenThousand` -- the first instant with a longer year

## Main Statements

* `Timestamp.dayNumber_lt_iff` -- days are counted in the order of the calendar
* `Timestamp.OnDate.dayBefore`, `Timestamp.OnDate.dayAfter` -- one day back and one day forth
* `Timestamp.OnClock.removeOffset` -- an offset is taken off
* `Timestamp.instant_lt_iff` -- instants are in the order of the parts of times
* `Timestamp.toText_lt_iff` -- the order of texts with years of four digits
* `Timestamp.toText_lt_toText_iff` -- which texts are less than that of any time

## Design Notes

An instant is a minute together with the seconds in it and not a number of seconds, for minutes may
have a leap second: it comes after the sixty seconds of its minute and before the next minute.
Offsets are whole minutes and leave the seconds alone.
-/

namespace LintLedger.Timestamp

section Calendar

variable {year : Int} {month : Nat} {t u : Timestamp}

/-! ## Years and months -/

/-- The days of a year. -/
def daysInYear (year : Int) : Nat := if isLeapYear year then 366 else 365

/-- The days between the beginnings of the year zero and of a year: 365 each and the leap days. -/
def daysBeforeYear (year : Int) : Int :=
  365 * year + (year + 3) / 4 - (year + 99) / 100 + (year + 399) / 400

/-- The days of a year before the first of a month. -/
def daysBeforeMonth (year : Int) (month : Nat) : Nat :=
  ((List.range (month - 1)).map fun m => daysIn year (m + 1)).sum

theorem isLeapYear_iff : isLeapYear year = true ↔ 4 ∣ year ∧ (¬ 100 ∣ year ∨ 400 ∣ year) := by
  simp only [isLeapYear, Bool.and_eq_true, Bool.or_eq_true, beq_iff_eq, bne_iff_ne, ne_eq,
    Int.dvd_iff_emod_eq_zero]

/-- **A year after the other**: the count grows by the days of the year. -/
theorem daysBeforeYear_succ (year : Int) :
    daysBeforeYear (year + 1) = daysBeforeYear year + daysInYear year := by
  unfold daysBeforeYear daysInYear
  by_cases h : isLeapYear year = true
  · rw [if_pos h]
    rw [isLeapYear_iff] at h
    omega
  · rw [if_neg h]
    rw [isLeapYear_iff] at h
    omega

theorem daysBeforeMonth_one (year : Int) : daysBeforeMonth year 1 = 0 := rfl

theorem daysBeforeMonth_succ (year : Int) (h : 1 ≤ month) :
    daysBeforeMonth year (month + 1) = daysBeforeMonth year month + daysIn year month := by
  obtain ⟨m, rfl⟩ := Nat.exists_eq_add_of_le' h
  simp [daysBeforeMonth, List.range_succ]

/-- The twelve months make up the year. -/
theorem daysBeforeMonth_thirteen (year : Int) : daysBeforeMonth year 13 = daysInYear year := by
  unfold daysBeforeMonth daysInYear
  by_cases h : isLeapYear year = true <;> simp [List.range_succ, daysIn, h]

theorem daysBeforeYear_le {year later : Int} (h : year ≤ later) :
    daysBeforeYear year ≤ daysBeforeYear later := by
  refine monotone_int_of_le_succ (fun year => ?_) h
  rw [daysBeforeYear_succ, daysInYear]
  split <;> omega

theorem monotone_daysBeforeMonth (year : Int) : Monotone (daysBeforeMonth year) := by
  refine monotone_nat_of_le_succ fun month => ?_
  rcases Nat.eq_zero_or_pos month with rfl | hpos
  · exact Nat.le_refl _
  · rw [daysBeforeMonth_succ year hpos]
    exact Nat.le_add_right _ _

/-! ## Days -/

/-- The days from the beginning of the year zero to a day. -/
def dayNumber (t : Timestamp) : Int :=
  daysBeforeYear t.year + daysBeforeMonth t.year t.month + t.day - 1

/-- There is such a day. -/
structure OnDate (t : Timestamp) : Prop where
  month_pos : 1 ≤ t.month
  month_le : t.month ≤ 12
  day_pos : 1 ≤ t.day
  day_le : t.day ≤ daysIn t.year t.month

theorem isDate_iff : isDate t.year t.month t.day = true ↔ t.OnDate := by
  simp only [isDate, Bool.and_eq_true, decide_eq_true_eq, and_assoc]
  exact ⟨fun ⟨h₁, h₂, h₃, h₄⟩ => ⟨h₁, h₂, h₃, h₄⟩, fun h => ⟨h.1, h.2, h.3, h.4⟩⟩

/-- A day lies in its month. -/
theorem OnDate.dayNumber_bounds (h : t.OnDate) :
    daysBeforeYear t.year + daysBeforeMonth t.year t.month ≤ t.dayNumber ∧
      t.dayNumber < daysBeforeYear t.year + daysBeforeMonth t.year (t.month + 1) := by
  obtain ⟨hmonth, -, hday, hle⟩ := h
  rw [daysBeforeMonth_succ _ hmonth, dayNumber]
  push_cast
  omega

/-- A day lies in its year. -/
theorem OnDate.dayNumber_lt (h : t.OnDate) : t.dayNumber < daysBeforeYear (t.year + 1) := by
  have hmonth : daysBeforeMonth t.year (t.month + 1) ≤ daysBeforeMonth t.year 13 :=
    monotone_daysBeforeMonth t.year (Nat.succ_le_succ h.month_le)
  have hbound := h.dayNumber_bounds.2
  rw [daysBeforeMonth_thirteen] at hmonth
  rw [daysBeforeYear_succ]
  omega

/-- In the order of year, month and day. -/
def DateBefore (t u : Timestamp) : Prop :=
  t.year < u.year ∨ t.year = u.year ∧ (t.month < u.month ∨ t.month = u.month ∧ t.day < u.day)

theorem dayNumber_lt_of_dateBefore (ht : t.OnDate) (hu : u.OnDate) (h : t.DateBefore u) :
    t.dayNumber < u.dayNumber := by
  -- the first part that differs decides, for days lie in their months and months in their years
  rcases h with hyear | ⟨hyear, hmonth | ⟨hmonth, hday⟩⟩
  · calc
      t.dayNumber < daysBeforeYear (t.year + 1) := ht.dayNumber_lt
      _ ≤ daysBeforeYear u.year := daysBeforeYear_le hyear
      _ ≤ daysBeforeYear u.year + daysBeforeMonth u.year u.month := by omega
      _ ≤ u.dayNumber := hu.dayNumber_bounds.1
  · have hmonths := monotone_daysBeforeMonth u.year (show t.month + 1 ≤ u.month from hmonth)
    have hbelow := ht.dayNumber_bounds.2
    have habove := hu.dayNumber_bounds.1
    rw [hyear] at hbelow
    omega
  · rw [dayNumber, dayNumber, hyear, hmonth]
    omega

/-- **Days are counted in the order of the calendar.** -/
theorem dayNumber_lt_iff (ht : t.OnDate) (hu : u.OnDate) :
    t.dayNumber < u.dayNumber ↔ t.DateBefore u := by
  refine ⟨fun h => ?_, dayNumber_lt_of_dateBefore ht hu⟩
  -- of two dates one is before the other or they are the same
  by_contra hnot
  have hback : u.DateBefore t ∨ t.year = u.year ∧ t.month = u.month ∧ t.day = u.day := by
    unfold DateBefore at hnot ⊢
    omega
  rcases hback with hback | ⟨hyear, hmonth, hday⟩
  · exact absurd (dayNumber_lt_of_dateBefore hu ht hback) (by omega)
  · rw [dayNumber, dayNumber, hyear, hmonth, hday] at h
    exact lt_irrefl _ h

theorem daysIn_pos (year : Int) (month : Nat) : 1 ≤ daysIn year month := by
  unfold daysIn
  split
  · split <;> decide
  · split <;> decide

/-- **The day before.** -/
theorem OnDate.dayBefore (h : t.OnDate) :
    t.dayBefore.OnDate ∧ t.dayBefore.dayNumber = t.dayNumber - 1 := by
  obtain ⟨hmonth, hle, hday, hlast⟩ := h
  unfold Timestamp.dayBefore
  split
  · rename_i hfirst
    refine ⟨⟨hmonth, hle, by dsimp only; omega, by dsimp only; omega⟩, ?_⟩
    simp only [dayNumber]
    omega
  · split
    · rename_i hfirst hjanuary
      have hmonths := daysBeforeMonth_succ t.year (Nat.le_sub_one_of_lt hjanuary)
      rw [Nat.sub_add_cancel hmonth] at hmonths
      have hpos := daysIn_pos t.year (t.month - 1)
      refine ⟨⟨by dsimp only; omega, by dsimp only; omega, hpos, le_refl _⟩, ?_⟩
      simp only [dayNumber]
      omega
    · rename_i hfirst hjanuary
      have hone : t.month = 1 := by omega
      have hyear := daysBeforeYear_succ (t.year - 1)
      have hmonths := daysBeforeMonth_succ (t.year - 1) (by decide : 1 ≤ 12)
      have hdecember : daysIn (t.year - 1) 12 = 31 := rfl
      rw [daysBeforeMonth_thirteen] at hmonths
      rw [sub_add_cancel] at hyear
      refine ⟨⟨Nat.le_add_left _ _, le_refl _, Nat.le_add_left _ _, hdecember.ge⟩, ?_⟩
      simp only [dayNumber, hone, daysBeforeMonth_one]
      omega

/-- **The day after.** -/
theorem OnDate.dayAfter (h : t.OnDate) :
    t.dayAfter.OnDate ∧ t.dayAfter.dayNumber = t.dayNumber + 1 := by
  obtain ⟨hmonth, hle, hday, hlast⟩ := h
  unfold Timestamp.dayAfter
  split
  · rename_i hinside
    exact ⟨⟨hmonth, hle, Nat.le_add_left _ _, hinside⟩, by simp only [dayNumber]; omega⟩
  · have hmonths := daysBeforeMonth_succ t.year hmonth
    split
    · refine ⟨⟨Nat.le_add_left _ _, by dsimp only; omega, le_refl _, daysIn_pos _ _⟩, ?_⟩
      simp only [dayNumber]
      omega
    · have htwelve : t.month = 12 := by omega
      have hyear := daysBeforeYear_succ t.year
      have htwelfth : daysBeforeMonth t.year (t.month + 1) = daysInYear t.year := by
        rw [htwelve, daysBeforeMonth_thirteen]
      refine ⟨⟨le_refl _, Nat.le_add_left _ _, le_refl _, daysIn_pos _ _⟩, ?_⟩
      simp only [dayNumber, daysBeforeMonth_one]
      omega

/-! ## Minutes and instants -/

/-- The minutes from the beginning of the year zero to the minute of a time. -/
def minuteNumber (t : Timestamp) : Int := 1440 * t.dayNumber + (60 * t.hour + t.minute : Nat)

/-- A time that clocks can show; sixty is the leap second of a minute. -/
structure OnClock (t : Timestamp) : Prop extends t.OnDate where
  hour_lt : t.hour < 24
  minute_lt : t.minute < 60
  second_le : t.second ≤ 60

theorem sameClock_dayBefore (t : Timestamp) : t.dayBefore.hour = t.hour ∧
    t.dayBefore.minute = t.minute ∧ t.dayBefore.second = t.second := by
  unfold dayBefore
  split
  · exact ⟨rfl, rfl, rfl⟩
  · split <;> exact ⟨rfl, rfl, rfl⟩

theorem sameClock_dayAfter (t : Timestamp) : t.dayAfter.hour = t.hour ∧
    t.dayAfter.minute = t.minute ∧ t.dayAfter.second = t.second := by
  unfold dayAfter
  split
  · exact ⟨rfl, rfl, rfl⟩
  · split <;> exact ⟨rfl, rfl, rfl⟩

/-- Another day at the same time of the day. -/
theorem OnClock.onOtherDate (h : t.OnClock) (hu : u.OnDate)
    (hclock : u.hour = t.hour ∧ u.minute = t.minute ∧ u.second = t.second) :
    u.OnClock ∧ u.second = t.second ∧
      u.minuteNumber = t.minuteNumber + 1440 * (u.dayNumber - t.dayNumber) := by
  obtain ⟨hhour, hminute, hsecond⟩ := hclock
  refine ⟨⟨hu, hhour ▸ h.hour_lt, hminute ▸ h.minute_lt, hsecond ▸ h.second_le⟩, hsecond, ?_⟩
  rw [minuteNumber, minuteNumber, hhour, hminute]
  ring

theorem OnClock.dayBefore (h : t.OnClock) : t.dayBefore.OnClock ∧
    t.dayBefore.second = t.second ∧ t.dayBefore.minuteNumber = t.minuteNumber - 1440 := by
  obtain ⟨hdate, hnumber⟩ := h.toOnDate.dayBefore
  obtain ⟨hclock, hsecond, hminutes⟩ := h.onOtherDate hdate (sameClock_dayBefore t)
  exact ⟨hclock, hsecond, by rw [hminutes, hnumber]; ring⟩

theorem OnClock.dayAfter (h : t.OnClock) : t.dayAfter.OnClock ∧
    t.dayAfter.second = t.second ∧ t.dayAfter.minuteNumber = t.minuteNumber + 1440 := by
  obtain ⟨hdate, hnumber⟩ := h.toOnDate.dayAfter
  obtain ⟨hclock, hsecond, hminutes⟩ := h.onOtherDate hdate (sameClock_dayAfter t)
  exact ⟨hclock, hsecond, by rw [hminutes, hnumber]; ring⟩

/-- Another minute of the same day. -/
def atMinute (t : Timestamp) (ofDay : Nat) : Timestamp :=
  { t with hour := ofDay / 60, minute := ofDay % 60 }

theorem OnClock.atMinute (h : t.OnClock) {ofDay : Nat} (hday : ofDay < 1440) :
    (t.atMinute ofDay).OnClock ∧ (t.atMinute ofDay).second = t.second ∧
      (t.atMinute ofDay).minuteNumber = 1440 * t.dayNumber + ofDay := by
  have hminutes : 60 * (ofDay / 60) + ofDay % 60 = ofDay := Nat.div_add_mod ofDay 60
  refine ⟨⟨⟨h.month_pos, h.month_le, h.day_pos, h.day_le⟩, ?_, ?_, h.second_le⟩, rfl, ?_⟩
  · exact Nat.div_lt_of_lt_mul hday
  · exact Nat.mod_lt _ (by decide)
  · show 1440 * t.dayNumber + ((60 * (ofDay / 60) + ofDay % 60 : Nat) : Int) = _
    rw [hminutes]

/-- **An offset of less than a day is taken off**: the time is as many minutes earlier. -/
theorem OnClock.removeOffset (h : t.OnClock) {offset : Int} (hoffset : |offset| < 1440) :
    (t.removeOffset offset).OnClock ∧ (t.removeOffset offset).second = t.second ∧
      (t.removeOffset offset).minuteNumber = t.minuteNumber - offset := by
  obtain ⟨hlow, hhigh⟩ := abs_lt.mp hoffset
  obtain ⟨-, hhour, hminute, -⟩ := id h
  let minutes : Int := Int.ofNat (60 * t.hour + t.minute) - offset
  have hminutes : minutes = (60 * t.hour + t.minute : Nat) - offset := rfl
  let ofDay := (minutes % 1440).toNat
  have hofDay : (ofDay : Int) = minutes % 1440 :=
    Int.toNat_of_nonneg (Int.emod_nonneg _ (by decide))
  have hday : ofDay < 1440 := by omega
  obtain ⟨hclock, hsecond, hnumber⟩ := h.atMinute hday
  have hremoved : t.removeOffset offset =
      if minutes < 0 then (t.atMinute ofDay).dayBefore
      else if 1440 ≤ minutes then (t.atMinute ofDay).dayAfter
      else t.atMinute ofDay := rfl
  have hbefore : t.minuteNumber = 1440 * t.dayNumber + (60 * t.hour + t.minute : Nat) := rfl
  -- before midnight the date is one day back, after the next one it is one day forth
  rw [hremoved]
  split
  · obtain ⟨hclock', hsecond', hnumber'⟩ := hclock.dayBefore
    exact ⟨hclock', hsecond'.trans hsecond, by omega⟩
  · split
    · obtain ⟨hclock', hsecond', hnumber'⟩ := hclock.dayAfter
      exact ⟨hclock', hsecond'.trans hsecond, by omega⟩
    · exact ⟨hclock, hsecond, by omega⟩

/-- A place in time: a minute, and the seconds in that minute. -/
abbrev Instant := ℤ ×ₗ ℚ

/-- The instant of a time. -/
def instant (t : Timestamp) : Instant := toLex (t.minuteNumber, (t.second : ℚ))

/-- In the order of all parts. -/
def Before (t u : Timestamp) : Prop :=
  t.DateBefore u ∨ (t.year = u.year ∧ t.month = u.month ∧ t.day = u.day) ∧
    (t.hour < u.hour ∨ t.hour = u.hour ∧
      (t.minute < u.minute ∨ t.minute = u.minute ∧ t.second < u.second))

/-- **Instants are in the order of the parts of times.** -/
theorem instant_lt_iff (ht : t.OnClock) (hu : u.OnClock) : t.instant < u.instant ↔ t.Before u := by
  have hday := dayNumber_lt_iff ht.toOnDate hu.toOnDate
  have hday' := dayNumber_lt_iff hu.toOnDate ht.toOnDate
  obtain ⟨-, hhour, hminute, -⟩ := ht
  obtain ⟨-, hhour', hminute', -⟩ := hu
  have hsame : t.dayNumber = u.dayNumber ↔
      t.year = u.year ∧ t.month = u.month ∧ t.day = u.day := by
    unfold DateBefore at hday hday'
    omega
  rw [instant, instant, Prod.Lex.toLex_lt_toLex, Before, ← hday, ← hsame]
  simp only [Nat.cast_lt, minuteNumber]
  omega

end Calendar

section Texts

variable {t u : Timestamp} {width n : Nat}

/-! ## The parts of a text -/

theorem toList_pushn (s : String) (c : Char) (n : Nat) :
    (s.pushn c n).toList = s.toList ++ List.replicate n c := by
  induction n with
  | zero => rw [List.replicate_zero, List.append_nil]; rfl
  | succ n ih =>
    have hpush : s.pushn c (n + 1) = (s.pushn c n).push c := rfl
    rw [hpush, String.toList_push, ih, List.append_assoc, List.replicate_succ']

/-- A number in a timestamp has zeros in front up to its width. -/
theorem toList_padded (width n : Nat) : (padded width n).toList = Digits.padded width n := by
  have hlength : (toString n).length = (Nat.toDigits 10 n).length := by
    rw [← String.length_toList, Digits.toList_toString]
  rw [padded, String.toList_append, toList_pushn, Digits.toList_toString, hlength]
  rfl

/-- The text after the year. -/
def afterYear (t : Timestamp) : List Char :=
  '-' :: (Digits.padded 2 t.month ++ '-' :: (Digits.padded 2 t.day ++ 'T' ::
    (Digits.padded 2 t.hour ++ ':' :: (Digits.padded 2 t.minute ++ ':' ::
      (Digits.padded 2 t.second ++ ['Z'])))))

theorem toList_toText (t : Timestamp) :
    t.toText.toList = (yearText t.year).toList ++ t.afterYear := by
  simp [toText, afterYear, toList_padded, String.toList_append]

/-! ## Years of four digits -/

/-- A time that clocks can show, with a year of four digits. -/
structure FourDigits (t : Timestamp) : Prop extends t.OnClock where
  year_nonneg : 0 ≤ t.year
  year_lt : t.year < 10000

instance (t : Timestamp) : Decidable t.FourDigits :=
  decidable_of_iff ((isDate t.year t.month t.day = true ∧ t.hour < 24 ∧ t.minute < 60 ∧
      t.second ≤ 60) ∧ 0 ≤ t.year ∧ t.year < 10000)
    ⟨fun ⟨⟨hdate, hhour, hminute, hsecond⟩, hlow, hhigh⟩ =>
      ⟨⟨isDate_iff.mp hdate, hhour, hminute, hsecond⟩, hlow, hhigh⟩,
    fun ⟨⟨hdate, hhour, hminute, hsecond⟩, hlow, hhigh⟩ =>
      ⟨⟨isDate_iff.mpr hdate, hhour, hminute, hsecond⟩, hlow, hhigh⟩⟩

theorem FourDigits.toList_yearText (h : t.FourDigits) :
    (yearText t.year).toList = Digits.padded 4 t.year.natAbs := by
  rw [yearText, if_neg (not_lt.mpr h.year_nonneg), if_pos h.year_lt, toList_padded]

theorem daysIn_le (year : Int) (month : Nat) : daysIn year month ≤ 31 := by
  unfold daysIn
  split
  · split <;> decide
  · split <;> decide

/-- **Texts with years of four digits are in the order of the parts of times.** -/
theorem toText_lt_iff (ht : t.FourDigits) (hu : u.FourDigits) :
    t.toText < u.toText ↔ t.Before u := by
  have hpart (c : Char) {m n : Nat} {x y : List Char} (hm : m < 100) (hn : n < 100) :
      c :: (Digits.padded 2 m ++ x) < c :: (Digits.padded 2 n ++ y) ↔ m < n ∨ m = n ∧ x < y := by
    rw [List.cons_lt_cons_self, Digits.padded_append_lt_iff hm hn (by decide)]
  have hyear {x y : List Char} : Digits.padded 4 t.year.natAbs ++ x <
      Digits.padded 4 u.year.natAbs ++ y ↔ t.year < u.year ∨ t.year = u.year ∧ x < y := by
    have hlow := ht.year_nonneg
    have hlow' := hu.year_nonneg
    have hhigh := ht.year_lt
    have hhigh' := hu.year_lt
    rw [Digits.padded_append_lt_iff (by omega) (by omega) (by decide)]
    have hlt : t.year.natAbs < u.year.natAbs ↔ t.year < u.year := by omega
    have heq : t.year.natAbs = u.year.natAbs ↔ t.year = u.year := by omega
    rw [hlt, heq]
  have hday := ht.day_le.trans (daysIn_le _ _)
  have hday' := hu.day_le.trans (daysIn_le _ _)
  obtain ⟨⟨⟨-, hmonth, -, -⟩, hhour, hminute, hsecond⟩, -, -⟩ := id ht
  obtain ⟨⟨⟨-, hmonth', -, -⟩, hhour', hminute', hsecond'⟩, -, -⟩ := id hu
  rw [String.lt_iff_toList_lt, toList_toText, toList_toText, ht.toList_yearText,
    hu.toList_yearText, hyear, afterYear, afterYear, hpart '-' (by omega) (by omega),
    hpart '-' (by omega) (by omega), hpart 'T' (by omega) (by omega),
    hpart ':' (by omega) (by omega), hpart ':' (by omega) (by omega), Before, DateBefore]
  simp only [lt_self_iff_false, and_false, or_false, and_or_left, or_assoc, and_assoc]

/-! ## Other years -/

/-- A text whose year has a sign is less than all texts with years of four digits. -/
theorem toText_lt_of_sign (ht : t.FourDigits) {sign : String} {c : Char} (hsign : sign.toList = [c])
    (hc : c < '0') (hu : yearText u.year = sign ++ padded 4 u.year.natAbs) :
    u.toText < t.toText := by
  have hyear : t.year.natAbs < 10 ^ 4 := by
    have hlow := ht.year_nonneg
    have hhigh := ht.year_lt
    omega
  have hlength := Digits.length_padded hyear (by decide)
  rw [String.lt_iff_toList_lt, toList_toText, toList_toText, hu, String.toList_append, hsign,
    ht.toList_yearText]
  cases hdigits : Digits.padded 4 t.year.natAbs with
  | nil =>
    rw [hdigits] at hlength
    cases hlength
  | cons d ds =>
    have hmem : d ∈ Digits.padded 4 t.year.natAbs := hdigits ▸ List.mem_cons_self
    have hdigit : d.isDigit = true := Digits.isDigit_of_mem_padded hmem
    have hzero : '0' ≤ d := (Digits.isDigit_iff.mp hdigit).1
    rw [List.cons_append, List.cons_append, List.cons_append, List.cons_lt_cons_iff]
    exact .inl (hc.trans_le hzero)

/-- The first instant with a year of five digits. -/
def yearTenThousand : Instant := instant ⟨10000, 1, 1, 0, 0, 0⟩

theorem instant_lt_yearTenThousand_iff (h : t.OnClock) :
    t.instant < yearTenThousand ↔ t.year < 10000 := by
  have hfirst : (⟨10000, 1, 1, 0, 0, 0⟩ : Timestamp).OnClock :=
    ⟨⟨by decide, by decide, by decide, by decide⟩, by decide, by decide, by decide⟩
  have hmonth := h.month_pos
  have hday := h.day_pos
  rw [yearTenThousand, instant_lt_iff h hfirst]
  simp only [Before, DateBefore]
  omega

/-- **Which texts are less**: those of earlier instants, if the year of the other time does not
have more than four digits, and else none. -/
theorem toText_lt_toText_iff (ht : t.FourDigits) (hu : u.OnClock) :
    t.toText < u.toText ↔ u.instant < yearTenThousand ∧ t.instant < u.instant := by
  rw [instant_lt_yearTenThousand_iff hu]
  -- a year before the year zero is before all times, a year of five digits after all of them
  by_cases hnegative : u.year < 0
  · have hyear : yearText u.year = "-" ++ padded 4 u.year.natAbs := by
      rw [yearText, if_pos hnegative]
    have hless := toText_lt_of_sign ht (by rfl) (by decide) hyear
    have hbefore : u.Before t := .inl (.inl (hnegative.trans_le ht.year_nonneg))
    have hearlier := (instant_lt_iff hu ht.toOnClock).mpr hbefore
    exact iff_of_false hless.asymm fun h => hearlier.asymm h.2
  · by_cases hfour : u.year < 10000
    · have hu' : u.FourDigits := ⟨hu, not_lt.mp hnegative, hfour⟩
      rw [toText_lt_iff ht hu', instant_lt_iff ht.toOnClock hu]
      exact (and_iff_right hfour).symm
    · have hyear : yearText u.year = "+" ++ padded 4 u.year.natAbs := by
        rw [yearText, if_neg hnegative, if_neg hfour]
      have hless := toText_lt_of_sign ht (by rfl) (by decide) hyear
      exact iff_of_false hless.asymm fun h => hfour h.1

end Texts

end LintLedger.Timestamp
