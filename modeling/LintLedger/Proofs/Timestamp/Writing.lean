import LintLedger.Proofs.Timestamp.Calendar
import Mathlib.Data.Rat.Floor

/-!
# Written times

Times are written with four digits for the year and two for every other part, with a letter or a
blank between date and time, with any number of digits of a part of a second, and with an offset
from universal time.  What is read as a time is exactly what is written so, and it means the instant
that is written, cut to the whole second.

## Main Definitions

* `Timestamp.Zone`, `Timestamp.Writing` -- written offsets and written times
* `Timestamp.Writing.text` -- the text of a written time
* `Timestamp.Writing.instant` -- the instant that is meant
* `Timestamp.Instant.cut` -- an instant without the part of a second

## Main Statements

* `Timestamp.ofText?_eq_some_iff` -- which texts are read, and as what
* `Timestamp.Writing.Valid.instant_universal` -- what is read is the instant, cut to the second
-/

namespace LintLedger.Timestamp

/-! ## Written times -/

/-- A written offset from universal time. -/
inductive Zone where
  | universal (letter : Char)
  | offset (sign : Char) (hours minutes : Nat)

namespace Zone

def text : Zone → List Char
  | universal letter => [letter]
  | offset sign hours minutes => sign :: (Digits.padded 2 hours ++ ':' :: Digits.padded 2 minutes)

/-- By how many minutes local time is ahead of universal time. -/
def minutes : Zone → Int
  | universal _ => 0
  | offset sign hours minutes =>
    if sign = '+' then (60 * hours + minutes : Nat) else -(60 * hours + minutes : Nat)

/-- The letter may be small, and a minus may be the hyphen or the sign of mathematics. -/
inductive Valid : Zone → Prop
  | universal {letter : Char} : letter ∈ ['Z', 'z'] → Valid (universal letter)
  | offset {sign : Char} {hours minutes : Nat} : sign ∈ ['+', '-', '−'] → hours < 24 →
      minutes < 60 → Valid (offset sign hours minutes)

end Zone

/-- A written time. -/
structure Writing where
  /-- The time on the clocks of the zone. -/
  time : Timestamp
  separator : Char
  /-- The digits of the part of a second, with a point in front if there are any. -/
  fraction : List Char
  zone : Zone

/-- The digits of a part of a second as they are written. -/
def fractionText : List Char → List Char
  | [] => []
  | d :: ds => '.' :: d :: ds

namespace Writing

def text (v : Writing) : List Char :=
  Digits.padded 4 v.time.year.natAbs ++ '-' :: (Digits.padded 2 v.time.month ++ '-' ::
    (Digits.padded 2 v.time.day ++ v.separator :: (Digits.padded 2 v.time.hour ++ ':' ::
      (Digits.padded 2 v.time.minute ++ ':' :: (Digits.padded 2 v.time.second ++
        (fractionText v.fraction ++ v.zone.text))))))

structure Valid (v : Writing) : Prop where
  time : v.time.FourDigits
  separator : v.separator ∈ ['T', 't', ' ']
  fraction : ∀ d ∈ v.fraction, d.isDigit = true
  zone : v.zone.Valid

/-- The part of a second, less than a whole one. -/
def part (v : Writing) : ℚ := Text.natOfDigits v.fraction / 10 ^ v.fraction.length

/-- The instant that is meant: the minute in universal time, and the seconds with their part. -/
def instant (v : Writing) : Instant :=
  toLex (v.time.minuteNumber - v.zone.minutes, v.time.second + v.part)

/-- The time in universal time, without the part of a second. -/
def universal (v : Writing) : Timestamp := v.time.removeOffset v.zone.minutes

end Writing

/-- An instant without the part of a second. -/
def Instant.cut (x : Instant) : Instant := toLex ((ofLex x).1, (⌊(ofLex x).2⌋ : ℚ))

/-! ## The parts of a text -/

variable {cs rest : List Char} {n k : Nat}

theorem digits?_eq_some_iff (hn : 0 < n) :
    digits? n cs = some (k, rest) ↔ k < 10 ^ n ∧ cs = Digits.padded n k ++ rest := by
  unfold digits?
  dsimp only
  constructor
  · intro h
    split at h
    · rename_i hfront
      obtain ⟨hlength, hdigits⟩ := hfront
      have hdigits : ∀ c ∈ cs.take n, c.isDigit = true := List.all_eq_true.mp hdigits
      have hne : cs.take n ≠ [] := List.ne_nil_of_length_pos (hlength.symm ▸ hn)
      cases h
      refine ⟨?_, ?_⟩
      · have hlt := Digits.natOfDigits_lt hdigits
        rwa [hlength] at hlt
      · have hpadded := Digits.padded_natOfDigits hdigits hne
        rw [hlength] at hpadded
        rw [hpadded, List.take_append_drop]
    · cases h
  · rintro ⟨hk, rfl⟩
    have hlength := Digits.length_padded hk hn
    have hdigits : (Digits.padded n k).all Char.isDigit = true :=
      List.all_eq_true.mpr fun _ => Digits.isDigit_of_mem_padded
    rw [List.take_left' hlength, List.drop_left' hlength, if_pos ⟨hlength, hdigits⟩,
      Digits.natOfDigits_padded]

theorem after?_eq_some_iff {allowed : List Char} :
    after? allowed cs = some rest ↔ ∃ c ∈ allowed, cs = c :: rest := by
  cases cs with
  | nil => simp [after?]
  | cons c cs =>
    unfold after?
    by_cases hc : c ∈ allowed <;> simp [hc, eq_comm]

theorem exists_of_dropFraction? (h : dropFraction? cs = some rest) :
    ∃ ds, (∀ d ∈ ds, d.isDigit = true) ∧ cs = fractionText ds ++ rest := by
  unfold dropFraction? at h
  split at h
  · rename_i digits
    split at h
    · rename_i hhead
      cases h
      refine ⟨digits.takeWhile Char.isDigit, fun d hd => List.mem_takeWhile_imp hd, ?_⟩
      cases digits with
      | nil => cases hhead
      | cons d ds =>
        have hd : d.isDigit = true := by simpa using hhead
        rw [List.takeWhile_cons_of_pos hd, List.dropWhile_cons_of_pos hd, fractionText,
          List.cons_append, List.cons_append, List.takeWhile_append_dropWhile]
    · cases h
  · cases h
    exact ⟨[], by simp, rfl⟩

/-- A zone begins with none of the characters of a part of a second. -/
theorem Zone.Valid.head {zone : Zone} (h : zone.Valid) :
    ∃ c rest, zone.text = c :: rest ∧ c ≠ '.' ∧ c.isDigit = false := by
  have hplain : ∀ c ∈ ['Z', 'z'] ++ ['+', '-', '−'], c ≠ '.' ∧ c.isDigit = false := by
    simp only [List.cons_append, List.nil_append, List.forall_mem_cons, List.not_mem_nil,
      false_imp_iff, implies_true, and_true]
    decide
  cases h with
  | universal hletter => exact ⟨_, _, rfl, hplain _ (List.mem_append_left _ hletter)⟩
  | offset hsign _ _ => exact ⟨_, _, rfl, hplain _ (List.mem_append_right _ hsign)⟩

theorem dropFraction?_fractionText {ds : List Char} (hds : ∀ d ∈ ds, d.isDigit = true)
    {zone : Zone} (hzone : zone.Valid) :
    dropFraction? (fractionText ds ++ zone.text) = some zone.text := by
  obtain ⟨c, rest, htext, hpoint, hdigit⟩ := hzone.head
  cases ds with
  | nil =>
    rw [fractionText, List.nil_append, htext, dropFraction?]
    simpa using hpoint
  | cons d ds =>
    have hd : d.isDigit = true := hds d List.mem_cons_self
    have hstop : ((d :: ds) ++ zone.text).dropWhile Char.isDigit = zone.text := by
      rw [List.dropWhile_append_of_pos hds, htext]
      exact List.dropWhile_cons_of_neg (by simp [hdigit])
    rw [fractionText, List.cons_append, dropFraction?, hstop, if_pos]
    simpa using hd

/-- The size of an offset, as it is read after the sign. -/
def amount? (negative : Bool) (cs : List Char) : Option Int := do
  let (hours, rest) ← digits? 2 cs
  let rest ← after? [':'] rest
  let (minutes, rest) ← digits? 2 rest
  if rest.isEmpty ∧ hours < 24 ∧ minutes < 60 then
    let total := Int.ofNat (60 * hours + minutes)
    some (if negative then -total else total)
  else none

theorem amount?_eq_some_iff {negative : Bool} {m : Int} :
    amount? negative cs = some m ↔ ∃ hours minutes, hours < 24 ∧ minutes < 60 ∧
      cs = Digits.padded 2 hours ++ ':' :: Digits.padded 2 minutes ∧
        (if negative then -((60 * hours + minutes : Nat) : Int) else (60 * hours + minutes : Nat)) =
          m := by
  unfold amount?
  constructor
  · intro h
    obtain ⟨⟨hours, rest⟩, hhours, hafter⟩ := Option.bind_eq_some_iff.mp h
    obtain ⟨rest', hcolon, hafter'⟩ := Option.bind_eq_some_iff.mp hafter
    obtain ⟨⟨minutes, rest''⟩, hminutes, hwhole⟩ := Option.bind_eq_some_iff.mp hafter'
    dsimp only at hwhole
    split at hwhole
    · rename_i hrange
      obtain ⟨hrest, hhour, hminute⟩ := hrange
      obtain ⟨-, rfl⟩ := (digits?_eq_some_iff (by decide)).mp hhours
      obtain ⟨c, hc, rfl⟩ := after?_eq_some_iff.mp hcolon
      obtain ⟨-, rfl⟩ := (digits?_eq_some_iff (by decide)).mp hminutes
      rw [List.mem_singleton.mp hc, List.isEmpty_iff.mp hrest, List.append_nil]
      exact ⟨hours, minutes, hhour, hminute, rfl, Option.some.inj hwhole⟩
    · cases hwhole
  · rintro ⟨hours, minutes, hhours, hminutes, rfl, rfl⟩
    have hread : digits? 2 (Digits.padded 2 hours ++ ':' :: Digits.padded 2 minutes) =
        some (hours, ':' :: Digits.padded 2 minutes) :=
      (digits?_eq_some_iff (by decide)).mpr ⟨by omega, rfl⟩
    have hread' : digits? 2 (Digits.padded 2 minutes) = some (minutes, []) :=
      (digits?_eq_some_iff (by decide)).mpr ⟨by omega, (List.append_nil _).symm⟩
    have hcolon : after? [':'] (':' :: Digits.padded 2 minutes) = some (Digits.padded 2 minutes) :=
      rfl
    simp only [hread, hcolon, hread', Option.bind_eq_bind, Option.bind_some]
    rw [if_pos ⟨rfl, hhours, hminutes⟩]
    rfl

/-- An offset is a letter, or a sign and its size. -/
theorem offset?_cons (sign : Char) (after : List Char) :
    offset? (sign :: after) =
      if sign ∈ ['Z', 'z'] ∧ after = [] then some 0
      else if sign = '+' then amount? false after
      else if sign = '-' ∨ sign = '−' then amount? true after
      else none := by
  unfold offset?
  split
  · rename_i heq
    cases heq
    rfl
  · rename_i heq
    cases heq
    rfl
  · rename_i hZ hz heq
    cases heq
    have hno : ¬ (sign ∈ ['Z', 'z'] ∧ after = []) := by
      rintro ⟨hletter, rfl⟩
      simp only [List.mem_cons, List.not_mem_nil, or_false] at hletter
      rcases hletter with rfl | rfl
      · exact hZ rfl rfl
      · exact hz rfl rfl
    rw [if_neg hno]
    rfl
  · rename_i heq
    cases heq

theorem exists_zone_of_offset? {m : Int} (h : offset? cs = some m) :
    ∃ zone : Zone, zone.Valid ∧ zone.text = cs ∧ zone.minutes = m := by
  cases cs with
  | nil => cases h
  | cons sign after =>
    rw [offset?_cons] at h
    split at h
    · rename_i hletter
      obtain ⟨hletter, rfl⟩ := hletter
      exact ⟨.universal sign, .universal hletter, rfl, Option.some.inj h⟩
    · split at h
      · rename_i hplus
        obtain ⟨hours, minutes, hhours, hminutes, rfl, rfl⟩ := amount?_eq_some_iff.mp h
        refine ⟨.offset sign hours minutes, .offset ?_ hhours hminutes, rfl, if_pos hplus⟩
        rw [hplus]
        decide
      · rename_i hplus
        split at h
        · rename_i hminus
          obtain ⟨hours, minutes, hhours, hminutes, rfl, rfl⟩ := amount?_eq_some_iff.mp h
          refine ⟨.offset sign hours minutes, .offset ?_ hhours hminutes, rfl, if_neg hplus⟩
          rcases hminus with rfl | rfl <;> decide
        · cases h

theorem Zone.Valid.offset?_text {zone : Zone} (h : zone.Valid) :
    offset? zone.text = some zone.minutes := by
  cases h with
  | @universal letter hletter =>
    rw [Zone.text, offset?_cons, if_pos ⟨hletter, rfl⟩]
    rfl
  | @offset sign hours minutes hsign hhours hminutes =>
    have hno : ¬ (sign ∈ ['Z', 'z'] ∧
        Digits.padded 2 hours ++ ':' :: Digits.padded 2 minutes = []) := by
      simp
    rw [Zone.text, offset?_cons, if_neg hno, Zone.minutes]
    by_cases hplus : sign = '+'
    · rw [if_pos hplus, if_pos hplus]
      exact amount?_eq_some_iff.mpr ⟨hours, minutes, hhours, hminutes, rfl, rfl⟩
    · have hminus : sign = '-' ∨ sign = '−' := by
        simpa [hplus] using hsign
      rw [if_neg hplus, if_neg hplus, if_pos hminus]
      exact amount?_eq_some_iff.mpr ⟨hours, minutes, hhours, hminutes, rfl, rfl⟩

/-- An offset is less than a day. -/
theorem Zone.Valid.abs_minutes_lt {zone : Zone} (h : zone.Valid) : |zone.minutes| < 1440 := by
  cases h with
  | universal => simp [Zone.minutes]
  | @offset sign hours minutes hsign hhours hminutes =>
    rw [Zone.minutes]
    split
    · rw [abs_lt]
      omega
    · rw [abs_neg, abs_lt]
      omega

/-! ## Whole texts -/

theorem exists_writing_of_ofText? {text : String} {t : Timestamp} (h : ofText? text = some t) :
    ∃ v : Writing, v.Valid ∧ v.text = text.toList ∧ v.universal = t := by
  -- each step took some characters from the front and left the rest to the next
  unfold ofText? at h
  obtain ⟨⟨year, r₁⟩, hyear, h₁⟩ := Option.bind_eq_some_iff.mp h
  obtain ⟨r₂, hhyphen, h₂⟩ := Option.bind_eq_some_iff.mp h₁
  obtain ⟨⟨month, r₃⟩, hmonth, h₃⟩ := Option.bind_eq_some_iff.mp h₂
  obtain ⟨r₄, hhyphen', h₄⟩ := Option.bind_eq_some_iff.mp h₃
  obtain ⟨⟨day, r₅⟩, hday, h₅⟩ := Option.bind_eq_some_iff.mp h₄
  obtain ⟨r₆, hmark, h₆⟩ := Option.bind_eq_some_iff.mp h₅
  obtain ⟨⟨hour, r₇⟩, hhour, h₇⟩ := Option.bind_eq_some_iff.mp h₆
  obtain ⟨r₈, hcolon, h₈⟩ := Option.bind_eq_some_iff.mp h₇
  obtain ⟨⟨minute, r₉⟩, hminute, h₉⟩ := Option.bind_eq_some_iff.mp h₈
  obtain ⟨r₁₀, hcolon', h₁₀⟩ := Option.bind_eq_some_iff.mp h₉
  obtain ⟨⟨second, r₁₁⟩, hsecond, h₁₁⟩ := Option.bind_eq_some_iff.mp h₁₀
  obtain ⟨r₁₂, hfraction, h₁₂⟩ := Option.bind_eq_some_iff.mp h₁₁
  obtain ⟨offset, hoffset, hwhole⟩ := Option.bind_eq_some_iff.mp h₁₂
  split at hwhole
  · rename_i hclock
    obtain ⟨hdate, hhour', hminute', hsecond'⟩ := hclock
    cases hwhole
    obtain ⟨hyear', htext⟩ := (digits?_eq_some_iff (by decide)).mp hyear
    obtain ⟨c₁, hc₁, rfl⟩ := after?_eq_some_iff.mp hhyphen
    obtain ⟨-, rfl⟩ := (digits?_eq_some_iff (by decide)).mp hmonth
    obtain ⟨c₂, hc₂, rfl⟩ := after?_eq_some_iff.mp hhyphen'
    obtain ⟨-, rfl⟩ := (digits?_eq_some_iff (by decide)).mp hday
    obtain ⟨separator, hseparator, rfl⟩ := after?_eq_some_iff.mp hmark
    obtain ⟨-, rfl⟩ := (digits?_eq_some_iff (by decide)).mp hhour
    obtain ⟨c₃, hc₃, rfl⟩ := after?_eq_some_iff.mp hcolon
    obtain ⟨-, rfl⟩ := (digits?_eq_some_iff (by decide)).mp hminute
    obtain ⟨c₄, hc₄, rfl⟩ := after?_eq_some_iff.mp hcolon'
    obtain ⟨-, rfl⟩ := (digits?_eq_some_iff (by decide)).mp hsecond
    obtain ⟨fraction, hdigits, rfl⟩ := exists_of_dropFraction? hfraction
    obtain ⟨zone, hzone, rfl, rfl⟩ := exists_zone_of_offset? hoffset
    rw [List.mem_singleton] at hc₁ hc₂ hc₃ hc₄
    subst hc₁ hc₂ hc₃ hc₄
    refine ⟨⟨⟨year, month, day, hour, minute, second⟩, separator, fraction, zone⟩,
      ⟨⟨?_, Int.natCast_nonneg year, ?_⟩, hseparator, hdigits, hzone⟩, ?_, rfl⟩
    · exact ⟨isDate_iff.mp hdate, hhour', hminute', hsecond'⟩
    · exact Int.ofNat_lt.mpr hyear'
    · rw [htext]
      rfl
  · cases hwhole

theorem Writing.Valid.ofText?_eq {v : Writing} (h : v.Valid) {text : String}
    (htext : v.text = text.toList) : ofText? text = some v.universal := by
  obtain ⟨⟨year, month, day, hour, minute, second⟩, separator, fraction, zone⟩ := v
  obtain ⟨⟨⟨hdate, hhour, hminute, hsecond⟩, hnonneg, hyear⟩, hseparator, hfraction, hzone⟩ := h
  dsimp only at *
  have hday := hdate.day_le.trans (daysIn_le _ _)
  have hmonth := hdate.month_le
  dsimp only at hday hmonth
  have hread {k : Nat} (hk : k < 100) (rest : List Char) :
      digits? 2 (Digits.padded 2 k ++ rest) = some (k, rest) :=
    (digits?_eq_some_iff (by decide)).mpr ⟨hk, rfl⟩
  have hread' (rest : List Char) : digits? 4 (Digits.padded 4 year.natAbs ++ rest) =
      some (year.natAbs, rest) :=
    (digits?_eq_some_iff (by decide)).mpr ⟨by omega, rfl⟩
  have hafter {allowed : List Char} {c : Char} (hc : c ∈ allowed) (rest : List Char) :
      after? allowed (c :: rest) = some rest :=
    after?_eq_some_iff.mpr ⟨c, hc, rfl⟩
  have hmark {c : Char} (rest : List Char) : after? [c] (c :: rest) = some rest :=
    hafter List.mem_cons_self rest
  have hyear' : ((year.natAbs : Nat) : Int) = year := by omega
  unfold ofText?
  rw [← htext]
  -- the parts are read in the order in which they stand in the text
  refine Option.bind_eq_some_iff.mpr ⟨_, hread' _, ?_⟩
  refine Option.bind_eq_some_iff.mpr ⟨_, hmark _, ?_⟩
  refine Option.bind_eq_some_iff.mpr ⟨_, hread (show month < 100 by omega) _, ?_⟩
  refine Option.bind_eq_some_iff.mpr ⟨_, hmark _, ?_⟩
  refine Option.bind_eq_some_iff.mpr ⟨_, hread (show day < 100 by omega) _, ?_⟩
  refine Option.bind_eq_some_iff.mpr ⟨_, hafter hseparator _, ?_⟩
  refine Option.bind_eq_some_iff.mpr ⟨_, hread (show hour < 100 by omega) _, ?_⟩
  refine Option.bind_eq_some_iff.mpr ⟨_, hmark _, ?_⟩
  refine Option.bind_eq_some_iff.mpr ⟨_, hread (show minute < 100 by omega) _, ?_⟩
  refine Option.bind_eq_some_iff.mpr ⟨_, hmark _, ?_⟩
  refine Option.bind_eq_some_iff.mpr ⟨_, hread (show second < 100 by omega) _, ?_⟩
  refine Option.bind_eq_some_iff.mpr ⟨_, dropFraction?_fractionText hfraction hzone, ?_⟩
  refine Option.bind_eq_some_iff.mpr ⟨_, hzone.offset?_text, ?_⟩
  rw [hyear', if_pos ⟨isDate_iff.mpr hdate, hhour, hminute, hsecond⟩]
  rfl

/-- **Which texts are read, and as what.** -/
theorem ofText?_eq_some_iff {text : String} {t : Timestamp} :
    ofText? text = some t ↔ ∃ v : Writing, v.Valid ∧ v.text = text.toList ∧ v.universal = t := by
  refine ⟨exists_writing_of_ofText?, ?_⟩
  rintro ⟨v, hvalid, htext, rfl⟩
  exact hvalid.ofText?_eq htext

/-! ## Instants -/

namespace Writing

variable {v : Writing}

/-- A part of a second is less than a second. -/
theorem Valid.part_bounds (h : v.Valid) : 0 ≤ v.part ∧ v.part < 1 := by
  have hlt := Digits.natOfDigits_lt h.fraction
  refine ⟨by unfold part; positivity, ?_⟩
  rw [part, div_lt_one (by positivity)]
  exact_mod_cast hlt

theorem Valid.universal_onClock (h : v.Valid) : v.universal.OnClock :=
  (h.time.toOnClock.removeOffset h.zone.abs_minutes_lt).1

/-- **What is read is the instant that is meant, cut to the whole second.** -/
theorem Valid.instant_universal (h : v.Valid) : v.universal.instant = v.instant.cut := by
  obtain ⟨-, hsecond, hminute⟩ := h.time.toOnClock.removeOffset h.zone.abs_minutes_lt
  have hfloor : ⌊(v.time.second : ℚ) + v.part⌋ = v.time.second := by
    rw [Int.floor_eq_iff]
    obtain ⟨hlow, hhigh⟩ := h.part_bounds
    exact ⟨by push_cast; linarith, by push_cast; linarith⟩
  rw [universal, Timestamp.instant, hsecond, hminute, Instant.cut, Writing.instant]
  simp only [ofLex_toLex, hfloor, Int.cast_natCast]

/-- Cutting a part of a second off does not lead across the beginning of a year. -/
theorem cut_lt_yearTenThousand_iff {x : Instant} (h : 0 ≤ (ofLex x).2) :
    x.cut < yearTenThousand ↔ x < yearTenThousand := by
  have hcut : x.cut = toLex ((ofLex x).1, (⌊(ofLex x).2⌋ : ℚ)) := rfl
  have hself : x = toLex ((ofLex x).1, (ofLex x).2) := rfl
  have hfloor : (0 : ℚ) ≤ (⌊(ofLex x).2⌋ : ℚ) := Int.cast_nonneg (Int.floor_nonneg.mpr h)
  -- the first instant of a year has no seconds, so that the minutes alone decide
  rw [hcut, hself, yearTenThousand, Timestamp.instant, Prod.Lex.toLex_lt_toLex,
    Prod.Lex.toLex_lt_toLex]
  simp only [ofLex_toLex, Nat.cast_zero, not_lt.mpr hfloor, not_lt.mpr h, and_false, or_false]

end Writing

end LintLedger.Timestamp
