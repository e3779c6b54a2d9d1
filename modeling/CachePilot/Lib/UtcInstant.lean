/-
Module: CachePilot.Lib.UtcInstant
Layer: Lib
Purpose: Points of time as numbers of microseconds. A date is a position in rows of unequal widths, years of days and
  months of days, and a search through the rows gives the date of a day back. A time with an offset from UTC is
  converted by its number. The ISO texts of points of time are ordered as their numbers are, since both follow the
  parts from the year down to the microsecond.
Trusted boundary: none
Main exports: locate, locate_eq_some_iff, TimeParts.instant, UtcTime.ofInstant, UtcTime.ofInstant_eq_some_iff,
  UtcTime.isoText_le_iff, AwareTime, AwareTime.toUtc, AwareTime.toUtc_eq_some_iff, UtcTime.fromTimestamp, UtcTime.now
-/
import Mathlib.Algebra.BigOperators.Intervals
import Mathlib.Data.Rat.Floor
import CachePilot.Lib.Rounding
import CachePilot.Lib.UtcTime

namespace CachePilot

/-! ### Positions in rows of unequal widths -/

/-- The places in the rows from the first one to the one in front of this. -/
def placesBefore (width : ℕ → ℕ) (first row : ℕ) : ℕ := (Finset.Ico first row).sum width

/-- The row of a place and the place in this row, among so many rows. -/
def locate (width : ℕ → ℕ) : ℕ → ℕ → ℕ → Option (ℕ × ℕ)
  | 0, _, _ => none
  | rows + 1, row, place =>
      if place < width row then some (row, place) else locate width rows (row + 1) (place - width row)

section Positions

variable {width : ℕ → ℕ} {first row row' place : ℕ}

@[simp] theorem placesBefore_self (width : ℕ → ℕ) (row : ℕ) : placesBefore width row row = 0 := by
  rw [placesBefore, Finset.Ico_self, Finset.sum_empty]

theorem placesBefore_succ (from_first : first ≤ row) :
    placesBefore width first (row + 1) = placesBefore width first row + width row :=
  Finset.sum_Ico_succ_top from_first width

theorem placesBefore_first (behind : first < row) :
    placesBefore width first row = width first + placesBefore width (first + 1) row :=
  Finset.sum_eq_sum_Ico_succ_bot behind width

/-- Every place of an earlier row comes before every place of a later one. -/
theorem place_lt_of_row_lt (width : ℕ → ℕ) (place' : ℕ) (from_first : first ≤ row) (inside : place < width row)
    (rows : row < row') :
    placesBefore width first row + place < placesBefore width first row' + place' := by
  have upTo : placesBefore width first (row + 1) + placesBefore width (row + 1) row' = placesBefore width first row' :=
    Finset.sum_Ico_consecutive width (by omega) rows
  rw [placesBefore_succ from_first] at upTo
  omega

/-- The search finds the row that the place lies in. -/
theorem locate_eq_some_iff (width : ℕ → ℕ) (rows first place : ℕ) (found : ℕ × ℕ) :
    locate width rows first place = some found ↔
      (first ≤ found.1 ∧ found.1 < first + rows) ∧ found.2 < width found.1 ∧
        placesBefore width first found.1 + found.2 = place := by
  obtain ⟨row, inner⟩ := found
  induction rows generalizing first place with
  | zero =>
      simp only [locate, Nat.add_zero]
      exact ⟨fun absent => (Option.some_ne_none _ absent.symm).elim, fun inside => by omega⟩
  | succ rows ih =>
      rw [locate]
      by_cases here : place < width first
      · rw [if_pos here, Option.some.injEq, Prod.mk.injEq]
        constructor
        · rintro ⟨rfl, rfl⟩
          exact ⟨⟨Nat.le_refl _, by omega⟩, here, by rw [placesBefore_self, Nat.zero_add]⟩
        · rintro ⟨⟨from_first, -⟩, inside, total⟩
          have same : first = row := by
            by_contra other
            have behind : first < row := by omega
            dsimp only at total
            rw [placesBefore_first behind] at total
            omega
          subst same
          dsimp only at total
          rw [placesBefore_self] at total
          exact ⟨rfl, by omega⟩
      · rw [if_neg here, ih]
        dsimp only
        constructor
        · rintro ⟨⟨from_first, below⟩, inside, total⟩
          rw [placesBefore_first (by omega)]
          exact ⟨⟨by omega, by omega⟩, inside, by omega⟩
        · rintro ⟨⟨from_first, below⟩, inside, total⟩
          have behind : first < row := by
            by_contra other
            have same : first = row := by omega
            subst same
            rw [placesBefore_self] at total
            omega
          rw [placesBefore_first behind] at total
          exact ⟨⟨by omega, by omega⟩, inside, by omega⟩

end Positions

/-! ### Numbers of microseconds -/

/-- The number of days of a year. -/
def daysInYear (year : ℕ) : ℕ := if isLeapYear year then 366 else 365

/-- The microseconds of a day. -/
def dayLength : ℕ := 86400000000

namespace TimeParts

variable (p q : TimeParts)

/-- The parts, from the year down. -/
def key : List ℕ := [p.year, p.month, p.day, p.hour, p.minute, p.second, p.microsecond]

/-- The days of the year before this one. -/
def dayOfYear : ℕ := placesBefore (daysInMonth p.year) 1 p.month + (p.day - 1)

/-- The days before this one, from the first of January of the year one on. -/
def dayNumber : ℕ := placesBefore daysInYear 1 p.year + p.dayOfYear

/-- The microseconds of the day before this one. -/
def microOfDay : ℕ := ((p.hour * 60 + p.minute) * 60 + p.second) * 1000000 + p.microsecond

/-- The microseconds from the start of the year one on. -/
def instant : ℕ := p.dayNumber * dayLength + p.microOfDay

end TimeParts

/-- The months make up the year. -/
theorem placesBefore_months (year : ℕ) : placesBefore (daysInMonth year) 1 13 = daysInYear year := by
  cases leap : isLeapYear year <;>
    simp [placesBefore, Finset.sum_Ico_succ_top, daysInMonth, daysInYear, leap]

theorem dayOfYear_lt {p : TimeParts} (valid : p.Valid) : p.dayOfYear < daysInYear p.year := by
  obtain ⟨-, ⟨january, december⟩, ⟨firstDay, lastDay⟩, -⟩ := valid
  have inside : p.day - 1 < daysInMonth p.year p.month := by omega
  have upTo := place_lt_of_row_lt (daysInMonth p.year) 0 january inside (Nat.lt_succ_of_le december)
  rw [placesBefore_months] at upTo
  exact upTo

theorem microOfDay_lt {p : TimeParts} (valid : p.Valid) : p.microOfDay < dayLength := by
  obtain ⟨-, -, -, hour, minute, second, microsecond⟩ := valid
  rw [TimeParts.microOfDay, dayLength]
  omega

/-- The parts of the point of time so many microseconds from the start of the year one on. -/
def partsAt (n : ℕ) : Option TimeParts :=
  (locate daysInYear 9999 1 (n / dayLength)).bind fun year =>
  (locate (daysInMonth year.1) 12 1 year.2).map fun month =>
    let micros := n % dayLength
    { year := year.1, month := month.1, day := month.2 + 1, hour := micros / 3600000000,
      minute := micros / 60000000 % 60, second := micros / 1000000 % 60, microsecond := micros % 1000000 }

theorem dayNumber_of_instant {p : TimeParts} (valid : p.Valid) : p.instant / dayLength = p.dayNumber := by
  have inside := microOfDay_lt valid
  rw [TimeParts.instant, Nat.mul_comm, Nat.mul_add_div (by decide), Nat.div_eq_of_lt inside, Nat.add_zero]

theorem microOfDay_of_instant {p : TimeParts} (valid : p.Valid) : p.instant % dayLength = p.microOfDay := by
  rw [TimeParts.instant, Nat.mul_comm, Nat.mul_add_mod, Nat.mod_eq_of_lt (microOfDay_lt valid)]

/-- The day of a year within its month. -/
theorem locate_month {p : TimeParts} (valid : p.Valid) :
    locate (daysInMonth p.year) 12 1 p.dayOfYear = some (p.month, p.day - 1) := by
  obtain ⟨-, ⟨january, december⟩, ⟨firstDay, lastDay⟩, -⟩ := valid
  rw [locate_eq_some_iff]
  exact ⟨⟨january, by omega⟩, by dsimp only; omega, rfl⟩

theorem locate_year {p : TimeParts} (valid : p.Valid) :
    locate daysInYear 9999 1 p.dayNumber = some (p.year, p.dayOfYear) := by
  have inside := dayOfYear_lt valid
  obtain ⟨⟨firstYear, lastYear⟩, -⟩ := valid
  rw [locate_eq_some_iff]
  exact ⟨⟨firstYear, by omega⟩, inside, rfl⟩

/-- The parts of a number are those that have this number. -/
theorem partsAt_eq_some_iff (n : ℕ) (p : TimeParts) : partsAt n = some p ↔ p.Valid ∧ p.instant = n := by
  constructor
  · intro known
    obtain ⟨year, inYears, known⟩ := Option.bind_eq_some_iff.mp known
    obtain ⟨month, inMonths, rfl⟩ := Option.map_eq_some_iff.mp known
    obtain ⟨⟨firstYear, lastYear⟩, -, days⟩ := (locate_eq_some_iff _ _ _ _ year).mp inYears
    obtain ⟨⟨january, december⟩, inside, dayOfYear⟩ := (locate_eq_some_iff _ _ _ _ month).mp inMonths
    have micros : n % dayLength < dayLength := Nat.mod_lt _ (by decide)
    have split := Nat.div_add_mod n dayLength
    refine ⟨⟨⟨firstYear, by dsimp only; omega⟩, ⟨january, by dsimp only; omega⟩, ⟨Nat.le_add_left 1 _, inside⟩, ?_⟩, ?_⟩
    · dsimp only
      rw [dayLength] at micros ⊢
      omega
    · rw [TimeParts.instant, TimeParts.dayNumber, TimeParts.dayOfYear, TimeParts.microOfDay]
      dsimp only
      rw [Nat.add_sub_cancel, dayOfYear, days]
      rw [dayLength] at micros split ⊢
      omega
  · rintro ⟨valid, rfl⟩
    rw [partsAt, dayNumber_of_instant valid, microOfDay_of_instant valid, locate_year valid, Option.bind_some,
      locate_month valid, Option.map_some, Option.some.injEq]
    obtain ⟨-, -, ⟨firstDay, -⟩, hour, minute, second, microsecond⟩ := valid
    rw [TimeParts.microOfDay]
    obtain ⟨y, m, d, h, mi, sec, us⟩ := p
    dsimp only at *
    rw [TimeParts.mk.injEq]
    refine ⟨rfl, rfl, ?_, ?_, ?_, ?_, ?_⟩ <;> omega

/-! ### The order of points of time -/

/-- A point of time of an earlier day has a smaller number. -/
theorem instant_lt_of_day {p q : TimeParts} (valid : p.Valid) (days : p.dayNumber < q.dayNumber) :
    p.instant < q.instant := by
  have inside := microOfDay_lt valid
  calc p.dayNumber * dayLength + p.microOfDay < (p.dayNumber + 1) * dayLength := by
        rw [Nat.succ_mul]
        omega
    _ ≤ q.dayNumber * dayLength := Nat.mul_le_mul_right _ days
    _ ≤ q.dayNumber * dayLength + q.microOfDay := Nat.le_add_right _ _

theorem dayNumber_lt_of_year {p q : TimeParts} (valid : p.Valid) (years : p.year < q.year) :
    p.dayNumber < q.dayNumber :=
  place_lt_of_row_lt daysInYear q.dayOfYear valid.1.1 (dayOfYear_lt valid) years

theorem dayNumber_lt_of_month {p q : TimeParts} (valid : p.Valid) (year : p.year = q.year)
    (months : p.month < q.month) : p.dayNumber < q.dayNumber := by
  obtain ⟨-, ⟨january, -⟩, ⟨firstDay, lastDay⟩, -⟩ := valid
  have days : p.dayOfYear < q.dayOfYear := by
    rw [TimeParts.dayOfYear, TimeParts.dayOfYear, ← year]
    exact place_lt_of_row_lt (daysInMonth p.year) (q.day - 1) january (by omega) months
  rw [TimeParts.dayNumber, TimeParts.dayNumber, year]
  omega

/-- Earlier parts have a smaller number. -/
theorem instant_lt_of_key_lt {p q : TimeParts} (valid : p.Valid) (earlier : p.key < q.key) :
    p.instant < q.instant := by
  simp only [TimeParts.key, List.cons_lt_cons_iff, List.not_lt_nil, and_false, or_false] at earlier
  obtain years | ⟨year, months | ⟨month, days | ⟨day, within⟩⟩⟩ := earlier
  · exact instant_lt_of_day valid (dayNumber_lt_of_year valid years)
  · exact instant_lt_of_day valid (dayNumber_lt_of_month valid year months)
  · refine instant_lt_of_day valid ?_
    obtain ⟨-, -, ⟨firstDay, -⟩, -⟩ := valid
    rw [TimeParts.dayNumber, TimeParts.dayNumber, TimeParts.dayOfYear, TimeParts.dayOfYear, year, month]
    omega
  · obtain ⟨-, -, -, hour, minute, second, microsecond⟩ := valid
    rw [TimeParts.instant, TimeParts.instant, TimeParts.dayNumber, TimeParts.dayNumber, TimeParts.dayOfYear,
      TimeParts.dayOfYear, year, month, day, TimeParts.microOfDay, TimeParts.microOfDay]
    omega

/-- Smaller digits are earlier characters. -/
theorem decimalDigit_lt : ∀ n < 10, ∀ m < n, UtcTime.decimalDigit m < UtcTime.decimalDigit n := by decide

/-- The digits of numbers of one width are ordered as the numbers are, whatever stands behind them. -/
theorem fixedDigits_append_lt {width m n : ℕ} (bound : n < 10 ^ width) (less : m < n) (rest rest' : List Char) :
    UtcTime.fixedDigits width m ++ rest < UtcTime.fixedDigits width n ++ rest' := by
  induction width generalizing m n rest rest' with
  | zero =>
      rw [Nat.pow_zero] at bound
      omega
  | succ width ih =>
      have front : n / 10 < 10 ^ width := by
        rw [Nat.div_lt_iff_lt_mul (by decide), ← Nat.pow_succ]
        exact bound
      rw [UtcTime.fixedDigits, UtcTime.fixedDigits, List.append_assoc, List.append_assoc, List.singleton_append,
        List.singleton_append]
      by_cases fronts : m / 10 < n / 10
      · exact ih front fronts _ _
      · have same : m / 10 = n / 10 := by omega
        rw [same]
        exact List.append_left_lt (List.cons_lt_cons_iff.mpr
          (.inl (decimalDigit_lt (n % 10) (Nat.mod_lt _ (by decide)) (m % 10) (by omega))))

/-- A field of digits and its mark, with what is behind. -/
theorem field_lt {width m n : ℕ} (bound : n < 10 ^ width) (mark : Char) {rest rest' : List Char}
    (earlier : m < n ∨ m = n ∧ rest < rest') :
    UtcTime.fixedDigits width m ++ mark :: rest < UtcTime.fixedDigits width n ++ mark :: rest' := by
  rcases earlier with less | ⟨rfl, later⟩
  · exact fixedDigits_append_lt bound less _ _
  · exact List.append_left_lt (List.cons_lt_cons_iff.mpr (.inr ⟨rfl, later⟩))

/-- Earlier parts have an earlier text. -/
theorem partsText_lt_of_key_lt {p q : TimeParts} (valid : q.Valid) (earlier : p.key < q.key) :
    UtcTime.partsText p < UtcTime.partsText q := by
  simp only [TimeParts.key, List.cons_lt_cons_iff, List.not_lt_nil, and_false, or_false] at earlier
  obtain ⟨⟨-, year⟩, ⟨-, month⟩, ⟨-, day⟩, hour, minute, second, microsecond⟩ := valid
  have dayBound : daysInMonth q.year q.month ≤ 31 := by
    unfold daysInMonth
    split_ifs <;> decide
  refine field_lt (by omega) '-' (earlier.imp_right fun ⟨years, earlier⟩ => ⟨years, ?_⟩)
  refine field_lt (by omega) '-' (earlier.imp_right fun ⟨months, earlier⟩ => ⟨months, ?_⟩)
  refine field_lt (by omega) 'T' (earlier.imp_right fun ⟨days, earlier⟩ => ⟨days, ?_⟩)
  refine field_lt (by omega) ':' (earlier.imp_right fun ⟨hours, earlier⟩ => ⟨hours, ?_⟩)
  refine field_lt (by omega) ':' (earlier.imp_right fun ⟨minutes, earlier⟩ => ⟨minutes, ?_⟩)
  refine field_lt (by omega) '.' (earlier.imp_right fun ⟨seconds, microseconds⟩ => ⟨seconds, ?_⟩)
  exact fixedDigits_append_lt (by omega) microseconds _ _

theorem key_injective {p q : TimeParts} (same : p.key = q.key) : p = q := by
  obtain ⟨y, m, d, h, mi, s, us⟩ := p
  obtain ⟨y', m', d', h', mi', s', us'⟩ := q
  simpa [TimeParts.key] using same

namespace UtcTime

/-- The number of a point of time. -/
def instant (t : UtcTime) : ℕ := t.toTimeParts.instant

/-- The text of an earlier point of time comes first, and no other does. -/
theorem isoText_le_iff (t u : UtcTime) : t.isoText ≤ u.isoText ↔ t.instant ≤ u.instant := by
  rw [String.le_iff_toList_le, isoText, isoText, String.toList_ofList, String.toList_ofList]
  rcases lt_trichotomy t.key u.key with earlier | same | later
  · have texts := partsText_lt_of_key_lt u.valid earlier
    have numbers := instant_lt_of_key_lt t.valid earlier
    exact iff_of_true (le_of_lt texts) (le_of_lt numbers)
  · have parts := key_injective same
    rw [instant, instant, parts]
    exact iff_of_true le_rfl le_rfl
  · have texts := partsText_lt_of_key_lt t.valid later
    have numbers := instant_lt_of_key_lt u.valid later
    exact iff_of_false (not_le_of_gt texts) (not_le_of_gt numbers)

/-- The point of time with a number; none in front of the year one and behind the year 9999. -/
def ofInstant (n : ℤ) : Option UtcTime :=
  if 0 ≤ n then (partsAt n.toNat).bind fun p => if valid : p.Valid then some ⟨p, valid⟩ else none
  else none

theorem ofInstant_eq_some_iff (n : ℤ) (t : UtcTime) : ofInstant n = some t ↔ (t.instant : ℤ) = n := by
  rw [ofInstant]
  constructor
  · intro known
    split at known
    · rename_i positive
      obtain ⟨p, parts, known⟩ := Option.bind_eq_some_iff.mp known
      obtain ⟨valid, number⟩ := (partsAt_eq_some_iff _ p).mp parts
      rw [dif_pos valid] at known
      cases known
      rw [instant, number]
      exact Int.toNat_of_nonneg positive
    · cases known
  · rintro rfl
    have parts : partsAt t.instant = some t.toTimeParts := (partsAt_eq_some_iff _ _).mpr ⟨t.valid, rfl⟩
    rw [if_pos (Int.natCast_nonneg _), Int.toNat_natCast, parts, Option.bind_some, dif_pos t.valid]

/-- The start of the year 1970. -/
def epoch : UtcTime where
  year := 1970
  month := 1
  day := 1
  hour := 0
  minute := 0
  second := 0
  microsecond := 0
  valid := by decide

/-- The point of time so many seconds from the start of 1970 on, to the nearest microsecond. -/
def fromTimestamp (seconds : ℚ) : Option UtcTime :=
  ofInstant (epoch.instant + roundHalfEven (seconds * 1000000))

/-- What a clock shows so many seconds from the start of 1970 on, cut to the microsecond. -/
def now (seconds : ℚ) : Option UtcTime := ofInstant (epoch.instant + ⌊seconds * 1000000⌋)

end UtcTime

/-! ### Times with an offset -/

/-- A date and a time of day with its offset from UTC, in microseconds and less than a day. -/
structure AwareTime extends TimeParts where
  valid : toTimeParts.Valid
  offset : ℤ
  offset_small : -dayLength < offset ∧ offset < dayLength

namespace AwareTime

/-- The number of the point of time that is meant. -/
def instant (a : AwareTime) : ℤ := a.toTimeParts.instant - a.offset

/-- Convert to UTC; none when the point of time is out of range. -/
def toUtc (a : AwareTime) : Option UtcTime := UtcTime.ofInstant a.instant

/-- The conversion keeps the point of time. -/
theorem toUtc_eq_some_iff (a : AwareTime) (t : UtcTime) : a.toUtc = some t ↔ (t.instant : ℤ) = a.instant :=
  UtcTime.ofInstant_eq_some_iff a.instant t

end AwareTime

end CachePilot
