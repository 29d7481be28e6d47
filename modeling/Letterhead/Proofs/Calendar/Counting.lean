import Mathlib.Algebra.Order.Ring.Int
import Mathlib.Tactic.IntervalCases
import Letterhead.Calendar.Date

/-!
# Counting days

After a date comes the next one, and the next, through the ends of months and years. Their numbers
follow one another without a gap, and each is the number of one date only. So to add days to the
number of a date and to go on from it day by day leads to the same date.

* `isValid_next`, `dayNumber_next` — the day after a date is a date, and has the number after;
* `after`, `isValid_after` — the date some days after a date;
* `ofDayNumber_dayNumber` — a date is found by its number;
* `addDays?_eq` — to add days is to go on by them, as far as years are supported.
-/

namespace Letterhead.Date

/-! ### Months -/

section Months

variable {year : Int} {month : Nat}

theorem length_monthLengths (leap : Bool) : (monthLengths leap).length = 12 := rfl

theorem monthLength_eq (h : 0 < month) :
    monthLength year month = (monthLengths (isLeap year)).getD (month - 1) 0 := by
  rw [monthLength, if_neg h.ne']

/-- Only the twelve months have days. -/
theorem month_of_monthLength_pos (h : 0 < monthLength year month) : 1 ≤ month ∧ month ≤ 12 := by
  unfold monthLength at h
  split at h
  case isTrue => cases h
  case isFalse hmonth =>
    refine ⟨Nat.pos_of_ne_zero hmonth, not_lt.mp fun hlt => ?_⟩
    have hbeyond : (monthLengths (isLeap year)).length ≤ month - 1 := by
      rw [length_monthLengths]
      omega
    rw [List.getD_eq_getElem?_getD, List.getElem?_eq_none hbeyond] at h
    cases h

/-- And all of them have. -/
theorem monthLength_pos (h : 1 ≤ month ∧ month ≤ 12) : 0 < monthLength year month := by
  obtain ⟨hfirst, hlast⟩ := h
  rw [monthLength_eq hfirst]
  cases isLeap year <;> interval_cases month <;> decide

/-- No month is longer than the first. -/
theorem monthLength_le (year : Int) (month : Nat) : monthLength year month ≤ 31 := by
  rcases Nat.eq_zero_or_pos (monthLength year month) with hzero | hpos
  · rw [hzero]
    exact Nat.zero_le _
  · obtain ⟨hfirst, hlast⟩ := month_of_monthLength_pos hpos
    rw [monthLength_eq hfirst]
    cases isLeap year <;> interval_cases month <;> decide

/-- A month ends before the next one. -/
theorem daysBeforeMonth_succ (year : Int) (h : 1 ≤ month) (hlast : month ≤ 12) :
    daysBeforeMonth year (month + 1) = daysBeforeMonth year month + monthLength year month := by
  rw [monthLength_eq h]
  unfold daysBeforeMonth
  cases isLeap year <;> interval_cases month <;> rfl

theorem daysBeforeMonth_one (year : Int) : daysBeforeMonth year 1 = 0 := rfl

end Months

/-! ### Years -/

/-- The length of a year. -/
def yearLength (year : Int) : Nat :=
  if isLeap year then 366 else 365

/-- A year is as long as its months. -/
theorem daysBeforeMonth_december (year : Int) :
    daysBeforeMonth year 12 + monthLength year 12 = yearLength year := by
  unfold daysBeforeMonth monthLength yearLength
  cases isLeap year <;> rfl

/-- A month ends before the year does. -/
theorem daysBeforeMonth_add_le (year : Int) {month : Nat} (h : 1 ≤ month) (hlast : month ≤ 12) :
    daysBeforeMonth year month + monthLength year month ≤ yearLength year := by
  rw [monthLength_eq h]
  unfold daysBeforeMonth yearLength
  cases isLeap year <;> interval_cases month <;> decide

/-- A year ends before the next one. -/
theorem daysBeforeYear_succ (year : Int) :
    daysBeforeYear (year + 1) = daysBeforeYear year + yearLength year := by
  unfold daysBeforeYear yearLength isLeap
  simp only [Bool.and_eq_true, Bool.or_eq_true, beq_iff_eq, bne_iff_ne, ne_eq]
  split <;> omega

theorem le_daysBeforeYear {year later : Int} (h : year ≤ later) :
    daysBeforeYear year ≤ daysBeforeYear later := by
  unfold daysBeforeYear
  dsimp only
  omega

/-- The mean length of a year suggests the year of a day, but for one before or after. -/
theorem guess_near {n year : Int} (hstart : daysBeforeYear year ≤ n)
    (hend : n < daysBeforeYear (year + 1)) :
    year - 1 ≤ n * 400 / 146097 + 1 ∧ n * 400 / 146097 + 1 ≤ year + 1 := by
  -- in 400 years there are 146097 days, wherever they begin
  unfold daysBeforeYear at hstart hend
  dsimp only at hstart hend
  omega

/-- A day is in the year that it comes after the start of and before the end. -/
theorem yearOf_eq {n year : Int} (hstart : daysBeforeYear year ≤ n)
    (hend : n < daysBeforeYear (year + 1)) : yearOf n = year := by
  obtain ⟨hlow, hhigh⟩ := guess_near hstart hend
  unfold yearOf
  dsimp only
  rcases (by omega : n * 400 / 146097 + 1 = year - 1 ∨ n * 400 / 146097 + 1 = year ∨
    n * 400 / 146097 + 1 = year + 1) with hguess | hguess | hguess
  · have hbefore : daysBeforeYear (year - 1) ≤ n := le_trans (le_daysBeforeYear (by omega)) hstart
    rw [hguess, Int.sub_add_cancel, if_neg (not_lt.mpr hbefore), if_pos hstart]
  · rw [hguess, if_neg (not_lt.mpr hstart), if_neg (not_le.mpr hend)]
  · rw [hguess, if_pos hend, Int.add_sub_cancel]

/-! ### The next day -/

section Next

variable {d : Date}

theorem isValid_iff (d : Date) :
    d.isValid = true ↔ 1 ≤ d.day ∧ d.day ≤ monthLength d.year d.month := by
  unfold isValid
  rw [Bool.and_eq_true, decide_eq_true_eq, decide_eq_true_eq]

/-- The months of dates are counted from one to twelve. -/
theorem month_of_isValid (h : d.isValid = true) : 1 ≤ d.month ∧ d.month ≤ 12 := by
  obtain ⟨hfirst, hlast⟩ := (isValid_iff d).mp h
  exact month_of_monthLength_pos (Nat.lt_of_lt_of_le hfirst hlast)

/-- What the next day is: in the same month, at the start of the next one, or at that of the next
year. -/
theorem next_cases (h : d.isValid = true) :
    (d.day < monthLength d.year d.month ∧ d.next = ⟨d.year, d.month, d.day + 1⟩) ∨
      (d.day = monthLength d.year d.month ∧ d.month < 12 ∧ d.next = ⟨d.year, d.month + 1, 1⟩) ∨
      (d.day = monthLength d.year d.month ∧ d.month = 12 ∧ d.next = ⟨d.year + 1, 1, 1⟩) := by
  obtain ⟨-, hday⟩ := (isValid_iff d).mp h
  obtain ⟨-, hmonth⟩ := month_of_isValid h
  unfold next
  by_cases hwithin : d.day < monthLength d.year d.month
  · exact Or.inl ⟨hwithin, if_pos hwithin⟩
  · right
    rw [if_neg hwithin]
    by_cases hyear : d.month < 12
    · exact Or.inl ⟨by omega, hyear, if_pos hyear⟩
    · exact Or.inr ⟨by omega, by omega, if_neg hyear⟩

/-- The day after a date is a date. -/
theorem isValid_next (h : d.isValid = true) : d.next.isValid = true := by
  rw [isValid_iff]
  rcases next_cases h with ⟨hday, hnext⟩ | ⟨-, hmonth, hnext⟩ | ⟨-, -, hnext⟩
  · rw [hnext]
    exact ⟨Nat.succ_le_succ (Nat.zero_le _), hday⟩
  · rw [hnext]
    exact ⟨le_refl 1, monthLength_pos ⟨Nat.succ_le_succ (Nat.zero_le _), hmonth⟩⟩
  · have hjanuary : 0 < monthLength (d.year + 1) 1 := monthLength_pos ⟨le_refl 1, by decide⟩
    rw [hnext]
    exact ⟨le_refl 1, hjanuary⟩

/-- **The day after a date has the number after.** -/
theorem dayNumber_next (h : d.isValid = true) : d.next.dayNumber = d.dayNumber + 1 := by
  obtain ⟨hfirst, -⟩ := (isValid_iff d).mp h
  obtain ⟨hmonthFirst, hmonthLast⟩ := month_of_isValid h
  unfold dayNumber
  rcases next_cases h with ⟨hday, hnext⟩ | ⟨hday, hmonth, hnext⟩ | ⟨hday, hmonth, hnext⟩
  · rw [hnext]
    dsimp only
    omega
  · have hsucc := daysBeforeMonth_succ d.year hmonthFirst hmonthLast
    rw [hnext]
    dsimp only
    omega
  · -- after the last day of December all days of the year are behind
    have hyear := daysBeforeMonth_december d.year
    rw [hmonth] at hday
    rw [hnext]
    dsimp only
    rw [daysBeforeYear_succ, daysBeforeMonth_one, hmonth]
    omega

theorem le_year_next (h : d.isValid = true) : d.year ≤ d.next.year := by
  rcases next_cases h with ⟨-, hnext⟩ | ⟨-, -, hnext⟩ | ⟨-, -, hnext⟩
  · rw [hnext]
  · rw [hnext]
  · rw [hnext]
    exact Int.le_of_lt (Int.lt_succ _)

/-! ### Some days later -/

/-- The date some days after a date, to which it is gone day by day. -/
def after (d : Date) : Nat → Date
  | 0 => d
  | days + 1 => (d.after days).next

/-- It is a date, in no earlier year, and its number is as much greater. -/
theorem isValid_after (h : d.isValid = true) (days : Nat) :
    (d.after days).isValid = true ∧ d.year ≤ (d.after days).year ∧
      (d.after days).dayNumber = d.dayNumber + days := by
  induction days with
  | zero => exact ⟨h, le_refl _, (Int.add_zero _).symm⟩
  | succ days ih =>
    obtain ⟨hvalid, hyear, hnumber⟩ := ih
    refine ⟨isValid_next hvalid, hyear.trans (le_year_next hvalid), ?_⟩
    rw [after, dayNumber_next hvalid, hnumber, Nat.cast_succ, Int.add_assoc]

end Next

/-! ### Dates by their numbers -/

/-- A number of days is located in the month that it reaches into. -/
theorem locate_eq (month : Nat) {lengths : List Nat} {i n : Nat} (h : n < lengths.getD i 0) :
    locate month ((lengths.take i).foldr (· + ·) 0 + n) lengths = (month + i, n + 1) := by
  induction lengths generalizing month i with
  | nil => cases h
  | cons length rest ih =>
    cases i with
    | zero =>
      have hlt : n < length := h
      rw [List.take_zero, List.foldr_nil, Nat.zero_add, locate, if_pos hlt]
      rfl
    | succ i =>
      -- the first month is passed, and the days are as many fewer
      rw [List.take_succ_cons, List.foldr_cons, Nat.add_assoc, locate, if_neg (by omega),
        Nat.add_sub_cancel_left, ih (month + 1) h]
      congr 1
      omega

/-- **A date is found by its number.** -/
theorem ofDayNumber_dayNumber {d : Date} (h : d.isValid = true) : ofDayNumber d.dayNumber = d := by
  obtain ⟨hfirst, hlast⟩ := (isValid_iff d).mp h
  obtain ⟨hmonthFirst, hmonthLast⟩ := month_of_isValid h
  have hyearEnd := daysBeforeMonth_add_le d.year hmonthFirst hmonthLast
  -- the days of its year that are behind a date are fewer than the year has
  have hyear : yearOf d.dayNumber = d.year := by
    apply yearOf_eq
    · unfold dayNumber
      omega
    · rw [daysBeforeYear_succ]
      unfold dayNumber
      omega
  have hday : (d.dayNumber - daysBeforeYear d.year).toNat =
      daysBeforeMonth d.year d.month + (d.day - 1) := by
    unfold dayNumber
    omega
  have hmonth : d.day - 1 < (monthLengths (isLeap d.year)).getD (d.month - 1) 0 := by
    rw [← monthLength_eq hmonthFirst]
    omega
  unfold ofDayNumber
  dsimp only
  rw [hyear, hday, daysBeforeMonth, locate_eq 1 hmonth, Nat.add_sub_cancel' hmonthFirst,
    Nat.sub_add_cancel hfirst]

/-- So is the date some days later. -/
theorem ofDayNumber_dayNumber_add {d : Date} (h : d.isValid = true) (days : Nat) :
    ofDayNumber (d.dayNumber + days) = d.after days := by
  obtain ⟨hvalid, -, hnumber⟩ := isValid_after h days
  rw [← hnumber, ofDayNumber_dayNumber hvalid]

/-- **To add days to a date is to go on from it day by day**, as far as years are supported. -/
theorem addDays?_eq {d : Date} (h : d.isValid = true) (days : Nat) :
    d.addDays? days = if (d.after days).inRange then some (d.after days) else none := by
  unfold addDays?
  rw [ofDayNumber_dayNumber_add h]

end Letterhead.Date
