import IssueIntake.Calendar.Instant
/-!
# The order of instants

Dates are ordered by year, month and day, and instants by date, second of the day and nanosecond
(`Instant.Before`). That is the order of `rank`, by which the later of two instants is chosen
(`Instant.rank_lt_iff`), and it is the order of the time that has passed since 1970
(`Instant.before_iff`), because `dayNumber` numbers the days of the calendar in their order
(`Date.dayNumber_lt_of_before`).
-/

namespace IssueIntake

open Calendar

namespace Calendar

/-- How many days a year has. -/
def daysOfYear (year : Int) : Nat :=
  if isLeap year then 366 else 365

/-- How many days lie before a year, counted from the start of the year 1. -/
def daysBeforeYear (year : Int) : Int :=
  365 * (year - 1) + (year - 1) / 4 - (year - 1) / 100 + (year - 1) / 400

/-- No month is longer than 31 days. -/
theorem daysIn_le (year : Int) (month : Nat) : daysIn year month ≤ 31 := by
  unfold daysIn
  split
  · split <;> omega
  all_goals omega

theorem daysBeforeYear_succ (year : Int) :
    daysBeforeYear (year + 1) = daysBeforeYear year + daysOfYear year := by
  unfold daysBeforeYear daysOfYear
  by_cases leap : isLeap year = true
  · rw [if_pos leap]
    simp only [isLeap, Bool.and_eq_true, Bool.or_eq_true, beq_iff_eq, bne_iff_ne] at leap
    omega
  · rw [if_neg leap]
    simp only [isLeap, Bool.and_eq_true, Bool.or_eq_true, beq_iff_eq, bne_iff_ne] at leap
    omega

theorem daysBeforeYear_mono {year later : Int} (h : year ≤ later) :
    daysBeforeYear year ≤ daysBeforeYear later := by
  unfold daysBeforeYear
  omega

end Calendar

/-! ## Dates -/

namespace Date

/-- A date comes before another one in the calendar. -/
def Before (a b : Date) : Prop :=
  a.year < b.year ∨
    a.year = b.year ∧ (a.month < b.month ∨ a.month = b.month ∧ a.day < b.day)

theorem eq_of_parts {a b : Date} (year : a.year = b.year) (month : a.month = b.month)
    (day : a.day = b.day) : a = b := by
  cases a
  cases b
  simp_all

theorem before_or_eq_or_before (a b : Date) : a.Before b ∨ a = b ∨ b.Before a := by
  by_cases same : a.year = b.year ∧ a.month = b.month ∧ a.day = b.day
  · exact .inr (.inl (eq_of_parts same.1 same.2.1 same.2.2))
  · unfold Before
    omega

/-- The days before the next month are those before a month and its own. -/
theorem daysBefore_succ (year : Int) {month : Nat} (first : 1 ≤ month) :
    daysBefore year (month + 1) = daysBefore year month + daysIn year month := by
  obtain ⟨before, rfl⟩ := Nat.exists_eq_add_of_le' first
  rfl

theorem daysBefore_le_of_lt (year : Int) {month later : Nat} (first : 1 ≤ month)
    (less : month < later) :
    daysBefore year month + daysIn year month ≤ daysBefore year later := by
  induction less with
  | refl => exact Nat.le_of_eq (daysBefore_succ year first).symm
  | @step later less ih =>
    rw [daysBefore_succ year (Nat.le_trans first (Nat.le_of_succ_le less))]
    exact Nat.le_add_right_of_le ih

/-- A year is as long as its months together. -/
theorem daysBefore_next_year (year : Int) : daysBefore year 13 = daysOfYear year := by
  unfold daysOfYear
  by_cases leap : isLeap year <;> simp [daysBefore, daysIn, leap]

theorem dayNumber_eq (d : Date) : d.dayNumber =
    daysBeforeYear d.year + daysBefore d.year d.month + d.day - 719163 := rfl

theorem dayNumber_lt_of_before {a b : Date} (h : a.Before b) : a.dayNumber < b.dayNumber := by
  have day := a.day_mem.2
  have first := b.day_mem.1
  rw [dayNumber_eq, dayNumber_eq]
  rcases h with earlier | ⟨year, earlier | ⟨month, earlier⟩⟩
  · have months := daysBefore_le_of_lt a.year a.month_mem.1 (Nat.lt_succ_of_le a.month_mem.2)
    have years := daysBeforeYear_mono (show a.year + 1 ≤ b.year from earlier)
    rw [daysBeforeYear_succ] at years
    rw [Nat.succ_eq_add_one, daysBefore_next_year] at months
    omega
  · have months := daysBefore_le_of_lt a.year a.month_mem.1 earlier
    rw [← year]
    omega
  · rw [← year, ← month]
    omega

end Date

/-! ## Instants -/

namespace Instant

/-- The second of the day. A leap second counts as the one before it. -/
def secondOfDay (t : Instant) : Nat :=
  t.hour * 3600 + t.minute * 60 + t.second

theorem secondOfDay_lt (t : Instant) : t.secondOfDay < 86400 := by
  have := t.hour_lt
  have := t.minute_lt
  have := t.second_lt
  unfold secondOfDay
  omega

theorem unixSeconds_eq (t : Instant) :
    t.unixSeconds = t.date.dayNumber * 86400 + t.secondOfDay := by
  unfold unixSeconds secondOfDay
  omega

/-- An instant comes before another one: on an earlier date, or in an earlier second of the same
date, or at an earlier nanosecond of the same second. -/
def Before (a b : Instant) : Prop :=
  a.date.Before b.date ∨
    a.date = b.date ∧
      (a.secondOfDay < b.secondOfDay ∨ a.secondOfDay = b.secondOfDay ∧ a.nano < b.nano)

theorem eq_of_parts {a b : Instant} (date : a.date = b.date)
    (second : a.secondOfDay = b.secondOfDay) (nano : a.nano = b.nano) : a = b := by
  have := a.minute_lt
  have := a.second_lt
  have := b.minute_lt
  have := b.second_lt
  unfold secondOfDay at second
  have parts : a.hour = b.hour ∧ a.minute = b.minute ∧ a.second = b.second := by omega
  cases a
  cases b
  simp_all

theorem before_or_eq_or_before (a b : Instant) : a.Before b ∨ a = b ∨ b.Before a := by
  rcases Date.before_or_eq_or_before a.date b.date with before | same | after
  · exact .inl (.inl before)
  · by_cases parts : a.secondOfDay = b.secondOfDay ∧ a.nano = b.nano
    · exact .inr (.inl (eq_of_parts same parts.1 parts.2))
    · simp only [Before, same, true_and]
      omega
  · exact .inr (.inr (.inl after))

/-- In a mixed radix the first digit that differs decides. -/
theorem rank_lt_of_before {a b : Instant} (h : a.Before b) : a.rank < b.rank := by
  have := a.secondOfDay_lt
  have := a.nano_lt
  have digits : ∀ t : Instant, t.rank =
      (((t.date.year * 13 + t.date.month) * 32 + t.date.day) * 86400 + t.secondOfDay) *
        2000000000 + t.nano := by
    intro t
    unfold rank secondOfDay
    omega
  rw [digits, digits]
  rcases h with earlier | ⟨date, earlier⟩
  · have := a.date.month_mem
    have := Nat.le_trans a.date.day_mem.2 (daysIn_le _ _)
    unfold Date.Before at earlier
    omega
  · rw [← date]
    omega

theorem rank_lt_iff {a b : Instant} : a.rank < b.rank ↔ a.Before b := by
  refine ⟨fun less => ?_, rank_lt_of_before⟩
  rcases before_or_eq_or_before a b with before | rfl | after
  · exact before
  · exact absurd less (Int.lt_irrefl _)
  · exact absurd less (Int.lt_asymm (rank_lt_of_before after))

/-- The later of two instants comes before neither of them. -/
theorem not_later_before (a b : Instant) : ¬ (a.later b).Before a ∧ ¬ (a.later b).Before b := by
  rw [← rank_lt_iff, ← rank_lt_iff]
  unfold later
  split <;> omega

/-- An instant comes before another one if less time has passed since 1970. -/
theorem before_iff {a b : Instant} : a.Before b ↔
    a.unixSeconds < b.unixSeconds ∨ a.unixSeconds = b.unixSeconds ∧ a.nano < b.nano := by
  have time : ∀ {a b : Instant}, a.Before b →
      a.unixSeconds < b.unixSeconds ∨ a.unixSeconds = b.unixSeconds ∧ a.nano < b.nano := by
    intro a b h
    have := a.secondOfDay_lt
    rw [unixSeconds_eq, unixSeconds_eq]
    rcases h with earlier | ⟨date, earlier⟩
    · have := Date.dayNumber_lt_of_before earlier
      omega
    · rw [← date]
      omega
  refine ⟨time, fun less => ?_⟩
  rcases before_or_eq_or_before a b with before | rfl | after
  · exact before
  · omega
  · have := time after
    omega

end Instant

end IssueIntake
