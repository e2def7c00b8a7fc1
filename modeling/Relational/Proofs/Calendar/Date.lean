import Mathlib.Algebra.Order.Group.Int
import Relational.Calendar.Date

/-!
# The order of dates

The number of a date counts the days up to it, so that dates follow each other as
their numbers do.  A year has as many days as its months have together, and a month
ends before the next one begins; so numbers are compared by the year, then by the
month, then by the day.
-/

namespace Relational

namespace Date

/-- A day that the calendar has. -/
structure Valid (date : Date) : Prop where
  month_pos : 1 ≤ date.month
  month_le : date.month ≤ 12
  day_pos : 1 ≤ date.day
  day_le : date.day ≤ daysInMonth date.year date.month

variable {year year' : Int} {month month' : Nat} {a b : Date}

/-! ### Months and years -/

/-- The days before the next month are those before this one and its own. -/
theorem daysBeforeMonth_succ (year : Int) (month : Nat) : daysBeforeMonth year (month + 2) =
    daysBeforeMonth year (month + 1) + daysInMonth year (month + 1) := by
  unfold daysBeforeMonth
  rw [Nat.add_sub_cancel, show month + 2 - 1 = month + 1 from rfl, List.range_succ,
    List.foldl_append]
  rfl

/-- More days go before later months. -/
theorem daysBeforeMonth_mono (later : month ≤ month') :
    daysBeforeMonth year (month + 1) ≤ daysBeforeMonth year (month' + 1) := by
  induction later with
  | refl => exact Nat.le_refl _
  | step _ ih =>
      rw [daysBeforeMonth_succ]
      exact Nat.le_trans ih (Nat.le_add_right _ _)

/-- A day of a month comes before all later months of the year. -/
theorem Valid.before_month (valid : a.Valid) (later : a.month < month) :
    daysBeforeMonth a.year a.month + a.day ≤ daysBeforeMonth a.year month := by
  obtain ⟨before, here⟩ := Nat.exists_eq_add_of_le' valid.month_pos
  obtain ⟨further, there⟩ := Nat.exists_eq_add_of_le' (Nat.succ_le_of_lt later)
  have day := valid.day_le
  rw [here] at day ⊢
  calc daysBeforeMonth a.year (before + 1) + a.day
      ≤ daysBeforeMonth a.year (before + 1) + daysInMonth a.year (before + 1) :=
        Nat.add_le_add_left day _
    _ = daysBeforeMonth a.year (before + 2) := (daysBeforeMonth_succ _ _).symm
    _ ≤ daysBeforeMonth a.year month := by
        have reached : month = further + before + 1 + 1 := by omega
        rw [reached]
        exact daysBeforeMonth_mono (by omega)

/-- The months of a year have its days. -/
theorem daysThroughYear_eq (year : Int) :
    daysThroughYear year = daysThroughYear (year - 1) + daysBeforeMonth year 13 := by
  have months : daysBeforeMonth year 13 = if isLeapYear year then 366 else 365 := by
    cases leap : isLeapYear year <;> simp [daysBeforeMonth, daysInMonth, leap, List.range_succ]
  rw [months]
  unfold daysThroughYear isLeapYear
  split <;> simp_all <;> omega

theorem daysThroughYear_mono (later : year ≤ year') :
    daysThroughYear year ≤ daysThroughYear year' := by
  unfold daysThroughYear
  omega

/-! ### Dates -/

/-- A date in an earlier year has a smaller number. -/
theorem number_lt_of_year (valid : a.Valid) (valid' : b.Valid) (earlier : a.year < b.year) :
    a.number < b.number := by
  have inside : daysBeforeMonth a.year a.month + a.day ≤ daysBeforeMonth a.year 13 :=
    valid.before_month (Nat.lt_succ_of_le valid.month_le)
  have whole := daysThroughYear_eq a.year
  have years : daysThroughYear a.year ≤ daysThroughYear (b.year - 1) :=
    daysThroughYear_mono (by omega)
  have day := valid'.day_pos
  unfold number
  omega

/-- A date in an earlier month of one year has a smaller number. -/
theorem number_lt_of_month (valid : a.Valid) (valid' : b.Valid) (same : a.year = b.year)
    (earlier : a.month < b.month) : a.number < b.number := by
  have inside := valid.before_month earlier
  have day := valid'.day_pos
  unfold number
  rw [same] at inside ⊢
  omega

/-- Numbers follow each other as years, months and days do. -/
theorem compare_number (valid : a.Valid) (valid' : b.Valid) :
    compare a.number b.number =
      (compare a.year b.year).then ((compare a.month b.month).then (compare a.day b.day)) := by
  rcases lt_trichotomy a.year b.year with earlier | same | later
  · rw [Int.compare_eq_lt.mpr earlier, Int.compare_eq_lt.mpr (number_lt_of_year valid valid' earlier)]
    rfl
  · rw [Int.compare_eq_eq.mpr same, Ordering.eq_then]
    rcases Nat.lt_trichotomy a.month b.month with earlier | same' | later
    · rw [Nat.compare_eq_lt.mpr earlier,
        Int.compare_eq_lt.mpr (number_lt_of_month valid valid' same earlier)]
      rfl
    · rw [Nat.compare_eq_eq.mpr same', Ordering.eq_then]
      unfold number
      rw [same, same']
      rcases Nat.lt_trichotomy a.day b.day with earlier | same'' | later
      · rw [Nat.compare_eq_lt.mpr earlier, Int.compare_eq_lt]
        omega
      · rw [same'', Nat.compare_eq_eq.mpr rfl, Int.compare_eq_eq]
      · rw [Nat.compare_eq_gt.mpr later, Int.compare_eq_gt]
        omega
    · rw [Nat.compare_eq_gt.mpr later,
        Int.compare_eq_gt.mpr (number_lt_of_month valid' valid same.symm later)]
      rfl
  · rw [Int.compare_eq_gt.mpr later, Int.compare_eq_gt.mpr (number_lt_of_year valid' valid later)]
    rfl

end Date

end Relational
