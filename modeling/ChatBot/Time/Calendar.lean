/-!
# The calendar

Dates of the Gregorian calendar, extended to all years, and their day numbers. Day 0 is the first
of January 1970.
-/

namespace ChatBot

structure Date where
  year : Int
  month : Nat
  day : Nat
  deriving DecidableEq, Repr

namespace Date

def isLeap (year : Int) : Bool :=
  year % 4 == 0 && (year % 100 != 0 || year % 400 == 0)

/-- The lengths of the months of a year, January first. -/
def monthLengths (year : Int) : List Nat :=
  [31, if isLeap year then 29 else 28, 31, 30, 31, 30, 31, 31, 30, 31, 30, 31]

/-- Whether the date names a day that its year has. -/
def Valid (d : Date) : Prop :=
  1 ≤ d.month ∧ 1 ≤ d.day ∧ ∃ n ∈ (monthLengths d.year)[d.month - 1]?, d.day ≤ n

instance (d : Date) : Decidable d.Valid := by
  unfold Valid
  cases h : (monthLengths d.year)[d.month - 1]? with
  | none => exact .isFalse fun ⟨_, _, n, hn, _⟩ => by simp at hn
  | some n =>
    exact decidable_of_iff (1 ≤ d.month ∧ 1 ≤ d.day ∧ d.day ≤ n) (by simp)

/-- The days of the years from year 1 up to the one before `year`. -/
def daysBefore (year : Int) : Int :=
  365 * (year - 1) + (year - 1) / 4 - (year - 1) / 100 + (year - 1) / 400

/-- The day number of the first of January 1970 counted from the first of January of year 1. -/
def epoch : Int := 719162

/-- The days of some months. -/
def daysOf (months : List Nat) : Nat := months.foldl (· + ·) 0

def dayNumber (d : Date) : Int :=
  daysBefore d.year + daysOf ((monthLengths d.year).take (d.month - 1)) + (d.day - 1 : Nat) - epoch

/-- The year that contains a day counted from the first of January of year 1. -/
def yearOf (days : Int) : Int :=
  let guess := 400 * days / 146097 + 1
  if daysBefore (guess + 1) ≤ days then guess + 1 else guess

/-- The month and day of a day of the year, both counted from 0, given the lengths of the months. -/
def monthAndDay : List Nat → Nat → Nat × Nat
  | [], n => (0, n)
  | l :: ls, n =>
    if n < l then (0, n) else
      let r := monthAndDay ls (n - l)
      (r.1 + 1, r.2)

def ofDayNumber (n : Int) : Date :=
  let days := n + epoch
  let year := yearOf days
  let r := monthAndDay (monthLengths year) (days - daysBefore year).toNat
  ⟨year, r.1 + 1, r.2 + 1⟩

/-- A year is as long as its months. -/
theorem daysBefore_succ (year : Int) :
    daysBefore (year + 1) = daysBefore year + daysOf (monthLengths year) := by
  have : (daysOf (monthLengths year) : Int) = 365 + if isLeap year then 1 else 0 := by
    by_cases h : isLeap year <;> simp [daysOf, monthLengths, h]
  rw [this]
  simp only [daysBefore, isLeap]
  by_cases h4 : year % 4 = 0 <;> by_cases h100 : year % 100 = 0 <;>
    by_cases h400 : year % 400 = 0 <;> simp [h4, h100, h400] <;> omega

/-- The leap years by the century and the year in it. -/
theorem daysBefore_eq_centuries (year : Int) :
    daysBefore year =
      36524 * ((year - 1) / 100) + (year - 1) / 400 + 365 * ((year - 1) % 100) +
        (year - 1) % 100 / 4 := by
  simp only [daysBefore]
  omega

theorem daysBefore_yearOf (days : Int) :
    daysBefore (yearOf days) ≤ days ∧ days < daysBefore (yearOf days + 1) := by
  unfold yearOf
  generalize hg : 400 * days / 146097 + 1 = guess
  by_cases h : daysBefore (guess + 1) ≤ days
  · simp only [if_pos h]
    refine ⟨h, ?_⟩
    rw [daysBefore_eq_centuries] at h ⊢
    omega
  · simp only [if_neg h]
    refine ⟨?_, Int.not_le.1 h⟩
    rw [daysBefore_eq_centuries] at h ⊢
    omega

end Date

end ChatBot
