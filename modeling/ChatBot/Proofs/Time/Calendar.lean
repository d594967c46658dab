import ChatBot.Time.Calendar

/-!
# Days and their dates

Every day number has a date, which names a day that its year has (`Date.valid_ofDayNumber`), and the
date has that number (`Date.dayNumber_ofDayNumber`).
-/

namespace ChatBot.Date

/-! ## Days in a year -/

theorem daysOf_cons (l : Nat) (ls : List Nat) : daysOf (l :: ls) = l + daysOf ls := by
  rw [daysOf, List.foldl_cons, Nat.add_comm 0 l]
  exact List.foldl_assoc

/-- A day of the year is in the month that is found for it. -/
theorem monthAndDay_lt {ls : List Nat} {n : Nat} (h : n < daysOf ls) :
    ∃ l ∈ ls[(monthAndDay ls n).1]?, (monthAndDay ls n).2 < l := by
  induction ls generalizing n with
  | nil => cases h
  | cons l ls ih =>
    unfold monthAndDay
    split
    next hn => exact ⟨l, rfl, hn⟩
    next hn =>
      rw [daysOf_cons] at h
      exact ih (by omega)

/-- The days before a day are those of the months before its month and those before it in that. -/
theorem daysOf_take_monthAndDay {ls : List Nat} {n : Nat} (h : n < daysOf ls) :
    daysOf (ls.take (monthAndDay ls n).1) + (monthAndDay ls n).2 = n := by
  induction ls generalizing n with
  | nil => cases h
  | cons l ls ih =>
    unfold monthAndDay
    split
    next => exact Nat.zero_add n
    next hn =>
      rw [daysOf_cons] at h
      have hrest := ih (n := n - l) (by omega)
      dsimp only
      rw [List.take_succ_cons, daysOf_cons]
      omega

/-- The day of the year is one of the days of the months. -/
theorem lt_daysOf_monthLengths (days : Int) :
    0 ≤ days - daysBefore (yearOf days) ∧
      (days - daysBefore (yearOf days)).toNat < daysOf (monthLengths (yearOf days)) := by
  have hyear := daysBefore_yearOf days
  rw [daysBefore_succ] at hyear
  omega

/-! ## Days of all years -/

theorem valid_ofDayNumber (n : Int) : (ofDayNumber n).Valid := by
  obtain ⟨l, hl, hday⟩ := monthAndDay_lt (lt_daysOf_monthLengths (n + epoch)).2
  exact ⟨Nat.le_add_left 1 _, Nat.le_add_left 1 _, l, hl, hday⟩

theorem dayNumber_ofDayNumber (n : Int) : (ofDayNumber n).dayNumber = n := by
  obtain ⟨hpos, hlt⟩ := lt_daysOf_monthLengths (n + epoch)
  have hsum := daysOf_take_monthAndDay hlt
  simp only [dayNumber, ofDayNumber, Nat.add_sub_cancel]
  omega

/-- Months and days have at most two digits. -/
theorem Valid.lt_hundred {d : Date} (h : d.Valid) : d.month < 100 ∧ d.day < 100 := by
  obtain ⟨_, _, l, hl, hday⟩ := h
  have hmem := List.mem_of_getElem? hl
  have hindex := (List.getElem?_eq_some_iff.1 hl).1
  have hlength : l ≤ 31 := by
    simp only [monthLengths, List.mem_cons, List.not_mem_nil, or_false] at hmem
    split at hmem <;> omega
  simp only [monthLengths, List.length_cons, List.length_nil] at hindex
  omega

end ChatBot.Date
