import Mathlib
import ChatBot.Time.Instant

/-!
# The order of time

Instants are linearly ordered. Away from leap seconds the time since an instant grows with the later
one (`since_le_since`).
-/

namespace ChatBot.Instant

open Std

variable {a b c : Instant}

theorem le_iff : a ≤ b ↔ (compare a b).isLE := Iff.rfl

theorem lt_iff : a < b ↔ compare a b = .lt := Iff.rfl

/-- Instants are ordered as their seconds are, and within a second as their nanoseconds are. -/
instance : LinearOrder Instant where
  le_refl a := by
    rw [le_iff, ReflOrd.compare_self]
    rfl
  le_trans _ _ _ := TransCmp.isLE_trans
  lt_iff_le_not_ge a b := by
    rw [lt_iff, le_iff, le_iff, OrientedOrd.eq_swap (a := b)]
    cases compare a b <;> simp
  le_antisymm _ _ h h' := LawfulEqOrd.eq_of_compare (OrientedCmp.isLE_antisymm h h')
  le_total a b := by
    rw [le_iff, le_iff, OrientedOrd.eq_swap (a := b)]
    cases compare a b <;> simp
  toDecidableEq := inferInstance
  toDecidableLE := inferInstance
  toDecidableLT := inferInstance
  compare_eq_compareOfLessAndEq a b := by
    unfold compareOfLessAndEq
    by_cases h : a = b
    · rw [if_neg, if_pos h, h, ReflOrd.compare_self]
      rw [h, lt_iff, ReflOrd.compare_self]
      nofun
    · have hne : compare a b ≠ .eq := fun h' => h (LawfulEqOrd.eq_of_compare h')
      rw [if_neg h]
      simp only [lt_iff]
      cases hab : compare a b with
      | lt => rfl
      | eq => exact absurd hab hne
      | gt => rfl

theorem lt_iff_parts : a < b ↔ a.second < b.second ∨ a.second = b.second ∧ a.nano < b.nano := by
  have hcompare : compare a b = (compare a.second b.second).then (compare a.nano b.nano) := rfl
  rw [lt_iff, hcompare, Ordering.then_eq_lt, Int.compare_eq_lt, Int.compare_eq_eq,
    Nat.compare_eq_lt]

/-! ## Later instants -/

theorem ofParts?_eq_some_iff {second : Int} {nano : Nat} :
    ofParts? second nano = some a ↔ a.second = second ∧ a.nano = nano := by
  unfold ofParts?
  constructor
  · intro h
    split at h
    next =>
      cases h
      exact ⟨rfl, rfl⟩
    next => contradiction
  · rintro ⟨rfl, rfl⟩
    exact dif_pos a.valid

/-- Some seconds later it is that much later, and no longer a leap second. -/
theorem after?_eq_some_iff {n : Nat} : a.after? n = some b ↔
    n = 0 ∧ b = a ∨ 0 < n ∧ b.second = a.second + n ∧ b.nano = a.nano % 1000000000 := by
  unfold after?
  split
  next hn =>
    rw [Option.some.injEq, eq_comm]
    simp [hn]
  next hn =>
    rw [ofParts?_eq_some_iff]
    simp [hn, Nat.pos_of_ne_zero hn]

/-- Adding seconds does not lead to an earlier instant. -/
theorem le_of_after? {n : Nat} (h : a.after? n = some b) : a ≤ b := by
  rcases after?_eq_some_iff.1 h with ⟨-, rfl⟩ | ⟨hn, hsecond, -⟩
  · exact le_rfl
  · have hlt : a < b := lt_iff_parts.2 (.inl (by omega))
    exact hlt.le

/-! ## Differences -/

theorem nano_lt (h : a.isLeapSecond = false) : a.nano < 1000000000 := by
  simpa [isLeapSecond] using h

theorem nanoseconds_since (ha : a.isLeapSecond = false) (hb : b.isLeapSecond = false) :
    (a.since b).nanoseconds = (a.second - b.second) * 1000000000 + (a.nano - b.nano) := by
  simp [since, ha, hb]

/-- Without leap seconds, more time has passed at a later instant. -/
theorem since_le_since (h : a ≤ b) (ha : a.isLeapSecond = false) (hb : b.isLeapSecond = false)
    (hc : c.isLeapSecond = false) : a.since c ≤ b.since c := by
  show (a.since c).nanoseconds ≤ (b.since c).nanoseconds
  rw [nanoseconds_since ha hc, nanoseconds_since hb hc]
  have hna := nano_lt ha
  have hnb := nano_lt hb
  have hnot := h.not_gt
  rw [lt_iff_parts] at hnot
  omega

end ChatBot.Instant
