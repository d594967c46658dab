import ChatBot.Proofs.Text.Classes
import ChatBot.Proofs.Text.Decimal
import ChatBot.Proofs.Time.Calendar
import ChatBot.Proofs.Time.Order
import ChatBot.Time.Timestamp

/-!
# Stored timestamps

The stored form of an instant reads back as that instant (`Timestamp.read?_write`): years before and
after those of four digits, fractions of any width and leap seconds included.
-/

namespace ChatBot.Timestamp

open Text

variable {rest : List Char}

/-! ## Parts -/

theorem trimStart_eq_self {s : List Char} (h : s.head?.any isBlank = false) : trimStart s = s := by
  cases s with
  | nil => rfl
  | cons c s => exact List.dropWhile_cons_of_neg (by simpa using h)

/-- A padded numeral starts with a digit. -/
theorem exists_padded_eq_cons (width n : Nat) :
    ∃ c s, c.isDigit ∧ Decimal.padded width n = c :: s := by
  cases h : Decimal.padded width n with
  | nil => exact absurd h Decimal.padded_ne_nil
  | cons c s => exact ⟨c, s, Decimal.isDigit_of_mem_padded (h ▸ List.mem_cons_self), rfl⟩

theorem number?_padded {n : Nat} (h : n < 100) (rest : List Char) :
    number? (Decimal.padded 2 n ++ rest) = some (n, rest) := by
  obtain ⟨c, s, hc, hs⟩ := exists_padded_eq_cons 2 n
  have hhead : (Decimal.padded 2 n ++ rest).head?.any isBlank = false := by
    rw [hs]
    exact isBlank_of_isDigit hc
  rw [number?, trimStart_eq_self hhead, Decimal.front?_padded (by decide) h (by decide)]

theorem head?_year (y : Int) : (year y ++ rest).head?.any isBlank = false := by
  unfold year
  split
  · obtain ⟨c, s, hc, hs⟩ := exists_padded_eq_cons 4 y.toNat
    rw [hs]
    exact isBlank_of_isDigit hc
  · split <;> rfl

/-- A year of four digits, or of more with a sign, is read back. -/
theorem year?_year (y : Int) (hrest : rest.head?.any Char.isDigit = false) :
    year? (year y ++ rest) = some (y, rest) := by
  have hsigned (n : Nat) : Decimal.front? 1 (Decimal.padded 4 n ++ rest).length
      (Decimal.padded 4 n ++ rest) = some (n, rest) := by
    refine Decimal.front?_padded_of_length_le (by decide) ?_ hrest
    rw [List.length_append]
    exact Nat.le_add_right _ _
  unfold year
  split
  next hy =>
    obtain ⟨c, s, hc, hs⟩ := exists_padded_eq_cons 4 y.toNat
    have hfour : Decimal.front? 1 4 (Decimal.padded 4 y.toNat ++ rest) = some (y.toNat, rest) :=
      Decimal.front?_padded (by decide) (by omega) (by decide) rest
    rw [hs] at hfour ⊢
    unfold year?
    split
    next heq =>
      cases heq
      contradiction
    next heq =>
      cases heq
      contradiction
    next =>
      rw [hfour, Option.map_some]
      dsimp only
      rw [Int.toNat_of_nonneg hy.1]
  next hy =>
    split
    next hneg =>
      rw [List.cons_append, year?, hsigned, Option.map_some]
      simp only [Option.some.injEq, Prod.mk.injEq, and_true]
      omega
    next hpos =>
      rw [List.cons_append, year?, hsigned, Option.map_some]
      simp only [Option.some.injEq, Prod.mk.injEq, and_true]
      omega

/-! ## Fractions -/

theorem value_append_replicate_zero (digits : List Char) (k : Nat) :
    Decimal.value (digits ++ List.replicate k '0') = 10 ^ k * Decimal.value digits := by
  rw [Decimal.value, Nat.ofDigitChars_append, Nat.ofDigitChars_replicate_zero]
  rfl

/-- Digits after the point count from a thousand million downwards. -/
theorem fraction?_padded {width n : Nat} (hpos : 0 < width) (hwidth : width ≤ 9)
    (h : n < 10 ^ width) (hrest : rest.head?.any Char.isDigit = false) :
    fraction? ('.' :: Decimal.padded width n ++ rest) = some (10 ^ (9 - width) * n, rest) := by
  have hlength := Decimal.length_padded (Decimal.length_write_le hpos h)
  have hdigits : ∀ c ∈ Decimal.padded width n, c.isDigit := fun _ => Decimal.isDigit_of_mem_padded
  have hvalue : Decimal.value ((Decimal.padded width n ++ List.replicate 9 '0').take 9) =
      10 ^ (9 - width) * n := by
    rw [List.take_append, hlength, List.take_of_length_le (by omega), List.take_replicate,
      value_append_replicate_zero, Decimal.value_padded, Nat.min_eq_left (by omega)]
  rw [List.cons_append, fraction?]
  dsimp only
  rw [takeWhile_append_of_stop hdigits hrest, if_neg Decimal.padded_ne_nil, hvalue, List.drop_left]

theorem fraction?_fraction {nano : Nat} (h : nano < 1000000000) (rest : List Char) :
    fraction? (fraction nano ++ 'Z' :: rest) = some (nano, 'Z' :: rest) := by
  have hrest : ('Z' :: rest).head?.any Char.isDigit = false := rfl
  unfold fraction
  split
  next hzero =>
    subst hzero
    rfl
  next =>
    split
    next =>
      rw [fraction?_padded (by decide) (by decide) (by omega) hrest]
      congr 2
      omega
    next =>
      split
      next =>
        rw [fraction?_padded (by decide) (by decide) (by omega) hrest]
        congr 2
        omega
      next =>
        rw [fraction?_padded (by decide) (by decide) (by omega) hrest]
        congr 2
        omega

/-! ## Instants -/

/-- The fields of an instant and its fraction put it together again. -/
theorem instant?_fields (t : Instant) : let (d, hour, minute, second) := fields t
    instant? d hour minute second (t.nano % 1000000000) 0 = some t := by
  obtain ⟨hfirst, hlast, hnano, hleap⟩ := t.valid
  unfold Instant.firstSecond at hfirst
  unfold Instant.lastSecond at hlast
  dsimp only [fields, Instant.secondOfDay]
  unfold instant?
  dsimp only
  rw [Date.dayNumber_ofDayNumber, if_pos]
  · exact Instant.ofParts?_eq_some_iff.2 ⟨by omega, by omega⟩
  · refine ⟨Date.valid_ofDayNumber _, ?_, ?_, ?_, ?_, ?_, by decide⟩ <;> omega

theorem literal?_trimStart_cons {c : Char} (h : isBlank c = false) (rest : List Char) :
    literal? c (trimStart (c :: rest)) = some rest := by
  rw [trimStart_eq_self (s := c :: rest) h]
  exact if_pos rfl

theorem bind_of_eq_some {o : Option α} {a : α} {f : α → Option β} (h : o = some a) :
    (o >>= f) = f a := by
  rw [h]
  rfl

/-- A date, a clock and a fraction are read as what they show. -/
theorem read?_parts {d : Date} {hour minute second nano : Nat} (hmonth : d.month < 100)
    (hday : d.day < 100) (hhour : hour < 100) (hminute : minute < 100) (hsecond : second < 100)
    (hnano : nano < 1000000000) :
    read? (date d ++ 'T' :: (clock hour minute second ++ fraction nano ++ ['Z'])) =
      instant? d hour minute second nano 0 := by
  have hdash := literal?_trimStart_cons (c := '-') (by decide)
  have hcolon := literal?_trimStart_cons (c := ':') (by decide)
  have hzone : zone? (trimStart ['Z']) = some (0, []) := by decide
  simp only [date, clock, List.append_assoc, List.cons_append]
  rw [read?, trimStart_eq_self (head?_year _)]
  -- Each part is read from the place where the one before it ends.
  refine (bind_of_eq_some (year?_year _ rfl)).trans ?_
  refine (bind_of_eq_some (hdash _)).trans ((bind_of_eq_some (number?_padded hmonth _)).trans ?_)
  refine (bind_of_eq_some (hdash _)).trans ((bind_of_eq_some (number?_padded hday _)).trans ?_)
  refine (bind_of_eq_some rfl).trans ((bind_of_eq_some (number?_padded hhour _)).trans ?_)
  refine (bind_of_eq_some (hcolon _)).trans ((bind_of_eq_some (number?_padded hminute _)).trans ?_)
  refine (bind_of_eq_some (hcolon _)).trans ((bind_of_eq_some (number?_padded hsecond _)).trans ?_)
  refine (bind_of_eq_some (fraction?_fraction hnano [])).trans ?_
  exact (bind_of_eq_some hzone).trans rfl

/-- **What is stored of an instant is read as that instant.** -/
theorem read?_write (t : Instant) : read? (write t) = some t := by
  obtain ⟨hmonth, hday⟩ := (Date.valid_ofDayNumber (t.second / 86400)).lt_hundred
  have hnano := t.valid.2.2.1
  have hday' : t.secondOfDay.toNat < 86400 := by
    unfold Instant.secondOfDay
    omega
  refine (read?_parts hmonth hday ?_ ?_ ?_ ?_).trans (instant?_fields t)
  all_goals omega

example : write ⟨59, 1500000000, by decide⟩ = "1970-01-01T00:00:60.500Z".toList := by decide

end ChatBot.Timestamp
