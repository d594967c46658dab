import Mathlib
import ChatBot.Proofs.Text.Runs
import ChatBot.Text.Numeral

/-!
# Numerals at the front of a text

A numeral that is as long as it may be, or that no digit follows, is read back from the front of a
text, also with zeros in front of it (`Decimal.front?_padded`).
-/

namespace ChatBot.Text.Decimal

variable {least most width n : Nat} {digits rest : List Char}

theorem front?_append (hdigits : ∀ c ∈ digits, c.isDigit) (hleast : least ≤ digits.length)
    (hmost : digits.length ≤ most)
    (hrest : digits.length < most → rest.head?.any Char.isDigit = false) :
    front? least most (digits ++ rest) = some (value digits, rest) := by
  unfold front?
  rw [takeWhile_take_append hdigits hmost hrest, if_neg (Nat.not_lt.2 hleast), List.drop_left]

theorem isDigit_of_mem_padded {c : Char} (h : c ∈ padded width n) : c.isDigit := by
  rcases List.mem_append.1 h with h | h
  · rw [List.eq_of_mem_replicate h]
    rfl
  · exact isDigit_of_mem_write h

theorem readBelow?_of_ne_plus {bound : Nat} {s : List Char} (h : s.head? ≠ some '+') :
    readBelow? bound s = (read? s).filter (· < bound) := by
  unfold readBelow?
  split
  next => exact absurd rfl h
  next => rfl

/-- A number that is written plainly is read back if it is below the bound. -/
theorem readBelow?_repr {bound : Nat} (h : n < bound) :
    readBelow? bound (Nat.repr n).toList = some n := by
  have hrepr : (Nat.repr n).toList = write n := String.toList_ofList
  have hplus : (write n).head? ≠ some '+' := by
    intro hhead
    have hdigit := isDigit_of_mem_write (List.mem_of_mem_head? hhead)
    contradiction
  rw [hrepr, readBelow?_of_ne_plus hplus, read?_write, Option.filter_some, if_pos]
  exact decide_eq_true h

theorem length_write_le (hwidth : 0 < width) (h : n < 10 ^ width) : (write n).length ≤ width :=
  (Nat.length_toDigits_le_iff (by decide) hwidth).2 h

theorem le_length_padded : width ≤ (padded width n).length := by
  rw [padded, List.length_append, List.length_replicate]
  omega

theorem padded_ne_nil : padded width n ≠ [] :=
  List.append_ne_nil_of_right_ne_nil _ (write_ne_nil n)

/-- A numeral of fixed width is read back, whatever follows. -/
theorem front?_padded (hwidth : 0 < width) (h : n < 10 ^ width) (hleast : least ≤ width)
    (rest : List Char) : front? least width (padded width n ++ rest) = some (n, rest) := by
  have hlength := length_padded (length_write_le hwidth h)
  rw [front?_append (fun _ => isDigit_of_mem_padded) (by omega) (by omega) (by omega), value_padded]

/-- A padded numeral with another character after it is read back, however many digits may come. -/
theorem front?_padded_of_length_le (hleast : least ≤ width) (hmost : (padded width n).length ≤ most)
    (hrest : rest.head?.any Char.isDigit = false) :
    front? least most (padded width n ++ rest) = some (n, rest) := by
  rw [front?_append (fun _ => isDigit_of_mem_padded) (Nat.le_trans hleast le_length_padded) hmost
    fun _ => hrest, value_padded]

end ChatBot.Text.Decimal
