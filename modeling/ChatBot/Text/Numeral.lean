/-!
# Numerals

Natural numbers written in decimal digits, and the ways they are read back: a plain numeral, a
numeral at the front of a longer text, and a bounded one that may carry a plus sign. Digits of
other radices go up to sixteen, in either case.
-/

namespace ChatBot.Text

/-! ## Decimal numerals -/

namespace Decimal


/-- The shortest numeral of a number. -/
def write (n : Nat) : List Char := Nat.toDigits 10 n

/-- The numeral of a number with zeros in front up to a width. -/
def padded (width n : Nat) : List Char :=
  List.replicate (width - (write n).length) '0' ++ write n

/-- The number that a run of digits stands for. -/
def value (digits : List Char) : Nat := Nat.ofDigitChars 10 digits 0

/-- The longest run of at most `most` digits at the front, if there are at least `least`. -/
def front? (least most : Nat) (s : List Char) : Option (Nat × List Char) :=
  let digits := (s.take most).takeWhile Char.isDigit
  if digits.length < least then none else some (value digits, s.drop digits.length)

/-- Reads a text made of digits only. -/
def read? (s : List Char) : Option Nat :=
  if s ≠ [] ∧ s.all Char.isDigit then some (value s) else none

/-- Reads a number below `bound`; one plus sign may stand in front of it. -/
def readBelow? (bound : Nat) (s : List Char) : Option Nat :=
  let digits := match s with
    | '+' :: r => r
    | s => s
  (read? digits).filter (· < bound)

theorem value_write (n : Nat) : value (write n) = n := Nat.ofDigitChars_ten_toDigits

theorem isDigit_of_mem_write {n : Nat} {c : Char} (h : c ∈ write n) : c.isDigit :=
  Nat.isDigit_of_mem_toDigits (by decide) (by decide) h

theorem write_ne_nil (n : Nat) : write n ≠ [] := Nat.toDigits_ne_nil

theorem read?_write (n : Nat) : read? (write n) = some n := by
  have h : (write n).all Char.isDigit := List.all_eq_true.2 fun _ => isDigit_of_mem_write
  simp [read?, write_ne_nil, h, value_write]

theorem value_replicate_zero_append (k : Nat) (s : List Char) :
    value (List.replicate k '0' ++ s) = value s := by
  simp [value, Nat.ofDigitChars_append, Nat.ofDigitChars_replicate_zero]

theorem value_padded (width n : Nat) : value (padded width n) = n := by
  rw [padded, value_replicate_zero_append, value_write]

theorem length_padded {width n : Nat} (h : (write n).length ≤ width) :
    (padded width n).length = width := by
  simp [padded]; omega

end Decimal

/-! ## Other radices -/

/-- The value of a hexadecimal digit, if the character is one. -/
def hexDigit? (c : Char) : Option Nat :=
  if c.isDigit then some (c.toNat - 48)
  else if 'a' ≤ c ∧ c ≤ 'f' then some (c.toNat - 87)
  else if 'A' ≤ c ∧ c ≤ 'F' then some (c.toNat - 55)
  else none

/-- Whether a character is a digit below `radix`, which is at most sixteen. -/
def isDigitBelow (radix : Nat) (c : Char) : Bool := (hexDigit? c).any (· < radix)

/-- The number that digits stand for in `radix`. -/
def digitsValue (radix : Nat) (digits : List Char) : Nat :=
  digits.foldl (fun n c => n * radix + (hexDigit? c).getD 0) 0

/-- The character with a code point, unless the code point is half of a surrogate pair or too
large. -/
def scalar? (code : Nat) : Option Char :=
  if code < 0xD800 ∨ 0xDFFF < code ∧ code < 0x110000 then some (Char.ofNat code) else none

theorem scalar?_toNat (c : Char) : scalar? c.toNat = some c := by
  have h : c.toNat < 0xD800 ∨ 0xDFFF < c.toNat ∧ c.toNat < 0x110000 := c.valid
  rw [scalar?, if_pos h, Char.ofNat_toNat]

end ChatBot.Text
