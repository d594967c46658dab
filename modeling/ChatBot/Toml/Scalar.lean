import ChatBot.Text.Numeral
import ChatBot.Time.Calendar

/-!
# Numbers and times of TOML

Whole numbers are read with their value. Of other numbers and of times only their form counts.
-/

namespace ChatBot.Toml

open Text

/-! ## Digits -/

/-- Reads digits that may follow other digits, where an underscore stands between two digits only. -/
def moreDigits? (isDigit : Char → Bool) : List Char → Option (List Char × List Char)
  | '_' :: c :: r =>
    if isDigit c then (moreDigits? isDigit r).map fun (ds, last) => (c :: ds, last) else none
  | ['_'] => none
  | c :: r =>
    if isDigit c then (moreDigits? isDigit r).map fun (ds, last) => (c :: ds, last)
    else some ([], c :: r)
  | [] => some ([], [])

/-- Reads digits, of which there must be some. -/
def digits? (isDigit : Char → Bool) : List Char → Option (List Char × List Char)
  | c :: r =>
    if isDigit c then (moreDigits? isDigit r).map fun (ds, last) => (c :: ds, last) else none
  | [] => none

/-- Reads the digits of a whole number. A zero at the front is all of it. -/
def wholeDigits? : List Char → Option (List Char × List Char)
  | '0' :: r => some (['0'], r)
  | s => digits? Char.isDigit s

/-! ## Numbers -/

/-- What a number is. -/
inductive Number
  | integer (value : Int)
  /-- A number with a fraction or an exponent, an infinity or not a number. -/
  | float
  deriving DecidableEq, Repr

/-- The whole number, if it fits into 64 bits with its sign. -/
def integer? (n : Int) : Option Number :=
  let bound : Int := Nat.pow 2 63
  if -bound ≤ n ∧ n < bound then some (.integer n) else none

/-- Whether a positive decimal number is so large that it is infinite: at least half a step above
the largest number of 53 binary digits and an exponent up to 1023. -/
def isTooLarge (digits : List Char) (exponent : Int) : Bool :=
  let bound := Nat.pow 2 1024 - Nat.pow 2 970
  let n := Decimal.value digits
  let length := (digits.dropWhile (· = '0')).length
  if n = 0 then false
  else if length + exponent > 310 then true
  else if length + exponent < 300 then false
  else if 0 ≤ exponent then bound ≤ n * Nat.pow 10 exponent.toNat
  else bound * Nat.pow 10 exponent.natAbs ≤ n

/-- Reads a fraction, if there is one. -/
def fraction? : List Char → Option (List Char × List Char)
  | '.' :: r => digits? Char.isDigit r
  | s => some ([], s)

/-- Reads an exponent, if there is one. -/
def exponent? : List Char → Option (Int × List Char)
  | c :: r =>
    if c = 'e' ∨ c = 'E' then
      match r with
      | '-' :: r => (digits? Char.isDigit r).map fun (ds, last) => (-(Decimal.value ds : Int), last)
      | '+' :: r => (digits? Char.isDigit r).map fun (ds, last) => ((Decimal.value ds : Int), last)
      | r => (digits? Char.isDigit r).map fun (ds, last) => ((Decimal.value ds : Int), last)
    else some (0, c :: r)
  | [] => some (0, [])

/-- Reads a decimal number after its sign. -/
def decimal? (negative : Bool) (s : List Char) : Option (Number × List Char) := do
  let (whole, afterWhole) ← wholeDigits? s
  let (fraction, afterFraction) ← fraction? afterWhole
  let (exponent, last) ← exponent? afterFraction
  if last.length = afterWhole.length then
    let n : Int := Decimal.value whole
    (integer? (if negative then -n else n)).map fun number => (number, last)
  else if !negative && isTooLarge (whole ++ fraction) (exponent - fraction.length) then none
  else some (.float, last)

/-- Reads an infinity or not a number, or else a decimal number, after its sign. -/
def signed? (negative : Bool) : List Char → Option (Number × List Char)
  | 'i' :: 'n' :: 'f' :: r => some (.float, r)
  | 'n' :: 'a' :: 'n' :: r => some (.float, r)
  | s => decimal? negative s

/-- Reads a whole number of another radix after its mark. -/
def radix? (radix : Nat) (s : List Char) : Option (Number × List Char) := do
  let (ds, last) ← digits? (isDigitBelow radix) s
  (integer? (digitsValue radix ds)).map fun number => (number, last)

def number? : List Char → Option (Number × List Char)
  | '0' :: 'x' :: r => radix? 16 r
  | '0' :: 'o' :: r => radix? 8 r
  | '0' :: 'b' :: r => radix? 2 r
  | '-' :: r => signed? true r
  | '+' :: r => signed? false r
  | s => signed? false s

/-! ## Times -/

/-- Reads a number of exactly `width` digits up to `most`. -/
def field? (width most : Nat) (s : List Char) : Option (Nat × List Char) :=
  (Decimal.front? width width s).filter (·.1 ≤ most)

/-- Reads one given character. -/
def mark? (c : Char) : List Char → Option (List Char)
  | d :: r => if d = c then some r else none
  | [] => none

/-- The text without a fraction of a second at its front. -/
def skipFraction : List Char → List Char
  | '.' :: c :: r => if c.isDigit then r.dropWhile Char.isDigit else '.' :: c :: r
  | s => s

/-- The text after a time of day. -/
def timeOfDay? (s : List Char) : Option (List Char) := do
  let (_, s) ← field? 2 23 s
  let (_, s) ← field? 2 59 (← mark? ':' s)
  let (_, s) ← field? 2 60 (← mark? ':' s)
  some (skipFraction s)

/-- The text after a date. -/
def date? (s : List Char) : Option (List Char) := do
  let (year, s) ← field? 4 9999 s
  let (month, s) ← field? 2 12 (← mark? '-' s)
  let (day, s) ← field? 2 31 (← mark? '-' s)
  if Date.Valid ⟨year, month, day⟩ then some s else none

/-- The text after an offset from universal time, if there is one. -/
def offset? : List Char → Option (List Char)
  | c :: r =>
    if c = 'Z' ∨ c = 'z' then some r
    else if c = '+' ∨ c = '-' then do
      let (_, s) ← field? 2 23 r
      let (_, s) ← field? 2 59 (← mark? ':' s)
      some s
    else some (c :: r)
  | [] => some []

/-- The text after a time of day and an offset that follow a date, if they do. -/
def afterDate? : List Char → Option (List Char)
  | c :: r =>
    if c = 'T' ∨ c = 't' ∨ c = ' ' then
      match timeOfDay? r with
      | some s => offset? s
      | none => some (c :: r)
    else some (c :: r)
  | [] => some []

/-- Whether a text starts like a date or a time of day. -/
def startsTime (s : List Char) : Bool :=
  ((s.take 5).map Char.isDigit == [true, true, true, true, false] && s[4]? == some '-') ||
    ((s.take 3).map Char.isDigit == [true, true, false] && s[2]? == some ':')

/-- The text after a date, a time of day or both. -/
def dateTime? (s : List Char) : Option (List Char) :=
  if s[2]? = some ':' then timeOfDay? s else date? s >>= afterDate?

end ChatBot.Toml
