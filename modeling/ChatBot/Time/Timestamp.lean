import ChatBot.Text.Classes
import ChatBot.Text.Numeral
import ChatBot.Time.Instant

/-!
# Timestamps

The written forms of an instant. There is one form that is written for storage and one for people;
reading accepts the timestamps of RFC 3339, and stored ones in a freer form with blanks between the
parts, short or signed numbers, and any offset.
-/

namespace ChatBot.Timestamp

open Text

/-! ## Writing -/

/-- A year in four digits, with a sign and at least four digits outside of 0 to 9999. -/
def year (y : Int) : List Char :=
  if 0 ≤ y ∧ y ≤ 9999 then Decimal.padded 4 y.toNat
  else (if y < 0 then '-' else '+') :: Decimal.padded 4 y.natAbs

/-- The date, hour, minute and second of an instant. A leap second is the sixty-first. -/
def fields (t : Instant) : Date × Nat × Nat × Nat :=
  let day := t.secondOfDay.toNat
  (Date.ofDayNumber (t.second / 86400), day / 3600, day / 60 % 60,
    day % 60 + t.nano / 1000000000)

/-- The fraction of a second in the fewest of three, six or nine digits that hold it, if any. -/
def fraction (nano : Nat) : List Char :=
  if nano = 0 then []
  else if nano % 1000000 = 0 then '.' :: Decimal.padded 3 (nano / 1000000)
  else if nano % 1000 = 0 then '.' :: Decimal.padded 6 (nano / 1000)
  else '.' :: Decimal.padded 9 nano

def date (d : Date) : List Char :=
  year d.year ++ '-' :: (Decimal.padded 2 d.month ++ '-' :: Decimal.padded 2 d.day)

def clock (hour minute second : Nat) : List Char :=
  Decimal.padded 2 hour ++ ':' :: (Decimal.padded 2 minute ++ ':' :: Decimal.padded 2 second)

/-- The stored form of an instant, such as `2024-01-01T12:00:00.250Z`. -/
def write (t : Instant) : List Char :=
  let (d, hour, minute, second) := fields t
  date d ++ 'T' :: (clock hour minute second ++ fraction (t.nano % 1000000000) ++ ['Z'])

/-- The form of an instant for people, such as `2024-01-01 12:00:00 UTC`. -/
def display (t : Instant) : List Char :=
  let (d, hour, minute, second) := fields t
  date d ++ ' ' :: (clock hour minute second ++ " UTC".toList)

/-! ## Reading -/

/-- The instant of a local date and time. The offset is how far the local clock is ahead. -/
def instant? (d : Date) (hour minute second nano : Nat) (offset : Int) : Option Instant :=
  let first := Date.dayNumber ⟨-262143, 1, 1⟩
  let last := Date.dayNumber ⟨262142, 12, 31⟩
  if d.Valid ∧ first ≤ d.dayNumber ∧ d.dayNumber ≤ last ∧ hour < 24 ∧ minute < 60 ∧ second ≤ 60 ∧
      offset.natAbs < 86400 then
    let leap := second / 60
    let ofDay := hour * 3600 + minute * 60 + (second - leap)
    Instant.ofParts? (d.dayNumber * 86400 + ofDay - offset) (nano + leap * 1000000000)
  else none

/-- Reads one given character. -/
def literal? (c : Char) : List Char → Option (List Char)
  | [] => none
  | d :: r => if d = c then some r else none

/-- Reads the digits after a decimal point as nanoseconds, if there is a point. -/
def fraction? : List Char → Option (Nat × List Char)
  | '.' :: r =>
    let digits := r.takeWhile Char.isDigit
    if digits = [] then none
    else
      let nano := Decimal.value ((digits ++ List.replicate 9 '0').take 9)
      some (nano, r.drop digits.length)
  | s => some (0, s)

/-- Reads an offset from universal time, in seconds; `colon` reads what stands between its hours and
its minutes. -/
def offset? (colon : List Char → Option (List Char)) (s : List Char) : Option (Int × List Char) :=
  let signed (sign : Int) (r : List Char) : Option (Int × List Char) := do
    let (hours, r) ← Decimal.front? 2 2 r
    let (minutes, r) ← Decimal.front? 2 2 (← colon r)
    if minutes < 60 then some (sign * (hours * 3600 + minutes * 60), r) else none
  match s with
  | 'Z' :: r | 'z' :: r => some (0, r)
  | '+' :: r => signed 1 r
  | '-' :: r | '\u2212' :: r => signed (-1) r
  | _ => none

/-- Reads the character between a date and a time. -/
def separator? : List Char → Option (List Char)
  | 'T' :: r | 't' :: r | ' ' :: r => some r
  | _ => none

/-- Reads a whole timestamp of RFC 3339. -/
def readStrict? (s : List Char) : Option Instant := do
  let (year, s) ← Decimal.front? 4 4 s
  let (month, s) ← Decimal.front? 2 2 (← literal? '-' s)
  let (day, s) ← Decimal.front? 2 2 (← literal? '-' s)
  let (hour, s) ← Decimal.front? 2 2 (← separator? s)
  let (minute, s) ← Decimal.front? 2 2 (← literal? ':' s)
  let (second, s) ← Decimal.front? 2 2 (← literal? ':' s)
  let (nano, s) ← fraction? s
  let (offset, s) ← offset? (literal? ':') s
  if s = [] then instant? ⟨year, month, day⟩ hour minute second nano offset else none

/-- Reads a year: at most four digits, or a sign and any number of digits. -/
def year? (s : List Char) : Option (Int × List Char) :=
  match s with
  | '-' :: r => (Decimal.front? 1 r.length r).map fun (n, r) => (-(n : Int), r)
  | '+' :: r => (Decimal.front? 1 r.length r).map fun (n, r) => ((n : Int), r)
  | s => (Decimal.front? 1 4 s).map fun (n, r) => ((n : Int), r)

/-- Reads a number of one or two digits after blanks. -/
def number? (s : List Char) : Option (Nat × List Char) := Decimal.front? 1 2 (trimStart s)

/-- Reads `UTC` in any case, or an offset whose minutes may follow colons, blanks or nothing. -/
def zone? (s : List Char) : Option (Int × List Char) :=
  if (s.take 3).map Char.toUpper = ['U', 'T', 'C'] then some (0, s.drop 3)
  else offset? (fun r => some (r.dropWhile fun c => c = ':' || isBlank c)) s

/-- Reads a whole stored timestamp. -/
def read? (s : List Char) : Option Instant := do
  let (year, s) ← year? (trimStart s)
  let (month, s) ← number? (← literal? '-' (trimStart s))
  let (day, s) ← number? (← literal? '-' (trimStart s))
  let (hour, s) ← number? (← separator? s)
  let (minute, s) ← number? (← literal? ':' (trimStart s))
  let (second, s) ← number? (← literal? ':' (trimStart s))
  let (nano, s) ← fraction? s
  let (offset, s) ← zone? (trimStart s)
  if trimStart s = [] then instant? ⟨year, month, day⟩ hour minute second nano offset else none

end ChatBot.Timestamp
