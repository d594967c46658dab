import ChatBot.Text.Classes
import ChatBot.Text.Numeral
import ChatBot.Text.Lowercase
import ChatBot.Text.Pattern
import ChatBot.Time.Timestamp

/-!
# Time expressions

What people may type for a time: a timestamp, or a span from now with an optional `in` before it.

A span such as `2h 30m` or `1 day and 3 hours` has amounts with units, between gaps of blanks,
commas and at most one `and`. Digits of any script end a gap, but only those from `0` to `9` are
read.
-/

namespace ChatBot.Span

open Text

/-- The unit names of each size, in seconds. -/
def units : List (Nat × List String) :=
  [(1, ["s", "sec", "secs", "second", "seconds"]),
   (60, ["m", "min", "mins", "minute", "minutes"]),
   (3600, ["h", "hr", "hrs", "hour", "hours"]),
   (86400, ["d", "day", "days"]),
   (604800, ["w", "week", "weeks"])]

def unitSeconds? (unit : String) : Option Nat :=
  (units.find? fun u => u.2.contains unit).map (·.1)

def isSeparator (c : Char) : Bool := isBlank c || c == ','

/-- Whether a text may stand before, between or after the parts of a span. -/
def isGap (s : List Char) : Bool :=
  let core := (s.dropWhile isSeparator).reverse.dropWhile isSeparator |>.reverse
  core == [] || core == "and".toList

/-! ## Parts -/

/-- An amount and a unit as they are written, and the text in front of them. -/
structure Part where
  gap : List Char
  amount : List Char
  unit : List Char
  deriving DecidableEq, Repr

/-- An amount, blanks and the letters of a unit. -/
def pattern : Pattern := [⟨isDecimalDigit, 1⟩, ⟨isBlank, 0⟩, ⟨Char.isLower, 1⟩]

/-- The first part of a text, and what follows it. -/
def part? (s : List Char) : Option (Part × List Char) :=
  match pattern.find? s with
  | some ⟨gap, [amount, _, unit], after⟩ => some (⟨gap, amount, unit⟩, after)
  | _ => none

theorem length_lt_of_part? {s after : List Char} {p : Part} (h : part? s = some (p, after)) :
    after.length < s.length := by
  unfold part? at h
  split at h
  next hfound =>
    cases h
    exact Pattern.length_after_lt hfound (by decide)
  next => contradiction

/-- The parts of a text, and what follows the last one. -/
def parts (s : List Char) : List Part × List Char :=
  match _found : part? s with
  | none => ([], s)
  | some (p, after) =>
    let (ps, last) := parts after
    (p :: ps, last)
termination_by s.length
decreasing_by exact length_lt_of_part? ‹_›

/-! ## Lengths -/

/-- The first number that is too large for a signed integer of sixty-four bits. -/
def integerBound : Nat := 0x8000000000000000

/-- The greatest whole number of seconds of a length of time, which is kept in milliseconds. -/
def mostSeconds : Nat := (integerBound - 1) / 1000

/-- The seconds of a part, if they and all that they are found from are in range. -/
def Part.seconds? (p : Part) : Option Nat := do
  let amount ← Decimal.readBelow? integerBound p.amount
  let unit ← unitSeconds? (String.ofList p.unit)
  let seconds ← Option.guard (· < integerBound) (amount * unit)
  Option.guard (· ≤ mostSeconds) seconds

/-- Adds a part to a length in seconds. -/
def add? (total : Nat) (p : Part) : Option Nat :=
  if isGap p.gap then do Option.guard (· ≤ mostSeconds) (total + (← p.seconds?)) else none

/-- The seconds of a span written in lower case. -/
def seconds? (s : List Char) : Option Nat :=
  match parts s with
  | ([], _) => none
  | (ps, last) => (ps.foldlM add? 0).filter fun _ => isGap last

/-! ## Writing -/

/-- A span in days, hours, minutes and seconds without its zero parts, such as `1d 2h 3m 4s`. -/
def write (seconds : Nat) : List Char :=
  let parts := [(seconds / 86400, 'd'), (seconds % 86400 / 3600, 'h'), (seconds % 3600 / 60, 'm'),
    (seconds % 60, 's')].filter fun part => 0 < part.1
  if parts = [] then "0s".toList
  else [' '].intercalate (parts.map fun part => Decimal.write part.1 ++ [part.2])

end ChatBot.Span

/-! ## Expressions -/

namespace ChatBot.TimeExpression

open Text

/-- The text after a leading `in` and a space, or the whole text. -/
def withoutIn : List Char → List Char
  | 'i' :: 'n' :: ' ' :: r => r
  | s => s

/-- The instant that a time expression names at `now`. -/
def read? (s : List Char) (now : Instant) : Option Instant :=
  let s := trim s
  match Timestamp.readStrict? s with
  | some t => some t
  | none => Span.seconds? (withoutIn (lowercaseAfter [] s)) >>= now.after?

end ChatBot.TimeExpression
