import ChatBot.Time.Calendar

/-!
# Instants

A point of universal time, to the nanosecond, with room for leap seconds: the sixty-first second of
a minute is its sixtieth with more than a thousand million nanoseconds.
-/

namespace ChatBot

/-- The first second of the first year that is kept. -/
def Instant.firstSecond : Int := Date.dayNumber ⟨-262143, 1, 1⟩ * 86400

/-- The last second of the last year that is kept. -/
def Instant.lastSecond : Int := Date.dayNumber ⟨262142, 12, 31⟩ * 86400 + 86399

/-- What the seconds and nanoseconds of an instant satisfy. -/
def Instant.Valid (second : Int) (nano : Nat) : Prop :=
  Instant.firstSecond ≤ second ∧ second ≤ Instant.lastSecond ∧ nano < 2000000000 ∧
    (1000000000 ≤ nano → second % 60 = 59)

instance (second : Int) (nano : Nat) : Decidable (Instant.Valid second nano) := by
  unfold Instant.Valid; infer_instance

/-- Seconds since the first of January 1970, leap seconds left out, and nanoseconds. -/
structure Instant where
  second : Int
  nano : Nat
  valid : Instant.Valid second nano
  deriving DecidableEq

/-- A length of time. -/
structure Elapsed where
  nanoseconds : Int
  deriving DecidableEq, Repr

namespace Elapsed

/-- Whole seconds, toward zero. -/
def seconds (e : Elapsed) : Int := e.nanoseconds.tdiv 1000000000

/-- Whole milliseconds, toward zero. -/
def milliseconds (e : Elapsed) : Int := e.nanoseconds.tdiv 1000000

def ofSeconds (n : Int) : Elapsed := ⟨n * 1000000000⟩

def ofMilliseconds (n : Int) : Elapsed := ⟨n * 1000000⟩

instance : LE Elapsed := ⟨fun a b => a.nanoseconds ≤ b.nanoseconds⟩

instance (a b : Elapsed) : Decidable (a ≤ b) :=
  inferInstanceAs (Decidable (a.nanoseconds ≤ b.nanoseconds))

end Elapsed

namespace Instant

def ofParts? (second : Int) (nano : Nat) : Option Instant :=
  if h : Valid second nano then some ⟨second, nano, h⟩ else none

/-- The start of the first of January 1970. -/
def epoch : Instant := ⟨0, 0, by decide⟩

instance : Inhabited Instant := ⟨epoch⟩

/-- Instants are ordered by second, then by nanosecond. -/
def order (t : Instant) : Int × Nat := (t.second, t.nano)

attribute [local instance] lexOrd in
instance : Ord Instant := ⟨compareOn order⟩

attribute [local instance] lexOrd in
instance : Std.TransOrd Instant := inferInstanceAs (Std.TransCmp (compareOn order))

attribute [local instance] lexOrd in
instance : Std.LawfulEqOrd Instant where
  eq_of_compare {a b} h := by
    have h : compare a.order b.order = .eq := h
    have := Std.LawfulEqOrd.eq_of_compare h
    cases a; cases b
    simp only [order, Prod.mk.injEq] at this
    obtain ⟨rfl, rfl⟩ := this
    rfl

instance : LE Instant := ⟨fun a b => (compare a b).isLE⟩

instance : LT Instant := ⟨fun a b => compare a b = .lt⟩

instance (a b : Instant) : Decidable (a ≤ b) := inferInstanceAs (Decidable ((compare a b).isLE = true))

instance (a b : Instant) : Decidable (a < b) := inferInstanceAs (Decidable (compare a b = .lt))

def isLeapSecond (t : Instant) : Bool := 1000000000 ≤ t.nano

/-- The time of day, in seconds. -/
def secondOfDay (t : Instant) : Int := t.second % 86400

/-- The time from one instant to another. A leap second counts when it lies between their times of
day. -/
def since (later earlier : Instant) : Elapsed :=
  let leap : Int :=
    if later.secondOfDay > earlier.secondOfDay ∧ earlier.isLeapSecond then 1
    else if later.secondOfDay < earlier.secondOfDay ∧ later.isLeapSecond then -1
    else 0
  ⟨(later.second - earlier.second + leap) * 1000000000 + (later.nano - earlier.nano : Int)⟩

/-- The instant that many seconds later. Any whole second after a leap second leaves it. -/
def after? (t : Instant) (seconds : Nat) : Option Instant :=
  if seconds = 0 then some t else ofParts? (t.second + seconds) (t.nano % 1000000000)

end Instant

end ChatBot
