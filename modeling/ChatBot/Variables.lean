/-!
# Variables in replies

A percent sign before the name of a variable stands for the value of that variable. Of several names
that fit the longest is meant. A value is not searched for further variables, and a variable without
a value stays as it is written.
-/

namespace ChatBot.Variables

/-- The sign before the name of a variable. -/
def sign : Char := '%'

variable {α : Type}

/-- What is left of the names that go on with a character. -/
def narrow (c : Char) (candidates : List (List Char × α)) : List (List Char × α) :=
  candidates.filterMap fun
    | ([], _) => none
    | (d :: name, a) => if d = c then some (name, a) else none

/-- The longest candidate at the front of a text with what follows it, or else `best`. -/
def longestFrom (candidates : List (List Char × α)) (best : Option (α × List Char)) :
    List Char → Option (α × List Char)
  | [] => best
  | c :: rest =>
    let left := narrow c candidates
    let best := match left.find? (·.1 = []) with
      | some (_, a) => some (a, rest)
      | none => best
    if left = [] then best else longestFrom left best rest

/-- The variable whose name is the longest at the front of a text, with what follows it. -/
def longest? (vars : List (List Char × α)) (s : List Char) : Option (α × List Char) :=
  longestFrom vars none s

theorem length_le_of_longestFrom {a : α} {after : List Char} :
    ∀ {s : List Char} {candidates : List (List Char × α)} {best : Option (α × List Char)},
      longestFrom candidates best s = some (a, after) →
        after.length ≤ s.length ∨ best = some (a, after)
  | [], _, _, h => .inr h
  | c :: rest, candidates, best, h => by
    simp only [longestFrom] at h
    generalize narrow c candidates = left at h
    have hbest : ∀ b : Option (α × List Char),
        (b = match left.find? (·.1 = []) with
          | some (_, a) => some (a, rest)
          | none => best) →
        b = some (a, after) → after.length ≤ (c :: rest).length ∨ best = some (a, after) := by
      rintro b rfl hb
      split at hb
      · cases hb
        exact .inl (Nat.le_succ _)
      · exact .inr hb
    split at h
    · exact hbest _ rfl h
    · rcases length_le_of_longestFrom h with h | h
      · exact .inl (Nat.le_succ_of_le h)
      · exact hbest _ rfl h

theorem length_le_of_longest? {vars : List (List Char × α)} {s after : List Char} {a : α}
    (h : longest? vars s = some (a, after)) : after.length ≤ s.length :=
  (length_le_of_longestFrom h).resolve_right nofun

/-- Puts the values of variables in place of their names. -/
def substitute (vars : List (List Char × Option (List Char))) : List Char → List Char
  | [] => []
  | c :: rest =>
    if c = sign then
      match _found : longest? vars rest with
      | some (some value, after) => value ++ substitute vars after
      | _ => c :: substitute vars rest
    else c :: substitute vars rest
termination_by s => s.length
decreasing_by
  · exact Nat.lt_succ_of_le (length_le_of_longest? ‹_›)
  · exact Nat.lt_succ_self _
  · exact Nat.lt_succ_self _

end ChatBot.Variables
