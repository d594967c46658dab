/-!
# Patterns

A pattern asks for runs of characters, one after the other. It is looked for from left to right, and
each run is as long as the runs after it allow.
-/

namespace ChatBot.Text

/-- A run of characters of one class, of at least some length. -/
structure Run where
  admits : Char → Bool
  least : Nat

abbrev Pattern := List Run

/-- Where a pattern was found: the text in front, the text of each run, and the text that follows. -/
structure Found where
  before : List Char
  runs : List (List Char)
  after : List Char
  deriving DecidableEq, Repr

namespace Pattern

/-- What `f` gives at the greatest number from `least` to another one that it gives something at. -/
def greatest? (f : Nat → Option α) (least : Nat) : Nat → Option α
  | 0 => if least = 0 then f 0 else none
  | n + 1 =>
    if n + 1 < least then none
    else match f (n + 1) with
      | some a => some a
      | none => greatest? f least n

/-- The runs of a pattern at the front of a text, and the text that follows. Earlier runs give
characters back if later ones are not found otherwise. -/
def front? : Pattern → List Char → Option (List (List Char) × List Char)
  | [], s => some ([], s)
  | r :: p, s =>
    greatest? (fun n => (front? p (s.drop n)).map fun (runs, after) => (s.take n :: runs, after))
      r.least (s.takeWhile r.admits).length

/-- The leftmost place where a pattern is found. -/
def find? (p : Pattern) : List Char → Option Found
  | [] => (front? p []).map fun (runs, after) => ⟨[], runs, after⟩
  | c :: s =>
    match front? p (c :: s) with
    | some (runs, after) => some ⟨[], runs, after⟩
    | none => (find? p s).map fun found => { found with before := c :: found.before }

/-- The least length of what a pattern is found as. -/
def least : Pattern → Nat
  | [] => 0
  | r :: p => r.least + least p

/-! ## What is found -/

theorem exists_of_greatest? {f : Nat → Option α} {least most : Nat} {a : α}
    (h : greatest? f least most = some a) : ∃ n, least ≤ n ∧ n ≤ most ∧ f n = some a := by
  induction most with
  | zero =>
    unfold greatest? at h
    split at h
    next hleast => exact ⟨0, Nat.le_of_eq hleast, Nat.le_refl 0, h⟩
    next => contradiction
  | succ n ih =>
    unfold greatest? at h
    split at h
    next => contradiction
    next hleast =>
      split at h
      next b hb =>
        cases h
        exact ⟨n + 1, Nat.not_lt.1 hleast, Nat.le_refl _, hb⟩
      next =>
        obtain ⟨k, hk, hkn, hfk⟩ := ih h
        exact ⟨k, hk, Nat.le_succ_of_le hkn, hfk⟩

/-- Nothing of the text is lost, and no run is too short. -/
theorem of_front? {p : Pattern} {s after : List Char} {runs : List (List Char)}
    (h : front? p s = some (runs, after)) :
    s = runs.flatten ++ after ∧ least p ≤ runs.flatten.length := by
  induction p generalizing s runs with
  | nil =>
    cases h
    exact ⟨rfl, Nat.le_refl 0⟩
  | cons r p ih =>
    obtain ⟨n, hleast, hmost, hn⟩ := exists_of_greatest? h
    obtain ⟨⟨later, rest⟩, hlater, heq⟩ := Option.map_eq_some_iff.1 hn
    cases heq
    obtain ⟨hdrop, hlength⟩ := ih hlater
    have hn : n ≤ s.length := Nat.le_trans hmost (List.takeWhile_sublist _).length_le
    constructor
    · rw [List.flatten_cons, List.append_assoc, ← hdrop, List.take_append_drop]
    · rw [List.flatten_cons, List.length_append, List.length_take_of_le hn, least]
      omega

theorem of_find? {p : Pattern} {s : List Char} {m : Found} (h : find? p s = some m) :
    s = m.before ++ (m.runs.flatten ++ m.after) ∧ least p ≤ m.runs.flatten.length := by
  induction s generalizing m with
  | nil =>
    obtain ⟨⟨runs, after⟩, hfront, rfl⟩ := Option.map_eq_some_iff.1 h
    exact of_front? hfront
  | cons c s ih =>
    unfold find? at h
    split at h
    next runs after hfront =>
      cases h
      exact of_front? hfront
    next =>
      obtain ⟨found, hfound, rfl⟩ := Option.map_eq_some_iff.1 h
      obtain ⟨hs, hlength⟩ := ih hfound
      exact ⟨congrArg (c :: ·) hs, hlength⟩

/-- A pattern that asks for a character is found in front of a shorter text. -/
theorem length_after_lt {p : Pattern} {s : List Char} {m : Found} (h : find? p s = some m)
    (hp : 0 < least p) : m.after.length < s.length := by
  obtain ⟨hs, hlength⟩ := of_find? h
  rw [hs, List.length_append, List.length_append]
  omega

end Pattern

end ChatBot.Text
