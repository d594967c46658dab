import ChatBot.Proofs.Text.Runs
import ChatBot.Text.Pattern

/-!
# Patterns of separate classes

If no run of a pattern has a character that what comes after it can start with, then every run takes
all that it can: nothing is given back (`front?_cons`).
-/

namespace ChatBot.Text.Pattern

variable {p : Pattern} {r : Run} {c : Char} {s before after : List Char} {runs : List (List Char)}

/-- Whether a pattern may be found in front of a text that starts with a character. -/
def starts : Pattern → Char → Bool
  | [], _ => true
  | r :: p, c => r.admits c || r.least == 0 && starts p c

/-- Whether no run has a character that the runs after it may start with. -/
def Apart : Pattern → Prop
  | [] => True
  | [_] => True
  | r :: r' :: p => (∀ c, r.admits c → starts (r' :: p) c = false) ∧ Apart (r' :: p)

theorem Apart.tail (h : Apart (r :: p)) : Apart p := by
  cases p with
  | nil => trivial
  | cons => exact h.2

/-! ## At the front -/

theorem greatest?_of_eq_some {f : Nat → Option α} {least most : Nat} {a : α} (hle : least ≤ most)
    (h : f most = some a) : greatest? f least most = some a := by
  cases most with
  | zero => rw [greatest?, if_pos (Nat.le_zero.1 hle), h]
  | succ n => rw [greatest?, if_neg (Nat.not_lt.2 hle), h]

theorem greatest?_eq_none {f : Nat → Option α} {least most : Nat}
    (h : ∀ n, least ≤ n → n ≤ most → f n = none) : greatest? f least most = none := by
  rw [Option.eq_none_iff_forall_not_mem]
  intro a ha
  obtain ⟨n, hleast, hmost, hn⟩ := exists_of_greatest? ha
  rw [h n hleast hmost] at hn
  contradiction

theorem front?_eq_none (h : starts p c = false) (s : List Char) : front? p (c :: s) = none := by
  induction p with
  | nil => contradiction
  | cons r p ih =>
    rw [starts, Bool.or_eq_false_iff, Bool.and_eq_false_iff] at h
    obtain ⟨hc, h⟩ := h
    rw [front?, List.takeWhile_cons_of_neg (by simp [hc])]
    refine greatest?_eq_none fun n hleast hn => ?_
    obtain rfl := Nat.le_zero.1 hn
    rcases h with h | h
    · simp [Nat.le_zero.1 hleast] at h
    · rw [List.drop_zero, ih h, Option.map_none]

/-- A text without the first characters of a run goes on with another one of them. -/
theorem exists_drop_eq_cons {n : Nat} (h : n < (s.takeWhile r.admits).length) :
    ∃ c t, s.drop n = c :: t ∧ r.admits c := by
  obtain ⟨c, t, ht⟩ := List.exists_cons_of_ne_nil fun hnil =>
    Nat.not_le.2 h (List.drop_eq_nil_iff.1 hnil)
  have hc : c ∈ s.takeWhile r.admits := List.mem_of_mem_drop (ht ▸ List.mem_cons_self)
  refine ⟨c, t ++ s.dropWhile r.admits, ?_, List.all_eq_true.1 List.all_takeWhile c hc⟩
  conv => lhs; rw [← List.takeWhile_append_dropWhile (p := r.admits) (l := s)]
  rw [List.drop_append_of_le_length (Nat.le_of_lt h), ht, List.cons_append]

/-- The first run is as long as can be, and the other runs are found after it. -/
theorem front?_cons (h : Apart (r :: p)) (s : List Char) : front? (r :: p) s =
    if (s.takeWhile r.admits).length < r.least then none
    else (front? p (s.dropWhile r.admits)).map fun (runs, after) =>
      (s.takeWhile r.admits :: runs, after) := by
  have htake : s.take (s.takeWhile r.admits).length = s.takeWhile r.admits :=
    List.prefix_iff_eq_take.1 (List.takeWhile_prefix _) |>.symm
  split
  next hshort => exact greatest?_eq_none fun n hleast hn => absurd (Nat.le_trans hleast hn) (by omega)
  next hlong =>
    rw [Nat.not_lt] at hlong
    cases hlater : front? p (s.dropWhile r.admits) with
    | some found =>
      refine greatest?_of_eq_some hlong ?_
      rw [drop_length_takeWhile, hlater, htake]
      rfl
    | none =>
      refine greatest?_eq_none fun n _ hn => ?_
      rcases Nat.eq_or_lt_of_le hn with rfl | hlt
      · rw [drop_length_takeWhile, hlater, Option.map_none]
      · obtain ⟨c, t, ht, hc⟩ := exists_drop_eq_cons hlt
        cases p with
        | nil => contradiction
        | cons r' p => rw [ht, front?_eq_none (h.1 c hc), Option.map_none]

/-- Whether each run has only characters of its class, has enough of them and all that follow. -/
def Maximal : Pattern → List (List Char) → List Char → Prop
  | [], [], _ => True
  | r :: p, run :: runs, after =>
    (∀ c ∈ run, r.admits c) ∧ r.least ≤ run.length ∧
      (runs.flatten ++ after).head?.any r.admits = false ∧ Maximal p runs after
  | _, _, _ => False

/-- A pattern is found at the front where its longest runs are. -/
theorem front?_eq_some_iff (h : Apart p) :
    front? p s = some (runs, after) ↔ s = runs.flatten ++ after ∧ Maximal p runs after := by
  induction p generalizing s runs with
  | nil =>
    cases runs with
    | nil => simp [front?, Maximal]
    | cons => simp [front?, Maximal]
  | cons r p ih =>
    rw [front?_cons h]
    constructor
    · intro hfront
      split at hfront
      next => contradiction
      next hlong =>
        obtain ⟨⟨later, rest⟩, hlater, heq⟩ := Option.map_eq_some_iff.1 hfront
        cases heq
        obtain ⟨hs, hmaximal⟩ := (ih h.tail).1 hlater
        refine ⟨?_, List.all_eq_true.1 List.all_takeWhile, Nat.not_lt.1 hlong, ?_, hmaximal⟩
        · rw [List.flatten_cons, List.append_assoc, ← hs, List.takeWhile_append_dropWhile]
        · rw [← hs]
          exact any_head?_dropWhile r.admits s
    · rintro ⟨rfl, hmaximal⟩
      cases runs with
      | nil => contradiction
      | cons run runs =>
        obtain ⟨hrun, hleast, hstop, hmaximal⟩ := hmaximal
        rw [List.flatten_cons, List.append_assoc, takeWhile_append_of_stop hrun hstop,
          dropWhile_append_of_stop hrun hstop, if_neg (Nat.not_lt.2 hleast),
          (ih h.tail).2 ⟨rfl, hmaximal⟩]
        rfl

/-! ## From left to right -/

theorem find?_append (hbefore : ∀ c ∈ before, starts p c = false)
    (h : front? p s = some (runs, after)) : find? p (before ++ s) = some ⟨before, runs, after⟩ := by
  induction before with
  | nil =>
    cases s with
    | nil => rw [List.nil_append, find?, h]; rfl
    | cons c s => rw [List.nil_append, find?, h]
  | cons c before ih =>
    rw [List.forall_mem_cons] at hbefore
    rw [List.cons_append, find?, front?_eq_none hbefore.1, ih hbefore.2]
    rfl

theorem find?_eq_none (hs : ∀ c ∈ s, starts p c = false) (hp : front? p [] = none) :
    find? p s = none := by
  induction s with
  | nil => rw [find?, hp]; rfl
  | cons c s ih =>
    rw [List.forall_mem_cons] at hs
    rw [find?, front?_eq_none hs.1, ih hs.2]
    rfl

theorem front?_of_find? {m : Found} (h : find? p s = some m) :
    ∃ t, s = m.before ++ t ∧ front? p t = some (m.runs, m.after) := by
  induction s generalizing m with
  | nil =>
    obtain ⟨⟨runs, after⟩, hfront, rfl⟩ := Option.map_eq_some_iff.1 h
    exact ⟨[], rfl, hfront⟩
  | cons c s ih =>
    unfold find? at h
    split at h
    next runs after hfront =>
      cases h
      exact ⟨c :: s, rfl, hfront⟩
    next =>
      obtain ⟨found, hfound, rfl⟩ := Option.map_eq_some_iff.1 h
      obtain ⟨t, rfl, hfront⟩ := ih hfound
      exact ⟨t, rfl, hfront⟩

end ChatBot.Text.Pattern
