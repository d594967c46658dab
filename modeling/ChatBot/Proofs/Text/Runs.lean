/-!
# Runs

What is found at the front of a text that starts with a run of characters of one class and goes on
otherwise.
-/

namespace ChatBot.Text

theorem drop_length_takeWhile (p : α → Bool) (s : List α) :
    s.drop (s.takeWhile p).length = s.dropWhile p := by
  conv => lhs; arg 2; rw [← List.takeWhile_append_dropWhile (p := p) (l := s)]
  rw [List.drop_left]

theorem takeWhile_append_of_stop {p : α → Bool} {run s : List α} (hrun : ∀ a ∈ run, p a)
    (hs : s.head?.any p = false) : (run ++ s).takeWhile p = run := by
  rw [List.takeWhile_append_of_pos hrun]
  cases s with
  | nil => simp
  | cons a s =>
    simp only [List.head?_cons, Option.any_some] at hs
    simp [hs]

theorem dropWhile_append_of_stop {p : α → Bool} {run s : List α} (hrun : ∀ a ∈ run, p a)
    (hs : s.head?.any p = false) : (run ++ s).dropWhile p = s := by
  rw [List.dropWhile_append_of_pos hrun]
  cases s with
  | nil => rfl
  | cons a s =>
    simp only [List.head?_cons, Option.any_some] at hs
    simp [hs]

theorem any_head?_dropWhile (p : α → Bool) (s : List α) : (s.dropWhile p).head?.any p = false := by
  have hdrop := List.head?_dropWhile_not p s
  cases h : (s.dropWhile p).head? with
  | none => rfl
  | some a => simpa [h] using hdrop

/-- A run that is not empty decides how a text goes on. -/
theorem any_head?_append {p : α → Bool} {run s : List α} (hne : run ≠ [])
    (h : ∀ a ∈ run, p a = false) : (run ++ s).head?.any p = false := by
  cases run with
  | nil => contradiction
  | cons a run => exact h a List.mem_cons_self

theorem takeWhile_take_isPrefix (p : α → Bool) (n : Nat) (s : List α) :
    (s.take n).takeWhile p <+: s :=
  (List.takeWhile_prefix p).trans (List.take_prefix n s)

theorem length_takeWhile_take_le (p : α → Bool) (n : Nat) (s : List α) :
    ((s.take n).takeWhile p).length ≤ n :=
  Nat.le_trans (List.takeWhile_prefix p).length_le (List.length_take_le n s)

/-- What is taken of a text is the longest run of at most `n` characters in front of it. -/
theorem length_le_takeWhile_take {p : α → Bool} {n : Nat} {run s : List α} (hs : run <+: s)
    (hrun : ∀ a ∈ run, p a) (hlength : run.length ≤ n) :
    run.length ≤ ((s.take n).takeWhile p).length := by
  obtain ⟨t, rfl⟩ := hs
  rw [List.take_append, List.take_of_length_le hlength, List.takeWhile_append_of_pos hrun,
    List.length_append]
  exact Nat.le_add_right _ _

/-- A run of at most `n` characters is what is taken of a text that goes on otherwise. -/
theorem takeWhile_take_append {p : α → Bool} {n : Nat} {run s : List α} (hrun : ∀ a ∈ run, p a)
    (hlen : run.length ≤ n) (hs : run.length < n → s.head?.any p = false) :
    ((run ++ s).take n).takeWhile p = run := by
  rw [List.take_append, List.take_of_length_le hlen, List.takeWhile_append_of_pos hrun]
  rcases Nat.eq_or_lt_of_le hlen with rfl | hlt
  · simp
  · have hs := hs hlt
    cases s with
    | nil => simp
    | cons a s =>
      obtain ⟨m, hm⟩ : ∃ m, n - run.length = m + 1 := ⟨n - run.length - 1, by omega⟩
      simp only [List.head?_cons, Option.any_some] at hs
      simp [hm, hs]

theorem takeWhile_take_self {p : α → Bool} {n : Nat} {run : List α} (hrun : ∀ a ∈ run, p a)
    (hlength : run.length ≤ n) : (run.take n).takeWhile p = run := by
  have hnil := takeWhile_take_append (s := []) hrun hlength fun _ => rfl
  rwa [List.append_nil] at hnil

/-- What is taken of a text by a run of at most `n` characters, and how the text goes on. -/
theorem exists_takeWhile_take (p : α → Bool) (n : Nat) (s : List α) :
    ∃ rest, s = (s.take n).takeWhile p ++ rest ∧
      (((s.take n).takeWhile p).length < n → rest.head?.any p = false) := by
  rw [← List.take_takeWhile]
  rcases Nat.lt_or_ge (s.takeWhile p).length n with hlt | hge
  · rw [List.take_of_length_le (Nat.le_of_lt hlt)]
    exact ⟨s.dropWhile p, List.takeWhile_append_dropWhile.symm, fun _ => any_head?_dropWhile p s⟩
  · obtain ⟨rest, hrest⟩ := (List.take_prefix n (s.takeWhile p)).trans (List.takeWhile_prefix p)
    refine ⟨rest, hrest.symm, fun hlt => ?_⟩
    rw [List.length_take] at hlt
    omega

end ChatBot.Text
