import ChatBot.Proofs.CommandLine.Tokens

/-!
# Words, character by character

What cutting a text into tokens and gathering them into words comes to on characters: one equation
for each way in which a text can start. A run of plain characters or of blanks is a single token,
but it is read as if each of its characters were one.
-/

namespace ChatBot.Word

open Text Token CommandLine

/-- The word with `raw` at its end, which stands for `value`. -/
def add (w : Word) (raw value : List Char) : Word :=
  ⟨w.raw ++ raw, w.value ++ value, w.plain && raw.all isPlain⟩

@[simp] theorem add_nil (w : Word) : w.add [] [] = w := by simp [add]

@[simp] theorem add_add (w : Word) (r v r' v' : List Char) :
    (w.add r v).add r' v' = w.add (r ++ r') (v ++ v') := by
  simp [add, Bool.and_assoc]

theorem push_eq_add {t : Token} (h : (t.kind == .text || t.kind == .blank) = t.raw.all isPlain)
    (w : Word) : w.push t = w.add t.raw t.decoded := by
  rw [push, add, h]

/-! ## Gathering -/

/-- What is open after a quote: nothing if something was open before it. -/
def toggle (opened : Option α) (here : α) : Option α :=
  match opened with
  | some _ => none
  | none => some here

theorem gather_blank {word : Option Word} (h : t.kind = .blank) :
    gather word none (t :: ts) = (gather none none ts).map (word.toList ++ ·) := by
  rw [gather, if_pos ⟨h, rfl⟩]
  cases gather none none ts <;> rfl

theorem gather_of_not_blank {word : Option Word} {opened : Option (List Char)}
    (h : ¬(t.kind = .blank ∧ opened = none)) : gather word opened (t :: ts) =
      gather (some ((word.getD empty).push t))
        (if t.kind = .quote then toggle opened ((t :: ts).flatMap (·.raw)) else opened) ts := by
  rw [gather.eq_def]
  dsimp only
  rw [if_neg h]
  cases opened <;> rfl

/-- Which fragment an open quote would leave behind makes no difference to the words. -/
theorem toOption_gather_fragment (f f' : List Char) : ∀ (ts : List Token) (word : Option Word),
    (gather word (some f) ts).toOption = (gather word (some f') ts).toOption
  | [], _ => rfl
  | t :: ts, word => by
    simp only [gather, reduceCtorEq, and_false, if_false]
    split
    · rfl
    · exact toOption_gather_fragment f f' ts _

/-- The words of a text after the word that is being read, if no escape of the text is malformed
and every quote is closed. `quoted` tells whether a quote is open in front of the text. -/
def wordsOf (word : Option Word) (quoted : Bool) (s : List Char) : Option (List Word) :=
  if malformed (cut s) = [] then
    (gather word (if quoted then some [] else none) (cut s)).toOption
  else none

variable {word : Option Word} {quoted : Bool} {s s' : List Char} {t : Token}

theorem malformed_cons (h : t.kind ≠ .malformedEscape) (ts : List Token) :
    malformed (t :: ts) = malformed ts := by
  simp [malformed, h]

/-- A token that separates no words goes to the word that is being read. -/
theorem wordsOf_of_cut (hcut : cut s = t :: cut s') (hm : t.kind ≠ .malformedEscape)
    (hb : t.kind = .blank → quoted) :
    wordsOf word quoted s =
      wordsOf (some ((word.getD empty).push t)) (quoted != decide (t.kind = .quote)) s' := by
  unfold wordsOf
  rw [hcut, malformed_cons hm]
  congr 1
  simp only [gather]
  rw [if_neg (by cases quoted <;> simp_all)]
  by_cases hq : t.kind = .quote
  · cases quoted
    · simpa [hq] using toOption_gather_fragment _ _ _ _
    · simp [hq]
  · simp [hq]

/-- A blank that is not quoted ends the word that is being read. -/
theorem wordsOf_of_cut_blank (hcut : cut s = t :: cut s') (hb : t.kind = .blank) :
    wordsOf word false s = (wordsOf none false s').map (word.toList ++ ·) := by
  unfold wordsOf
  rw [hcut, malformed_cons (by simp [hb])]
  split
  · rw [if_neg Bool.false_ne_true, gather_blank hb]
    cases gather none none (cut s') <;> rfl
  · rfl

theorem wordsOf_of_malformed (hcut : cut s = t :: cut s') (hm : t.kind = .malformedEscape) :
    wordsOf word quoted s = none := by
  rw [wordsOf, hcut, if_neg]
  simp [malformed, hm]

/-! ## One equation for each start of a text -/

@[simp] theorem wordsOf_nil : wordsOf word false [] = some word.toList := by
  rw [wordsOf, cut]
  rfl

@[simp] theorem wordsOf_nil_quoted : wordsOf word true [] = none := by
  rw [wordsOf, cut]
  rfl

theorem wordsOf_plain (h : isPlain c) :
    wordsOf word quoted (c :: s) = wordsOf (some ((word.getD empty).add [c] [c])) quoted s := by
  have hc (s : List Char) (w : Word) : w.push (verbatim .text (c :: s.takeWhile isPlain)) =
      w.add (c :: s.takeWhile isPlain) (c :: s.takeWhile isPlain) :=
    push_eq_add (by simp [verbatim, h]) w
  rw [wordsOf_of_cut (cut_text h s) (by simp [verbatim]) (by simp [verbatim]), hc]
  cases s with
  | nil => simp [verbatim]
  | cons d s =>
    by_cases hd : isPlain d
    · rw [wordsOf_of_cut (cut_text hd s) (by simp [verbatim]) (by simp [verbatim]),
        push_eq_add (by simp [verbatim, hd])]
      simp [verbatim, hd]
    · simp [verbatim, hd]

theorem wordsOf_blank (h : isBlank c) :
    wordsOf word false (c :: s) = (wordsOf none false s).map (word.toList ++ ·) := by
  rw [wordsOf_of_cut_blank (cut_blank h s) rfl]
  cases s with
  | nil => simp
  | cons d s =>
    by_cases hd : isBlank d
    · rw [wordsOf_of_cut_blank (cut_blank hd s) rfl]
      simp [hd]
    · simp [hd]

theorem wordsOf_blank_quoted {w : Word} (hw : w.plain = false) (h : isBlank c) :
    wordsOf (some w) true (c :: s) = wordsOf (some (w.add [c] [c])) true s := by
  have hpush (r : List Char) {w : Word} (hw : w.plain = false) :
      w.push (verbatim .blank r) = w.add r r := by
    simp [push, add, verbatim, hw]
  rw [wordsOf_of_cut (cut_blank h s) (by simp [verbatim]) (by simp), Option.getD_some, hpush _ hw]
  cases s with
  | nil => simp [verbatim]
  | cons d s =>
    by_cases hd : isBlank d
    · rw [wordsOf_of_cut (cut_blank hd s) (by simp [verbatim]) (by simp), Option.getD_some,
        hpush _ (by simp [add, hw])]
      simp [verbatim, hd]
    · simp [verbatim, hd]

theorem wordsOf_quote :
    wordsOf word quoted ('"' :: s) = wordsOf (some ((word.getD empty).add ['"'] [])) (!quoted) s := by
  rw [wordsOf_of_cut (cut_quote s) (by simp) (by simp), push_eq_add (by decide)]
  simp

theorem wordsOf_escape (h : Escape e c s) :
    wordsOf word quoted (e ++ s) = wordsOf (some ((word.getD empty).add e [c])) quoted s := by
  obtain ⟨kind, hkind, hcut⟩ := cut_escape h
  have hkinds : ∀ k ∈ escapeKinds, k ≠ .malformedEscape ∧ k ≠ .blank ∧ k ≠ .text ∧ k ≠ .quote := by
    decide
  obtain ⟨hm, hb, ht, hq⟩ := hkinds kind hkind
  rw [wordsOf_of_cut hcut hm (fun h => absurd h hb),
    push_eq_add (by simp [h.not_all_isPlain, hb, ht])]
  simp [hq]

/-- A text that is read goes on with an escape of the grammar after a backslash. -/
theorem exists_escape_of_wordsOf (h : wordsOf word quoted ('\\' :: s) = some ws) :
    ∃ e c s', '\\' :: s = e ++ s' ∧ Escape e c s' ∧ s'.length ≤ s.length := by
  rcases escape_or_malformed s with hm | ⟨e, c, s', hes, he⟩
  · rw [wordsOf_of_malformed (cut_cons _ _) (by rw [first, if_pos rfl, hm])] at h
    contradiction
  · refine ⟨e, c, s', hes, he, ?_⟩
    obtain ⟨x, t, rfl⟩ := he.exists_cons
    simp only [List.cons_append, List.cons.injEq, true_and] at hes
    simp [hes]
    omega

end ChatBot.Word
