import ChatBot.Proofs.CommandLine.Tokens

/-!
# Tokens by ordered choice

A token can be read in eight ways, which overlap and of which the first that succeeds counts
(`alternatives`). Cutting a text into tokens is trying them one after the other, again and again: one
of them succeeds on every text that is not empty, and it takes something off it (`scan_eq`).
-/

namespace ChatBot.Token

open Text CommandLine

/-! ## Alternatives -/

/-- The longest run of at most `most` characters at the front, if there are at least `least`. -/
def run? (least most : Nat) (p : Char → Bool) (s : List Char) : Option (List Char × List Char) :=
  let run := (s.take most).takeWhile p
  if run.length < least then none else some (run, s.drop run.length)

/-- What was read of a text when `rest` is left of it. -/
def consumed (s rest : List Char) : List Char := s.take (s.length - rest.length)

/-- A backslash, `u` and four hexadecimal digits. -/
def unicodeEscape? (s : List Char) : Option (Token × List Char) := do
  let (digits, rest) ← run? 4 4 (isDigitBelow 16) (← ['\\', 'u'].isPrefixOf? s)
  some (escapeFor .unicodeEscape (consumed s rest) (scalar? (digitsValue 16 digits)), rest)

/-- A backslash, `u` and less than four hexadecimal digits. -/
def shortUnicodeEscape? (s : List Char) : Option (Token × List Char) := do
  let (_, rest) ← run? 0 3 (isDigitBelow 16) (← ['\\', 'u'].isPrefixOf? s)
  some (verbatim .malformedEscape (consumed s rest), rest)

/-- A backslash and one to three octal digits. -/
def octalEscape? (s : List Char) : Option (Token × List Char) := do
  let (digits, rest) ← run? 1 3 (isDigitBelow 8) (← ['\\'].isPrefixOf? s)
  let code := digitsValue 8 digits
  some (escapeFor .octalEscape (consumed s rest) (if code ≤ 255 then scalar? code else none), rest)

/-- A backslash and a letter that stands for a character. -/
def namedEscape? : List Char → Option (Token × List Char)
  | '\\' :: x :: rest => (named? x).map fun c => (⟨.namedEscape, ['\\', x], [c]⟩, rest)
  | _ => none

/-- A backslash and one more character, if there is one. -/
def otherEscape? (s : List Char) : Option (Token × List Char) := do
  let rest := (← ['\\'].isPrefixOf? s).drop 1
  some (verbatim .malformedEscape (consumed s rest), rest)

def quote? : List Char → Option (Token × List Char)
  | '"' :: rest => some (⟨.quote, ['"'], []⟩, rest)
  | _ => none

/-- A run of characters of one class that stands for itself. -/
def run1? (kind : TokenKind) (p : Char → Bool) (s : List Char) : Option (Token × List Char) :=
  (run? 1 s.length p s).map fun (run, rest) => (verbatim kind run, rest)

/-- The ways to read a token, in the order in which they are tried. -/
def alternatives : List (List Char → Option (Token × List Char)) :=
  [unicodeEscape?, shortUnicodeEscape?, octalEscape?, namedEscape?, otherEscape?, quote?,
    run1? .blank isBlank, run1? .text isPlain]

/-- The token at the front of a text, and what follows it. -/
def token? (s : List Char) : Option (Token × List Char) := alternatives.findSome? (· s)

/-! ## The first that succeeds -/

variable {least most : Nat} {p : Char → Bool} {c x : Char} {s run rest : List Char}

theorem run?_append (hrun : ∀ c ∈ run, p c) (hleast : least ≤ run.length)
    (hmost : run.length ≤ most) (hrest : run.length < most → rest.head?.any p = false) :
    run? least most p (run ++ rest) = some (run, rest) := by
  unfold run?
  rw [takeWhile_take_append hrun hmost hrest, if_neg (Nat.not_lt.2 hleast), List.drop_left]

theorem run?_of_stop (hrest : s.head?.any p = false) : run? 1 most p s = none := by
  refine if_pos (Nat.lt_one_iff.2 ?_)
  cases s with
  | nil => simp
  | cons c s =>
    have hc : p c = false := hrest
    cases most <;> simp [hc]

theorem consumed_append (raw rest : List Char) : consumed (raw ++ rest) rest = raw := by
  rw [consumed, List.length_append, Nat.add_sub_cancel, List.take_left]

theorem run1?_cons (kind : TokenKind) (hc : p c) (s : List Char) :
    run1? kind p (c :: s) = some (verbatim kind (c :: s.takeWhile p), s.dropWhile p) := by
  have hall : ∀ d ∈ c :: s.takeWhile p, p d :=
    List.forall_mem_cons.2 ⟨hc, List.all_eq_true.1 List.all_takeWhile⟩
  have hlength : (c :: s.takeWhile p).length ≤ (c :: s).length :=
    Nat.succ_le_succ (List.takeWhile_prefix p).length_le
  have hrun := run?_append hall (Nat.le_add_left 1 _) hlength fun _ => any_head?_dropWhile p s
  rw [List.cons_append, List.takeWhile_append_dropWhile] at hrun
  rw [run1?, hrun]
  rfl

/-- A text without a backslash in front has no escape there. -/
theorem token?_of_ne (hs : c ≠ '\\') (hq : c ≠ '"') (s : List Char) : token? (c :: s) =
    (run1? .blank isBlank (c :: s)).or (run1? .text isPlain (c :: s)) := by
  have hread (r : List Char) : ('\\' :: r).isPrefixOf? (c :: s) = none :=
    if_neg (by simpa using hs.symm)
  have hnamed : namedEscape? (c :: s) = none := by
    unfold namedEscape?
    split
    next heq => exact absurd (List.cons.inj heq).1 hs
    next => rfl
  have hquote : quote? (c :: s) = none := by
    unfold quote?
    split
    next heq => exact absurd (List.cons.inj heq).1 hq
    next => rfl
  simp only [token?, alternatives, List.findSome?_cons, unicodeEscape?, shortUnicodeEscape?,
    octalEscape?, otherEscape?, hread, hnamed, hquote, Option.bind_eq_bind, Option.bind_none]
  cases run1? .blank isBlank (c :: s) with
  | none => cases run1? .text isPlain (c :: s) <;> rfl
  | some => rfl

/-! ## Escapes -/

/-- With four hexadecimal digits the first alternative succeeds, with less the second one. -/
theorem token?_unicode (s : List Char) : token? ('\\' :: 'u' :: s) =
    some (escape ('u' :: s), s.drop ((s.take 4).takeWhile (isDigitBelow 16)).length) := by
  obtain ⟨rest, hs, hstop⟩ := exists_takeWhile_take (isDigitBelow 16) 4 s
  have hdigits : ∀ d ∈ (s.take 4).takeWhile (isDigitBelow 16), isDigitBelow 16 d :=
    List.all_eq_true.1 List.all_takeWhile
  have hmost : ((s.take 4).takeWhile (isDigitBelow 16)).length ≤ 4 :=
    length_takeWhile_take_le ..
  rw [escape]
  generalize (s.take 4).takeWhile (isDigitBelow 16) = digits at *
  subst hs
  have hconsumed := consumed_append ('\\' :: 'u' :: digits) rest
  simp only [List.cons_append] at hconsumed
  have hread : ['\\', 'u'].isPrefixOf? ('\\' :: 'u' :: (digits ++ rest)) = some (digits ++ rest) :=
    rfl
  rw [List.drop_left, token?, alternatives, List.findSome?_cons, List.findSome?_cons]
  by_cases hlength : digits.length = 4
  · have hrun := run?_append hdigits (Nat.le_of_eq hlength.symm) hmost hstop
    simp [unicodeEscape?, hread, hrun, hconsumed, hlength]
  · have hrun : run? 4 4 (isDigitBelow 16) (digits ++ rest) = none := by
      rw [run?, takeWhile_take_append hdigits hmost hstop]
      exact if_pos (by omega)
    have hshort : run? 0 3 (isDigitBelow 16) (digits ++ rest) = some (digits, rest) :=
      run?_append hdigits (Nat.zero_le _) (by omega) fun _ => hstop (by omega)
    simp [unicodeEscape?, shortUnicodeEscape?, hread, hrun, hshort, hconsumed, hlength, escapeFor]

/-- After a backslash without `u`, octal digits are tried first. -/
theorem token?_octal (hx : isDigitBelow 8 x) (s : List Char) : token? ('\\' :: x :: s) =
    some (escape (x :: s), (x :: s).drop (((x :: s).take 3).takeWhile (isDigitBelow 8)).length) := by
  have hu := ne_u_of_isDigitBelow_eight hx
  obtain ⟨rest, hs, hstop⟩ := exists_takeWhile_take (isDigitBelow 8) 3 (x :: s)
  have hdigits : ∀ d ∈ ((x :: s).take 3).takeWhile (isDigitBelow 8), isDigitBelow 8 d :=
    List.all_eq_true.1 List.all_takeWhile
  have hmost : (((x :: s).take 3).takeWhile (isDigitBelow 8)).length ≤ 3 :=
    length_takeWhile_take_le ..
  have hleast : 1 ≤ (((x :: s).take 3).takeWhile (isDigitBelow 8)).length := by simp [hx]
  have hunicode : ['\\', 'u'].isPrefixOf? ('\\' :: x :: s) = none := by
    simp [List.isPrefixOf?, hu.symm]
  rw [escape_of_ne_u hu, if_pos hx]
  have hread : ['\\'].isPrefixOf? ('\\' :: x :: s) = some (x :: s) := rfl
  dsimp only
  generalize ((x :: s).take 3).takeWhile (isDigitBelow 8) = digits at *
  have hconsumed : consumed ('\\' :: x :: s) rest = '\\' :: digits := by
    rw [hs, ← List.cons_append, consumed_append]
  have hrun : run? 1 3 (isDigitBelow 8) (x :: s) = some (digits, rest) := by
    rw [hs]
    exact run?_append hdigits hleast hmost hstop
  have hdrop : (x :: s).drop digits.length = rest := by rw [hs, List.drop_left]
  rw [hdrop]
  simp [token?, alternatives, unicodeEscape?, shortUnicodeEscape?, octalEscape?, hunicode, hread,
    hrun, hconsumed]

/-- Any other character is taken, with a meaning or without one. -/
theorem token?_other (hu : x ≠ 'u') (hx : isDigitBelow 8 x = false) (s : List Char) :
    token? ('\\' :: x :: s) = some (escape (x :: s), s) := by
  have hunicode : ['\\', 'u'].isPrefixOf? ('\\' :: x :: s) = none := by
    simp [List.isPrefixOf?, hu.symm]
  have hread : ['\\'].isPrefixOf? ('\\' :: x :: s) = some (x :: s) := rfl
  have hrun : run? 1 3 (isDigitBelow 8) (x :: s) = none := run?_of_stop hx
  have hconsumed : consumed ('\\' :: x :: s) s = ['\\', x] := consumed_append ['\\', x] s
  rw [escape_of_ne_u hu, if_neg (by rw [hx]; exact Bool.false_ne_true)]
  cases hnamed : named? x <;>
    simp [token?, alternatives, unicodeEscape?, shortUnicodeEscape?, octalEscape?, namedEscape?,
      otherEscape?, hunicode, hread, hrun, hconsumed, hnamed, escapeFor]

theorem token?_cons (c : Char) (s : List Char) :
    token? (c :: s) = some (first c s, (c :: s).drop (first c s).raw.length) := by
  by_cases hs : c = '\\'
  · subst hs
    rw [first, if_pos rfl]
    cases s with
    | nil => rfl
    | cons x s =>
      by_cases hu : x = 'u'
      · subst hu
        rw [token?_unicode, escape, raw_escapeFor]
        simp
      · cases hx : isDigitBelow 8 x with
        | true =>
          rw [token?_octal hx, escape_of_ne_u hu, if_pos hx, raw_escapeFor]
          simp
        | false =>
          rw [token?_other hu hx, escape_of_ne_u hu, if_neg (by simp [hx]), raw_escapeFor]
          simp
  by_cases hq : c = '"'
  · subst hq
    rfl
  rw [token?_of_ne hs hq]
  cases hb : isBlank c with
  | true =>
    rw [run1?_cons _ hb, first, if_neg hs, if_neg hq, if_pos hb]
    simp [verbatim, drop_length_takeWhile]
  | false =>
    have hp : isPlain c := isPlain_iff.2 ⟨hb, hq, hs⟩
    have hnone : run1? .blank isBlank (c :: s) = none := by
      rw [run1?, run?_of_stop (p := isBlank) (s := c :: s) hb]
      rfl
    rw [hnone, run1?_cons _ hp, first, if_neg hs, if_neg hq, if_neg (by simp [hb])]
    simp [verbatim, drop_length_takeWhile]

/-! ## One after the other -/

theorem length_lt_of_token? {t : Token} (h : token? s = some (t, rest)) :
    rest.length < s.length := by
  cases s with
  | nil => contradiction
  | cons c s =>
    rw [token?_cons] at h
    cases h
    have := List.length_pos_iff.2 (raw_first_ne_nil c s)
    rw [List.length_drop, List.length_cons]
    omega

/-- The tokens of a text that starts at a byte, or the byte at which there is none. -/
def scan (position : Nat) (s : List Char) : Except Nat (List Token) :=
  if s = [] then .ok []
  else match _found : token? s with
    | none => .error position
    | some (t, rest) => (scan (position + String.utf8Len t.raw) rest).map (t :: ·)
termination_by s.length
decreasing_by exact length_lt_of_token? ‹_›

/-- **There is always a token, and the tokens are those that the text is cut into.** -/
theorem scan_eq (position : Nat) (s : List Char) : scan position s = .ok (cut s) := by
  induction s using cut.induct generalizing position with
  | case1 =>
    rw [scan, cut]
    rfl
  | case2 c s ih =>
    rw [scan, if_neg (List.cons_ne_nil c s), cut_cons]
    split
    next heq =>
      rw [token?_cons] at heq
      contradiction
    next heq =>
      rw [token?_cons] at heq
      cases heq
      rw [ih]
      rfl

end ChatBot.Token
