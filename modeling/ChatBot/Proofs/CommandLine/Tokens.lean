import ChatBot.Proofs.CommandLine.Grammar
import ChatBot.Proofs.Text.Runs

/-!
# The first token of a text

What is cut off a text, said for each way in which a text can start. After a backslash stands either
an escape of the grammar or a malformed one.
-/

namespace ChatBot.Token

open Text CommandLine

theorem cut_cons (c : Char) (s : List Char) :
    cut (c :: s) = first c s :: cut ((c :: s).drop (first c s).raw.length) := by
  rw [cut]

/-! ## Runs, quotes -/

theorem isPlain_iff {c : Char} : isPlain c ↔ isBlank c = false ∧ c ≠ '"' ∧ c ≠ '\\' := by
  simp [isPlain, and_assoc]

theorem ne_backslash_of_isBlank {c : Char} (h : isBlank c) : c ≠ '\\' := by
  rintro rfl
  exact absurd h (by decide)

theorem ne_quote_of_isBlank {c : Char} (h : isBlank c) : c ≠ '"' := by
  rintro rfl
  exact absurd h (by decide)

theorem cut_text {c : Char} (h : isPlain c) (s : List Char) :
    cut (c :: s) = verbatim .text (c :: s.takeWhile isPlain) :: cut (s.dropWhile isPlain) := by
  obtain ⟨hb, hq, hs⟩ := isPlain_iff.1 h
  have hfirst : first c s = verbatim .text (c :: s.takeWhile isPlain) := by simp [first, hb, hq, hs]
  rw [cut_cons, hfirst]
  simp only [verbatim, List.length_cons, List.drop_succ_cons, drop_length_takeWhile]

theorem cut_blank {c : Char} (h : isBlank c) (s : List Char) :
    cut (c :: s) = verbatim .blank (c :: s.takeWhile isBlank) :: cut (s.dropWhile isBlank) := by
  have hfirst : first c s = verbatim .blank (c :: s.takeWhile isBlank) := by
    simp [first, h, ne_quote_of_isBlank h, ne_backslash_of_isBlank h]
  rw [cut_cons, hfirst]
  simp only [verbatim, List.length_cons, List.drop_succ_cons, drop_length_takeWhile]

theorem cut_quote (s : List Char) : cut ('"' :: s) = ⟨.quote, ['"'], []⟩ :: cut s := by
  rw [cut_cons]
  rfl

/-! ## Escapes -/

theorem scalar?_eq_some_iff {code : Nat} {c : Char} : scalar? code = some c ↔ c.toNat = code := by
  constructor
  · intro h
    unfold scalar? at h
    split at h
    next hv =>
      have hv : code.isValidChar := hv
      cases Option.some.inj h
      rw [Char.ofNat, dif_pos hv]
      rfl
    next => contradiction
  · rintro rfl
    exact scalar?_toNat c

theorem escape_of_ne_u {x : Char} (h : x ≠ 'u') (s : List Char) : escape (x :: s) =
    if isDigitBelow 8 x then
      let digits := ((x :: s).take 3).takeWhile (isDigitBelow 8)
      escapeFor .octalEscape ('\\' :: digits)
        (if digitsValue 8 digits ≤ 255 then scalar? (digitsValue 8 digits) else none)
    else escapeFor .namedEscape ['\\', x] (named? x) := by
  rw [escape]
  exact fun hx => h hx

theorem named?_eq_some_iff {x c : Char} : named? x = some c ↔ (x, c) ∈ namedEscapes := by
  constructor
  · intro h
    unfold named? at h
    split at h <;> first | (cases h; decide) | contradiction
  · intro h
    simp only [namedEscapes, List.mem_cons, Prod.mk.injEq, List.not_mem_nil, or_false] at h
    rcases h with ⟨rfl, rfl⟩ | ⟨rfl, rfl⟩ | ⟨rfl, rfl⟩ | ⟨rfl, rfl⟩ | ⟨rfl, rfl⟩ | ⟨rfl, rfl⟩ |
      ⟨rfl, rfl⟩ | ⟨rfl, rfl⟩ <;> rfl

/-- The kinds of the well-formed escapes. -/
def escapeKinds : List TokenKind := [.namedEscape, .octalEscape, .unicodeEscape]

theorem isDigitBelow_eight_of_named {x c : Char} (h : (x, c) ∈ namedEscapes) :
    x ≠ 'u' ∧ isDigitBelow 8 x = false := by
  have hall : ∀ p ∈ namedEscapes, p.1 ≠ 'u' ∧ isDigitBelow 8 p.1 = false := by decide
  exact hall _ h

theorem ne_u_of_isDigitBelow_eight {x : Char} (h : isDigitBelow 8 x) : x ≠ 'u' := by
  rintro rfl
  exact absurd h (by decide)

/-- An escape of the grammar is cut off as one token, which stands for its character. -/
theorem cut_escape (h : Escape e c s) :
    ∃ kind ∈ escapeKinds, cut (e ++ s) = ⟨kind, e, [c]⟩ :: cut s := by
  obtain ⟨kind, hkind, hfirst⟩ :
      ∃ kind ∈ escapeKinds, escape (e.tail ++ s) = ⟨kind, '\\' :: e.tail, [c]⟩ := by
    cases h with
    | named hmem =>
      refine ⟨.namedEscape, by decide, ?_⟩
      obtain ⟨hu, h8⟩ := isDigitBelow_eight_of_named hmem
      simp [escape_of_ne_u hu, h8, named?_eq_some_iff.2 hmem, escapeFor]
    | @octal digits _ _ hne hlen hdigits hgreedy hvalue hc =>
      refine ⟨.octalEscape, by decide, ?_⟩
      obtain ⟨x, t, rfl⟩ := List.exists_cons_of_ne_nil hne
      have hx := hdigits x (.head _)
      have hrun := takeWhile_take_append hdigits hlen hgreedy
      rw [List.tail_cons, List.cons_append, escape_of_ne_u (ne_u_of_isDigitBelow_eight hx),
        if_pos hx, ← List.cons_append]
      simp only [hrun]
      rw [if_pos hvalue, scalar?_eq_some_iff.2 hc]
      rfl
    | @unicode digits _ _ hlen hdigits hc =>
      refine ⟨.unicodeEscape, by decide, ?_⟩
      have hrun := takeWhile_take_append (s := s) hdigits (Nat.le_of_eq hlen) (by omega)
      rw [List.tail_cons, List.cons_append, escape]
      simp only [hrun]
      rw [if_pos hlen, scalar?_eq_some_iff.2 hc]
      rfl
  refine ⟨kind, hkind, ?_⟩
  obtain ⟨x, t, rfl⟩ := h.exists_cons
  rw [List.cons_append, cut_cons, first, if_pos rfl]
  simp only [List.tail_cons] at hfirst
  rw [hfirst]
  simp

/-- After a backslash stands an escape of the grammar, if the token that is cut off is none that is
malformed. -/
theorem escape_or_malformed (s : List Char) :
    (escape s).kind = .malformedEscape ∨ ∃ e c s', '\\' :: s = e ++ s' ∧ Escape e c s' := by
  unfold escape
  split
  · exact .inl rfl
  next rest =>
    obtain ⟨s', hs', -⟩ := exists_takeWhile_take (isDigitBelow 16) 4 rest
    dsimp only
    split
    next hlen =>
      cases hc : scalar? (digitsValue 16 ((rest.take 4).takeWhile (isDigitBelow 16))) with
      | none => exact .inl rfl
      | some c =>
        refine .inr ⟨_, c, s', ?_, .unicode hlen ?_ (scalar?_eq_some_iff.1 hc)⟩
        · rw [List.cons_append, List.cons_append, ← hs']
        · exact List.all_eq_true.1 List.all_takeWhile
    next => exact .inl rfl
  next x rest hu =>
    split
    next hx =>
      obtain ⟨s', hs', hgreedy⟩ := exists_takeWhile_take (isDigitBelow 8) 3 (x :: rest)
      dsimp only
      split
      next hvalue =>
        cases hc : scalar? (digitsValue 8 (((x :: rest).take 3).takeWhile (isDigitBelow 8))) with
        | none => exact .inl rfl
        | some c =>
          refine .inr ⟨_, c, s', ?_, .octal ?_ ?_ ?_ hgreedy hvalue (scalar?_eq_some_iff.1 hc)⟩
          · rw [List.cons_append, ← hs']
          · simp [hx]
          · exact length_takeWhile_take_le ..
          · exact List.all_eq_true.1 List.all_takeWhile
      next => exact .inl rfl
    next =>
      cases hc : named? x with
      | none => exact .inl rfl
      | some c => exact .inr ⟨['\\', x], c, rest, rfl, .named (named?_eq_some_iff.1 hc)⟩

end ChatBot.Token
