import ChatBot.Json.Value
import ChatBot.Proofs.Text.Runs

/-!
# Written strings and numbers

A string as it is written is the token of its text (`first?_quoted`), whatever characters it has,
and a numeral is the token of its number where the text does not go on with it (`unsigned?_write`).
-/

namespace ChatBot.Json

open Text

/-! ## Strings -/

theorem isDigitBelow_digitChar : ∀ d < 16, isDigitBelow 16 (Nat.digitChar d) := by decide

theorem hexDigit?_digitChar : ∀ d < 16, hexDigit? (Nat.digitChar d) = some d := by decide

theorem pieces?_char {c : Char} (hquote : c ≠ '"') (hbackslash : c ≠ '\\') (hcontrol : ¬c < ' ')
    (rest : Source) :
    pieces? (some c :: rest) = (pieces? rest).map fun (ps, after) => (.char c :: ps, after) := by
  rw [pieces?.eq_def]
  dsimp only
  rw [if_neg hquote, if_neg hbackslash, if_neg hcontrol]

theorem pieces?_unit {h₁ h₂ h₃ h₄ : Char} (hdigits : [h₁, h₂, h₃, h₄].all (isDigitBelow 16))
    (rest : Source) :
    pieces? (some '\\' :: some 'u' :: some h₁ :: some h₂ :: some h₃ :: some h₄ :: rest) =
      (pieces? rest).map fun (ps, after) =>
        (.unit (digitsValue 16 [h₁, h₂, h₃, h₄]) :: ps, after) := by
  rw [pieces?, if_neg (by decide), if_pos rfl, if_pos hdigits]

/-- A control character is one code unit in hexadecimal digits. -/
theorem pieces?_control {c : Char} (h : c < ' ') (rest : Source) :
    pieces? (some '\\' :: some 'u' :: some '0' :: some '0' ::
        some (Nat.digitChar (c.toNat / 16)) :: some (Nat.digitChar (c.toNat % 16)) :: rest) =
      (pieces? rest).map fun (ps, after) => (.unit c.toNat :: ps, after) := by
  have hlt : c.toNat < 32 := h
  have hhigh : c.toNat / 16 < 16 := by omega
  have hlow : c.toNat % 16 < 16 := by omega
  have hzero : hexDigit? '0' = some 0 := by decide
  have hvalue : digitsValue 16
      ['0', '0', Nat.digitChar (c.toNat / 16), Nat.digitChar (c.toNat % 16)] = c.toNat := by
    simp only [digitsValue, List.foldl_cons, List.foldl_nil, hzero, hexDigit?_digitChar _ hhigh,
      hexDigit?_digitChar _ hlow, Option.getD_some]
    omega
  rw [pieces?_unit, hvalue]
  simp only [List.all_cons, List.all_nil, isDigitBelow_digitChar _ hhigh,
    isDigitBelow_digitChar _ hlow]
  decide

/-- A character as it is written is one piece, and that piece stands for the character. -/
theorem exists_piece (c : Char) : ∃ p,
    (∀ rest, pieces? ((escape c).map some ++ rest) =
      (pieces? rest).map fun (ps, after) => (p :: ps, after)) ∧
    ∀ ps, textOfPieces (p :: ps) = (textOfPieces ps).map (c :: ·) := by
  unfold escape
  split
  case h_8 hquote hbackslash _ _ _ _ _ =>
    split
    next hcontrol =>
      exact ⟨.unit c.toNat, pieces?_control hcontrol, fun ps =>
        textOfPieces.eq_4 c.toNat ps c (scalar?_toNat c)⟩
    next hcontrol => exact ⟨.char c, pieces?_char hquote hbackslash hcontrol, fun _ => rfl⟩
  all_goals exact ⟨.char _, fun _ => rfl, fun _ => rfl⟩

theorem exists_pieces (cs : List Char) : ∃ ps, textOfPieces ps = some cs ∧
    ∀ rest, pieces? ((cs.flatMap escape).map some ++ some '"' :: rest) = some (ps, rest) := by
  induction cs with
  | nil => exact ⟨[], rfl, fun rest => by rw [pieces?.eq_def]; rfl⟩
  | cons c cs ih =>
    obtain ⟨ps, htext, hpieces⟩ := ih
    obtain ⟨p, hpiece, hstands⟩ := exists_piece c
    refine ⟨p :: ps, ?_, fun rest => ?_⟩
    · rw [hstands, htext]
      rfl
    · rw [List.flatMap_cons, List.map_append, List.append_assoc, hpiece, hpieces]
      rfl

/-- **What is written for a string is the token of its text.** -/
theorem first?_quoted (s : String) (rest : Source) :
    first? '"' ((s.toList.flatMap escape ++ ['"']).map some ++ rest) =
      some (.string (some s), rest) := by
  obtain ⟨ps, htext, hpieces⟩ := exists_pieces s.toList
  simp only [first?, List.map_append, List.map_cons, List.map_nil, List.append_assoc,
    List.cons_append, List.nil_append, hpieces, htext, Option.map_some, String.ofList_toList]

/-! ## Numbers -/

/-- What can follow a value where it is written: nothing more, a comma or a new line. -/
inductive AfterValue : Source → Prop
  | finish : AfterValue []
  | comma (rest : Source) : AfterValue (some ',' :: rest)
  | line (rest : Source) : AfterValue (some '\n' :: rest)

theorem head?_write_ne_zero {n : Nat} (h : 0 < n) : (Decimal.write n).head? ≠ some '0' := by
  induction n using Nat.strongRecOn with
  | ind n ih =>
    unfold Decimal.write at ih ⊢
    rcases Nat.lt_or_ge n 10 with hlt | hge
    · rw [Nat.toDigits_of_lt_base hlt]
      simp only [List.head?_cons, ne_eq, Option.some.injEq, Nat.digitChar_eq_zero]
      omega
    · rw [Nat.toDigits_of_base_le (by decide) hge, List.head?_append]
      intro hzero
      rcases Option.or_eq_some_iff.1 hzero with hfront | ⟨hnone, -⟩
      · exact ih (n / 10) (by omega) (by omega) hfront
      · exact Nat.toDigits_ne_nil (List.head?_eq_none_iff.1 hnone)

/-- A numeral of several digits does not start with a zero. -/
theorem not_leading_zero (n : Nat) :
    ¬((Decimal.write n).head? = some '0' ∧ 1 < (Decimal.write n).length) := by
  rintro ⟨hhead, hlength⟩
  cases n with
  | zero => exact absurd hlength (by decide)
  | succ n => exact head?_write_ne_zero (Nat.succ_pos n) hhead

theorem unsigned?_write (n : Nat) {rest : Source} (h : AfterValue rest) :
    unsigned? ((Decimal.write n).map some ++ rest) = some (.natural n, rest) := by
  have hdigits : ∀ c ∈ (Decimal.write n).map some, isDigit c := by
    intro c hc
    obtain ⟨d, hd, rfl⟩ := List.mem_map.1 hc
    exact Decimal.isDigit_of_mem_write hd
  have hstop : rest.head?.any isDigit = false := by
    cases h <;> rfl
  have hne : ((Decimal.write n).map some).isEmpty = false := by
    rw [List.isEmpty_map, List.isEmpty_eq_false_iff]
    exact Decimal.write_ne_nil n
  have hfraction : fraction? rest = some rest := by
    cases h <;> rfl
  have hexponent : exponent? rest = some rest := by
    cases h <;> rfl
  have hrun : (((Decimal.write n).map some ++ rest).takeWhile isDigit).filterMap id =
      Decimal.write n := by
    rw [takeWhile_append_of_stop hdigits hstop, List.filterMap_map]
    exact List.filterMap_some
  have hsome : someDigits? ((Decimal.write n).map some ++ rest) = some rest := by
    rw [someDigits?, takeWhile_append_of_stop hdigits hstop, dropWhile_append_of_stop hdigits hstop,
      hne]
    rfl
  simp only [unsigned?, hrun, if_neg (not_leading_zero n), hsome, Option.bind_eq_bind,
    Option.bind_some, hfraction, hexponent, if_true, Decimal.value_write]

theorem first?_of_isDigit {c : Char} (h : c.isDigit) (rest : Source) :
    first? c rest = unsigned? (some c :: rest) := by
  unfold first?
  split
  case h_12 => rfl
  all_goals exact absurd h (by decide)

/-- What is written for a number is its token. -/
theorem exists_first?_write (n : Nat) {rest : Source} (h : AfterValue rest) :
    ∃ c cs, c.isDigit ∧ Decimal.write n = c :: cs ∧
      first? c (cs.map some ++ rest) = some (.natural n, rest) := by
  have hread := unsigned?_write n h
  cases hn : Decimal.write n with
  | nil => exact absurd hn (Decimal.write_ne_nil n)
  | cons c cs =>
    have hc : c.isDigit := Decimal.isDigit_of_mem_write (hn ▸ List.mem_cons_self)
    rw [hn] at hread
    exact ⟨c, cs, hc, rfl, (first?_of_isDigit hc _).trans hread⟩

end ChatBot.Json
