import Mathlib
import ChatBot.Message.Token
import ChatBot.Text.Alphanumeric
import ChatBot.Text.Classes

/-!
# Classes of characters

Which classes have no character in common: alphanumeric characters, digits, blanks and small Latin
letters. The tables are compared span by span.
-/

namespace ChatBot.Text

/-! ## Spans without a common code point -/

/-- Whether two spans share no code point because one ends before the other starts, or because the
second one skips the first. -/
def CodeSpan.apart (s t : CodeSpan) : Bool :=
  s.last.blt t.first || t.last.blt s.first ||
    (t.step == 2 && (s.step == 2 || s.first == s.last) && s.first % 2 != t.first % 2)

theorem CodeSpan.not_contains_of_apart {s t : CodeSpan} {code : Nat} (h : s.apart t)
    (hs : s.contains code) : t.contains code = false := by
  rw [Bool.eq_false_iff]
  intro ht
  rw [contains_iff] at hs ht
  simp only [apart, Bool.or_eq_true, Bool.and_eq_true, Nat.blt_eq, beq_iff_eq, bne_iff_ne] at h
  obtain ⟨hs₁, hs₂, hs₃⟩ := hs
  obtain ⟨ht₁, ht₂, ht₃⟩ := ht
  rcases h with (h | h) | ⟨⟨ht, hs | hs⟩, h⟩
  · omega
  · omega
  · rw [hs] at hs₃
    rw [ht] at ht₃
    omega
  · rw [ht] at ht₃
    omega

theorem inSpans_eq_false_of_apart {spans : List CodeSpan} {s : CodeSpan} {c : Char}
    (h : spans.all s.apart) (hs : s.contains c.toNat) : inSpans spans c = false := by
  rw [inSpans, List.any_eq_false]
  intro t ht
  rw [Bool.not_eq_true]
  exact CodeSpan.not_contains_of_apart (List.all_eq_true.1 h t ht) hs

theorem eq_false_of_disjoint {p q : Char → Bool} {c : Char} (h : p c → q c = false) (hq : q c) :
    p c = false := by
  rw [Bool.eq_false_iff]
  intro hp
  rw [h hp] at hq
  contradiction

/-! ## Blanks and digits -/

theorem isBlank_iff {c : Char} : isBlank c ↔
    9 ≤ c.toNat ∧ c.toNat ≤ 0xD ∨ c.toNat = 0x20 ∨ c.toNat = 0x85 ∨ c.toNat = 0xA0 ∨
      c.toNat = 0x1680 ∨ 0x2000 ≤ c.toNat ∧ c.toNat ≤ 0x200A ∨ c.toNat = 0x2028 ∨
      c.toNat = 0x2029 ∨ c.toNat = 0x202F ∨ c.toNat = 0x205F ∨ c.toNat = 0x3000 := by
  simp only [isBlank, inSpans, blankSpans, solid, List.map_cons, List.map_nil, List.any_cons,
    List.any_nil, Bool.or_eq_true, CodeSpan.contains_iff, Nat.mod_one, Bool.false_eq_true,
    or_false, and_true]
  omega

theorem isDigit_iff {c : Char} : c.isDigit ↔ 48 ≤ c.toNat ∧ c.toNat ≤ 57 := by
  simp only [Char.isDigit, Bool.and_eq_true, decide_eq_true_eq, ge_iff_le, UInt32.le_iff_toNat_le]
  rfl

/-- No digit is blank. -/
theorem isBlank_of_isDigit {c : Char} (h : c.isDigit) : isBlank c = false := by
  rw [Bool.eq_false_iff]
  intro hb
  rw [isBlank_iff] at hb
  rw [isDigit_iff] at h
  omega

theorem isDigitBelow_eight_iff {c : Char} :
    isDigitBelow 8 c ↔ 48 ≤ c.toNat ∧ c.toNat ≤ 55 := by
  have ha : 'a' ≤ c ↔ 97 ≤ c.toNat := by rw [Char.le_def, UInt32.le_iff_toNat_le]; rfl
  have hA : 'A' ≤ c ↔ 65 ≤ c.toNat := by rw [Char.le_def, UInt32.le_iff_toNat_le]; rfl
  simp only [isDigitBelow, hexDigit?, isDigit_iff, ha, hA]
  split
  · simp only [Option.any_some, decide_eq_true_eq]
    omega
  · split
    · simp only [Option.any_some, decide_eq_true_eq]
      omega
    · split
      · simp only [Option.any_some, decide_eq_true_eq]
        omega
      · simp only [Option.any_none, Bool.false_eq_true, false_iff]
        omega

/-- No blank is an octal digit. -/
theorem isDigitBelow_eight_of_isBlank {c : Char} (h : isBlank c) : isDigitBelow 8 c = false := by
  rw [Bool.eq_false_iff]
  intro hd
  rw [isBlank_iff] at h
  rw [isDigitBelow_eight_iff] at hd
  omega

/-! ## Small letters and digits of all scripts -/

theorem isLower_iff {c : Char} : c.isLower ↔ 97 ≤ c.toNat ∧ c.toNat ≤ 122 := by
  simp only [Char.isLower, Bool.and_eq_true, decide_eq_true_eq, ge_iff_le, UInt32.le_iff_toNat_le]
  rfl

/-- No small letter is blank. -/
theorem isBlank_of_isLower {c : Char} (h : c.isLower) : isBlank c = false := by
  rw [Bool.eq_false_iff]
  intro hb
  rw [isBlank_iff] at hb
  rw [isLower_iff] at h
  omega

/-- No small letter is a digit. -/
theorem isDecimalDigit_of_isLower {c : Char} (h : c.isLower) : isDecimalDigit c = false := by
  have hc : (⟨97, 122, 1⟩ : CodeSpan).contains c.toNat := by
    rw [CodeSpan.contains_iff, ← and_assoc]
    exact ⟨isLower_iff.1 h, Nat.mod_one _⟩
  exact inSpans_eq_false_of_apart (by decide +kernel) hc

theorem blankSpans_apart_decimalDigitSpans :
    blankSpans.all fun s => decimalDigitSpans.all s.apart := by
  decide +kernel

/-- No blank is a digit. -/
theorem isDecimalDigit_of_isBlank {c : Char} (h : isBlank c) : isDecimalDigit c = false := by
  obtain ⟨s, hs, hc⟩ := List.any_eq_true.1 h
  exact inSpans_eq_false_of_apart (List.all_eq_true.1 blankSpans_apart_decimalDigitSpans s hs) hc

/-! ## Alphanumeric characters -/

theorem isAlphanum_iff {c : Char} : c.isAlphanum ↔
    65 ≤ c.toNat ∧ c.toNat ≤ 90 ∨ 97 ≤ c.toNat ∧ c.toNat ≤ 122 ∨ 48 ≤ c.toNat ∧ c.toNat ≤ 57 := by
  simp only [Char.isAlphanum, Char.isAlpha, Char.isUpper, Char.isLower, Char.isDigit,
    Bool.or_eq_true, Bool.and_eq_true, decide_eq_true_eq, ge_iff_le, UInt32.le_iff_toNat_le,
    or_assoc]
  rfl

theorem blankSpans_apart_alphanumericSpans :
    blankSpans.all fun s => alphanumericSpans.all s.apart := by
  decide +kernel

/-- No blank is alphanumeric. -/
theorem isAlphanumeric_of_isBlank {c : Char} (h : isBlank c) : isAlphanumeric c = false := by
  unfold isAlphanumeric
  split
  next hc =>
    rw [Bool.eq_false_iff]
    intro ha
    rw [isBlank_iff] at h
    rw [isAlphanum_iff] at ha
    omega
  next =>
    obtain ⟨s, hs, hc⟩ := List.any_eq_true.1 h
    exact inSpans_eq_false_of_apart (List.all_eq_true.1 blankSpans_apart_alphanumericSpans s hs) hc

/-- An alphanumeric character may stand in a run of text. -/
theorem isPlain_of_isAlphanumeric {c : Char} (h : isAlphanumeric c) : Token.isPlain c := by
  simp only [Token.isPlain, Bool.and_eq_true, bne_iff_ne, ne_eq, Bool.not_eq_true']
  refine ⟨⟨?_, ?_⟩, ?_⟩
  · rw [Bool.eq_false_iff]
    intro hb
    rw [isAlphanumeric_of_isBlank hb] at h
    contradiction
  · rintro rfl
    exact absurd h (by decide)
  · rintro rfl
    exact absurd h (by decide)

end ChatBot.Text
