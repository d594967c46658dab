import ChatBot.Proofs.Text.Classes
import ChatBot.Text.Lowercase

/-!
# Lowercasing twice

A lowercase form is its own lowercase form, so lowercasing a text twice is lowercasing it once. For
the characters of the table this is a comparison of its spans with the spans that they are shifted
to.
-/

namespace ChatBot.Text

/-- A character that stays as it is when a text is lowercased, wherever it stands. -/
def IsLowered (c : Char) : Prop := c ≠ capitalSigma ∧ lowercaseChar c = [c]

instance (c : Char) : Decidable (IsLowered c) := by unfold IsLowered; infer_instance

/-! ## Characters of the table -/

namespace CaseShift

/-- The lowercase forms of the characters of a shift. -/
def target (m : CaseShift) : CodeSpan :=
  ⟨(m.span.first + m.offset).toNat, (m.span.last + m.offset).toNat, m.span.step⟩

/-- Whether the lowercase forms are characters that no shift and no special rule concerns. -/
def settled (m : CaseShift) : Bool :=
  0 ≤ m.span.first + m.offset &&
    (m.target.last < 0xD800 || 0xDFFF < m.target.first && m.target.last < 0x110000) &&
    !m.target.contains 0x130 && !m.target.contains capitalSigma.toNat &&
    (lowercaseShifts.map (·.span)).all m.target.apart

theorem settled_of_mem : lowercaseShifts.all settled := by decide +kernel

theorem contains_target {m : CaseShift} (hm : m.settled) {code : Nat}
    (h : m.span.contains code) : m.target.contains (code + m.offset).toNat := by
  simp only [settled, Bool.and_eq_true, decide_eq_true_eq] at hm
  rw [CodeSpan.contains_iff] at h ⊢
  obtain ⟨h₁, h₂, h₃⟩ := h
  simp only [target]
  refine ⟨by omega, by omega, ?_⟩
  rw [← h₃]
  congr 1
  omega

theorem toNat_ofNat {m : CaseShift} (hm : m.settled) {code : Nat} (h : m.target.contains code) :
    (Char.ofNat code).toNat = code := by
  simp only [settled, Bool.and_eq_true, Bool.or_eq_true, decide_eq_true_eq] at hm
  rw [CodeSpan.contains_iff] at h
  have hv : code.isValidChar := by
    unfold Nat.isValidChar
    omega
  rw [Char.ofNat, dif_pos hv]
  rfl

end CaseShift

/-- A character that no shift concerns is its own lowercase form. -/
theorem lowercaseChar_of_not_inSpans {c : Char}
    (h : inSpans (lowercaseShifts.map (·.span)) c = false) (hc : c ≠ '\u0130') :
    lowercaseChar c = [c] := by
  have hall : ∀ m ∈ lowercaseShifts, m.span.contains c.toNat = false := by
    intro m hm
    rw [inSpans, List.any_eq_false] at h
    simpa using h m.span (List.mem_map_of_mem hm)
  by_cases hascii : c.toNat < 0x80
  · rw [lowercaseChar, if_pos hascii]
    have hupper := hall ⟨⟨0x41, 0x5A, 1⟩, 32⟩ (.head _)
    rw [Bool.eq_false_iff, ne_eq, CodeSpan.contains_iff] at hupper
    rw [Char.toLower, dif_neg]
    intro hval
    apply hupper
    simp only [ge_iff_le, UInt32.le_iff_toNat_le] at hval
    exact ⟨hval.1, hval.2, Nat.mod_one _⟩
  · rw [lowercaseChar, if_neg hascii, if_neg hc,
      List.find?_eq_none.2 fun m hm => by simp [hall m hm]]

theorem isLowered_of_target {m : CaseShift} (hm : m.settled) {c : Char}
    (h : m.target.contains c.toNat) : IsLowered c := by
  simp only [CaseShift.settled, Bool.and_eq_true, Bool.not_eq_true'] at hm
  obtain ⟨⟨⟨_, hdot⟩, hsigma⟩, hapart⟩ := hm
  refine ⟨?_, lowercaseChar_of_not_inSpans (inSpans_eq_false_of_apart hapart h) ?_⟩
  · rintro rfl
    rw [h] at hsigma
    contradiction
  · rintro rfl
    exact absurd h (by rw [show '\u0130'.toNat = 0x130 from rfl, hdot]; decide)

/-! ## Texts -/

theorem isLowered_of_mem_lowercaseChar {c d : Char} (hc : c ≠ capitalSigma)
    (h : d ∈ lowercaseChar c) : IsLowered d := by
  unfold lowercaseChar at h
  split at h
  next hascii =>
    have hall : ∀ n < 0x80, IsLowered (Char.ofNat n).toLower := by decide +kernel
    rw [List.mem_singleton.1 h, ← Char.ofNat_toNat c]
    exact hall c.toNat hascii
  next hascii =>
    split at h
    · have hdots : IsLowered 'i' ∧ IsLowered '\u0307' := by decide +kernel
      simp only [List.mem_cons, List.not_mem_nil, or_false] at h
      rcases h with rfl | rfl
      · exact hdots.1
      · exact hdots.2
    next hdot =>
      split at h
      next m hm =>
        have hset := List.all_eq_true.1 CaseShift.settled_of_mem m (List.mem_of_find?_eq_some hm)
        have hspan := List.find?_some (p := fun m : CaseShift => m.span.contains c.toNat) hm
        have ht := CaseShift.contains_target hset hspan
        rw [List.mem_singleton.1 h]
        apply isLowered_of_target hset
        rwa [CaseShift.toNat_ofNat hset ht]
      next hnone =>
        rw [List.mem_singleton.1 h]
        refine ⟨hc, ?_⟩
        unfold lowercaseChar
        rw [if_neg hascii, if_neg hdot, hnone]

theorem isLowered_of_mem_lowercaseAfter {before s : List Char} {d : Char}
    (h : d ∈ lowercaseAfter before s) : IsLowered d := by
  induction s generalizing before with
  | nil => simp [lowercaseAfter] at h
  | cons c s ih =>
    simp only [lowercaseAfter] at h
    rcases List.mem_append.1 h with h | h
    · split at h
      · rw [List.mem_singleton.1 h]
        split <;> decide +kernel
      next hc => exact isLowered_of_mem_lowercaseChar hc h
    · exact ih h

theorem lowercaseAfter_of_isLowered {before s : List Char} (h : ∀ c ∈ s, IsLowered c) :
    lowercaseAfter before s = s := by
  induction s generalizing before with
  | nil => rfl
  | cons c s ih =>
    obtain ⟨hsigma, hc⟩ := h c (.head _)
    rw [lowercaseAfter, if_neg hsigma, hc, ih fun d hd => h d (.tail _ hd)]
    rfl

/-- Lowercasing is idempotent. -/
@[simp] theorem lowercase_lowercase (s : String) : lowercase (lowercase s) = lowercase s := by
  unfold lowercase
  rw [String.toList_ofList, lowercaseAfter_of_isLowered fun _ => isLowered_of_mem_lowercaseAfter]

end ChatBot.Text
