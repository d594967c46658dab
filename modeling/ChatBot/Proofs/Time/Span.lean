import ChatBot.Proofs.Text.Classes
import ChatBot.Proofs.Text.Decimal
import ChatBot.Proofs.Text.Pattern
import ChatBot.Time.Expression

/-!
# The grammar of spans

A span in words is a gap, an item, a gap and so on to a last gap (`Written`). Looking for one part
after the other finds exactly these items (`written_iff`), so a text has a length if it is written
like that and every number on the way is in range (`seconds?_eq_some_iff`).
-/

namespace ChatBot.Span

open Text Text.Pattern

variable {s after : List Char} {p : Part} {n : Nat}

/-! ## Gaps -/

/-- Separators around nothing or around an `and`. -/
def Gap (s : List Char) : Prop :=
  ∃ before word after, s = before ++ (word ++ after) ∧ (∀ c ∈ before, isSeparator c) ∧
    (∀ c ∈ after, isSeparator c) ∧ (word = [] ∨ word = "and".toList)

theorem isGap_iff : isGap s ↔ Gap s := by
  constructor
  · intro h
    have hcore : ((s.dropWhile isSeparator).reverse.dropWhile isSeparator).reverse = [] ∨
        ((s.dropWhile isSeparator).reverse.dropWhile isSeparator).reverse = "and".toList := by
      simpa only [isGap, Bool.or_eq_true, beq_iff_eq] using h
    refine ⟨s.takeWhile isSeparator, _,
      ((s.dropWhile isSeparator).reverse.takeWhile isSeparator).reverse, ?_,
      List.all_eq_true.1 List.all_takeWhile, ?_, hcore⟩
    · rw [← List.reverse_append, List.takeWhile_append_dropWhile, List.reverse_reverse,
        List.takeWhile_append_dropWhile]
    · intro c hc
      exact List.all_eq_true.1 List.all_takeWhile c (List.mem_reverse.1 hc)
  · rintro ⟨before, word, after, rfl, hbefore, hafter, rfl | rfl⟩
    · have hall : ∀ c ∈ before ++ ([] ++ after), isSeparator c := by
        simpa [or_imp, forall_and] using ⟨hbefore, hafter⟩
      rw [isGap, List.dropWhile_eq_nil_iff.2 hall]
      rfl
    · have hreverse : ∀ c ∈ after.reverse, isSeparator c := fun c hc =>
        hafter c (List.mem_reverse.1 hc)
      have hcore : ((before ++ ("and".toList ++ after)).dropWhile isSeparator).reverse.dropWhile
          isSeparator = "and".toList.reverse := by
        rw [dropWhile_append_of_stop hbefore (by rfl), List.reverse_append,
          dropWhile_append_of_stop hreverse (by rfl)]
      rw [isGap, hcore]
      rfl

theorem isDecimalDigit_of_isSeparator {c : Char} (h : isSeparator c) : isDecimalDigit c = false := by
  rw [isSeparator, Bool.or_eq_true, beq_iff_eq] at h
  rcases h with h | rfl
  · exact isDecimalDigit_of_isBlank h
  · decide +kernel

/-- There are no digits in a gap. -/
theorem Gap.isDecimalDigit_eq_false (h : Gap s) {c : Char} (hc : c ∈ s) :
    isDecimalDigit c = false := by
  obtain ⟨before, word, after, rfl, hbefore, hafter, hword⟩ := h
  rw [List.mem_append, List.mem_append] at hc
  rcases hc with hc | hc | hc
  · exact isDecimalDigit_of_isSeparator (hbefore c hc)
  · rcases hword with rfl | rfl
    · contradiction
    · have hletters : ∀ c ∈ "and".toList, c.isLower := List.all_eq_true.1 rfl
      exact isDecimalDigit_of_isLower (hletters c hc)
  · exact isDecimalDigit_of_isSeparator (hafter c hc)

/-! ## Parts -/

/-- A part is written at the front of a text: the text in front of it, digits, blanks, and letters
that are followed by none. -/
def Part.Spelled (p : Part) (s after : List Char) : Prop :=
  ∃ blanks, s = p.gap ++ (p.amount ++ (blanks ++ (p.unit ++ after))) ∧
    p.amount ≠ [] ∧ (∀ c ∈ p.amount, isDecimalDigit c) ∧ (∀ c ∈ blanks, isBlank c) ∧
    p.unit ≠ [] ∧ (∀ c ∈ p.unit, c.isLower) ∧ after.head?.any Char.isLower = false

theorem apart_pattern : Apart pattern := by
  refine ⟨fun c (hc : isDecimalDigit c) => ?_, fun c (hc : isBlank c) => ?_, trivial⟩
  · have hblank := eq_false_of_disjoint isDecimalDigit_of_isBlank hc
    have hlower := eq_false_of_disjoint isDecimalDigit_of_isLower hc
    simp [starts, hblank, hlower]
  · have hlower := eq_false_of_disjoint isBlank_of_isLower hc
    simp [starts, hlower]

theorem starts_pattern (c : Char) : starts pattern c = isDecimalDigit c := by
  simp [starts, pattern]

theorem Part.Spelled.front? (h : p.Spelled (p.gap ++ s) after) :
    ∃ blanks, pattern.front? s = some ([p.amount, blanks, p.unit], after) := by
  obtain ⟨blanks, hs, hne, hdigits, hblanks, hunit, hletters, hend⟩ := h
  rw [List.append_cancel_left_eq] at hs
  refine ⟨blanks, (front?_eq_some_iff apart_pattern).2 ⟨by simpa using hs, ?_⟩⟩
  have hdigit : (blanks ++ (p.unit ++ after)).head?.any isDecimalDigit = false := by
    rw [← List.append_assoc]
    refine any_head?_append (List.append_ne_nil_of_right_ne_nil _ hunit) fun c hc => ?_
    rcases List.mem_append.1 hc with hc | hc
    · exact isDecimalDigit_of_isBlank (hblanks c hc)
    · exact isDecimalDigit_of_isLower (hletters c hc)
  have hblank : (p.unit ++ after).head?.any isBlank = false :=
    any_head?_append hunit fun c hc => isBlank_of_isLower (hletters c hc)
  exact ⟨hdigits, List.length_pos_iff.2 hne, by simpa using hdigit, hblanks, Nat.zero_le _,
    by simpa using hblank, hletters, List.length_pos_iff.2 hunit, hend, trivial⟩

/-- A part after a text without digits is found. -/
theorem part?_of_spelled (h : p.Spelled s after) (hgap : Gap p.gap) :
    part? s = some (p, after) := by
  have ⟨_, hs, _⟩ := h
  rw [hs] at h ⊢
  obtain ⟨blanks, hfront⟩ := h.front?
  have hfind : pattern.find? _ = _ := find?_append (fun c hc => by
    rw [starts_pattern, hgap.isDecimalDigit_eq_false hc]) hfront
  rw [part?, hfind]

/-- What is found is a part. -/
theorem spelled_of_part? (h : part? s = some (p, after)) : p.Spelled s after := by
  unfold part? at h
  split at h
  next gap amount blanks unit rest hfind =>
    cases h
    obtain ⟨t, rfl, hfront⟩ := front?_of_find? hfind
    obtain ⟨rfl, hdigits, hne, -, hblanks, -, -, hletters, hunit, hend, -⟩ :=
      (front?_eq_some_iff apart_pattern).1 hfront
    exact ⟨blanks, by simp, List.length_pos_iff.1 hne, hdigits, hblanks, List.length_pos_iff.1 hunit,
      hletters, by simpa using hend⟩
  next => contradiction

/-- There is no part in a gap. -/
theorem Gap.part?_eq_none (h : Gap s) : part? s = none := by
  have hfind : pattern.find? s = none := by
    refine find?_eq_none (fun c hc => ?_) rfl
    rw [starts_pattern, h.isDecimalDigit_eq_false hc]
  rw [part?, hfind]

theorem parts_of_none (h : part? s = none) : parts s = ([], s) := by
  rw [parts]
  split
  next => rfl
  next heq =>
    rw [h] at heq
    contradiction

theorem parts_of_some (h : part? s = some (p, after)) :
    parts s = (p :: (parts after).1, (parts after).2) := by
  rw [parts]
  split
  next heq =>
    rw [h] at heq
    contradiction
  next heq =>
    rw [h] at heq
    cases heq
    rfl

/-! ## Items -/

/-- A number of units and the seconds of one unit. -/
structure Item where
  amount : Nat
  size : Nat
  deriving DecidableEq, Repr

def Item.seconds (i : Item) : Nat := i.amount * i.size

def total (items : List Item) : Nat := (items.map Item.seconds).sum

@[simp] theorem total_nil : total [] = 0 := rfl

@[simp] theorem total_cons (i : Item) (items : List Item) :
    total (i :: items) = i.seconds + total items := List.sum_cons

/-- A part stands for an item: it has a gap in front of it, digits from `0` to `9`, and the name of
a unit. -/
structure Part.Reads (p : Part) (i : Item) : Prop where
  gap : Gap p.gap
  amount : Decimal.read? p.amount = some i.amount
  unit : unitSeconds? (String.ofList p.unit) = some i.size

/-- A text is made of items with gaps in front of them, and of a last gap. -/
inductive Written : List Char → List Item → Prop
  | gap {last} : Gap last → Written last []
  | item {p : Part} {i s after items} : p.Spelled s after → p.Reads i → Written after items →
    Written s (i :: items)

/-- A text has the items that its parts stand for. -/
theorem written_iff {items : List Item} :
    Written s items ↔ List.Forall₂ Part.Reads (parts s).1 items ∧ Gap (parts s).2 := by
  constructor
  · intro h
    induction h with
    | gap h =>
      rw [parts_of_none h.part?_eq_none]
      exact ⟨.nil, h⟩
    | item hspelled hreads _ ih =>
      rw [parts_of_some (part?_of_spelled hspelled hreads.gap)]
      exact ⟨.cons hreads ih.1, ih.2⟩
  · rintro ⟨hparts, hlast⟩
    induction s using parts.induct generalizing items with
    | case1 s hnone =>
      rw [parts_of_none hnone] at hparts hlast
      cases hparts
      exact .gap hlast
    | case2 s p after hsome ps last hafter ih =>
      rw [parts_of_some hsome] at hparts hlast
      cases hparts with
      | cons hreads hparts => exact .item (spelled_of_part? hsome) hreads (ih hparts hlast)

theorem isDecimalDigit_of_mem_parts (hp : p ∈ (parts s).1) : ∀ c ∈ p.amount, isDecimalDigit c := by
  induction s using parts.induct with
  | case1 s hnone =>
    rw [parts_of_none hnone] at hp
    contradiction
  | case2 s q after hsome ps last hafter ih =>
    rw [parts_of_some hsome] at hp
    rcases List.mem_cons.1 hp with rfl | hp
    · obtain ⟨-, -, -, hdigits, -⟩ := spelled_of_part? hsome
      exact hdigits
    · exact ih hp

/-! ## Ranges -/

/-- What is found while items are added to a sum of seconds is in range: the amounts, the products,
and the sums up to each item. -/
structure InRange (start : Nat) (items : List Item) : Prop where
  amounts : ∀ i ∈ items, i.amount < integerBound
  products : ∀ i ∈ items, i.seconds < integerBound ∧ i.seconds ≤ mostSeconds
  sums : ∀ done, done <+: items → start + total done ≤ mostSeconds

variable {start t : Nat} {i : Item} {items : List Item} {ps : List Part}

theorem inRange_nil : InRange start [] ↔ start ≤ mostSeconds := by
  constructor
  · intro h
    exact h.sums [] List.prefix_rfl
  · intro h
    refine ⟨by simp, by simp, fun done hdone => ?_⟩
    rw [List.prefix_nil.1 hdone]
    exact h

theorem inRange_cons : InRange start (i :: items) ↔
    start ≤ mostSeconds ∧ i.amount < integerBound ∧ i.seconds < integerBound ∧ i.seconds ≤ mostSeconds ∧
      InRange (start + i.seconds) items := by
  constructor
  · intro h
    have ⟨hamount, hamounts⟩ := List.forall_mem_cons.1 h.amounts
    have ⟨hproduct, hproducts⟩ := List.forall_mem_cons.1 h.products
    refine ⟨h.sums [] (List.nil_prefix), hamount, hproduct.1, hproduct.2, hamounts, hproducts, ?_⟩
    intro done hdone
    have hsum := h.sums (i :: done) (List.cons_prefix_cons.2 ⟨rfl, hdone⟩)
    rwa [total_cons, ← Nat.add_assoc] at hsum
  · rintro ⟨hstart, hamount, hproduct, hmost, h⟩
    refine ⟨List.forall_mem_cons.2 ⟨hamount, h.amounts⟩,
      List.forall_mem_cons.2 ⟨⟨hproduct, hmost⟩, h.products⟩, fun done hdone => ?_⟩
    rcases List.prefix_cons_iff.1 hdone with rfl | ⟨later, rfl, hlater⟩
    · exact hstart
    · have hsum := h.sums later hlater
      rwa [total_cons, ← Nat.add_assoc]

theorem Part.seconds?_eq_some_iff (hdigits : ∀ c ∈ p.amount, isDecimalDigit c) :
    p.seconds? = some n ↔ ∃ i : Item, Decimal.read? p.amount = some i.amount ∧
      unitSeconds? (String.ofList p.unit) = some i.size ∧ i.amount < integerBound ∧ i.seconds < integerBound ∧
      i.seconds ≤ mostSeconds ∧ n = i.seconds := by
  have hplus : p.amount.head? ≠ some '+' := by
    intro hhead
    exact absurd (hdigits '+' (List.mem_of_mem_head? hhead)) (by decide +kernel)
  simp only [Part.seconds?, Decimal.readBelow?_of_ne_plus hplus, Option.bind_eq_bind,
    Option.bind_eq_some_iff, Option.filter_eq_some_iff, Option.guard_eq_some_iff,
    decide_eq_true_eq]
  constructor
  · rintro ⟨amount, ⟨hamount, hlt⟩, size, hsize, seconds, ⟨rfl, hproduct⟩, rfl, hmost⟩
    exact ⟨⟨amount, size⟩, hamount, hsize, hlt, hproduct, hmost, rfl⟩
  · rintro ⟨⟨amount, size⟩, hamount, hsize, hlt, hproduct, hmost, rfl⟩
    exact ⟨amount, ⟨hamount, hlt⟩, size, hsize, _, ⟨rfl, hproduct⟩, rfl, hmost⟩

theorem add?_eq_some_iff (hdigits : ∀ c ∈ p.amount, isDecimalDigit c) :
    add? start p = some t ↔ ∃ i, p.Reads i ∧ i.amount < integerBound ∧ i.seconds < integerBound ∧
      i.seconds ≤ mostSeconds ∧ start + i.seconds ≤ mostSeconds ∧ t = start + i.seconds := by
  simp only [add?, Option.ite_none_right_eq_some, isGap_iff, Option.bind_eq_bind,
    Option.bind_eq_some_iff, Option.guard_eq_some_iff, decide_eq_true_eq,
    Part.seconds?_eq_some_iff hdigits]
  constructor
  · rintro ⟨hgap, _, ⟨i, hamount, hunit, hlt, hproduct, hmost, rfl⟩, rfl, hsum⟩
    exact ⟨i, ⟨hgap, hamount, hunit⟩, hlt, hproduct, hmost, hsum, rfl⟩
  · rintro ⟨i, ⟨hgap, hamount, hunit⟩, hlt, hproduct, hmost, hsum, rfl⟩
    exact ⟨hgap, _, ⟨i, hamount, hunit, hlt, hproduct, hmost, rfl⟩, rfl, hsum⟩

/-- Parts add up if the items that they stand for are in range. -/
theorem foldlM_add?_eq_some_iff (hdigits : ∀ p ∈ ps, ∀ c ∈ p.amount, isDecimalDigit c)
    (hstart : start ≤ mostSeconds) : ps.foldlM add? start = some t ↔
      ∃ items, List.Forall₂ Part.Reads ps items ∧ InRange start items ∧
        t = start + total items := by
  induction ps generalizing start with
  | nil =>
    simp only [List.foldlM_nil, Option.pure_def, Option.some.injEq, List.forall₂_nil_left_iff]
    constructor
    · rintro rfl
      exact ⟨[], rfl, inRange_nil.2 hstart, rfl⟩
    · rintro ⟨_, rfl, -, rfl⟩
      rfl
  | cons p ps ih =>
    rw [List.forall_mem_cons] at hdigits
    simp only [List.foldlM_cons, Option.bind_eq_bind, Option.bind_eq_some_iff,
      add?_eq_some_iff hdigits.1]
    constructor
    · rintro ⟨_, ⟨i, hreads, hlt, hproduct, hmost, hsum, rfl⟩, hlater⟩
      obtain ⟨items, hitems, hrange, rfl⟩ := (ih hdigits.2 hsum).1 hlater
      refine ⟨i :: items, .cons hreads hitems,
        inRange_cons.2 ⟨hstart, hlt, hproduct, hmost, hrange⟩, ?_⟩
      rw [total_cons, Nat.add_assoc]
    · rintro ⟨_, hitems, hrange, rfl⟩
      cases hitems with
      | @cons _ i _ items hreads hitems =>
        obtain ⟨-, hlt, hproduct, hmost, hrange⟩ := inRange_cons.1 hrange
        have hsum : start + i.seconds ≤ mostSeconds := hrange.sums [] List.nil_prefix
        refine ⟨_, ⟨i, hreads, hlt, hproduct, hmost, hsum, rfl⟩,
          (ih hdigits.2 hsum).2 ⟨items, hitems, hrange, ?_⟩⟩
        rw [total_cons, Nat.add_assoc]

/-- A text has a length if it is made of items that are in range. -/
theorem seconds?_eq_some_iff : seconds? s = some t ↔
    ∃ items, items ≠ [] ∧ Written s items ∧ InRange 0 items ∧ t = total items := by
  have hsum (t : Nat) : (parts s).1.foldlM add? 0 = some t ↔
      ∃ items, List.Forall₂ Part.Reads (parts s).1 items ∧ InRange 0 items ∧ t = 0 + total items :=
    foldlM_add?_eq_some_iff (fun p => isDecimalDigit_of_mem_parts) (Nat.zero_le _)
  simp only [written_iff]
  rw [seconds?]
  split
  next last heq =>
    rw [heq]
    simp only [reduceCtorEq, List.forall₂_nil_left_iff, false_iff, not_exists]
    rintro items ⟨hne, ⟨hnil, -⟩, -⟩
    exact hne hnil
  next ps last hne heq =>
    rw [heq] at hsum ⊢
    rw [Option.filter_eq_some_iff, hsum, isGap_iff]
    constructor
    · rintro ⟨⟨items, hitems, hrange, rfl⟩, hlast⟩
      refine ⟨items, ?_, ⟨hitems, hlast⟩, hrange, Nat.zero_add _⟩
      rintro rfl
      cases hitems
      exact hne rfl
    · rintro ⟨items, -, ⟨hitems, hlast⟩, hrange, rfl⟩
      exact ⟨⟨items, hitems, hrange, (Nat.zero_add _).symm⟩, hlast⟩

end ChatBot.Span
