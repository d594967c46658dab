import ChatBot.Builtin.Timing
import ChatBot.Proofs.Text.Lowercase
import ChatBot.Proofs.Time.Expression
import ChatBot.Proofs.Time.Timestamp

/-!
# Printed spans

A length of time is printed in days, hours, minutes and seconds. The text is a span in words again,
of the same length, so it is read back (`printed_spans_read_back`).
-/

namespace ChatBot

open Text

/-! ## Texts that stay as they are -/

theorem Text.isLowered_of_isDigit {c : Char} (h : c.isDigit) : IsLowered c := by
  have hc : (⟨48, 57, 1⟩ : CodeSpan).contains c.toNat := by
    rw [CodeSpan.contains_iff, ← and_assoc]
    exact ⟨isDigit_iff.1 h, Nat.mod_one _⟩
  refine ⟨?_, lowercaseChar_of_not_inSpans (inSpans_eq_false_of_apart (by decide +kernel) hc) ?_⟩
  · rintro rfl
    contradiction
  · rintro rfl
    contradiction

theorem Text.isDecimalDigit_of_isDigit {c : Char} (h : c.isDigit) : isDecimalDigit c := by
  refine List.any_eq_true.2 ⟨⟨0x30, 0x39, 1⟩, .head _, ?_⟩
  rw [CodeSpan.contains_iff, ← and_assoc]
  exact ⟨isDigit_iff.1 h, Nat.mod_one _⟩

/-- A text without blanks at its ends is trimmed already. -/
theorem Text.trim_eq_self {s : List Char} (hfirst : s.head?.any isBlank = false)
    (hlast : s.getLast?.any isBlank = false) : trim s = s := by
  rw [← List.head?_reverse] at hlast
  have hend : s.reverse.dropWhile isBlank = s.reverse := Timestamp.trimStart_eq_self hlast
  rw [trim, Timestamp.trimStart_eq_self hfirst, trimEnd, hend, List.reverse_reverse]

theorem Timestamp.eq_cons_of_literal? {c : Char} {s rest : List Char}
    (h : literal? c s = some rest) : s = c :: rest := by
  cases s with
  | nil => contradiction
  | cons d s =>
    obtain ⟨rfl, hs⟩ := Option.ite_none_right_eq_some.1 h
    rw [Option.some.inj hs]

theorem Timestamp.suffix_of_front? {least most n : Nat} {s rest : List Char}
    (h : Decimal.front? least most s = some (n, rest)) : rest <:+ s := by
  obtain ⟨-, hs⟩ := Option.ite_none_left_eq_some.1 h
  rw [← (Prod.mk.inj (Option.some.inj hs)).2]
  exact List.drop_suffix _ s

/-- Every timestamp has a hyphen after its year. -/
theorem Timestamp.mem_of_readStrict? {s : List Char} {t : Instant} (h : readStrict? s = some t) :
    '-' ∈ s := by
  unfold readStrict? at h
  obtain ⟨⟨year, rest⟩, hyear, h⟩ := Option.bind_eq_some_iff.1 h
  obtain ⟨rest', hhyphen, -⟩ := Option.bind_eq_some_iff.1 h
  refine (suffix_of_front? hyear).mem ?_
  rw [eq_cons_of_literal? hhyphen]
  exact List.mem_cons_self

namespace Span

variable {items : List Item} {i : Item} {n start : Nat}

/-! ## What is printed -/

/-- The days, hours, minutes and seconds of a length of time. -/
def clock (n : Nat) : List Item :=
  [⟨n / 86400, 86400⟩, ⟨n % 86400 / 3600, 3600⟩, ⟨n % 3600 / 60, 60⟩, ⟨n % 60, 1⟩]

/-- The items that are printed of a length of time. -/
def printed (n : Nat) : List Item :=
  let items := (clock n).filter fun i => 0 < i.amount
  if items = [] then [⟨0, 1⟩] else items

/-- The letter that stands for a unit in what is printed. -/
def letter (size : Nat) : Char :=
  if size = 86400 then 'd' else if size = 3600 then 'h' else if size = 60 then 'm' else 's'

def Item.text (i : Item) : List Char := Decimal.write i.amount ++ [letter i.size]

/-- Items of a length of time: together they are as long, larger units come before smaller ones,
there are fewer of a smaller unit than make up a larger one, and none is zero but a lone one of
seconds. -/
structure Splits (n : Nat) (items : List Item) : Prop where
  total : total items = n
  sizes : (items.map (·.size)).Sublist [86400, 3600, 60, 1]
  hours : ∀ i ∈ items, i.size = 3600 → i.amount < 24
  sixty : ∀ i ∈ items, i.size = 60 ∨ i.size = 1 → i.amount < 60
  zero : ∀ i ∈ items, i.amount = 0 → items = [⟨0, 1⟩]

theorem write_eq (n : Nat) : write n = [' '].intercalate ((printed n).map Item.text) := by
  have hshown : [(n / 86400, 'd'), (n % 86400 / 3600, 'h'), (n % 3600 / 60, 'm'),
      (n % 60, 's')].filter (fun part => 0 < part.1) =
        ((clock n).filter fun i => 0 < i.amount).map fun i => (i.amount, letter i.size) :=
    List.filter_map (f := fun i : Item => (i.amount, letter i.size)) (l := clock n)
  unfold write printed
  dsimp only
  rw [hshown]
  cases (clock n).filter fun i => 0 < i.amount with
  | nil => rfl
  | cons i items =>
    rw [List.map_map]
    rfl

theorem total_filter_pos (items : List Item) :
    total (items.filter fun i => 0 < i.amount) = total items := by
  induction items with
  | nil => rfl
  | cons i items ih =>
    rw [List.filter_cons, total_cons]
    split
    · rw [total_cons, ih]
    next h =>
      have hzero : i.amount = 0 := by simpa using h
      rw [ih, Item.seconds, hzero, Nat.zero_mul, Nat.zero_add]

theorem total_clock (n : Nat) : total (clock n) = n := by
  simp only [clock, total_cons, total_nil, Item.seconds]
  omega

theorem lt_of_mem_clock (h : i ∈ clock n) :
    (i.size = 3600 → i.amount < 24) ∧ (i.size = 60 ∨ i.size = 1 → i.amount < 60) := by
  simp only [clock, List.mem_cons, List.not_mem_nil, or_false] at h
  rcases h with rfl | rfl | rfl | rfl <;> dsimp only <;> omega

theorem splits_printed (n : Nat) : Splits n (printed n) := by
  have htotal : total ((clock n).filter fun i => 0 < i.amount) = n := by
    rw [total_filter_pos, total_clock]
  unfold printed
  dsimp only
  split
  next hnone =>
    rw [hnone] at htotal
    exact ⟨htotal, by decide, by simp, by simp, by simp⟩
  next =>
    refine ⟨htotal, List.filter_sublist.map _, fun i hi => ?_, fun i hi => ?_, fun i hi hzero => ?_⟩
    · exact (lt_of_mem_clock (List.mem_filter.1 hi).1).1
    · exact (lt_of_mem_clock (List.mem_filter.1 hi).1).2
    · have hpos : 0 < i.amount := of_decide_eq_true (List.mem_filter.1 hi).2
      exact absurd hzero hpos.ne'

/-! ## What is printed is a span in words -/

theorem printed_ne_nil (n : Nat) : printed n ≠ [] := by
  unfold printed
  dsimp only
  split
  next => exact List.cons_ne_nil _ _
  next h => exact h

/-- The unit of an item is named by the letter that it is printed with. -/
structure Item.Named (i : Item) : Prop where
  unit : unitSeconds? (String.ofList [letter i.size]) = some i.size
  isLower : (letter i.size).isLower
  isLowered : IsLowered (letter i.size)

theorem Splits.named (h : Splits n items) : ∀ i ∈ items, i.Named := by
  have hsizes : ∀ size ∈ [86400, 3600, 60, 1],
      unitSeconds? (String.ofList [letter size]) = some size ∧ (letter size).isLower ∧
        IsLowered (letter size) := by decide +kernel
  intro i hi
  obtain ⟨hunit, hlower, hlowered⟩ := hsizes _ (h.sizes.subset (List.mem_map_of_mem hi))
  exact ⟨hunit, hlower, hlowered⟩

theorem Splits.size_pos (h : Splits n items) : ∀ i ∈ items, 0 < i.size := by
  have hsizes : ∀ size ∈ [86400, 3600, 60, 1], 0 < size := by decide
  exact fun i hi => hsizes _ (h.sizes.subset (List.mem_map_of_mem hi))

/-- All items but the first one are printed after a space. -/
theorem intercalate_text (i : Item) (items : List Item) :
    [' '].intercalate ((i :: items).map Item.text) =
      i.text ++ items.flatMap fun i => ' ' :: i.text := by
  induction items generalizing i with
  | nil => simp
  | cons j items ih =>
    have htail := ih j
    rw [List.map_cons] at htail
    rw [List.map_cons, List.map_cons, List.intercalate_cons_cons, htail, List.flatMap_cons]
    simp

theorem written_text (gap : List Char) {after : List Char} (hgap : Gap gap) (hi : i.Named)
    (hend : after.head?.any Char.isLower = false) (hafter : Written after items) :
    Written (gap ++ (i.text ++ after)) (i :: items) := by
  have hspelled : (⟨gap, Decimal.write i.amount, [letter i.size]⟩ : Part).Spelled
      (gap ++ (i.text ++ after)) after := by
    refine ⟨[], by simp [Item.text], Decimal.write_ne_nil _, fun c hc => ?_, nofun,
      List.cons_ne_nil _ _, List.forall_mem_singleton.2 hi.isLower, hend⟩
    exact isDecimalDigit_of_isDigit (Decimal.isDigit_of_mem_write hc)
  exact .item hspelled ⟨hgap, Decimal.read?_write _, hi.unit⟩ hafter

theorem head?_flatMap_text (items : List Item) :
    (items.flatMap fun i => ' ' :: i.text).head?.any Char.isLower = false := by
  cases items <;> rfl

theorem written_flatMap (h : ∀ i ∈ items, i.Named) :
    Written (items.flatMap fun i => ' ' :: i.text) items := by
  induction items with
  | nil => exact .gap (isGap_iff.1 rfl)
  | cons i items ih =>
    rw [List.forall_mem_cons] at h
    exact written_text [' '] (isGap_iff.1 (by decide)) h.1 (head?_flatMap_text items)
      (ih h.2)

theorem written_write (n : Nat) : Written (write n) (printed n) := by
  have hnamed := (splits_printed n).named
  obtain ⟨i, items, hprinted⟩ := List.exists_cons_of_ne_nil (printed_ne_nil n)
  rw [hprinted, List.forall_mem_cons] at hnamed
  rw [write_eq, hprinted, intercalate_text]
  exact written_text [] (isGap_iff.1 rfl) hnamed.1 (head?_flatMap_text items)
    (written_flatMap hnamed.2)

/-! ## What is printed is no timestamp and is in lower case -/

theorem isLowered_of_mem_write {c : Char} (h : c ∈ write n) : IsLowered c ∧ c ≠ '-' := by
  have htext : ∀ i ∈ printed n, ∀ c ∈ i.text, IsLowered c ∧ c ≠ '-' := by
    intro i hi c hc
    have hnamed := (splits_printed n).named i hi
    rcases List.mem_append.1 hc with hc | hc
    · have hdigit := Decimal.isDigit_of_mem_write hc
      refine ⟨isLowered_of_isDigit hdigit, ?_⟩
      rintro rfl
      contradiction
    · rw [List.mem_singleton.1 hc]
      refine ⟨hnamed.isLowered, fun hhyphen => ?_⟩
      have hlower := hnamed.isLower
      rw [hhyphen] at hlower
      contradiction
  obtain ⟨i, items, hprinted⟩ := List.exists_cons_of_ne_nil (printed_ne_nil n)
  rw [hprinted, List.forall_mem_cons] at htext
  rw [write_eq, hprinted, intercalate_text, List.mem_append, List.mem_flatMap] at h
  rcases h with hc | ⟨j, hj, hc⟩
  · exact htext.1 c hc
  · rcases List.mem_cons.1 hc with rfl | hc
    · decide +kernel
    · exact htext.2 j hj c hc

theorem exists_write_eq_cons (n : Nat) : ∃ c s, write n = c :: s ∧ c.isDigit := by
  obtain ⟨i, items, hprinted⟩ := List.exists_cons_of_ne_nil (printed_ne_nil n)
  obtain ⟨c, s, hamount⟩ := List.exists_cons_of_ne_nil (Decimal.write_ne_nil i.amount)
  have hdigit : c.isDigit := Decimal.isDigit_of_mem_write (n := i.amount) (by simp [hamount])
  have hwrite : write n = c :: (s ++ [letter i.size] ++ items.flatMap fun i => ' ' :: i.text) := by
    rw [write_eq, hprinted, intercalate_text, Item.text, hamount]
    rfl
  exact ⟨c, _, hwrite, hdigit⟩

theorem exists_write_eq_concat (n : Nat) : ∃ s c, write n = s ++ [c] ∧ c.isLower := by
  obtain ⟨i, items, hprinted⟩ := List.exists_cons_of_ne_nil (printed_ne_nil n)
  have hnamed := (splits_printed n).named
  rw [write_eq, hprinted, intercalate_text]
  rw [hprinted] at hnamed
  rcases List.eq_nil_or_concat items with rfl | ⟨items, j, rfl⟩
  · exact ⟨Decimal.write i.amount, _, by simp [Item.text], (hnamed i (.head _)).isLower⟩
  · refine ⟨i.text ++ ((items.flatMap fun i => ' ' :: i.text) ++ ' ' :: Decimal.write j.amount), _,
      ?_, (hnamed j (by simp)).isLower⟩
    simp [Item.text]

theorem trim_write (n : Nat) : trim (write n) = write n := by
  obtain ⟨c, s, hfirst, hdigit⟩ := exists_write_eq_cons n
  obtain ⟨s', c', hlast, hlower⟩ := exists_write_eq_concat n
  refine trim_eq_self ?_ ?_
  · rw [hfirst]
    exact isBlank_of_isDigit hdigit
  · rw [hlast, List.getLast?_concat]
    exact isBlank_of_isLower hlower

/-! ## Its length -/

theorem Part.Reads.unique {p : Part} {i' : Item} (h : p.Reads i) (h' : p.Reads i') : i = i' := by
  obtain ⟨amount, size⟩ := i
  obtain ⟨amount', size'⟩ := i'
  obtain rfl : amount = amount' := Option.some.inj (h.amount.symm.trans h'.amount)
  obtain rfl : size = size' := Option.some.inj (h.unit.symm.trans h'.unit)
  rfl

/-- A text has its items in one way only. -/
theorem Written.unique {s : List Char} {items' : List Item} (h : Written s items)
    (h' : Written s items') : items = items' :=
  List.right_unique_forall₂' (fun _ _ _ hi hi' => hi.unique hi') (written_iff.1 h).1
    (written_iff.1 h').1

theorem inRange_of_total_le (hsizes : ∀ i ∈ items, 0 < i.size)
    (h : start + total items ≤ mostSeconds) : InRange start items := by
  have hlt : mostSeconds < integerBound := by decide
  induction items generalizing start with
  | nil => exact inRange_nil.2 h
  | cons i items ih =>
    rw [List.forall_mem_cons] at hsizes
    rw [total_cons, ← Nat.add_assoc] at h
    have hamount : i.amount ≤ i.seconds := Nat.le_mul_of_pos_right _ hsizes.1
    exact inRange_cons.2 ⟨by omega, by omega, by omega, by omega, ih hsizes.2 h⟩

end Span

/-- No instant is so long after another one that the time between them cannot be measured. -/
theorem Instant.le_mostSeconds_of_after? {now t : Instant} {n : Nat} (h : now.after? n = some t) :
    n ≤ Span.mostSeconds := by
  have hspan : lastSecond - firstSecond ≤ (Span.mostSeconds : Int) := by decide
  have hnow := now.valid.1
  have ht := t.valid.2.1
  rcases after?_eq_some_iff.1 h with ⟨rfl, -⟩ | ⟨-, hsecond, -⟩
  · exact Nat.zero_le _
  · omega

namespace TimeExpression

/-- What is printed has no `in` in front and no capital letters. -/
theorem relative_write (n : Nat) : relative (Span.write n) = Span.write n := by
  obtain ⟨c, s, hfirst, hdigit⟩ := Span.exists_write_eq_cons n
  rw [relative, Span.trim_write,
    lowercaseAfter_of_isLowered fun c hc => (Span.isLowered_of_mem_write hc).1, hfirst]
  unfold withoutIn
  split
  next heq =>
    rw [(List.cons.inj heq).1] at hdigit
    contradiction
  next => rfl

theorem readStrict?_write (n : Nat) : Timestamp.readStrict? (Span.write n) = none := by
  rw [Option.eq_none_iff_forall_ne_some]
  intro t ht
  exact (Span.isLowered_of_mem_write (Timestamp.mem_of_readStrict? ht)).2 rfl

/-- What is printed is read as the instant that much later, if there is one. -/
theorem read?_spanWrite (n : Nat) (now : Instant) : read? (Span.write n) now = now.after? n := by
  have hsplits := Span.splits_printed n
  rw [read?_of_readStrict? (by rw [Span.trim_write, readStrict?_write]), relative_write]
  ext t
  rw [Option.bind_eq_bind, Option.bind_eq_some_iff]
  constructor
  · rintro ⟨m, hm, ht⟩
    obtain ⟨items, -, hwritten, -, rfl⟩ := Span.seconds?_eq_some_iff.1 hm
    rwa [hwritten.unique (Span.written_write n), hsplits.total] at ht
  · intro ht
    have htotal : 0 + Span.total (Span.printed n) ≤ Span.mostSeconds := by
      rw [hsplits.total, Nat.zero_add]
      exact Instant.le_mostSeconds_of_after? ht
    exact ⟨n, Span.seconds?_eq_some_iff.2 ⟨_, Span.printed_ne_nil n, Span.written_write n,
      Span.inRange_of_total_le hsplits.size_pos htotal, hsplits.total.symm⟩, ht⟩

/-- **Printed spans read back.** A length of time is printed in days, hours, minutes and seconds
that add up to its whole seconds, or to none if it is negative. What is printed is read as the
instant that many seconds from now, and as none if there is no such instant. -/
theorem printed_spans_read_back (e : Elapsed) :
    (∀ now, read? (Builtin.spanText e).toList now = now.after? e.seconds.toNat) ∧
    ∃ items, (Builtin.spanText e).toList = [' '].intercalate (items.map Span.Item.text) ∧
      Span.Splits e.seconds.toNat items := by
  rw [Builtin.spanText, String.toList_ofList]
  exact ⟨read?_spanWrite _, _, Span.write_eq _, Span.splits_printed _⟩

example : Builtin.spanText (.ofSeconds 90061) = "1d 1h 1m 1s" := by decide

end TimeExpression

end ChatBot
