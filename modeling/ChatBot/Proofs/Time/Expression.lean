import ChatBot.Proofs.Time.Order
import ChatBot.Proofs.Time.Span
import ChatBot.Time.Expression

/-!
# Relative times

A time expression that is no timestamp is read as the span that it spells, counted from now
(`reads_spelled_spans`).
-/

namespace ChatBot.TimeExpression

open Text

variable {s : List Char} {now : Instant}

/-- What a time expression spells besides timestamps. -/
def relative (s : List Char) : List Char := withoutIn (lowercaseAfter [] (trim s))

theorem read?_of_readStrict? (h : Timestamp.readStrict? (trim s) = none) :
    read? s now = Span.seconds? (relative s) >>= now.after? := by
  rw [read?, h]
  rfl

/-- **A text that is no timestamp is read exactly if it is made of items between gaps and nothing
leaves its range**: as the instant that many seconds later, which is never before now. -/
theorem reads_spelled_spans (s : List Char) (now : Instant)
    (h : Timestamp.readStrict? (trim s) = none) :
    (∀ t, read? s now = some t ↔ ∃ items, items ≠ [] ∧ Span.Written (relative s) items ∧
      Span.InRange 0 items ∧ now.after? (Span.total items) = some t) ∧
    ∀ t, read? s now = some t → now ≤ t := by
  rw [read?_of_readStrict? h]
  constructor
  · intro t
    rw [Option.bind_eq_bind, Option.bind_eq_some_iff]
    constructor
    · rintro ⟨n, hn, hafter⟩
      obtain ⟨items, hne, hwritten, hrange, rfl⟩ := Span.seconds?_eq_some_iff.1 hn
      exact ⟨items, hne, hwritten, hrange, hafter⟩
    · rintro ⟨items, hne, hwritten, hrange, hafter⟩
      exact ⟨_, Span.seconds?_eq_some_iff.2 ⟨items, hne, hwritten, hrange, rfl⟩, hafter⟩
  · intro t ht
    obtain ⟨n, -, hafter⟩ := Option.bind_eq_some_iff.1 ht
    exact Instant.le_of_after? hafter

/-- The items of a text with capital letters, a comma and an `and`. -/
theorem written_one_day_and_two_hours :
    Span.Written (relative " IN 1 Day, and 2h".toList) [⟨1, 86400⟩, ⟨2, 3600⟩] := by
  rw [Span.written_iff]
  have hone : Span.part? (relative " IN 1 Day, and 2h".toList) =
      some (⟨[], ['1'], "day".toList⟩, ", and 2h".toList) := by decide +kernel
  have htwo : Span.part? ", and 2h".toList = some (⟨", and ".toList, ['2'], ['h']⟩, []) := by
    decide +kernel
  rw [Span.parts_of_some hone, Span.parts_of_some htwo, Span.parts_of_none (by decide +kernel)]
  refine ⟨.cons ?_ (.cons ?_ .nil), Span.isGap_iff.1 rfl⟩
  · exact ⟨Span.isGap_iff.1 (by decide), by decide, by decide⟩
  · exact ⟨Span.isGap_iff.1 (by decide), by decide, by decide⟩

theorem reads_spelled_spans_one_day_and_two_hours :
    Timestamp.readStrict? (trim " IN 1 Day, and 2h".toList) = none ∧
      read? " IN 1 Day, and 2h".toList Instant.epoch = some ⟨93600, 0, by decide⟩ := by
  have hstrict : Timestamp.readStrict? (trim " IN 1 Day, and 2h".toList) = none := by decide
  have hrange : Span.InRange 0 [⟨1, 86400⟩, ⟨2, 3600⟩] := by
    simp only [Span.inRange_cons, Span.inRange_nil]
    decide
  exact ⟨hstrict, ((reads_spelled_spans _ _ hstrict).1 _).2
    ⟨_, by simp, written_one_day_and_two_hours, hrange, by decide⟩⟩

end ChatBot.TimeExpression
