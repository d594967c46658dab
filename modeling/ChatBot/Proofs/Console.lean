import Mathlib
import ChatBot.Console

/-!
# Lines of the console

The reader of lines reports a line that it cannot read, and then says once that it is at its end.
The session passes over what is reported, but takes the end for the end of the input
(`Console.listen_items`). So what comes after such a line is heard only if there is nothing in it
(`Console.input_ends_at_unreadable`).
-/

namespace ChatBot.Console

open Text

/-! ## Bytes of a stream -/

theorem toList_loop (bytes : ByteArray) (i : Nat) (read : List UInt8) :
    ByteArray.toList.loop bytes i read = read.reverse ++ bytes.data.toList.drop i := by
  fun_induction ByteArray.toList.loop bytes i read with
  | case1 i read h ih =>
    have hi : i < bytes.data.toList.length := h
    have hget : bytes.get! i = bytes.data.toList[i] := by
      rw [ByteArray.get!, Array.getElem_toList]
      exact getElem!_pos bytes.data i h
    rw [ih, List.reverse_cons, List.append_assoc, List.drop_eq_getElem_cons hi, hget]
    rfl
  | case2 i read h =>
    have hi : bytes.data.toList.length ≤ i := Nat.le_of_not_lt h
    rw [List.drop_of_length_le hi, List.append_nil]

theorem toList_mk (bytes : List UInt8) : (ByteArray.mk bytes.toArray).toList = bytes := by
  rw [ByteArray.toList, toList_loop]
  rfl

/-- The bytes of some lines with line feeds between them. -/
def stream (lines : List (List UInt8)) : ByteArray := ⟨([10].intercalate lines).toArray⟩

/-- The lines of a stream. -/
def lines (bytes : ByteArray) : List (List UInt8) := bytes.toList.splitOn 10

/-- No line has a line feed. -/
theorem notMem_of_mem_splitOn {bytes line : List UInt8} (h : line ∈ bytes.splitOn 10) :
    10 ∉ line := by
  induction bytes generalizing line with
  | nil =>
    rw [List.splitOn_nil, List.mem_singleton] at h
    rw [h]
    exact List.not_mem_nil
  | cons b bytes ih =>
    rw [List.splitOn_cons_eq_if_modifyHead] at h
    split at h
    next =>
      rcases List.mem_cons.1 h with h | h
      · rw [h]
        exact List.not_mem_nil
      · exact ih h
    next hb =>
      cases hrest : bytes.splitOn 10 with
      | nil =>
        rw [hrest] at h
        contradiction
      | cons first rest =>
        rw [hrest, List.modifyHead_cons] at h
        rw [hrest] at ih
        rcases List.mem_cons.1 h with h | h
        · rw [h]
          intro hmem
          rcases List.mem_cons.1 hmem with hmem | hmem
          · exact hb (beq_iff_eq.2 hmem.symm)
          · exact ih (.head _) hmem
        · exact ih (.tail _ h)

/-- The lines of a stream are those that it was made of. -/
theorem lines_stream {ls : List (List UInt8)} (hfeed : ∀ line ∈ ls, 10 ∉ line) (hne : ls ≠ []) :
    lines (stream ls) = ls := by
  rw [lines, stream, toList_mk]
  exact List.splitOn_intercalate 10 hfeed hne

/-! ## Readable lines -/

def readable (line : List UInt8) : Bool := (message? line).isSome

/-- A line can be read if it is not too long and its bytes are UTF-8. -/
theorem message?_eq_some_iff {line : List UInt8} {s : String} :
    message? line = some s ↔ line.length ≤ longestLine ∧
      ∃ t : String, t.toUTF8 = ⟨(withoutReturn line).toArray⟩ ∧ s = String.ofList (trimEnd t.toList) := by
  unfold message?
  split
  next hlong => exact iff_of_false nofun fun h => h.1.not_gt hlong
  next hshort =>
    rw [Option.map_eq_some_iff, and_iff_right (Nat.le_of_not_lt hshort)]
    constructor
    · intro h
      obtain ⟨t, ht, rfl⟩ := h
      rw [String.fromUTF8?] at ht
      split at ht
      next hvalid =>
        cases ht
        exact ⟨_, rfl, rfl⟩
      next => contradiction
    · intro h
      obtain ⟨t, ht, rfl⟩ := h
      refine ⟨t, ?_, rfl⟩
      rw [← ht]
      simp [String.fromUTF8?, t.isValidUTF8, String.fromUTF8, String.toUTF8]

/-- The texts of all lines that can be read and are not blank. -/
def texts (ls : List (List UInt8)) : List String := (ls.filterMap message?).filter (· ≠ "")

theorem texts_append (ls ls' : List (List UInt8)) : texts (ls ++ ls') = texts ls ++ texts ls' := by
  rw [texts, List.filterMap_append, List.filter_append]
  rfl

theorem texts_eq_nil_iff {ls : List (List UInt8)} :
    texts ls = [] ↔ ∀ line ∈ ls, ∀ s ∈ message? line, s = "" := by
  simp only [texts, List.filter_eq_nil_iff, List.mem_filterMap, decide_not, Bool.not_eq_true',
    decide_eq_false_iff_not, not_not, Option.mem_def, forall_exists_index, and_imp]
  exact ⟨fun h line hline s hs => h s line hline hs, fun h s line hline hs => h line hline s hs⟩

/-- Lines that cannot be read have no text. -/
theorem texts_filter_readable (ls : List (List UInt8)) : texts (ls.filter readable) = texts ls := by
  rw [texts, texts, List.filterMap_filter]
  congr 1
  apply List.filterMap_congr
  intro line _
  cases h : message? line with
  | none => simp [readable, h]
  | some s => simp [readable, h]

/-! ## The reader and the session -/

/-- What the reader of lines says. -/
inductive Item
  | message (text : String)
  | unreadable
  | ended

/-- The reader reports a line that it cannot read, and then says once that it is at its end. -/
def items : List (List UInt8) → List Item
  | [] => [.ended]
  | line :: rest =>
    match message? line with
    | some s => .message s :: items rest
    | none => .unreadable :: .ended :: items rest

/-- The session takes messages, passes over lines that cannot be read and leaves at an end. -/
def listen : List Item → List String
  | [] => []
  | .message s :: rest => if s = "" then listen rest else s :: listen rest
  | .unreadable :: rest => listen rest
  | .ended :: _ => []

theorem listen_items (ls : List (List UInt8)) : listen (items ls) = messages ls := by
  induction ls with
  | nil => rfl
  | cons line rest ih =>
    rw [items, messages]
    cases message? line with
    | none => rfl
    | some s =>
      dsimp only
      rw [listen, ih]

/-- What is heard are the texts before the first line that cannot be read. -/
theorem messages_eq_texts (ls : List (List UInt8)) : messages ls = texts (ls.takeWhile readable) := by
  induction ls with
  | nil => rfl
  | cons line rest ih =>
    rw [messages, List.takeWhile_cons, readable]
    cases h : message? line with
    | none => rfl
    | some s =>
      have htexts : texts (line :: rest.takeWhile readable) =
          if s = "" then texts (rest.takeWhile readable)
          else s :: texts (rest.takeWhile readable) := by
        rw [texts, List.filterMap_cons_some h, List.filter_cons]
        by_cases hs : s = ""
        · simp [hs, texts]
        · simp [hs, texts]
      simp only [Option.isSome_some, if_true]
      rw [htexts, ih]

/-- All texts are heard exactly if there are none after a line that cannot be read. -/
theorem messages_eq_texts_iff (ls : List (List UInt8)) :
    messages ls = texts ls ↔ texts (ls.dropWhile readable) = [] := by
  have hsplit : texts ls = texts (ls.takeWhile readable) ++ texts (ls.dropWhile readable) := by
    rw [← texts_append, List.takeWhile_append_dropWhile]
  rw [messages_eq_texts, hsplit, List.self_eq_append_right]

/-- The messages in a stream of readable lines are their texts. -/
theorem input_stream {ls : List (List UInt8)} (hfeed : ∀ line ∈ ls, 10 ∉ line)
    (hreadable : ∀ line ∈ ls, readable line) : input (stream ls) = texts ls := by
  by_cases hne : ls = []
  · subst hne
    cbv
  · have hlines : (stream ls).toList.splitOn 10 = ls := lines_stream hfeed hne
    rw [input, hlines, messages_eq_texts, List.takeWhile_eq_self_iff.2 hreadable]

/-- **The input ends at the first line that cannot be read.** A line can be read if it is not too
long and UTF-8, and its message is its text without blanks at the end. Of any stream, the session
hears the messages of the lines before the first one that cannot be read, as if the stream ended
there. So it hears all messages that are not empty, which are those of the stream without the lines
that cannot be read, exactly if all lines after that one are blank or cannot be read either. -/
theorem input_ends_at_unreadable (bytes : ByteArray) :
    (∀ line s, message? line = some s ↔ line.length ≤ 4096 ∧
      ∃ t : String, t.toUTF8 = ⟨(withoutReturn line).toArray⟩ ∧
        s = String.ofList (trimEnd t.toList)) ∧
    input bytes = listen (items (lines bytes)) ∧
    input bytes = texts ((lines bytes).takeWhile readable) ∧
    input bytes = input (stream ((lines bytes).takeWhile readable)) ∧
    input (stream ((lines bytes).filter readable)) = texts (lines bytes) ∧
    (input bytes = texts (lines bytes) ↔
      ∀ line ∈ (lines bytes).dropWhile readable, ∀ s ∈ message? line, s = "") := by
  have hfeed : ∀ line ∈ lines bytes, 10 ∉ line := fun line hline => notMem_of_mem_splitOn hline
  have htexts : input bytes = texts ((lines bytes).takeWhile readable) := messages_eq_texts _
  refine ⟨fun _ _ => message?_eq_some_iff, (listen_items _).symm, htexts, ?_, ?_, ?_⟩
  · rw [htexts, input_stream]
    · intro line hline
      apply hfeed
      exact (List.takeWhile_prefix _).subset hline
    · intro line hline
      exact List.mem_takeWhile_imp hline
  · rw [input_stream, texts_filter_readable]
    · intro line hline
      apply hfeed
      exact List.mem_of_mem_filter hline
    · intro line hline
      exact List.of_mem_filter hline
  · rw [← texts_eq_nil_iff]
    exact messages_eq_texts_iff _

/-- After a byte that is not UTF-8, a `ping` on a line of its own is not heard. -/
theorem input_ends_at_unreadable_ping :
    let bytes : ByteArray := ⟨#[255, 10, 33, 112, 105, 110, 103, 10]⟩
    lines bytes = [[255], [33, 112, 105, 110, 103], []] ∧
      texts (lines bytes) = ["!ping"] ∧ input bytes = [] := by
  intro bytes
  have hlines : lines bytes = [[255], [33, 112, 105, 110, 103], []] := by cbv
  refine ⟨hlines, ?_, ?_⟩
  · rw [hlines]
    cbv
  · cbv

end ChatBot.Console
