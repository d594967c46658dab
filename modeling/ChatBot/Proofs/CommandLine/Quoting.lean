import ChatBot.Builtin.Timing
import ChatBot.Proofs.Bot.Resolution
import ChatBot.Proofs.CommandLine.Reading

/-!
# Quoting and reading

What is written with quotes reads back: an argument as one word with the same text, and a list of
words as the name and the arguments that were written. The command that is scheduled is therefore
the one that was typed (`read_quoted_words`).
-/

namespace ChatBot

open Text Token

namespace CommandLine

/-! ## Arguments -/

theorem section_flatMap_escaped (s : List Char) : Section (s.flatMap escaped) s := by
  induction s with
  | nil => exact .nil
  | cons c s ih =>
    rw [List.flatMap_cons, escaped]
    split
    next hc =>
      refine .escape (.named ?_) ih
      rcases hc with rfl | rfl <;> decide
    next hc =>
      rw [not_or] at hc
      refine .char ?_ ih
      cases hb : isBlank c
      · exact .inl (isPlain_iff.2 ⟨hb, hc.2, hc.1⟩)
      · exact .inr rfl

theorem pieces_quoteArg (arg : String) : Pieces (quoteArg arg).toList arg.toList := by
  unfold quoteArg
  dsimp only
  split
  · have h := Pieces.quoted (section_flatMap_escaped arg.toList) .nil
    simpa using h
  next h =>
    rw [not_or, Bool.not_eq_true, List.any_eq_false] at h
    refine .of_isPlain (List.all_eq_true.2 fun c hc => ?_)
    simpa [isPlain, and_assoc] using h.2 c hc

theorem quoteArg_ne_nil (arg : String) : (quoteArg arg).toList ≠ [] := by
  unfold quoteArg
  dsimp only
  split
  · simp
  next h =>
    rw [not_or] at h
    exact h.1

/-- Quoted arguments, each after a space, are the arguments of a command. -/
theorem arguments_flatMap_quoteArg (args : List String) :
    Arguments (args.flatMap fun arg => ' ' :: (quoteArg arg).toList) (args.map String.toList) := by
  induction args with
  | nil => exact .nil nofun
  | cons arg args ih =>
    have hblank : ∀ b ∈ [' '], isBlank b := List.forall_mem_singleton.2 rfl
    exact .word (by simp) hblank (quoteArg_ne_nil arg) (pieces_quoteArg arg) ih

/-! ## Words -/

theorem toList_intercalate_space (word : String) (words : List String) :
    (" ".intercalate (word :: words)).toList =
      word.toList ++ words.flatMap fun w => ' ' :: w.toList := by
  induction words generalizing word with
  | nil => simp
  | cons w words ih => simp [ih]

/-- An alphanumeric name is written without quotes. -/
theorem quoteArg_of_isAlphanumeric {name : String} (hne : name ≠ "")
    (hname : name.toList.all isAlphanumeric) : quoteArg name = name := by
  unfold quoteArg
  dsimp only
  rw [if_neg]
  rw [not_or, Bool.not_eq_true, List.any_eq_false]
  refine ⟨by simpa using hne, fun c hc => ?_⟩
  have := isPlain_iff.1 (isPlain_of_isAlphanumeric (List.all_eq_true.1 hname c hc))
  simp [this]

/-- A name and arguments are a command, whatever the case of the name. -/
theorem written_append {name : String} {s : List Char} {args : List String} (hne : name ≠ "")
    (hname : name.toList.all isAlphanumeric) (hs : Arguments s (args.map String.toList)) :
    Written (name.toList ++ s) ⟨lowercase name, args⟩ := by
  refine ⟨name.toList, s, rfl, by simpa using hne, fun c hc => ?_, by simp, hs⟩
  have hc := List.all_eq_true.1 hname c hc
  exact ⟨isPlain_of_isAlphanumeric hc, hc⟩

variable {delimiter name : String}

theorem read_quoteArgs (hd : Delimiter.fault? delimiter = none) (hne : name ≠ "")
    (hname : name.toList.all isAlphanumeric) (hnd : ¬delimiter.toList <+: name.toList)
    (args : List String) :
    read delimiter (delimiter ++ " ".intercalate (name :: args.map quoteArg)) =
      .ok (some ⟨lowercase name, args⟩) := by
  have hargs := arguments_flatMap_quoteArg args
  have hm : (delimiter ++ " ".intercalate (name :: args.map quoteArg)).toList =
      delimiter.toList ++
        (name.toList ++ args.flatMap fun arg => ' ' :: (quoteArg arg).toList) := by
    rw [String.toList_append, toList_intercalate_space, List.flatMap_map]
  rw [read_append_eq_some_iff (Delimiter.ne_empty_of_fault? hd) hm]
  exact ⟨Delimiter.not_prefix_append hd hnd hargs.ends, written_append hne hname hargs⟩

/-! ## Scheduled commands -/

/-- Several words stand for a command line with each of them quoted. -/
theorem commandText_cons {args : List String} (hne : name ≠ "")
    (hname : name.toList.all isAlphanumeric) (hargs : args ≠ []) :
    Builtin.commandText (name :: args) = " ".intercalate (name :: args.map quoteArg) := by
  obtain ⟨arg, args, rfl⟩ := List.exists_cons_of_ne_nil hargs
  rw [Builtin.commandText, quoteWords, List.map_cons, quoteArg_of_isAlphanumeric hne hname]
  · nofun

/-- **Quoting and reading are inverse.** A name and quoted arguments are read as that name and
those arguments, and so are the words of a command that is scheduled. -/
theorem read_quoted_words (hd : Delimiter.fault? delimiter = none) (hne : name ≠ "")
    (hname : name.toList.all isAlphanumeric) (hnd : ¬delimiter.toList <+: name.toList)
    (args : List String) :
    read delimiter (delimiter ++ " ".intercalate (name :: args.map quoteArg)) =
        .ok (some ⟨lowercase name, args⟩) ∧
      ∀ (b : Bot) (chat : Chat) (entry : Entry), b.delimiter chat = delimiter → args ≠ [] →
        b.resolve name chat = .ok entry →
        b.readTarget chat (Builtin.commandText (name :: args)) =
          .ok (some (⟨lowercase name, args⟩, entry)) := by
  have hread := read_quoteArgs hd hne hname hnd args
  refine ⟨hread, fun b chat entry hdel hargs hres => ?_⟩
  have hs := (arguments_flatMap_quoteArg args).ends
  have hns : ¬delimiter.toList <+: (" ".intercalate (name :: args.map quoteArg)).toList := by
    rw [toList_intercalate_space, List.flatMap_map]
    exact Delimiter.not_prefix_append hd hnd hs
  rw [Bot.readTarget_eq_some_iff, hdel, commandText_cons hne hname hargs,
    Delimiter.ensure_of_not_prefix hns]
  exact ⟨hread, (b.resolve_lowercase name chat).trans hres⟩

theorem read_quoted_words_echo :
    let args := ["", "a \"b\\\t", "!c"]
    read "!" "!Echo \"\" \"a \\\"b\\\\\t\" !c" = .ok (some ⟨"echo", args⟩) ∧
      Bot.echoing.readTarget default (Builtin.commandText ("Echo" :: args)) =
        .ok (some (⟨"echo", args⟩, .command Builtin.echo.toCommand)) := by
  intro args
  have hd : Delimiter.fault? "!" = none := by decide
  have h := read_quoted_words hd (show "Echo" ≠ "" by decide) (by decide) (by decide) args
  have hecho : lowercase "Echo" = "echo" := by decide
  have hres := Bot.echoing.resolve_lowercase "Echo" default
  rw [hecho] at h hres
  exact ⟨h.1, h.2 _ _ _ (Bot.delimiter_echoing _) (by decide) (hres.symm.trans Bot.resolve_echoing)⟩

end CommandLine

end ChatBot
