import ChatBot.Proofs.Bot.Binding

/-!
# The text of an alias

An alias is shown as the name of its command and its bound arguments, with quotes around those that
are empty or have blanks (`Alias.target`). Unlike `quoteArg`, this puts no backslash in front of a
quote or a backslash of an argument, so the text reads back as the command and the arguments exactly
when there is neither in the arguments (`read_target_iff`).

That the text says something else otherwise is seen by weight. A quote of a text stands for nothing
unless a backslash is in front of it, and a backslash stands for nothing, so a text is longer than
what it stands for by its `marks`. Those that the arguments bring along are not paid for.
-/

namespace ChatBot

open Text Token

namespace CommandLine

/-! ## The weight of a text -/

/-- Twice the quotes of a text, and its backslashes. -/
def marks (s : List Char) : Nat := 2 * s.count '"' + s.count '\\'

@[simp] theorem marks_append (s t : List Char) : marks (s ++ t) = marks s + marks t := by
  simp only [marks, List.count_append]
  omega

theorem marks_cons (c : Char) (s : List Char) : marks (c :: s) = marks [c] + marks s :=
  marks_append [c] s

theorem marks_eq_zero_iff {s : List Char} : marks s = 0 ↔ '"' ∉ s ∧ '\\' ∉ s := by
  rw [← List.count_eq_zero, ← List.count_eq_zero, marks]
  omega

theorem marks_of_forall {p : Char → Bool} {s : List Char} (hquote : p '"' = false)
    (hslash : p '\\' = false) (h : ∀ c ∈ s, p c) : marks s = 0 := by
  refine marks_eq_zero_iff.2 ⟨fun hmem => ?_, fun hmem => ?_⟩
  · rw [h _ hmem] at hquote
    contradiction
  · rw [h _ hmem] at hslash
    contradiction

theorem marks_blanks {gap : List Char} (h : ∀ b ∈ gap, isBlank b) : marks gap = 0 :=
  marks_of_forall (by decide) (by decide) h

theorem marks_digits {radix : Nat} {digits : List Char}
    (h : ∀ d ∈ digits, isDigitBelow radix d) : marks digits = 0 :=
  marks_of_forall rfl rfl h

theorem marks_singleton {c : Char} (h : isPlain c ∨ isBlank c) : marks [c] = 0 := by
  rcases h with h | h
  · exact marks_of_forall (by decide) (by decide) (List.forall_mem_singleton.2 h)
  · exact marks_blanks (List.forall_mem_singleton.2 h)

/-- An escape pays for its backslash, and for a quote only if it stands for one. -/
theorem Escape.weight (h : Escape e c s) : 2 + marks e ≤ 2 * e.length + [c].count '"' := by
  cases h with
  | @named x c _ hmem =>
    have hnamed : ∀ p ∈ namedEscapes, marks ['\\', p.1] ≤ 2 + [p.2].count '"' := by decide
    have hle : marks ['\\', x] ≤ 2 + [c].count '"' := hnamed _ hmem
    simp only [List.length_cons, List.length_nil]
    omega
  | octal hne _ hdigits =>
    have hlen := List.length_pos_iff.2 hne
    rw [marks_cons, marks_digits hdigits, List.length_cons, show marks ['\\'] = 1 from rfl]
    omega
  | unicode _ hdigits =>
    rw [marks_cons, marks_cons 'u', marks_digits hdigits, List.length_cons, List.length_cons,
      show marks ['\\'] = 1 from rfl, show marks ['u'] = 0 from rfl]
    omega

theorem Section.weight (h : Section q u) :
    2 * u.length + marks q ≤ 2 * q.length + u.count '"' := by
  induction h with
  | nil => rfl
  | @char c s v hc _ ih =>
    rw [marks_cons, marks_singleton hc, List.length_cons, List.length_cons, ← List.singleton_append,
      List.count_append]
    omega
  | @escape e c s v he _ ih =>
    have := he.weight
    rw [marks_append, List.length_append, List.length_cons, ← List.singleton_append,
      List.count_append]
    omega

theorem Pieces.weight (h : Pieces p v) : 2 * v.length + marks p ≤ 2 * p.length + v.count '"' := by
  induction h with
  | nil => rfl
  | @char c s v hc _ ih =>
    rw [marks_cons, marks_singleton (.inl hc), List.length_cons, List.length_cons,
      ← List.singleton_append, List.count_append]
    omega
  | @escape e c s v he _ ih =>
    have := he.weight
    rw [marks_append, List.length_append, List.length_cons, ← List.singleton_append,
      List.count_append]
    omega
  | @quoted q u s v hq _ ih =>
    have := hq.weight
    rw [marks_append, marks_cons, marks_cons '"' s, show marks ['"'] = 2 from rfl]
    simp only [List.length_append, List.length_cons, List.count_append]
    omega

/-- Each argument pays for the blank in front of it. -/
theorem Arguments.weight (h : Arguments s vs) :
    2 * (vs.flatten.length + vs.length) + marks s ≤ 2 * s.length + vs.flatten.count '"' := by
  induction h with
  | nil hgap => simp [marks_blanks hgap]
  | @word gap w v s vs hne hgap _ hp _ ih =>
    have := hp.weight
    have hlen := List.length_pos_iff.2 hne
    rw [marks_append, marks_append, marks_blanks hgap]
    simp only [List.flatten_cons, List.length_append, List.length_cons, List.count_append]
    omega

end CommandLine

open CommandLine

/-! ## Arguments that are shown -/

namespace Alias

variable {a : Alias} {args : List String} {arg : String}

/-- The text of an argument grows by its quotes alone. -/
theorem weight_shown (arg : String) :
    2 * (shown arg).toList.length + marks arg.toList =
      2 * arg.toList.length + marks (shown arg).toList := by
  unfold shown
  split
  · rw [String.toList_append, String.toList_append, marks_append, marks_append,
      show marks "\"".toList = 2 from rfl]
    simp only [List.length_append, show "\"".toList.length = 1 from rfl]
    omega
  · rfl

/-- The arguments of an alias as they are shown, each after a space. -/
def tail (args : List String) : List Char := args.flatMap fun arg => ' ' :: (shown arg).toList

theorem toList_target (a : Alias) : a.target.toList = a.command.name.toList ++ tail a.args := by
  have hjoin (args : List String) :
      (String.join (args.map fun arg => " " ++ shown arg)).toList = tail args := by
    simp [tail, String.join_eq, List.flatMap, Function.comp_def]
  rw [target, String.toList_append, hjoin]

theorem weight_tail (args : List String) :
    let text := (args.map String.toList).flatten
    2 * (tail args).length + marks text = 2 * (text.length + args.length) + marks (tail args) := by
  induction args with
  | nil => rfl
  | cons arg args ih =>
    have harg := weight_shown arg
    dsimp only at ih
    have hmarks : marks (tail (arg :: args)) = marks (shown arg).toList + marks (tail args) := by
      rw [tail, List.flatMap_cons, List.cons_append, marks_cons, marks_append]
      exact Nat.zero_add _
    have hlen : (tail (arg :: args)).length =
        (shown arg).toList.length + (tail args).length + 1 := by
      simp [tail]
    simp only [hmarks, hlen, List.map_cons, List.flatten_cons, List.length_append, marks_append,
      List.length_cons]
    omega

/-- Arguments that read back have no quotes and backslashes: nothing pays for them. -/
theorem marks_of_arguments_tail (h : Arguments (tail args) (args.map String.toList)) :
    marks (args.map String.toList).flatten = 0 := by
  have hread := h.weight
  have hshown := weight_tail args
  dsimp only at hshown
  rw [List.length_map] at hread
  have hcount : marks (args.map String.toList).flatten =
      2 * (args.map String.toList).flatten.count '"' +
        (args.map String.toList).flatten.count '\\' := rfl
  omega

/-- Without quotes and backslashes, an argument is shown as it is quoted. -/
theorem shown_eq_quoteArg (h : marks arg.toList = 0) : shown arg = quoteArg arg := by
  obtain ⟨hquote, hslash⟩ := marks_eq_zero_iff.1 h
  have hescaped : arg.toList.flatMap escaped = arg.toList := by
    have hself : ∀ c ∈ arg.toList, escaped c = [c] := fun c hc => by
      rw [escaped, if_neg]
      rintro (rfl | rfl)
      · exact hslash hc
      · exact hquote hc
    rw [List.flatMap_congr hself]
    simp
  have hany : (arg.toList.any fun c => isBlank c || c == '"' || c == '\\') =
      arg.toList.any isBlank := by
    rw [Bool.eq_iff_iff, List.any_eq_true, List.any_eq_true]
    refine exists_congr fun c => and_congr_right fun hc => ?_
    have hq : c ≠ '"' := fun h => hquote (h ▸ hc)
    have hs : c ≠ '\\' := fun h => hslash (h ▸ hc)
    simp [hq, hs]
  unfold shown quoteArg
  dsimp only
  simp only [hany, hescaped, String.toList_eq_nil_iff]
  split
  · rw [← String.toList_inj]
    simp
  · rfl

theorem arguments_tail_iff :
    Arguments (tail args) (args.map String.toList) ↔ ∀ arg ∈ args, marks arg.toList = 0 := by
  constructor
  · intro h arg hmem
    obtain ⟨hquote, hslash⟩ := marks_eq_zero_iff.1 (marks_of_arguments_tail h)
    have htext := List.mem_map_of_mem (f := String.toList) hmem
    exact marks_eq_zero_iff.2 ⟨fun hc => hquote (List.mem_flatten_of_mem htext hc),
      fun hc => hslash (List.mem_flatten_of_mem htext hc)⟩
  · intro h
    have htail : tail args = args.flatMap fun arg => ' ' :: (quoteArg arg).toList :=
      List.flatMap_congr fun arg hmem => by rw [shown_eq_quoteArg (h arg hmem)]
    rw [htail]
    exact arguments_flatMap_quoteArg args

theorem ends_tail (args : List String) : Ends (tail args) := by
  intro c hc
  cases args with
  | nil => contradiction
  | cons arg args =>
    cases hc
    rfl

/-- What the text of an alias says, for a name that can be a command name. -/
theorem written_target_iff (hname : a.command.name.toList.all isAlphanumeric)
    (hlower : lowercase a.command.name = a.command.name) :
    Written a.target.toList ⟨a.command.name, a.args⟩ ↔
      a.command.name ≠ "" ∧ ∀ arg ∈ a.args, '"' ∉ arg.toList ∧ '\\' ∉ arg.toList := by
  simp only [← marks_eq_zero_iff, ← arguments_tail_iff]
  rw [toList_target]
  constructor
  · rintro ⟨name, s, hs, hne, hplain, -, hargs⟩
    have hall : ∀ c ∈ a.command.name.toList, isPlain c := fun c hc =>
      isPlain_of_isAlphanumeric (List.all_eq_true.1 hname c hc)
    obtain ⟨rfl, rfl⟩ := name_unique hall (fun c hc => (hplain c hc).1) (ends_tail a.args)
      hargs.ends hs
    exact ⟨by simpa using hne, hargs⟩
  · rintro ⟨hne, hargs⟩
    have h := written_append hne hname hargs
    rwa [hlower] at h

end Alias

namespace Bot

variable {b b' : Bot} {scope : Scope} {name target delimiter : String} {chat : Chat} {a : Alias}

/-- The command of a new alias is registered under its lowercase name. -/
theorem lowercase_name_of_createAlias (hb : b.registry.Bound)
    (h : b.createAlias scope name target chat = .ok (a, b')) :
    lowercase a.command.name = a.command.name := by
  obtain ⟨-, line, entry, registry, htarget, -, rfl, -, -⟩ := createAlias_eq_ok_iff.1 h
  obtain ⟨-, hresolve⟩ := readTarget_eq_some_iff.1 htarget
  exact hb.lowered _ (hb.command_invoke_mem (Registry.resolve_eq_ok_iff.1 hresolve) line.args)

/-- A new bot makes an alias of any text that it reads as an echo. -/
theorem createAlias_echoing {text : String} {args : List String}
    (hread : read "!" (Delimiter.ensure "!" text) = .ok (some ⟨"echo", args⟩)) :
    ∃ b', echoing.createAlias (.chat default) "q" text default =
      .ok (⟨.chat default, "q", Builtin.echo.toCommand, args⟩, b') := by
  rw [← delimiter_echoing default] at hread
  exact ⟨_, createAlias_eq_ok (by decide) (by decide) hread resolve_echoing rfl rfl⟩

/-- **The text of an alias is the command that it stands for, unless an argument has a quote or a
backslash.** Behind any delimiter that the name of the command does not start with, it reads back as
that command with the arguments of the alias exactly when no argument has a character that would
have to be escaped. -/
theorem read_target_iff (hb : Reachable b)
    (h : b.createAlias scope name target chat = .ok (a, b'))
    (hname : a.command.name.toList.all isAlphanumeric) (hd : Delimiter.fault? delimiter = none)
    (hnd : ¬delimiter.toList <+: a.command.name.toList) :
    read delimiter (delimiter ++ a.target) = .ok (some ⟨a.command.name, a.args⟩) ↔
      a.command.name ≠ "" ∧ ∀ arg ∈ a.args, '"' ∉ arg.toList ∧ '\\' ∉ arg.toList := by
  have hlower := lowercase_name_of_createAlias hb.sound.registry h
  have hprefix : ¬delimiter.toList <+: a.target.toList := by
    rw [Alias.toList_target]
    exact Delimiter.not_prefix_append hd hnd (Alias.ends_tail a.args)
  rw [read_append_eq_some_iff (Delimiter.ne_empty_of_fault? hd) String.toList_append,
    and_iff_right hprefix, Alias.written_target_iff hname hlower]

theorem read_target_iff_blanks :
    let a : Alias := ⟨.chat default, "q", Builtin.echo.toCommand, ["a b", ""]⟩
    ∃ b', echoing.createAlias (.chat default) "q" "echo \"a b\" \"\"" default = .ok (a, b') ∧
      read "+" ("+" ++ a.target) = .ok (some ⟨a.command.name, a.args⟩) := by
  intro a
  obtain ⟨b', h⟩ : ∃ b', echoing.createAlias (.chat default) "q" "echo \"a b\" \"\"" default =
      .ok (a, b') := createAlias_echoing (by cbv)
  have hread : read "+" ("+" ++ a.target) = .ok (some ⟨a.command.name, a.args⟩) :=
    (read_target_iff reachable_echoing h (by decide) (by decide) (by decide)).2
      ⟨by decide, by decide⟩
  exact ⟨b', h, hread⟩

/-- The text of an alias for `echo \"hi\"` is read without the quotes. -/
theorem read_target_quotes : ∃ a b',
    echoing.createAlias (.chat default) "q" "echo \\\"hi\\\"" default = .ok (a, b') ∧
      a.command.name.toList.all isAlphanumeric ∧ Delimiter.fault? "!" = none ∧
      ¬"!".toList <+: a.command.name.toList ∧ a.args = ["\"hi\""] ∧
      read "!" ("!" ++ a.target) = .ok (some ⟨a.command.name, ["hi"]⟩) ∧
      read "!" ("!" ++ a.target) ≠ .ok (some ⟨a.command.name, a.args⟩) := by
  obtain ⟨b', h⟩ : ∃ b', echoing.createAlias (.chat default) "q" "echo \\\"hi\\\"" default =
      .ok (⟨.chat default, "q", Builtin.echo.toCommand, ["\"hi\""]⟩, b') :=
    createAlias_echoing (by cbv)
  have hread : read "!" "!echo \"hi\"" = .ok (some ⟨"echo", ["hi"]⟩) := by cbv
  refine ⟨_, b', h, by decide, by decide, by decide, rfl, hread, fun hsame => ?_⟩
  have hargs : ["hi"] = ["\"hi\""] :=
    congrArg CommandLine.args (Option.some.inj (Except.ok.inj (hread.symm.trans hsame)))
  exact absurd hargs (by decide)

end Bot

end ChatBot
