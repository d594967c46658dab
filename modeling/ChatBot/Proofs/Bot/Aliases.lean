import ChatBot.Proofs.Bot.Resolution
import ChatBot.Proofs.CommandLine.Continuation
import ChatBot.Proofs.CommandLine.Quoting

/-!
# What an alias means

An alias stands for the text that it was created for: what is typed after its name runs as if it
were typed after that text (`createAlias_means_target`). Nothing else changes its meaning.
-/

namespace ChatBot

open Text

/-! ## Targets -/

namespace Delimiter

/-- A text without a delimiter in front. Only one is left out. -/
def bare (delimiter text : String) : String :=
  if delimiter.toList <+: text.toList then
    String.ofList (text.toList.drop delimiter.toList.length)
  else text

theorem ensure_eq_append_bare (delimiter text : String) :
    ensure delimiter text = delimiter ++ bare delimiter text := by
  unfold ensure bare
  split
  next h =>
    rw [← String.toList_inj, String.toList_append, String.toList_ofList]
    exact (List.prefix_iff_eq_append.1 h).symm
  next => rfl

end Delimiter

/-- Arguments that are typed come after all others. -/
theorem Entry.invoke_append (e : Entry) (xs ys : List String) :
    e.invoke (xs ++ ys) = ⟨(e.invoke xs).command, (e.invoke xs).args ++ ys⟩ := by
  cases e with
  | command => rfl
  | «alias» => simp [Entry.invoke, Alias.expand]

namespace Bot

variable {b b' : Bot} {chat : Chat} {name target : String} {a : Alias}

/-! ## Creation -/

theorem createAlias_eq_ok_iff {scope : Scope} :
    b.createAlias scope name target chat = .ok (a, b') ↔
      (name ≠ "" ∧ name.toList.all isAlphanumeric) ∧ ∃ line entry registry,
        b.readTarget chat target = .ok (some (line, entry)) ∧
          isAlias scope (lowercase name) entry = false ∧
          a = ⟨scope, lowercase name, (entry.invoke line.args).command,
            (entry.invoke line.args).args⟩ ∧
          b.registry.add? (.alias a) = some registry ∧ b' = { b with registry }.persist := by
  unfold createAlias
  split
  next h =>
    simp only [reduceCtorEq, false_iff, not_and]
    intro hname
    rcases h with h | h
    · exact absurd h hname.1
    · exact absurd hname.2 h
  next h =>
    rw [not_or, not_not] at h
    rw [and_iff_right h]
    dsimp only
    split
    next e he => simp [he]
    next he => simp [he]
    next line entry he =>
      rw [Registry.addAlias?_of_lowercase (a := ⟨scope, lowercase name, _, _⟩)
        (lowercase_lowercase name)]
      split
      next hcycle => simp [he, hcycle]
      next hcycle =>
        rw [Bool.not_eq_true] at hcycle
        split
        next hadd =>
          simp only [he, Except.ok.injEq, Option.some.injEq, Prod.mk.injEq, reduceCtorEq,
            false_iff, not_exists, not_and]
          rintro line' entry' registry ⟨rfl, rfl⟩ - rfl hreg
          rw [hadd] at hreg
          contradiction
        next registry hadd =>
          simp only [he, Except.ok.injEq, Option.some.injEq, Prod.mk.injEq]
          constructor
          · rintro ⟨rfl, rfl⟩
            exact ⟨line, entry, registry, ⟨rfl, rfl⟩, hcycle, rfl, hadd, rfl⟩
          · rintro ⟨line', entry', registry', ⟨rfl, rfl⟩, -, rfl, hadd', rfl⟩
            rw [hadd] at hadd'
            cases hadd'
            exact ⟨rfl, rfl⟩

/-! ## Meaning -/

/-- What a message runs that goes on after a command. -/
theorem invocation?_append_iff {body : String} {line : CommandLine} {i : Invocation}
    (rest : String) (hd : Delimiter.fault? (b.delimiter chat) = none)
    (hnd : ¬(b.delimiter chat).toList <+: body.toList)
    (h : CommandLine.Written body.toList line) :
    b.invocation? chat (b.delimiter chat ++ body ++ " " ++ rest) = .ok (some i) ↔
      ∃ more entry, CommandLine.Arguments (' ' :: rest.toList) (more.map String.toList) ∧
        b.resolve line.name chat = .ok entry ∧
        i = ⟨(entry.invoke line.args).command, (entry.invoke line.args).args ++ more⟩ := by
  rw [invocation?_eq_some_iff]
  simp only [CommandLine.read_append_iff rest hd hnd h]
  constructor
  · rintro ⟨found, entry, ⟨more, hmore, rfl⟩, hres, rfl⟩
    exact ⟨more, entry, hmore, hres, entry.invoke_append _ _⟩
  · rintro ⟨more, entry, hmore, hres, rfl⟩
    exact ⟨_, entry, ⟨more, hmore, rfl⟩, hres, entry.invoke_append _ _⟩

theorem delimiter_of_createAlias {scope : Scope}
    (h : b.createAlias scope name target chat = .ok (a, b')) (other : Chat) :
    b'.delimiter other = b.delimiter other := by
  obtain ⟨-, line, entry, registry, -, -, -, -, rfl⟩ := createAlias_eq_ok_iff.1 h
  rfl

/-- A new alias is what its name stands for in its chat. -/
theorem resolve_of_createAlias (h : b.createAlias (.chat chat) name target chat = .ok (a, b')) :
    b'.resolve name chat = .ok (.alias a) := by
  obtain ⟨-, line, entry, registry, -, -, rfl, hadd, rfl⟩ := createAlias_eq_ok_iff.1 h
  exact Registry.resolve_eq_ok_iff.2 (Registry.find?_of_add?_alias hadd rfl rfl _)

/-- A new alias hides nothing under other names and in other chats. -/
theorem resolve_of_createAlias_of_ne {other : Chat} {m : String}
    (h : b.createAlias (.chat chat) name target chat = .ok (a, b'))
    (hne : lowercase m = lowercase name → other ≠ chat) :
    b'.resolve m other = b.resolve m other := by
  obtain ⟨-, line, entry, registry, -, -, rfl, hadd, rfl⟩ := createAlias_eq_ok_iff.1 h
  refine Registry.resolve_congr (Registry.find?_of_add?_alias_of_ne hadd fun hm => ⟨?_, nofun⟩)
  intro hscope
  exact hne hm.symm (Scope.chat.inj hscope).symm

/-- **An alias stands for its target.** What is typed after its name runs exactly what it ran after
the text that the alias was created for, and all other names, and all names in other chats, go on to
stand for what they stood for. -/
theorem createAlias_means_target (hd : Delimiter.fault? (b.delimiter chat) = none)
    (hnd : ¬(b.delimiter chat).toList <+: name.toList)
    (h : b.createAlias (.chat chat) name target chat = .ok (a, b')) :
    (∀ rest i, b'.invocation? chat (b.delimiter chat ++ name ++ " " ++ rest) = .ok (some i) ↔
      b.invocation? chat (b.delimiter chat ++ Delimiter.bare (b.delimiter chat) target ++ " " ++
        rest) = .ok (some i)) ∧
    (∀ m, lowercase m ≠ lowercase name → b'.resolve m chat = b.resolve m chat) ∧
    ∀ other ≠ chat, ∀ m, b'.resolve m other = b.resolve m other := by
  refine ⟨fun rest i => ?_, fun m hm => resolve_of_createAlias_of_ne h (absurd · hm),
    fun other hother m => resolve_of_createAlias_of_ne h fun _ => hother⟩
  have hname := resolve_of_createAlias h
  have hdel := delimiter_of_createAlias h chat
  obtain ⟨hvalid, line, entry, registry, htarget, -, rfl, -, -⟩ := createAlias_eq_ok_iff.1 h
  obtain ⟨hread, hres⟩ := readTarget_eq_some_iff.1 htarget
  rw [Delimiter.ensure_eq_append_bare, CommandLine.read_append_eq_some_iff
    (Delimiter.ne_empty_of_fault? hd) String.toList_append] at hread
  rw [invocation?_append_iff rest hd hread.1 hread.2]
  have hwritten : CommandLine.Written name.toList ⟨lowercase name, []⟩ := by
    have hnil : CommandLine.Arguments [] (([] : List String).map String.toList) := .nil nofun
    simpa using CommandLine.written_append hvalid.1 hvalid.2 hnil
  -- Both sides now run a fixed entry with the arguments of the same text.
  rw [← hdel] at hd hnd ⊢
  rw [invocation?_append_iff rest hd hnd hwritten, resolve_lowercase]
  constructor
  · rintro ⟨more, found, hmore, hfound, rfl⟩
    obtain rfl := Except.ok.inj (hname.symm.trans hfound)
    refine ⟨more, entry, hmore, hres, ?_⟩
    simp [Entry.invoke, Alias.expand]
  · rintro ⟨more, found, hmore, hfound, rfl⟩
    obtain rfl := Except.ok.inj (hres.symm.trans hfound)
    refine ⟨more, _, hmore, hname, ?_⟩
    simp [Entry.invoke, Alias.expand]

theorem createAlias_means_target_echo :
    ∃ a b', echoing.createAlias (.chat default) "Echo" "!echo \"a b\"" default = .ok (a, b') ∧
      b'.invocation? default "!Echo c" = .ok (some ⟨Builtin.echo.toCommand, ["a b", "c"]⟩) ∧
      b'.resolve "ping" default = echoing.resolve "ping" default := by
  have htarget : echoing.readTarget default "!echo \"a b\"" =
      .ok (some (⟨"echo", ["a b"]⟩, .command Builtin.echo.toCommand)) := by
    rw [readTarget_eq_some_iff, delimiter_echoing]
    exact ⟨by cbv, resolve_echoing⟩
  have hrun : echoing.invocation? default "!echo \"a b\" c" =
      .ok (some ⟨Builtin.echo.toCommand, ["a b", "c"]⟩) := by
    rw [invocation?_eq_some_iff, delimiter_echoing]
    exact ⟨⟨"echo", ["a b", "c"]⟩, _, by cbv, resolve_echoing, rfl⟩
  obtain ⟨registry, hadd⟩ : ∃ registry, echoing.registry.add?
      (.alias ⟨.chat default, lowercase "Echo", Builtin.echo.toCommand, ["a b"]⟩) = some registry :=
    Option.isSome_iff_exists.1 (by decide)
  have hecho : "Echo" ≠ "" ∧ "Echo".toList.all isAlphanumeric := by decide
  have h := createAlias_eq_ok_iff.2 ⟨hecho, _, _, registry, htarget, rfl, rfl, hadd, rfl⟩
  have hmeans := createAlias_means_target (by decide) (by decide) h
  exact ⟨_, _, h, (hmeans.1 "c" _).2 hrun, hmeans.2.1 "ping" (by decide)⟩
end Bot

end ChatBot
