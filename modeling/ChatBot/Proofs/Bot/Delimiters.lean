import ChatBot.Proofs.Bot.Sends

/-!
# Delimiters and command names

Any delimiter can be put in front of any command, but a name that starts with the delimiter itself
makes it a doubled one. Such a command is still called by another spelling of its name, so a chat
can always change its delimiter (`delimiter_reaches_commands`).
-/

namespace ChatBot

open Text

/-- A name that starts with the delimiter makes it a doubled one, which marks plain talk. -/
theorem CommandLine.read_of_prefix {d n : String} (h : d.toList <+: n.toList) :
    read d (d ++ n) = .ok none := by
  rw [read_eq_none_iff]
  rintro ⟨body, -, hbody, -, hnd⟩
  rw [String.toList_append, List.append_cancel_left_eq] at hbody
  exact hnd (hbody ▸ h)

namespace Bot

variable {b b' : Bot} {chat : Chat} {d n : String} {c : Command}

/-! ## Names -/

/-- Nothing comes before the universal command of a name in a chat. -/
structure Unshadowed (b : Bot) (chat : Chat) (name : String) : Prop where
  ofChat : b.registry.alias? (.chat chat) name = none
  ofServer : ∀ s, b.server? chat = some s → b.registry.alias? (.server s) name = none
  ofProtocol : chat.protocol ≠ .universal → b.registry.command? chat.protocol name = none

theorem Unshadowed.resolve (h : b.Unshadowed chat n)
    (hc : b.registry.command? .universal n = some c) : b.resolve n chat = .ok (.command c) := by
  have hserver : ((b.server? chat).bind fun s =>
      (b.registry.alias? (.server s) n).map Entry.alias) = none := by
    rw [Option.bind_eq_none_iff]
    intro s hs
    rw [h.ofServer s hs, Option.map_none]
  refine Registry.resolve_eq_ok_iff.2 ?_
  rw [Registry.find?, h.ofChat, hserver, hc]
  by_cases hprotocol : chat.protocol = .universal
  · rw [hprotocol, hc]
    rfl
  · rw [h.ofProtocol hprotocol]
    rfl

/-! ## Setting a delimiter -/

theorem setDelimiter_eq_ok (b : Bot) (chat : Chat) (hd : Delimiter.fault? d = none) :
    b.setDelimiter chat d = .ok { b with
      delimiters := if d = b.config.defaultDelimiter then b.delimiters.erase chat
        else b.delimiters.insert chat d }.persist := by
  rw [setDelimiter, hd]

theorem delimiter_setDelimiter (h : b.setDelimiter chat d = .ok b') : b'.delimiter chat = d := by
  cases hd : Delimiter.fault? d with
  | some e =>
    rw [setDelimiter, hd] at h
    contradiction
  | none =>
    rw [setDelimiter_eq_ok b chat hd] at h
    cases h
    rw [delimiter]
    dsimp only [persist]
    split
    next hdefault => simp [OrderedMap.get?_erase, hdefault]
    next => simp [OrderedMap.get?_insert]

theorem resolve_setDelimiter (h : b.setDelimiter chat d = .ok b') (name : String) (other : Chat) :
    b'.resolve name other = b.resolve name other := by
  rw [setDelimiter] at h
  split at h
  · contradiction
  · cases h
    rfl

theorem handle_setDelimiter (h : b.setDelimiter chat d = .ok b') (sender : User) (now : Instant) :
    let i : Invocation := ⟨Builtin.setDelimiter.toCommand, [d]⟩
    (b.handle i (b.context chat sender i) now).2 = b' := by
  intro i
  show (Builtin.setDelimiterReply b (b.context chat sender i)).2 = b'
  have harg : (b.context chat sender i).arg? 0 = some d := rfl
  have hchat : (b.context chat sender i).chat = chat := rfl
  rw [Builtin.setDelimiterReply, harg, hchat]
  dsimp only
  rw [h]

/-- The command that sets the delimiter sets it. -/
theorem delimiter_receive_setDelimiter {text : String} (hd : Delimiter.fault? d = none)
    (h : b.invocation? chat text = .ok (some ⟨Builtin.setDelimiter.toCommand, [d]⟩))
    (sender : User) (urls : List String) (now : Instant) :
    (b.receive chat sender text urls now).delimiter chat = d := by
  obtain ⟨cs, hcs⟩ := b.logs_heard chat sender text urls
  have hheard : (b.heard chat sender text urls).invocation? chat text =
      .ok (some ⟨Builtin.setDelimiter.toCommand, [d]⟩) := by
    rw [hcs]
    exact h
  rw [receive_eq]
  dsimp only
  rw [hheard]
  dsimp only
  have hset := setDelimiter_eq_ok (b.heard chat sender text urls) chat hd
  rw [(sameState_run _ chat sender _ now).delimiter, handle_setDelimiter hset]
  exact delimiter_setDelimiter hset

/-! ## Commands after a delimiter -/

theorem invocation?_of_prefix (hd : b.delimiter chat = d) (h : d.toList <+: n.toList) :
    b.invocation? chat (d ++ n) = .ok none := by
  rw [invocation?, hd, CommandLine.read_of_prefix h]
  rfl

theorem invocation?_of_not_prefix {m : String} (hdelimiter : b.delimiter chat = d)
    (hd : Delimiter.fault? d = none) (hn : b.resolve n chat = .ok (.command c))
    (hm : lowercase m = lowercase n) (hne : m ≠ "") (hname : m.toList.all isAlphanumeric)
    (hnd : ¬d.toList <+: m.toList) (args : List String) :
    b.invocation? chat (d ++ " ".intercalate (m :: args.map CommandLine.quoteArg)) =
      .ok (some ⟨c, args⟩) := by
  refine invocation?_eq_some_iff.2 ⟨⟨lowercase m, args⟩, .command c, ?_, ?_, rfl⟩
  · rw [hdelimiter]
    exact CommandLine.read_quoteArgs hd hne hname hnd args
  · rw [hm, resolve_lowercase, hn]

/-- No delimiter starts the same name both in lower and in upper case. -/
theorem exists_not_prefix (hd : d ≠ "") :
    ∃ m ∈ ["setdelimiter", "SETDELIMITER"], ¬d.toList <+: m.toList := by
  obtain ⟨x, t, hx⟩ := List.exists_cons_of_ne_nil (show d.toList ≠ [] by simpa using hd)
  have hhead {m : String} (h : d.toList <+: m.toList) : m.toList.head? = some x := by
    obtain ⟨rest, hrest⟩ := h
    rw [← hrest, hx]
    rfl
  by_cases hlower : d.toList <+: "setdelimiter".toList
  · refine ⟨"SETDELIMITER", by simp, fun hupper => ?_⟩
    have hsame : "setdelimiter".toList.head? = "SETDELIMITER".toList.head? := by
      rw [hhead hlower, hhead hupper]
    exact absurd hsame (by decide)
  · exact ⟨"setdelimiter", by simp, hlower⟩

/-! ## A small bot -/

/-- A bot with a single command, which sets the delimiter. -/
def settable : Bot :=
  ((new .standard default).addCommand? Builtin.setDelimiter.toCommand).getD default

theorem reachable_settable : Reachable settable := by
  have hlowered : Builtin.setDelimiter.toCommand.lowered = Builtin.setDelimiter.toCommand := by
    rw [Command.lowered, show Builtin.setDelimiter.toCommand.name = "setdelimiter" from rfl,
      show lowercase "setdelimiter" = "setdelimiter" by decide]
    rfl
  have h := (Reachable.new .standard default).step (.addCommand Builtin.setDelimiter.toCommand)
  rwa [perform, hlowered] at h

theorem command?_settable : settable.registry.command? .universal "setdelimiter" =
    some Builtin.setDelimiter.toCommand := rfl

theorem unshadowed_settable : settable.Unshadowed default "setdelimiter" where
  ofChat := rfl
  ofServer _ _ := rfl
  ofProtocol _ := rfl

/-! ## All delimiters -/

/-- **Every delimiter reaches every command.** Any text that can be a delimiter is accepted as the
one of a chat. After it a universal command that nothing shadows is called by its name, unless that
starts with the delimiter: then the message is plain talk. By all spellings of its name that do not
start with the delimiter it is called as well, with any arguments. The command that sets the
delimiter always has such a spelling, so the chat can change to any other delimiter. -/
theorem delimiter_reaches_commands (b : Bot) (chat : Chat) (hd : Delimiter.fault? d = none) :
    ∃ b', b.setDelimiter chat d = .ok b' ∧
      (∀ n c, n ≠ "" → n.toList.all isAlphanumeric →
        b.registry.command? .universal n = some c → b.Unshadowed chat n →
          b'.invocation? chat (d ++ n) =
            .ok (if d.toList <+: n.toList then none else some ⟨c, []⟩) ∧
          ∀ m args, lowercase m = lowercase n → m ≠ "" → m.toList.all isAlphanumeric →
            ¬d.toList <+: m.toList →
            b'.invocation? chat (d ++ " ".intercalate (m :: args.map CommandLine.quoteArg)) =
              .ok (some ⟨c, args⟩)) ∧
      (b.registry.command? .universal "setdelimiter" = some Builtin.setDelimiter.toCommand →
        b.Unshadowed chat "setdelimiter" →
        ∃ m ∈ ["setdelimiter", "SETDELIMITER"],
          b'.invocation? chat (d ++ m) = .ok (some ⟨Builtin.setDelimiter.toCommand, []⟩) ∧
          ∀ e sender urls now, Delimiter.fault? e = none →
            (b'.receive chat sender (d ++ " ".intercalate [m, CommandLine.quoteArg e]) urls
              now).delimiter chat = e) := by
  obtain ⟨b', hset⟩ : ∃ b', b.setDelimiter chat d = .ok b' := ⟨_, setDelimiter_eq_ok b chat hd⟩
  have hdelimiter := delimiter_setDelimiter hset
  have hcalls {n : String} {c : Command} (hc : b.registry.command? .universal n = some c)
      (hn : b.Unshadowed chat n) {m : String} := fun hm hne hname hnd =>
    invocation?_of_not_prefix (m := m) hdelimiter hd
      ((resolve_setDelimiter hset n chat).trans (hn.resolve hc)) hm hne hname hnd
  refine ⟨b', hset, fun n c hne hname hc hn => ⟨?_, fun m args hm hne hname hnd =>
    hcalls hc hn hm hne hname hnd args⟩, fun hc hn => ?_⟩
  · split
    next hprefix => exact invocation?_of_prefix hdelimiter hprefix
    next hnd => simpa using hcalls hc hn rfl hne hname hnd []
  · obtain ⟨m, hm, hnd⟩ := exists_not_prefix (Delimiter.ne_empty_of_fault? hd)
    have hspelled : ∀ m ∈ ["setdelimiter", "SETDELIMITER"],
        lowercase m = lowercase "setdelimiter" ∧ m ≠ "" ∧ m.toList.all isAlphanumeric := by
      decide
    obtain ⟨hlower, hne, hname⟩ := hspelled m hm
    have hcall := hcalls hc hn hlower hne hname hnd
    refine ⟨m, hm, by simpa using hcall [], fun e sender urls now he => ?_⟩
    exact delimiter_receive_setDelimiter he (hcall [e]) sender urls now

theorem delimiter_reaches_commands_set :
    ∃ b', settable.setDelimiter default "set" = .ok b' ∧
      b'.invocation? default "setsetdelimiter" = .ok none ∧
      b'.invocation? default "setSetDelimiter \"a\\\\b\"" =
        .ok (some ⟨Builtin.setDelimiter.toCommand, ["a\\b"]⟩) ∧
      ∃ m, (b'.receive default default ("set" ++ " ".intercalate [m, "?"]) [] .epoch).delimiter
        default = "?" := by
  obtain ⟨b', hset, hcommands, hback⟩ :=
    delimiter_reaches_commands settable default (d := "set") (by decide)
  obtain ⟨hnamed, hspelled⟩ := hcommands "setdelimiter" _ (by decide) (by decide) command?_settable
    unshadowed_settable
  obtain ⟨m, -, -, hreceive⟩ := hback command?_settable unshadowed_settable
  exact ⟨b', hset, hnamed, hspelled "SetDelimiter" ["a\\b"] (by decide) (by decide) (by decide)
    (by decide), m, hreceive "?" default [] .epoch (by decide)⟩

/-- A name may start with a text that can be a delimiter, and is not called by itself then. -/
theorem setDelimiter_hidden_by_doubling :
    Reachable settable ∧ Delimiter.fault? "set" = none ∧
      settable.registry.command? .universal "setdelimiter" =
        some Builtin.setDelimiter.toCommand ∧
      settable.Unshadowed default "setdelimiter" ∧
      ∃ b', settable.setDelimiter default "set" = .ok b' ∧
        b'.invocation? default ("set" ++ "setdelimiter") = .ok none := by
  have hset := setDelimiter_eq_ok settable default (d := "set") (by decide)
  exact ⟨reachable_settable, by decide, command?_settable, unshadowed_settable, _, hset,
    invocation?_of_prefix (delimiter_setDelimiter hset) (by decide)⟩

end Bot

end ChatBot
