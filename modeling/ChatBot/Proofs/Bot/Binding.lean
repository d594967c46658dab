import ChatBot.Proofs.Bot.Recovery

/-!
# What aliases are bound to

An alias is bound to a registered command when it is created or restored, not to the text that it
was created for. It is bound to the same command with the same arguments until it is removed itself
(`aliases_stay_bound`).
-/

namespace ChatBot

open Text

/-- Whether a change removes the alias of a scope under a name. -/
def Change.Removes (scope : Scope) (name : String) : Change → Prop
  | .removeAlias scope' name' => scope' = scope ∧ lowercase name' = name
  | _ => False

namespace Bot

variable {b b' p : Bot} {c : Change} {scope : Scope} {name : String} {a : Alias}

/-- Nothing that some operations may attempt removes the alias of a scope under a name. -/
def Spared (scope : Scope) (name : String) : Bot → List Operation → Prop
  | _, [] => True
  | b, op :: ops =>
    (∀ c, b.OpAttempts op c → ¬c.Removes scope name) ∧ Spared scope name (b.perform op) ops

/-! ## An alias stays -/

theorem Made.get?_aliasTable (h : b.Made c b') (hc : ¬c.Removes scope name)
    (ha : b.registry.aliasTable.get? scope name = some a) :
    b'.registry.aliasTable.get? scope name = some a := by
  cases h with
  | createAlias _ hadd =>
    rw [Registry.get?_aliasTable_eq_some_iff] at ha ⊢
    exact ⟨(Registry.mem_aliases_of_addAlias? hadd).2 (.inr ha.1), ha.2⟩
  | removeAlias hremove =>
    rw [Registry.get?_aliasTable_eq_some_iff] at ha ⊢
    rw [Registry.mem_aliases_iff] at ha ⊢
    refine ⟨(Registry.mem_entries_of_removeAlias? hremove).2 ⟨fun hkey => hc ?_, ha.1⟩, ha.2⟩
    rw [← ha.2.1, ← ha.2.2]
    exact EntryKey.ofAlias_eq_iff.1 hkey
  | resetDelimiter | setDelimiter | schedule | unschedule | link | unlink | startTimer
    | stopTimer => exact ha

theorem get?_aliasTable_attempt (h : b.Sound) (hc : ¬c.Removes scope name)
    (ha : b.registry.aliasTable.get? scope name = some a) :
    (b.attempt c).2.registry.aliasTable.get? scope name = some a := by
  rcases attempt_cases h c with heq | ⟨made, hmade, heq⟩
  · rw [heq]
    exact ha
  · rw [heq]
    exact hmade.get?_aliasTable hc ha

theorem GoesBy.get?_aliasTable {may : Change → Prop} (hp : b.GoesBy may p) (h : b.Sound)
    (hmay : ∀ c, may c → ¬c.Removes scope name)
    (ha : b.registry.aliasTable.get? scope name = some a) :
    p.registry.aliasTable.get? scope name = some a := by
  induction hp with
  | refl => exact ha
  | aside _ hs ih =>
    rw [hs.registry]
    exact ih
  | change hp hc ih => exact get?_aliasTable_attempt (hp.sound h) (hmay _ hc) ih

/-- An operation that does not attempt to remove an alias leaves it as it is. -/
theorem Performed.get?_aliasTable {op : Operation} (hp : b.Performed op b') (h : b.Sound)
    (hop : ∀ c, b.OpAttempts op c → ¬c.Removes scope name)
    (ha : b.registry.aliasTable.get? scope name = some a) :
    b'.registry.aliasTable.get? scope name = some a := by
  cases hp with
  | course hp => exact hp.get?_aliasTable h hop ha
  | @tick now clock lateness _ hp =>
    refine hp.get?_aliasTable (h.takeDue now lateness) hop ?_
    unfold takeDue
    dsimp only
    split
    · exact ha
    · exact ha
  | addCommand hadd =>
    obtain ⟨registry, hregistry, rfl⟩ := Option.map_eq_some_iff.1 hadd
    rw [Registry.get?_aliasTable_eq_some_iff] at ha ⊢
    rwa [Registry.aliases_of_addCommand? hregistry]
  | scheduleTask => exact ha
  | persist => exact ha
  | restore =>
    rw [restoreSnapshot_eq]
    exact Registry.get?_foldl_restoreAlias_of_eq_some ha _
  | restoreNothing => exact ha

theorem get?_aliasTable_foldl_perform {ops : List Operation} (h : b.Sound)
    (hops : b.Spared scope name ops) (ha : b.registry.aliasTable.get? scope name = some a) :
    (ops.foldl perform b).registry.aliasTable.get? scope name = some a := by
  induction ops generalizing b with
  | nil => exact ha
  | cons op ops ih =>
    have hop := b.performed op
    exact ih (hop.sound h) hops.2 (hop.get?_aliasTable h hops.1 ha)

/-! ## An alias is created -/

/-- If an entry is the alias of a scope under a name, that name is taken. -/
theorem isAlias_eq_false {entry : Entry} {text : String} {chat : Chat}
    (hresolve : b.resolve text chat = .ok entry)
    (hfree : b.registry.aliasTable.get? scope name = none) :
    isAlias scope name entry = false := by
  cases entry with
  | command => rfl
  | «alias» a =>
    refine decide_eq_false ?_
    rintro ⟨rfl, rfl⟩
    have hentry := (Registry.entry_of_find? (Registry.resolve_eq_ok_iff.1 hresolve)).1
    have htaken := Registry.get?_aliasTable_eq_some_iff.2
      ⟨Registry.mem_aliases_iff.2 hentry, rfl, rfl⟩
    exact absurd (hfree.symm.trans htaken) nofun

/-- An alias under a free name for a command that is known is created. -/
theorem createAlias_eq_ok {m target : String} {chat : Chat} {line : CommandLine} {entry : Entry}
    {command : Command} {args : List String}
    (hname : name ≠ "" ∧ name.toList.all isAlphanumeric) (hm : lowercase name = m)
    (hread : CommandLine.read (b.delimiter chat) (Delimiter.ensure (b.delimiter chat) target) =
      .ok (some line))
    (hresolve : b.resolve line.name chat = .ok entry)
    (hinvoke : entry.invoke line.args = ⟨command, args⟩)
    (hfree : b.registry.aliasTable.get? scope m = none) :
    b.createAlias scope name target chat = .ok (⟨scope, m, command, args⟩,
      { b with registry := b.registry.insertAlias ⟨scope, m, command, args⟩ }.persist) := by
  subst hm
  refine createAlias_eq_ok_iff.2 ⟨hname, line, entry, _,
    readTarget_eq_some_iff.2 ⟨hread, hresolve⟩, isAlias_eq_false hresolve hfree, ?_,
    Registry.add?_alias_eq_some_iff.2 ⟨hfree, rfl⟩, rfl⟩
  rw [hinvoke]

theorem createAlias_isOk_iff {target : String} {chat : Chat} :
    (∃ r, b.createAlias scope name target chat = .ok r) ↔
      (name ≠ "" ∧ name.toList.all isAlphanumeric) ∧
      (∃ line entry, CommandLine.read (b.delimiter chat)
        (Delimiter.ensure (b.delimiter chat) target) = .ok (some line) ∧
          b.resolve line.name chat = .ok entry) ∧
      b.registry.alias? scope name = none := by
  constructor
  · rintro ⟨⟨a, b'⟩, h⟩
    obtain ⟨hname, line, entry, registry, htarget, -, rfl, hadd, -⟩ := createAlias_eq_ok_iff.1 h
    exact ⟨hname, ⟨line, entry, readTarget_eq_some_iff.1 htarget⟩,
      (Registry.add?_alias_eq_some_iff.1 hadd).1⟩
  · rintro ⟨hname, ⟨line, entry, hread, hresolve⟩, hfree⟩
    exact ⟨_, createAlias_eq_ok hname rfl hread hresolve rfl hfree⟩

theorem Reachable.createAlias {target : String} {chat : Chat} (h : Reachable b)
    (hcreate : b.createAlias scope name target chat = .ok (a, b')) : Reachable b' := by
  have hstep := h.step (.change (.createAlias scope name target chat))
  rwa [perform, attempt, hcreate] at hstep

/-- **Aliases stay bound.** In every bot that comes of a new one, whatever was restored on the way,
an alias holds the command that is registered under the protocol and the name of that command, so
what a name stands for is a registered command, or an alias of one. Once there is an alias in a
scope under a name, it is the same alias until it is removed from that scope itself, whatever is
done to others. An alias can be created just if its name can be one and is free in the scope, and
the target is a command that is known in the chat; otherwise nothing changes. -/
theorem aliases_stay_bound (h : Reachable b) :
    (∀ a ∈ b.registry.aliases,
      b.registry.command? a.command.protocol a.command.name = some a.command) ∧
    (∀ name chat entry, b.resolve name chat = .ok entry → ∃ c args,
      b.registry.command? c.protocol c.name = some c ∧
      ∀ typed, entry.invoke typed = ⟨c, args ++ typed⟩) ∧
    (∀ scope name a ops, b.registry.aliasTable.get? scope name = some a →
      b.Spared scope name ops →
        (ops.foldl perform b).registry.aliasTable.get? scope name = some a) ∧
    (∀ scope name target chat, (∃ r, b.createAlias scope name target chat = .ok r) ↔
      (name ≠ "" ∧ name.toList.all isAlphanumeric) ∧
      (∃ line entry, CommandLine.read (b.delimiter chat)
        (Delimiter.ensure (b.delimiter chat) target) = .ok (some line) ∧
          b.resolve line.name chat = .ok entry) ∧
      b.registry.alias? scope name = none) ∧
    ∀ scope name target chat e, b.createAlias scope name target chat = .error e →
      b.attempt (.createAlias scope name target chat) = (false, b) := by
  have hbound := h.sound.registry
  refine ⟨fun a ha => hbound.command?_eq_of_mem (hbound.registered a ha),
    fun name chat entry hentry => ?_,
    fun scope name a ops ha hops => get?_aliasTable_foldl_perform h.sound hops ha,
    fun scope name target chat => createAlias_isOk_iff, fun scope name target chat e he => ?_⟩
  · have hmem := (Registry.entry_of_find? (Registry.resolve_eq_ok_iff.1 hentry)).1
    cases entry with
    | command c =>
      exact ⟨c, [], hbound.command?_eq_of_mem (Registry.mem_commands_iff.2 hmem), fun _ => rfl⟩
    | «alias» a =>
      have hcommand := hbound.registered a (Registry.mem_aliases_iff.2 hmem)
      exact ⟨a.command, a.args, hbound.command?_eq_of_mem hcommand, fun _ => rfl⟩
  · rw [attempt, he]

/-- An alias of an alias outlives it. -/
theorem aliases_stay_bound_flattened :
    let scope : Scope := .chat default
    let echo := Builtin.echo.toCommand
    let two : Alias := ⟨scope, "two", echo, ["a", "b"]⟩
    ∃ b₁ b₂, echoing.createAlias scope "one" "echo a" default =
        .ok (⟨scope, "one", echo, ["a"]⟩, b₁) ∧
      b₁.createAlias scope "two" "one b" default = .ok (two, b₂) ∧
      ([.change (.removeAlias scope "One"),
        .change (.createAlias scope "one" "two c" default)].foldl perform
          b₂).registry.aliasTable.get? scope "two" = some two ∧
      b₂.registry.command? .universal "echo" = some echo ∧
      ¬∃ r, b₂.createAlias scope "TWO" "echo" default = .ok r := by
  intro scope echo two
  let one : Alias := ⟨scope, "one", echo, ["a"]⟩
  let b₁ := { echoing with registry := echoing.registry.insertAlias one }.persist
  let b₂ := { b₁ with registry := b₁.registry.insertAlias two }.persist
  have hone : echoing.createAlias scope "one" "echo a" default = .ok (one, b₁) := by
    have hread : CommandLine.read (echoing.delimiter default)
        (Delimiter.ensure (echoing.delimiter default) "echo a") =
          .ok (some ⟨"echo", ["a"]⟩) := by cbv
    exact createAlias_eq_ok (by decide) (by decide) hread resolve_echoing rfl rfl
  have htwo : b₁.createAlias scope "two" "one b" default = .ok (two, b₂) := by
    have hread : CommandLine.read (b₁.delimiter default)
        (Delimiter.ensure (b₁.delimiter default) "one b") = .ok (some ⟨"one", ["b"]⟩) := by cbv
    refine createAlias_eq_ok (by decide) (by decide) hread (resolve_of_createAlias hone) rfl ?_
    exact (echoing.registry.aliasTable.get?_insert scope scope "one" "two" one).trans
      (if_neg (by decide))
  have hget : b₂.registry.aliasTable.get? scope "two" = some two :=
    (b₁.registry.aliasTable.get?_insert scope scope "two" "two" two).trans (if_pos ⟨rfl, rfl⟩)
  obtain ⟨hcommand, -, hstay, hcreate, -⟩ :=
    aliases_stay_bound ((reachable_echoing.createAlias hone).createAlias htwo)
  refine ⟨b₁, b₂, hone, htwo, hstay scope "two" two _ hget ⟨?_, ?_, trivial⟩,
    hcommand two (Registry.get?_aliasTable_eq_some_iff.1 hget).1, fun hagain => ?_⟩
  · rintro c rfl ⟨-, hname⟩
    exact absurd hname (by decide)
  · rintro c rfl
    exact id
  · have hfree := ((hcreate scope "TWO" "echo" default).1 hagain).2.2
    rw [Registry.alias?, show lowercase "TWO" = "two" by decide, hget] at hfree
    contradiction

end Bot

end ChatBot
