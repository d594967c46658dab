import ChatBot.Proofs.OrderedMap
import ChatBot.Proofs.Registry.Lookup

/-!
# Aliases of registered commands

The aliases of a registry stand for commands that are registered, under names that would be given to
them again (`Registry.Bound`). A registry is therefore known by its commands and the records of its
aliases.
-/

namespace ChatBot

open Text

/-- The alias under the name that a registry gives it. -/
def Alias.normalized (a : Alias) : Alias :=
  if a.name.toList.any isUppercase then { a with name := lowercase a.name } else a

theorem Alias.normalized_normalized (a : Alias) : a.normalized.normalized = a.normalized := by
  rw [normalized.eq_def a]
  split
  next =>
    unfold normalized
    split
    · rw [lowercase_lowercase]
    · rfl
  next h => rw [normalized, if_neg h]

theorem Alias.command_normalized (a : Alias) : a.normalized.command = a.command := by
  unfold normalized
  split <;> rfl

namespace Registry

variable {r r' : Registry} {e : Entry} {a : Alias} {c : Command}

/-! ## What is registered -/

theorem mem_entries_iff : e ∈ r.entries ↔ r.index.get? e.key = some e := by
  rw [entries, OrderedMap.mem_values_iff]
  constructor
  · rintro ⟨k, hk⟩
    rwa [← r.keyed _ (OrderedMap.get?_eq_some_iff.1 hk)]
  · exact fun h => ⟨_, h⟩

theorem get?_eq_some_iff {k : EntryKey} : r.index.get? k = some e ↔ e ∈ r.entries ∧ e.key = k := by
  rw [mem_entries_iff]
  constructor
  · intro h
    have hk : k = e.key := r.keyed _ (OrderedMap.get?_eq_some_iff.1 h)
    subst hk
    exact ⟨h, rfl⟩
  · rintro ⟨h, rfl⟩
    exact h

theorem mem_commands_iff : c ∈ r.commands ↔ .command c ∈ r.entries := by
  rw [commands, List.mem_filterMap]
  constructor
  · rintro ⟨e, he, hc⟩
    cases e with
    | command c' =>
      cases hc
      exact he
    | «alias» => contradiction
  · exact fun h => ⟨_, h, rfl⟩

theorem mem_aliases_iff : a ∈ r.aliases ↔ .alias a ∈ r.entries := by
  rw [aliases, List.mem_filterMap]
  constructor
  · rintro ⟨e, he, ha⟩
    cases e with
    | command => contradiction
    | «alias» a' =>
      cases ha
      exact he
  · exact fun h => ⟨_, h, rfl⟩

/-- The index and the table of commands hold the same commands. -/
theorem get?_commandTable_eq_some_iff {protocol : Protocol} {name : String} :
    r.commandTable.get? protocol name = some c ↔
      c ∈ r.commands ∧ c.protocol = protocol ∧ c.name = name := by
  rw [mem_commands_iff, ← EntryKey.ofCommand_eq_iff]
  refine Iff.trans ?_ get?_eq_some_iff
  rw [r.commands_indexed, Option.map_eq_some_iff]
  simp

/-- The index and the table of aliases hold the same aliases. -/
theorem get?_aliasTable_eq_some_iff {scope : Scope} {name : String} :
    r.aliasTable.get? scope name = some a ↔
      a ∈ r.aliases ∧ a.scope = scope ∧ a.name = name := by
  rw [mem_aliases_iff, ← EntryKey.ofAlias_eq_iff]
  refine Iff.trans ?_ get?_eq_some_iff
  rw [r.aliases_indexed, Option.map_eq_some_iff]
  simp

/-- A look-up finds the command with the protocol and the lowercase name. -/
theorem command?_eq_some_iff {protocol : Protocol} {name : String} :
    r.command? protocol name = some c ↔
      c ∈ r.commands ∧ c.protocol = protocol ∧ c.name = lowercase name :=
  get?_commandTable_eq_some_iff

theorem alias?_eq_some_iff {scope : Scope} {name : String} :
    r.alias? scope name = some a ↔ a ∈ r.aliases ∧ a.scope = scope ∧ a.name = lowercase name :=
  get?_aliasTable_eq_some_iff

/-- No scope has two aliases of one name. -/
theorem eq_of_mem_aliases {a' : Alias} (ha : a ∈ r.aliases) (ha' : a' ∈ r.aliases)
    (hscope : a.scope = a'.scope) (hname : a.name = a'.name) : a = a' := by
  rw [mem_aliases_iff, mem_entries_iff] at ha ha'
  rw [Entry.key, hscope, hname] at ha
  exact Entry.alias.inj (Option.some.inj (ha.symm.trans ha'))

/-- A name stands for a registered entry of that name. -/
theorem entry_of_find? {name : String} {chat : Chat} {server : Option Server}
    (h : r.find? name chat server = some e) : e ∈ r.entries ∧ e.name = lowercase name := by
  have hcommand : ∀ {protocol : Protocol} {c : Command}, r.command? protocol name = some c →
      .command c ∈ r.entries ∧ c.name = lowercase name := fun hc =>
    ⟨mem_commands_iff.1 (command?_eq_some_iff.1 hc).1, (command?_eq_some_iff.1 hc).2.2⟩
  have halias : ∀ {scope : Scope} {a : Alias}, r.alias? scope name = some a →
      .alias a ∈ r.entries ∧ a.name = lowercase name := fun ha =>
    ⟨mem_aliases_iff.1 (alias?_eq_some_iff.1 ha).1, (alias?_eq_some_iff.1 ha).2.2⟩
  simp only [find?, Option.or_eq_some_iff, Option.map_eq_some_iff, Option.bind_eq_some_iff] at h
  rcases h with ⟨a, ha, rfl⟩ | ⟨-, ⟨s, -, a, ha, rfl⟩ | ⟨-, ⟨c, hc, rfl⟩ | ⟨-, c, hc, rfl⟩⟩⟩
  · exact halias ha
  · exact halias ha
  · exact hcommand hc
  · exact hcommand hc

/-- A registry is known by its index. -/
theorem ext_index (h : r.index = r'.index) : r = r' := by
  have hcommands : r.commandTable = r'.commandTable := Table.ext_get? fun protocol name => by
    have hmap := r.commands_indexed protocol name
    rw [h, r'.commands_indexed] at hmap
    exact (Option.map_injective (fun _ _ => Entry.command.inj) hmap).symm
  have haliases : r.aliasTable = r'.aliasTable := Table.ext_get? fun scope name => by
    have hmap := r.aliases_indexed scope name
    rw [h, r'.aliases_indexed] at hmap
    exact (Option.map_injective (fun _ _ => Entry.alias.inj) hmap).symm
  cases r
  cases r'
  cases h
  cases hcommands
  cases haliases
  rfl

/-- A registry is known by its commands and aliases. -/
theorem ext_mem (hcommands : ∀ c, c ∈ r.commands ↔ c ∈ r'.commands)
    (haliases : ∀ a, a ∈ r.aliases ↔ a ∈ r'.aliases) : r = r' := by
  refine ext_index (OrderedMap.ext_get? fun k => Option.ext fun e => ?_)
  rw [get?_eq_some_iff, get?_eq_some_iff]
  refine and_congr_left fun _ => ?_
  cases e with
  | command c => exact mem_commands_iff.symm.trans ((hcommands c).trans mem_commands_iff)
  | «alias» a => exact mem_aliases_iff.symm.trans ((haliases a).trans mem_aliases_iff)

/-! ## Adding and removing -/

theorem mem_entries_of_add? {e' : Entry} (h : r.add? e = some r') :
    e' ∈ r'.entries ↔ e' = e ∨ e' ∈ r.entries := by
  rw [mem_entries_iff, mem_entries_iff, get?_of_add? h]
  split
  next hkey =>
    rw [← hkey, (index_of_add? h).1, Option.some.injEq]
    simp [eq_comm]
  next hkey =>
    rw [or_iff_right]
    rintro rfl
    exact hkey rfl

theorem mem_commands_of_addCommand? {c' : Command} (h : r.addCommand? c = some r') :
    c' ∈ r'.commands ↔ c' = c ∨ c' ∈ r.commands := by
  rw [mem_commands_iff, mem_commands_iff, mem_entries_of_add? h, Entry.command.injEq]

theorem mem_aliases_of_addAlias? {a' : Alias} (h : r.addAlias? a = some r') :
    a' ∈ r'.aliases ↔ a' = a.normalized ∨ a' ∈ r.aliases := by
  rw [mem_aliases_iff, mem_aliases_iff, mem_entries_of_add? h, Entry.alias.injEq]
  rfl

/-- Aliases stay in order when a command is added. -/
theorem aliases_of_addCommand? (h : r.addCommand? c = some r') : r'.aliases = r.aliases := by
  obtain ⟨hfree, hindex⟩ := index_of_add? h
  obtain ⟨xs, ys, hr, hr'⟩ := OrderedMap.exists_values_insert hfree (.command c)
  rw [aliases, aliases, entries, entries, hindex, hr, hr', List.filterMap_append,
    List.filterMap_append]
  rfl

theorem mem_commands_of_addAlias? (h : r.addAlias? a = some r') :
    c ∈ r'.commands ↔ c ∈ r.commands := by
  rw [mem_commands_iff, mem_commands_iff, mem_entries_of_add? h, or_iff_right]
  nofun

/-- An alias is not added if another one has its name in its scope. -/
theorem exists_of_addAlias?_eq_none (h : r.addAlias? a = none) :
    ∃ a' ∈ r.aliases, a'.scope = a.normalized.scope ∧ a'.name = a.normalized.name := by
  cases hfound : r.aliasTable.get? a.normalized.scope a.normalized.name with
  | none =>
    have hadd := add?_alias_eq_some_iff.2 ⟨hfound, rfl⟩
    exact absurd (h.symm.trans hadd) nofun
  | some a' =>
    obtain ⟨hmem, hkey⟩ := get?_aliasTable_eq_some_iff.1 hfound
    exact ⟨a', hmem, hkey⟩

theorem get?_of_removeAlias? {scope : Scope} {name : String}
    (h : r.removeAlias? scope name = some (a, r')) (k : EntryKey) :
    r'.index.get? k = if .ofAlias scope (lowercase name) = k then none else r.index.get? k := by
  obtain ⟨a', -, heq⟩ := Option.map_eq_some_iff.1 h
  obtain ⟨-, rfl⟩ := Prod.mk.inj heq
  rw [eraseAlias, OrderedMap.get?_erase]
  simp only [OrderedMap.isEq_compare_iff]

theorem mem_entries_of_removeAlias? {scope : Scope} {name : String}
    (h : r.removeAlias? scope name = some (a, r')) :
    e ∈ r'.entries ↔ EntryKey.ofAlias scope (lowercase name) ≠ e.key ∧ e ∈ r.entries := by
  rw [mem_entries_iff, mem_entries_iff, get?_of_removeAlias? h]
  split
  next hkey => simp [hkey]
  next hkey => simp [hkey]

/-! ## Aliases of registered commands -/

/-- Commands and aliases have the names that registration gives them, and aliases stand for
registered commands. -/
structure Bound (r : Registry) : Prop where
  lowered : ∀ c ∈ r.commands, lowercase c.name = c.name
  normalized : ∀ a ∈ r.aliases, a.normalized = a
  registered : ∀ a ∈ r.aliases, a.command ∈ r.commands

theorem bound_empty : empty.Bound where
  lowered _ h := nomatch h
  normalized _ h := nomatch h
  registered _ h := nomatch h

namespace Bound

theorem addCommand (h : r.Bound) (hc : lowercase c.name = c.name)
    (hadd : r.addCommand? c = some r') : r'.Bound where
  lowered c' hc' := by
    rcases (mem_commands_of_addCommand? hadd).1 hc' with rfl | hc'
    · exact hc
    · exact h.lowered c' hc'
  normalized a ha := h.normalized a (aliases_of_addCommand? hadd ▸ ha)
  registered a ha :=
    (mem_commands_of_addCommand? hadd).2 (.inr (h.registered a (aliases_of_addCommand? hadd ▸ ha)))

theorem addAlias (h : r.Bound) (ha : a.command ∈ r.commands) (hadd : r.addAlias? a = some r') :
    r'.Bound where
  lowered c hc := h.lowered c ((mem_commands_of_addAlias? hadd).1 hc)
  normalized a' ha' := by
    rcases (mem_aliases_of_addAlias? hadd).1 ha' with rfl | ha'
    · exact a.normalized_normalized
    · exact h.normalized a' ha'
  registered a' ha' := by
    rw [mem_commands_of_addAlias? hadd]
    rcases (mem_aliases_of_addAlias? hadd).1 ha' with rfl | ha'
    · rwa [Alias.command_normalized]
    · exact h.registered a' ha'

theorem removeAlias {scope : Scope} {name : String} (h : r.Bound)
    (hremove : r.removeAlias? scope name = some (a, r')) : r'.Bound := by
  have hcommands : ∀ c, c ∈ r'.commands ↔ c ∈ r.commands := fun c => by
    rw [mem_commands_iff, mem_commands_iff, mem_entries_of_removeAlias? hremove]
    exact and_iff_right EntryKey.ofAlias_ne_ofCommand
  have haliases : ∀ a ∈ r'.aliases, a ∈ r.aliases := fun a ha => by
    rw [mem_aliases_iff, mem_entries_of_removeAlias? hremove] at ha
    exact mem_aliases_iff.2 ha.2
  constructor
  · exact fun c hc => h.lowered c ((hcommands c).1 hc)
  · exact fun a ha => h.normalized a (haliases a ha)
  · exact fun a ha => (hcommands _).2 (h.registered a (haliases a ha))

/-- A registered command is what its own protocol and name are looked up to. -/
theorem command?_eq_of_mem (h : r.Bound) (hc : c ∈ r.commands) :
    r.command? c.protocol c.name = some c :=
  command?_eq_some_iff.2 ⟨hc, rfl, (h.lowered c hc).symm⟩

/-- What a name stands for runs a registered command. -/
theorem command_invoke_mem {name : String} {chat : Chat} {server : Option Server} (h : r.Bound)
    (hfind : r.find? name chat server = some e) (args : List String) :
    (e.invoke args).command ∈ r.commands := by
  have he := (entry_of_find? hfind).1
  cases e with
  | command c => exact mem_commands_iff.2 he
  | «alias» a => exact h.registered a (mem_aliases_iff.2 he)

end Bound

end Registry

end ChatBot
