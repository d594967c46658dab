import ChatBot.Proofs.Text.Lowercase
import ChatBot.Registry

/-!
# Looking up names

What a registry answers after an entry was added. The case of a name never matters, and a new alias
changes nothing but what its own name stands for in its own scope.
-/

namespace ChatBot

open Text

namespace Registry

variable {r r' : Registry} {e : Entry} {a : Alias}

/-! ## Names -/

theorem find?_lowercase (r : Registry) (name : String) (chat : Chat) (server : Option Server) :
    r.find? (lowercase name) chat server = r.find? name chat server := by
  simp only [find?, alias?, command?, lowercase_lowercase]

/-- A name stands for the same in every case of its letters. -/
theorem resolve_lowercase (r : Registry) (name : String) (chat : Chat) (server : Option Server) :
    r.resolve (lowercase name) chat server = r.resolve name chat server := by
  simp only [resolve, find?_lowercase, lowercase_lowercase]

theorem resolve_eq_ok_iff {name : String} {chat : Chat} {server : Option Server} :
    r.resolve name chat server = .ok e ↔ r.find? name chat server = some e := by
  unfold resolve
  cases r.find? name chat server <;> simp

theorem resolve_congr {name : String} {chat : Chat} {server : Option Server}
    (h : r'.find? name chat server = r.find? name chat server) :
    r'.resolve name chat server = r.resolve name chat server := by
  rw [resolve, resolve, h]

/-! ## Adding an entry -/

theorem add?_command_eq_some_iff {c : Command} : r.add? (.command c) = some r' ↔
    r.commandTable.get? c.protocol c.name = none ∧ r' = r.insertCommand c := by
  rw [add?]
  split
  next h =>
    obtain ⟨found, hfound⟩ := Option.isSome_iff_exists.1 h
    simp [hfound]
  next h =>
    rw [and_iff_right (Option.not_isSome_iff_eq_none.1 h), Option.some.injEq, eq_comm]

theorem add?_alias_eq_some_iff : r.add? (.alias a) = some r' ↔
    r.aliasTable.get? a.scope a.name = none ∧ r' = r.insertAlias a := by
  rw [add?]
  split
  next h =>
    obtain ⟨found, hfound⟩ := Option.isSome_iff_exists.1 h
    simp [hfound]
  next h =>
    rw [and_iff_right (Option.not_isSome_iff_eq_none.1 h), Option.some.injEq, eq_comm]

/-- An entry is added where the index has none, and goes there. -/
theorem index_of_add? (h : r.add? e = some r') :
    r.index.get? e.key = none ∧ r'.index = r.index.insert e.key e := by
  cases e with
  | command c =>
    obtain ⟨hfree, rfl⟩ := add?_command_eq_some_iff.1 h
    exact ⟨(r.commands_indexed c.protocol c.name).trans (congrArg _ hfree), rfl⟩
  | «alias» a =>
    obtain ⟨hfree, rfl⟩ := add?_alias_eq_some_iff.1 h
    exact ⟨(r.aliases_indexed a.scope a.name).trans (congrArg _ hfree), rfl⟩

theorem get?_of_add? (h : r.add? e = some r') (k : EntryKey) :
    r'.index.get? k = if e.key = k then some e else r.index.get? k := by
  rw [(index_of_add? h).2, OrderedMap.get?_insert]
  simp only [OrderedMap.isEq_compare_iff]

/-- An alias with a lowercase name is added as it is. -/
theorem addAlias?_of_lowercase (ha : lowercase a.name = a.name) :
    r.addAlias? a = r.add? (.alias a) := by
  unfold addAlias?
  split
  · rw [ha]
  · rfl

theorem command?_of_add?_alias (h : r.add? (.alias a) = some r') (protocol : Protocol)
    (name : String) : r'.command? protocol name = r.command? protocol name := by
  obtain ⟨-, rfl⟩ := add?_alias_eq_some_iff.1 h
  rfl

theorem alias?_of_add?_alias (h : r.add? (.alias a) = some r') (scope : Scope) (name : String) :
    r'.alias? scope name =
      if a.scope = scope ∧ a.name = lowercase name then some a else r.alias? scope name := by
  obtain ⟨-, rfl⟩ := add?_alias_eq_some_iff.1 h
  exact r.aliasTable.get?_insert a.scope scope a.name (lowercase name) a

/-- An alias of a chat comes before all else that its name may stand for. -/
theorem find?_of_add?_alias {name : String} {chat : Chat} (h : r.add? (.alias a) = some r')
    (hscope : a.scope = .chat chat) (hname : a.name = lowercase name) (server : Option Server) :
    r'.find? name chat server = some (.alias a) := by
  rw [find?, alias?_of_add?_alias h, if_pos ⟨hscope, hname⟩]
  rfl

/-- A new alias hides nothing under other names and in other scopes. -/
theorem find?_of_add?_alias_of_ne {name : String} {chat : Chat} {server : Option Server}
    (h : r.add? (.alias a) = some r')
    (hne : a.name = lowercase name →
      a.scope ≠ .chat chat ∧ ∀ s, server = some s → a.scope ≠ .server s) :
    r'.find? name chat server = r.find? name chat server := by
  have hchat : ¬(a.scope = .chat chat ∧ a.name = lowercase name) := fun ⟨hs, hn⟩ =>
    (hne hn).1 hs
  have hserver : (server.bind fun s => (r'.alias? (.server s) name).map Entry.alias) =
      server.bind fun s => (r.alias? (.server s) name).map Entry.alias := by
    cases server with
    | none => rfl
    | some s =>
      have hs : ¬(a.scope = .server s ∧ a.name = lowercase name) := fun ⟨hs, hn⟩ =>
        (hne hn).2 s rfl hs
      rw [Option.bind_some, Option.bind_some, alias?_of_add?_alias h, if_neg hs]
  rw [find?, hserver, alias?_of_add?_alias h, if_neg hchat, command?_of_add?_alias h,
    command?_of_add?_alias h, find?]

end Registry

end ChatBot
