import ChatBot.Proofs.Registry.Listing

/-!
# The registry as two maps

A vocabulary is a map of commands and a map of aliases, and nothing else. A registry answers its
calls and all queries as the vocabulary does that the same calls make
(`Registry.refines_vocabulary`).
-/

namespace ChatBot

open Text

namespace Registry

/-! ## Calls -/

/-- A call that may change a registry. -/
inductive Call
  | addCommand (c : Command)
  | addAlias (a : Alias)
  | removeAlias (scope : Scope) (name : String)

/-- What a call gives back. -/
inductive Answer
  | added (done : Bool)
  | removed (found : Option Alias)

/-- Whether a call was of no effect. -/
def Answer.Refused : Answer → Prop
  | .added done => done = false
  | .removed found => found = none

/-- A new alias has its name in lowercase. -/
def Call.Lowered : Call → Prop
  | .addAlias a => lowercase a.name = a.name
  | _ => True

/-- Makes a call of a registry. -/
def perform (r : Registry) : Call → Answer × Registry
  | .addCommand c =>
    match r.addCommand? c with
    | some r => (.added true, r)
    | none => (.added false, r)
  | .addAlias a =>
    match r.addAlias? a with
    | some r => (.added true, r)
    | none => (.added false, r)
  | .removeAlias scope name =>
    match r.removeAlias? scope name with
    | some (a, r) => (.removed (some a), r)
    | none => (.removed none, r)

/-- The registry after some calls of an empty one. -/
def after (calls : List Call) : Registry := calls.foldl (fun r c => (r.perform c).2) empty

end Registry

open Registry (Call Answer)

/-! ## Vocabularies -/

/-- The commands by protocol and name, and the aliases by scope and name. -/
structure Vocabulary where
  commands : Protocol × String → Option Command
  aliases : Scope × String → Option Alias

namespace Vocabulary

def empty : Vocabulary := ⟨fun _ => none, fun _ => none⟩

/-- The vocabulary with a command under its protocol and name. -/
def putCommand (v : Vocabulary) (c : Command) : Vocabulary :=
  { v with commands := Function.update v.commands (c.protocol, c.name) (some c) }

/-- The vocabulary with an alias or none under a scope and a name. -/
def setAlias (v : Vocabulary) (scope : Scope) (name : String) (found : Option Alias) :
    Vocabulary :=
  { v with aliases := Function.update v.aliases (scope, name) found }

theorem commands_putCommand (v : Vocabulary) (c : Command) (key : Protocol × String) :
    (v.putCommand c).commands key =
      if key = (c.protocol, c.name) then some c else v.commands key :=
  Function.update_apply ..

theorem aliases_setAlias (v : Vocabulary) (scope : Scope) (name : String) (found : Option Alias)
    (key : Scope × String) :
    (v.setAlias scope name found).aliases key =
      if key = (scope, name) then found else v.aliases key :=
  Function.update_apply ..

/-- Makes a call of a vocabulary. -/
def perform (v : Vocabulary) : Call → Answer × Vocabulary
  | .addCommand c =>
    match v.commands (c.protocol, c.name) with
    | some _ => (.added false, v)
    | none => (.added true, v.putCommand c)
  | .addAlias a =>
    match v.aliases (a.scope, a.name) with
    | some _ => (.added false, v)
    | none => (.added true, v.setAlias a.scope a.name (some a))
  | .removeAlias scope name =>
    match v.aliases (scope, lowercase name) with
    | some a => (.removed (some a), v.setAlias scope (lowercase name) none)
    | none => (.removed none, v)

/-- The vocabulary after some calls of an empty one. -/
def after (calls : List Call) : Vocabulary := calls.foldl (fun v c => (v.perform c).2) empty

/-- What a name stands for in a chat: the alias of the chat, else the alias of the server, else the
command of the protocol, else the universal command. -/
def resolve (v : Vocabulary) (name : String) (chat : Chat) (server : Option Server) :
    Except DispatchError Entry :=
  let name := lowercase name
  match v.aliases (.chat chat, name), server.bind fun s => v.aliases (.server s, name),
    v.commands (chat.protocol, name), v.commands (.universal, name) with
  | some a, _, _, _ => .ok (.alias a)
  | none, some a, _, _ => .ok (.alias a)
  | none, none, some c, _ => .ok (.command c)
  | none, none, none, some c => .ok (.command c)
  | none, none, none, none => .error (.commandNotFound name)

end Vocabulary

namespace Registry

variable {r : Registry} {v : Vocabulary}

/-- A registry gives the answers of a vocabulary to all queries. -/
structure Agrees (r : Registry) (v : Vocabulary) : Prop where
  command? : ∀ protocol name, r.command? protocol name = v.commands (protocol, lowercase name)
  alias? : ∀ scope name, r.alias? scope name = v.aliases (scope, lowercase name)
  resolve : ∀ name chat server, r.resolve name chat server = v.resolve name chat server
  mem_commands : ∀ c, c ∈ r.commands ↔ ∃ key, v.commands key = some c
  commands_ascending :
    r.commands.Pairwise fun c d => compare (Entry.command c).key (Entry.command d).key = .lt
  mem_aliases : ∀ a, a ∈ r.aliases ↔ ∃ key, v.aliases key = some a
  aliases_ascending :
    r.aliases.Pairwise fun a b => compare (Entry.alias a).key (Entry.alias b).key = .lt
  mem_aliasesIn : ∀ scope a, a ∈ r.aliasesIn scope ↔ ∃ name, v.aliases (scope, name) = some a
  aliasesIn_ascending : ∀ scope,
    (r.aliasesIn scope).Pairwise fun a b => compare a.name b.name = .lt

/-- The tables of a registry are the maps of a vocabulary. -/
structure Represents (r : Registry) (v : Vocabulary) : Prop where
  commands : ∀ protocol name, r.commandTable.get? protocol name = v.commands (protocol, name)
  aliases : ∀ scope name, r.aliasTable.get? scope name = v.aliases (scope, name)

theorem represents_empty : empty.Represents .empty where
  commands _ _ := rfl
  aliases _ _ := rfl

namespace Represents

theorem insertCommand (h : r.Represents v) (c : Command) :
    (r.insertCommand c).Represents (v.putCommand c) where
  commands protocol name := by
    rw [Vocabulary.commands_putCommand, ← h.commands]
    refine (r.commandTable.get?_insert c.protocol protocol c.name name c).trans ?_
    simp only [Prod.mk.injEq, eq_comm]
  aliases := h.aliases

theorem insertAlias (h : r.Represents v) (a : Alias) :
    (r.insertAlias a).Represents (v.setAlias a.scope a.name (some a)) where
  commands := h.commands
  aliases scope name := by
    rw [Vocabulary.aliases_setAlias, ← h.aliases]
    refine (r.aliasTable.get?_insert a.scope scope a.name name a).trans ?_
    simp only [Prod.mk.injEq, eq_comm]

theorem eraseAlias (h : r.Represents v) (scope : Scope) (name : String) :
    (r.eraseAlias scope name).Represents (v.setAlias scope name none) where
  commands := h.commands
  aliases scope' name' := by
    rw [Vocabulary.aliases_setAlias, ← h.aliases]
    refine (r.aliasTable.get?_erase scope scope' name name').trans ?_
    simp only [Prod.mk.injEq, eq_comm]

/-- A call gets the same answer, and the tables go on to be the maps. -/
theorem perform (h : r.Represents v) {c : Call} (hc : c.Lowered) :
    (r.perform c).1 = (v.perform c).1 ∧ (r.perform c).2.Represents (v.perform c).2 := by
  cases c with
  | addCommand c =>
    have hcommand := h.commands c.protocol c.name
    simp only [Registry.perform, addCommand?, add?, Table.contains, Vocabulary.perform, hcommand]
    cases v.commands (c.protocol, c.name) with
    | some found => exact ⟨rfl, h⟩
    | none => exact ⟨rfl, h.insertCommand c⟩
  | addAlias a =>
    have halias := h.aliases a.scope a.name
    simp only [Registry.perform, addAlias?_of_lowercase hc, add?, Table.contains,
      Vocabulary.perform, halias]
    cases v.aliases (a.scope, a.name) with
    | some found => exact ⟨rfl, h⟩
    | none => exact ⟨rfl, h.insertAlias a⟩
  | removeAlias scope name =>
    have halias := h.aliases scope (lowercase name)
    simp only [Registry.perform, removeAlias?, Registry.alias?, Vocabulary.perform, halias]
    cases v.aliases (scope, lowercase name) with
    | some a => exact ⟨rfl, h.eraseAlias scope (lowercase name)⟩
    | none => exact ⟨rfl, h⟩

theorem resolve (h : r.Represents v) (name : String) (chat : Chat) (server : Option Server) :
    r.resolve name chat server = v.resolve name chat server := by
  simp only [Registry.resolve, find?, Registry.alias?, Registry.command?, h.commands, h.aliases,
    Vocabulary.resolve]
  cases v.aliases (.chat chat, lowercase name) with
  | some a => rfl
  | none =>
    have hserver : (server.bind fun s => (v.aliases (.server s, lowercase name)).map Entry.alias) =
        (server.bind fun s => v.aliases (.server s, lowercase name)).map Entry.alias := by
      rw [Option.map_bind]
      rfl
    rw [hserver]
    cases server.bind fun s => v.aliases (.server s, lowercase name) with
    | some a => rfl
    | none =>
      cases v.commands (chat.protocol, lowercase name) with
      | some c => rfl
      | none =>
        cases v.commands (.universal, lowercase name) with
        | some c => rfl
        | none => rfl

theorem agrees (h : r.Represents v) : r.Agrees v where
  command? protocol name := h.commands protocol (lowercase name)
  alias? scope name := h.aliases scope (lowercase name)
  resolve := h.resolve
  mem_commands c := by
    simp only [Prod.exists, ← h.commands, get?_commandTable_eq_some_iff]
    exact ⟨fun hc => ⟨_, _, hc, rfl, rfl⟩, fun ⟨_, _, hc, _⟩ => hc⟩
  commands_ascending := r.commands_ascending
  mem_aliases a := by
    simp only [Prod.exists, ← h.aliases, get?_aliasTable_eq_some_iff]
    exact ⟨fun ha => ⟨_, _, ha, rfl, rfl⟩, fun ⟨_, _, ha, _⟩ => ha⟩
  aliases_ascending := r.aliases_ascending
  mem_aliasesIn scope a := by
    rw [aliasesIn, Table.mem_values_row_iff]
    simp only [h.aliases]
  aliasesIn_ascending := r.aliasesIn_ascending

end Represents

/-- The tables of a registry are the maps that its calls make. -/
theorem represents_after {calls : List Call} (h : ∀ c ∈ calls, c.Lowered) :
    (after calls).Represents (.after calls) := by
  unfold after Vocabulary.after
  induction calls using List.reverseRecOn with
  | nil => exact represents_empty
  | append_singleton calls c ih =>
    rw [List.foldl_append, List.foldl_append]
    have hcalls := ih fun d hd => h d (List.mem_append_left _ hd)
    exact (hcalls.perform (h c (List.mem_append_right _ List.mem_cons_self))).2

/-- A call that is refused leaves everything as it was. -/
theorem perform_of_refused {c : Call} (h : (r.perform c).1.Refused) : (r.perform c).2 = r := by
  cases c with
  | addCommand c =>
    rw [perform] at h ⊢
    split at h
    · exact absurd h Bool.noConfusion
    · rfl
  | addAlias a =>
    rw [perform] at h ⊢
    split at h
    · exact absurd h Bool.noConfusion
    · rfl
  | removeAlias scope name =>
    rw [perform] at h ⊢
    split at h
    · exact absurd h (Option.some_ne_none _)
    · rfl

/-- An alias that was added can be taken out again, under its name in any case. -/
theorem removeAlias?_of_addAlias? {a : Alias} {name : String} (ha : lowercase a.name = a.name)
    (hfree : r.aliasTable.get? a.scope a.name = none) (hname : lowercase name = a.name) :
    ∃ r', r.addAlias? a = some r' ∧ r'.removeAlias? a.scope name = some (a, r) := by
  refine ⟨r.insertAlias a, ?_, ?_⟩
  · rw [addAlias?_of_lowercase ha]
    exact add?_alias_eq_some_iff.2 ⟨hfree, rfl⟩
  · have hfound : (r.insertAlias a).alias? a.scope name = some a := by
      rw [alias?, insertAlias, Table.get?_insert, if_pos ⟨rfl, hname.symm⟩]
    have hback : (r.insertAlias a).eraseAlias a.scope a.name = r := by
      refine ext_index (OrderedMap.ext_get? fun k => ?_)
      simp only [eraseAlias, insertAlias, OrderedMap.get?_erase, OrderedMap.get?_insert,
        OrderedMap.isEq_compare_iff]
      split
      next hk => rw [← hk, r.aliases_indexed, hfree, Option.map_none]
      next => rfl
    rw [removeAlias?, hfound, Option.map_some, hname, hback]

/-- **A registry is two maps.** After any calls that name new aliases in lowercase, the answers of
the registry to queries and to a further call are those of the vocabulary that the calls make. A
call that is refused changes nothing, and neither do the adding of an alias under a free name and
its removal together. -/
theorem refines_vocabulary {calls : List Call} (h : ∀ c ∈ calls, c.Lowered) :
    let r := after calls
    let v := Vocabulary.after calls
    r.Agrees v ∧
    (∀ c, c.Lowered → (r.perform c).1 = (v.perform c).1) ∧
    (∀ c, (r.perform c).1.Refused → (r.perform c).2 = r) ∧
    ∀ a name, lowercase a.name = a.name → lowercase name = a.name →
      v.aliases (a.scope, a.name) = none →
        ∃ r', r.addAlias? a = some r' ∧ r'.removeAlias? a.scope name = some (a, r) := by
  have hrep := represents_after h
  refine ⟨hrep.agrees, fun c hc => (hrep.perform hc).1, fun c => perform_of_refused, ?_⟩
  intro a name ha hname hfree
  exact removeAlias?_of_addAlias? ha ((hrep.aliases _ _).trans hfree) hname

theorem refines_vocabulary_greet :
    let echo : Command := .named "echo" (.custom fun _ => .silent)
    let greet : Alias := ⟨.chat default, "greet", echo, ["hello"]⟩
    let calls := [.addCommand echo, .addAlias greet, .addAlias ⟨.server default, "greet", echo, []⟩]
    (∀ c ∈ calls, c.Lowered) ∧
      (after calls).resolve "Greet" default (some default) = .ok (.alias greet) ∧
      ((after calls).perform (.removeAlias (.chat default) "GREET")).1 = .removed (some greet) := by
  intro echo greet calls
  have hlower : lowercase "greet" = "greet" := by decide
  have hlowered : ∀ c ∈ calls, c.Lowered := by
    simp only [calls, List.forall_mem_cons]
    exact ⟨trivial, hlower, hlower, nofun⟩
  obtain ⟨hagrees, hperform, -⟩ := refines_vocabulary hlowered
  have hresolve := hagrees.resolve "Greet" default (some default)
  have hremove := hperform (.removeAlias (.chat default) "GREET") trivial
  exact ⟨hlowered, hresolve.trans rfl, hremove.trans rfl⟩

end Registry

end ChatBot
