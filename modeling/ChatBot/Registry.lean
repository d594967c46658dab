import ChatBot.Command
import ChatBot.Message.ParseError
import ChatBot.Table

/-!
# The registry of commands and aliases

Commands are known by protocol and name, aliases by scope and name, each in a table of their own.
One index in the order of help holds both. A name is resolved to the alias of the chat, the alias of
its server, the command of its protocol or the universal command, whichever comes first.
-/

namespace ChatBot

open Std Text

/-- Why a message that is meant as a command runs none. -/
inductive DispatchError
  | commandNotFound (name : String)
  | parse (error : ParseError)
  deriving DecidableEq, Repr

namespace DispatchError

def message : DispatchError → String
  | .commandNotFound name => "no command exists with name " ++ ParseError.quoted name
  | .parse e => e.message

/-- The name under which the error is counted. -/
def code : DispatchError → String
  | .commandNotFound _ => "command_not_found"
  | .parse e => if e.isInvalidEscape then "invalid_escape" else "parse_error"

/-- What the chat is told. -/
def reply : DispatchError → String
  | .commandNotFound name => "No command exists with name " ++ ParseError.quoted name ++ "."
  | .parse e =>
    if e.isInvalidEscape then
      "Invalid escape sequence: " ++ e.offending ++ ". Are your backslashes correct?"
    else "Could not parse command: " ++ e.message

end DispatchError

/-- The place of an entry in the order of help: by protocol, then by name, a command before the
aliases of its name. -/
structure EntryKey where
  protocol : Protocol
  name : String
  scope : Option Scope
  deriving DecidableEq, Repr

namespace EntryKey

attribute [local instance] lexOrd

def order (k : EntryKey) : Protocol × String × Option Scope := (k.protocol, k.name, k.scope)

instance : Ord EntryKey := ⟨compareOn order⟩
instance : TransOrd EntryKey := inferInstanceAs (TransCmp (compareOn order))
instance : LawfulEqOrd EntryKey :=
  lawfulEq_compareOn fun ⟨_, _, _⟩ ⟨_, _, _⟩ h => by cases h; rfl

/-- The key of the command of a protocol. -/
def ofCommand (protocol : Protocol) (name : String) : EntryKey := ⟨protocol, name, none⟩

/-- The key of the alias of a scope. -/
def ofAlias (scope : Scope) (name : String) : EntryKey := ⟨scope.protocol, name, some scope⟩

theorem ofCommand_eq_iff {protocol protocol' : Protocol} {name name' : String} :
    ofCommand protocol name = ofCommand protocol' name' ↔ protocol = protocol' ∧ name = name' := by
  constructor
  · intro h
    obtain ⟨hprotocol, hname, -⟩ := EntryKey.mk.inj h
    exact ⟨hprotocol, hname⟩
  · rintro ⟨rfl, rfl⟩
    rfl

theorem ofAlias_eq_iff {scope scope' : Scope} {name name' : String} :
    ofAlias scope name = ofAlias scope' name' ↔ scope = scope' ∧ name = name' := by
  constructor
  · intro h
    obtain ⟨_, hname, hscope⟩ := EntryKey.mk.inj h
    exact ⟨Option.some.inj hscope, hname⟩
  · rintro ⟨rfl, rfl⟩
    rfl

theorem ofAlias_ne_ofCommand {scope : Scope} {protocol : Protocol} {name name' : String} :
    ofAlias scope name ≠ ofCommand protocol name' := by
  intro h
  cases h

end EntryKey

/-- What a name can stand for. -/
inductive Entry
  | command (found : Command)
  | alias (found : Alias)

namespace Entry

def key : Entry → EntryKey
  | .command c => .ofCommand c.protocol c.name
  | .alias a => .ofAlias a.scope a.name

def name (e : Entry) : String := e.key.name

/-- The mark of the entry in help. -/
def marker : Entry → String
  | .command _ => "(C)"
  | .alias _ => "(A)"

/-- What help says about the entry. -/
def summary : Entry → String
  | .command c => c.help
  | .alias a => "alias for " ++ ParseError.quoted a.target

/-- The command that runs, with its final arguments. -/
def invoke : Entry → List String → Invocation
  | .command c, args => ⟨c, args⟩
  | .alias a, args => ⟨a.command, a.expand args⟩

def command? : Entry → Option Command
  | .command c => some c
  | .alias _ => none

def alias? : Entry → Option Alias
  | .command _ => none
  | .alias a => some a

end Entry

/-- The commands by protocol and name, the aliases by scope and name, and all of them in the order
of help. -/
structure Registry where
  commandTable : Table Protocol Command
  aliasTable : Table Scope Alias
  index : OrderedMap EntryKey Entry
  keyed : ∀ b ∈ index.bindings, b.1 = b.2.key
  commands_indexed : ∀ protocol name, index.get? (.ofCommand protocol name) =
    (commandTable.get? protocol name).map .command
  aliases_indexed : ∀ scope name, index.get? (.ofAlias scope name) =
    (aliasTable.get? scope name).map .alias

namespace Registry

def empty : Registry where
  commandTable := .empty
  aliasTable := .empty
  index := .empty
  keyed _ h := nomatch h
  commands_indexed _ _ := rfl
  aliases_indexed _ _ := rfl

instance : Inhabited Registry := ⟨empty⟩

/-- The registry with a command in place of what has its protocol and name. -/
def insertCommand (r : Registry) (c : Command) : Registry where
  commandTable := r.commandTable.insert c.protocol c.name c
  aliasTable := r.aliasTable
  index := r.index.insert (.ofCommand c.protocol c.name) (.command c)
  keyed b h := by
    rcases OrderedMap.mem_put h with rfl | h
    · rfl
    · exact r.keyed b h
  commands_indexed protocol name := by
    simp only [OrderedMap.get?_insert, OrderedMap.isEq_compare_iff, EntryKey.ofCommand_eq_iff,
      Table.get?_insert, r.commands_indexed]
    split
    · rfl
    · rfl
  aliases_indexed scope name := by
    simp only [OrderedMap.get?_insert, OrderedMap.isEq_compare_iff, r.aliases_indexed]
    exact if_neg EntryKey.ofAlias_ne_ofCommand.symm

/-- The registry with an alias in place of what has its scope and name. -/
def insertAlias (r : Registry) (a : Alias) : Registry where
  commandTable := r.commandTable
  aliasTable := r.aliasTable.insert a.scope a.name a
  index := r.index.insert (.ofAlias a.scope a.name) (.alias a)
  keyed b h := by
    rcases OrderedMap.mem_put h with rfl | h
    · rfl
    · exact r.keyed b h
  commands_indexed protocol name := by
    simp only [OrderedMap.get?_insert, OrderedMap.isEq_compare_iff, r.commands_indexed]
    exact if_neg EntryKey.ofAlias_ne_ofCommand
  aliases_indexed scope name := by
    simp only [OrderedMap.get?_insert, OrderedMap.isEq_compare_iff, EntryKey.ofAlias_eq_iff,
      Table.get?_insert, r.aliases_indexed]
    split
    · rfl
    · rfl

/-- The registry without an alias of a scope under a name. -/
def eraseAlias (r : Registry) (scope : Scope) (name : String) : Registry where
  commandTable := r.commandTable
  aliasTable := r.aliasTable.erase scope name
  index := r.index.erase (.ofAlias scope name)
  keyed b h := r.keyed b (List.mem_filter.1 h).1
  commands_indexed protocol name := by
    simp only [OrderedMap.get?_erase, OrderedMap.isEq_compare_iff, r.commands_indexed]
    exact if_neg EntryKey.ofAlias_ne_ofCommand
  aliases_indexed scope' name' := by
    simp only [OrderedMap.get?_erase, OrderedMap.isEq_compare_iff, EntryKey.ofAlias_eq_iff,
      Table.get?_erase, r.aliases_indexed]
    split
    · rfl
    · rfl

/-- Adds an entry, if its name is free in its place. -/
def add? (r : Registry) : Entry → Option Registry
  | .command c =>
    if r.commandTable.contains c.protocol c.name then none else some (r.insertCommand c)
  | .alias a => if r.aliasTable.contains a.scope a.name then none else some (r.insertAlias a)

def addCommand? (r : Registry) (c : Command) : Option Registry := r.add? (.command c)

/-- Adds an alias. A name with an uppercase character is lowercased. -/
def addAlias? (r : Registry) (a : Alias) : Option Registry :=
  r.add? (.alias (if a.name.toList.any isUppercase then { a with name := lowercase a.name } else a))

def command? (r : Registry) (protocol : Protocol) (name : String) : Option Command :=
  r.commandTable.get? protocol (lowercase name)

def alias? (r : Registry) (scope : Scope) (name : String) : Option Alias :=
  r.aliasTable.get? scope (lowercase name)

/-- Removes an alias, which is given along with the registry that is left. -/
def removeAlias? (r : Registry) (scope : Scope) (name : String) : Option (Alias × Registry) :=
  (r.alias? scope name).map fun a => (a, r.eraseAlias scope (lowercase name))

/-- All entries in the order of help. -/
def entries (r : Registry) : List Entry := r.index.values

def commands (r : Registry) : List Command := r.entries.filterMap Entry.command?

def aliases (r : Registry) : List Alias := r.entries.filterMap Entry.alias?

/-- The aliases that are defined in a scope itself, by name. -/
def aliasesIn (r : Registry) (scope : Scope) : List Alias := (r.aliasTable.row scope).values

/-- What a name stands for in a chat, which may be on a server. -/
def find? (r : Registry) (name : String) (chat : Chat) (server : Option Server) : Option Entry :=
  ((r.alias? (.chat chat) name).map .alias).or <|
  (server.bind fun s => (r.alias? (.server s) name).map .alias).or <|
  ((r.command? chat.protocol name).map .command).or <|
  (r.command? .universal name).map .command

def resolve (r : Registry) (name : String) (chat : Chat) (server : Option Server) :
    Except DispatchError Entry :=
  match r.find? name chat server with
  | some e => .ok e
  | none => .error (.commandNotFound (lowercase name))

/-- The entries that their own names stand for in a chat. -/
def help (r : Registry) (chat : Chat) (server : Option Server) : List Entry :=
  r.entries.filter fun e => (r.find? e.name chat server).any fun found => found.key = e.key

end Registry

end ChatBot
