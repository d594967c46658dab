import ChatBot.Bot.Persistence
import ChatBot.Message.CommandLine

/-!
# Aliases of a bot

An alias is created for the text of a command. What that text means is settled once: an alias for
another alias gets its command and the arguments of both.
-/

namespace ChatBot

open Text

/-- Why an alias cannot be created. -/
inductive AliasError
  | invalidName (name : String)
  | notACommand (target : String)
  | parse (error : ParseError)
  | commandNotFound (name : String)
  | alreadyExists (name : String)
  | cycle (name : String)
  deriving DecidableEq, Repr

namespace AliasError

def message : AliasError → String
  | .invalidName name =>
    "invalid alias name " ++ ParseError.quoted name ++ "; names must be alphanumeric"
  | .notACommand target => ParseError.quoted target ++ " is not a command"
  | .parse e => e.message
  | .commandNotFound name => "no command exists with name " ++ ParseError.quoted name
  | .alreadyExists name => "an alias named " ++ ParseError.quoted name ++ " already exists here"
  | .cycle name => "alias " ++ ParseError.quoted name ++ " would refer to itself"

def ofDispatch : DispatchError → AliasError
  | .commandNotFound name => .commandNotFound name
  | .parse e => .parse e

end AliasError

namespace Bot

/-- Whether an entry is the alias of a scope under a name. -/
def isAlias (scope : Scope) (name : String) : Entry → Bool
  | .command _ => false
  | .alias a => a.name = name ∧ a.scope = scope

/-- What the text of a command means in a chat. The delimiter may be left out. -/
def readTarget (b : Bot) (chat : Chat) (target : String) :
    Except DispatchError (Option (CommandLine × Entry)) := do
  let delimiter := b.delimiter chat
  match ← (CommandLine.read delimiter (Delimiter.ensure delimiter target)).mapError .parse with
  | none => return none
  | some line => return some (line, ← b.resolve line.name chat)

/-- Creates an alias for the command that a text means in a chat. -/
def createAlias (b : Bot) (scope : Scope) (name target : String) (chat : Chat) :
    Except AliasError (Alias × Bot) :=
  if name = "" ∨ ¬name.toList.all isAlphanumeric then .error (.invalidName name)
  else
    let name := lowercase name
    match b.readTarget chat target with
    | .error e => .error (.ofDispatch e)
    | .ok none => .error (.notACommand target)
    | .ok (some (line, entry)) =>
      if isAlias scope name entry then .error (.cycle name)
      else
        let invocation := entry.invoke line.args
        let created : Alias := ⟨scope, name, invocation.command, invocation.args⟩
        match b.registry.addAlias? created with
        | none => .error (.alreadyExists name)
        | some registry => .ok (created, { b with registry }.persist)

/-- Removes an alias, if there is one. -/
def removeAlias (b : Bot) (scope : Scope) (name : String) : Bool × Bot :=
  match b.registry.removeAlias? scope name with
  | some (_, registry) => (true, { b with registry }.persist)
  | none => (false, b)

end Bot

end ChatBot
