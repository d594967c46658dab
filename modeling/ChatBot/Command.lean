import ChatBot.Snapshot
import ChatBot.Text.Classes
import ChatBot.Text.Lowercase

/-!
# Commands and aliases

A command is registered on a protocol under a lowercase name. Its handler sees the context of a run
and can make changes to the bot. An alias is a name for a command with its first arguments, in one
chat or on one server.
-/

namespace ChatBot

open Text

/-! ## Declared arguments -/

inductive ArgumentKind
  | text | integer | time
  /-- All the arguments that are left. -/
  | rest
  deriving DecidableEq, Repr

/-- An argument of a command as its usage line shows it. -/
structure ArgumentSpec where
  name : String
  kind : ArgumentKind
  optional : Bool
  deriving DecidableEq, Repr

def ArgumentSpec.text (spec : ArgumentSpec) : String :=
  let label := spec.name ++ if spec.kind = .rest then "..." else ""
  if spec.optional then "[" ++ label ++ "]" else "<" ++ label ++ ">"

/-! ## Changes -/

/-- A change that can be made to what outlives a restart of a bot. -/
inductive Change
  | setDelimiter (chat : Chat) (delimiter : String)
  /-- Creates an alias for the command that a text means in a chat. -/
  | createAlias (scope : Scope) (name target : String) (chat : Chat)
  | removeAlias (scope : Scope) (name : String)
  | schedule (chat : Chat) (sender : User) (command : String) (args : List String) (time : Instant)
  | unschedule (id : Nat)
  | link (x y : Chat)
  | unlink (x y : Chat)
  | startTimer (name : String) (now : Instant)
  | stopTimer (name : String) (now : Instant)
  deriving DecidableEq

/-! ## Handlers -/

/-- What a handler can see of the run of its command. -/
structure Context where
  chat : Chat
  /-- Who typed the command, or scheduled it. -/
  sender : User
  command : String
  /-- The arguments, those of an alias before those that were typed. -/
  args : List String
  delimiter : String
  usage : String
  server : Option Server

namespace Context

def arg? (ctx : Context) (i : Nat) : Option String := ctx.args[i]?

/-- The arguments from one on, with a space between each two. -/
def joined (ctx : Context) (start : Nat) : String := " ".intercalate (ctx.args.drop start)

end Context

/-- An error of a handler, and what caused it, nearest cause first. -/
structure Failure where
  text : String
  causes : List String
  deriving DecidableEq, Repr

namespace Failure

/-- The lines of a text with `first` before the first one and `others` before each other one. -/
def indented (first others text : String) : String :=
  first ++ ("\n" ++ others).intercalate (text.splitOn "\n")

/-- The number of a cause, right-aligned. -/
def label (i : Nat) : String :=
  let number := Nat.repr i
  String.ofList (List.replicate (5 - number.length) ' ') ++ number ++ ": "

/-- The error and its causes; the causes are numbered if there are several. -/
def report (f : Failure) : String :=
  match f.causes with
  | [] => f.text
  | [cause] => f.text ++ "\n\nCaused by:\n" ++ indented "    " "    " cause
  | causes =>
    f.text ++ "\n\nCaused by:\n" ++
      "\n".intercalate (causes.mapIdx fun i cause => indented (label i) "       " cause)

end Failure

/-- How the run of a handler ends. -/
inductive Outcome
  | silent
  | reply (text : String)
  | failed (failure : Failure)
  /-- The handler broke off, with a message if it left one. -/
  | crashed (message : Option String)
  deriving DecidableEq, Repr

/-- The commands that every bot has. -/
inductive Builtin
  | help | echo | ping | commands | aliases | chats | exit
  | alias | unalias
  | link | unlink | links | setDelimiter
  | schedule | unschedule | events | allEvents
  | timer
  deriving DecidableEq, Repr

/-- What a handler does with the bot until it ends: it looks at what would be stored of the bot, and
makes changes, of which it learns whether they were made. -/
inductive Script
  | finish (outcome : Outcome)
  | look (next : Snapshot → Script)
  | change (c : Change) (next : Bool → Script)

inductive Handler
  | builtin (command : Builtin)
  /-- A handler that acts on nothing but its context. -/
  | custom (run : Context → Outcome)
  /-- A handler that acts on the bot. -/
  | scripted (run : Context → Script)

/-! ## Commands -/

structure Command where
  protocol : Protocol
  name : String
  specs : List ArgumentSpec
  handler : Handler
  help : String
  /-- What the usage line shows in place of the declared arguments, if anything. -/
  usageText : Option String

namespace Command

/-- A universal command without declared arguments and help. -/
def named (name : String) (handler : Handler) : Command where
  protocol := .universal
  name := lowercase name
  specs := []
  handler := handler
  help := ""
  usageText := none

/-- The usage line after a delimiter. -/
def usage (c : Command) (delimiter : String) : String :=
  match c.usageText with
  | some text => delimiter ++ c.name ++ " " ++ text
  | none => delimiter ++ c.name ++ String.join (c.specs.map fun spec => " " ++ spec.text)

end Command

/-- A command with its final arguments. -/
structure Invocation where
  command : Command
  args : List String

/-! ## Aliases -/

/-- A name for a command with its first arguments. -/
structure Alias where
  scope : Scope
  name : String
  command : Command
  args : List String

namespace Alias

/-- The arguments of the alias, then those of the caller. -/
def expand (a : Alias) (args : List String) : List String := a.args ++ args

/-- An argument of an alias for people: between quotes if it is empty or has blanks. -/
def shown (arg : String) : String :=
  if arg = "" ∨ arg.toList.any isBlank then "\"" ++ arg ++ "\"" else arg

/-- The text of the command that the alias stands for. -/
def target (a : Alias) : String :=
  a.command.name ++ String.join (a.args.map fun arg => " " ++ shown arg)

end Alias

end ChatBot
