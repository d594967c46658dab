import ChatBot.Bot.Aliases
import ChatBot.Bot.Settings

/-!
# Commands that change settings

Aliases, links and delimiters.
-/

namespace ChatBot.Builtin

open Text

/-! ## Aliases -/

/-- The argument that stands for the server of a chat. -/
def serverFlag : String := "-s"

/-- Creates an alias in a scope from the arguments after the flag. -/
def aliasIn (b : Bot) (ctx : Context) (scope : Scope) : List String → String × Bot
  | name :: first :: rest =>
    match b.createAlias scope name (" ".intercalate (first :: rest)) ctx.chat with
    | .ok (a, b) =>
      ("Alias " ++ ParseError.quoted a.name ++ " created for " ++ ParseError.quoted a.target ++ ".", b)
    | .error e => ("Could not create alias: " ++ e.message ++ ".", b)
  | _ => (ctx.usage, b)

def aliasReply (b : Bot) (ctx : Context) : String × Bot :=
  if ctx.arg? 0 = some serverFlag then
    match ctx.server with
    | some server => aliasIn b ctx (.server server) (ctx.args.drop 1)
    | none => ("This chat is not part of a server.", b)
  else aliasIn b ctx (.chat ctx.chat) ctx.args

/-- Removes an alias from the first of some scopes that has it. -/
def removeFrom (b : Bot) (name : String) : List Scope → Bool × Bot
  | [] => (false, b)
  | scope :: rest =>
    match b.removeAlias scope name with
    | (true, b) => (true, b)
    | (false, b) => removeFrom b name rest

/-- Removes aliases from the first of some scopes that has them: the names that were removed, in
lower case, and those that were not found. -/
def removeAll (b : Bot) (scopes : List Scope) : List String → List String × List String × Bot
  | [] => ([], [], b)
  | name :: rest =>
    let (gone, b) := removeFrom b name scopes
    let (removed, missing, b) := removeAll b scopes rest
    if gone then (lowercase name :: removed, missing, b) else (removed, name :: missing, b)

/-- A sentence about some names, if there are any. -/
def sentence (lead : String) (names : List String) : List String :=
  if names = [] then [] else [lead ++ ", ".intercalate names ++ "."]

def unaliasReply (b : Bot) (ctx : Context) : String × Bot :=
  if ctx.args = [] then (ctx.usage, b)
  else
    let scopes := .chat ctx.chat :: (ctx.server.map Scope.server).toList
    let (removed, missing, b) := removeAll b scopes ctx.args
    (" ".intercalate (sentence "Removed: " removed ++ sentence "No such alias: " missing), b)

/-! ## Links -/

/-- The chat whose number is the first argument, or else the reply. Backends are asked for their
chats if no known chat has the number. -/
def targetChat (b : Bot) (ctx : Context) : Except String Chat × Bot :=
  match ctx.arg? 0 >>= fun arg => Decimal.readBelow? (Nat.pow 2 32) arg.toList with
  | none => (.error ctx.usage, b)
  | some n =>
    match b.directory.get? n with
    | some chat => (.ok chat, b)
    | none =>
      let b := b.refreshChats
      match b.directory.get? n with
      | some chat => (.ok chat, b)
      | none =>
        (.error ("No chat has id " ++ Nat.repr n ++ ". Use " ++ ctx.delimiter ++
          "chats to list them."), b)

def linkReply (b : Bot) (ctx : Context) : String × Bot :=
  match targetChat b ctx with
  | (.error text, b) => (text, b)
  | (.ok chat, b) =>
    if chat = ctx.chat then ("A chat cannot be linked with itself.", b)
    else
      match b.link ctx.chat chat with
      | (true, after) => ("Linked with " ++ b.chatName chat ++ ".", after)
      | (false, after) => ("Already linked with " ++ b.chatName chat ++ ".", after)

def unlinkReply (b : Bot) (ctx : Context) : String × Bot :=
  match targetChat b ctx with
  | (.error text, b) => (text, b)
  | (.ok chat, b) =>
    match b.unlink ctx.chat chat with
    | (true, after) => ("Unlinked from " ++ b.chatName chat ++ ".", after)
    | (false, after) => ("Not linked with " ++ b.chatName chat ++ ".", after)

/-! ## Delimiters -/

def setDelimiterReply (b : Bot) (ctx : Context) : String × Bot :=
  match ctx.arg? 0 with
  | none => (ctx.usage, b)
  | some delimiter =>
    match b.setDelimiter ctx.chat delimiter with
    | .ok b => ("Commands in this chat now start with " ++ ParseError.quoted delimiter ++ ".", b)
    | .error e => ("Could not change the delimiter: " ++ e.message ++ ".", b)

end ChatBot.Builtin
