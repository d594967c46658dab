import ChatBot.Bot

/-!
# Commands that list and explain

Help in pages, and the lists of commands, aliases, chats and links.
-/

namespace ChatBot.Builtin

open Text

/-! ## Help -/

/-- How many entries a page of help has. -/
def pageSize : Nat := 10

/-- The line of an entry in help. -/
def helpLine (delimiter : String) (e : Entry) : String :=
  delimiter ++ e.name ++ " " ++ e.marker ++ if e.summary = "" then "" else " - " ++ e.summary

/-- The number of pages for some entries. There is always one. -/
def pageCount (entries : List Entry) : Nat := max 1 ((entries.length + (pageSize - 1)) / pageSize)

/-- The entries on a page. Pages count from 1. -/
def pageEntries (entries : List Entry) (page : Nat) : List Entry :=
  (entries.drop ((page - 1) * pageSize)).take pageSize

/-- The reply with a page of help. -/
def helpPage (delimiter : String) (entries : List Entry) (page : Nat) : String :=
  let pages := pageCount entries
  if page = 0 ∨ pages < page then
    "Page " ++ Nat.repr page ++ " does not exist. " ++
      if pages = 1 then "There is 1 page." else "There are " ++ Nat.repr pages ++ " pages."
  else
    let heading := "Help (page " ++ Nat.repr page ++ "/" ++ Nat.repr pages ++ "):"
    "\n".intercalate (heading :: (pageEntries entries page).map (helpLine delimiter))

/-- The reply that explains what a name stands for. -/
def explain (b : Bot) (ctx : Context) (name : String) : String :=
  match b.resolve name ctx.chat with
  | .error e => e.reply
  | .ok (.alias a) => helpLine ctx.delimiter (.alias a)
  | .ok (.command c) =>
    "Usage: " ++ c.usage ctx.delimiter ++ if c.help = "" then "" else "\n" ++ c.help

/-- A number asks for a page, another word for an explanation. -/
def helpReply (b : Bot) (ctx : Context) : String :=
  let page (n : Nat) := helpPage ctx.delimiter (b.registry.help ctx.chat ctx.server) n
  match ctx.arg? 0 with
  | none => page 1
  | some arg =>
    match Decimal.readBelow? (Nat.pow 2 64) arg.toList with
    | some n => page n
    | none => explain b ctx arg

/-! ## Commands and aliases -/

/-- The names of the commands that a chat has, each once. -/
def commandNames (r : Registry) (chat : Chat) : List String :=
  let usable := r.commands.filter fun c => c.protocol = .universal ∨ c.protocol = chat.protocol
  ((usable.map (·.name)).mergeSort fun a b => (compare a b).isLE).eraseReps

def commandsReply (b : Bot) (ctx : Context) : String :=
  "Commands: " ++ ", ".intercalate (commandNames b.registry ctx.chat)

def aliasLine (a : Alias) : String :=
  let place := match a.scope with
    | .chat _ => "chat"
    | .server _ => "server"
  a.name ++ " -> " ++ ParseError.quoted a.target ++ " (" ++ place ++ ")"

/-- The aliases of the chat come before those of its server. -/
def aliasesReply (b : Bot) (ctx : Context) : String :=
  let scopes := .chat ctx.chat :: (ctx.server.map Scope.server).toList
  match scopes.flatMap b.registry.aliasesIn with
  | [] => "No aliases are defined here."
  | found => "Aliases:\n" ++ "\n".intercalate (found.map aliasLine)

/-! ## Chats and links -/

/-- A chat with its number. -/
def chatLine (b : Bot) (number : Nat) (chat : Chat) : String :=
  Nat.repr number ++ ": " ++ b.chatName chat ++ " [" ++ chat.protocol.name ++ "]"

def chatsReply (b : Bot) (ctx : Context) : String × Bot :=
  let (current, b) := b.refreshChats.chatNumber ctx.chat
  let line (entry : Nat × Chat) : String :=
    chatLine b entry.1 entry.2 ++ if entry.1 = current then " (this chat)" else ""
  ("\n".intercalate (b.directory.entries.map line), b)

/-- The lines of some chats, which all get numbers. -/
def chatLines (b : Bot) : List Chat → List String × Bot
  | [] => ([], b)
  | chat :: rest =>
    let (number, b) := b.chatNumber chat
    let (lines, last) := chatLines b rest
    (chatLine b number chat :: lines, last)

def linksReply (b : Bot) (ctx : Context) : String × Bot :=
  match b.links.linkedWith ctx.chat with
  | [] => ("This chat is not linked to any others.", b)
  | linked =>
    let (lines, b) := chatLines b linked
    ("Linked chats:\n" ++ "\n".intercalate lines, b)

end ChatBot.Builtin
