import ChatBot.Backend
import ChatBot.Config
import ChatBot.Counters
import ChatBot.Directory
import ChatBot.Links
import ChatBot.Registry
import ChatBot.Scheduler
import ChatBot.Store
import ChatBot.Variables

/-!
# The state of a bot

All that a running bot knows, and what can be asked of it or registered with it.
-/

namespace ChatBot

/-- What a variable in a reply stands for. -/
inductive Variable
  | userName
  | displayName
  | botName
  | chatName
  | fixed (value : Option String)
  deriving DecidableEq, Repr

/-- What has been handed to a backend. -/
inductive Delivery
  | message (chat : Chat) (text : String) (accepted : Bool)
  | images (chat : Chat) (urls : List String)
  deriving DecidableEq, Repr

structure Bot where
  config : Config
  store : Store
  registry : Registry
  scheduler : Scheduler
  backends : OrderedMap Protocol Backend
  /-- The delimiters of chats that have one of their own. -/
  delimiters : OrderedMap Chat String
  links : Links
  timers : OrderedMap String Instant
  /-- The variables in the order in which they were registered. -/
  vars : List (String × Variable)
  directory : Directory
  stopping : Bool
  counters : Counters
  /-- All deliveries, in order. -/
  deliveries : List Delivery
  /-- The labels of the tasks that have run, in order. -/
  ranTasks : List String

namespace Bot

def standardVariables : List (String × Variable) :=
  [("sender", .userName), ("nick", .displayName), ("botname", .botName), ("chatname", .chatName)]

/-- A bot without commands and backends, which has restored nothing yet. -/
def new (config : Config) (store : Store) : Bot where
  config := config
  store := store
  registry := .empty
  scheduler := .empty
  backends := .empty
  delimiters := .empty
  links := .empty
  timers := .empty
  vars := standardVariables
  directory := .empty
  stopping := false
  counters := .zero
  deliveries := []
  ranTasks := []

instance : Inhabited Bot := ⟨new .standard default⟩

/-- A new bot with the configuration and the store of an old one. Counters go on. -/
def restart (b : Bot) : Bot := { new b.config b.store with counters := b.counters }

def count (b : Bot) (c : Counter) : Bot := { b with counters := b.counters.bump c }

/-! ## Names -/

/-- The backend that serves a chat. -/
def backend? (b : Bot) (chat : Chat) : Option Backend := b.backends.get? chat.protocol

/-- The user that the bot is in a chat. -/
def self? (b : Bot) (chat : Chat) : Option User := (b.backend? chat).map fun k => k.bot chat

def isSelf (b : Bot) (chat : Chat) (user : User) : Bool := b.self? chat == some user

def userName (b : Bot) (chat : Chat) (user : User) : String :=
  match b.backend? chat with
  | some k => k.userName chat user
  | none => user.name

def displayName (b : Bot) (chat : Chat) (user : User) : String :=
  match b.backend? chat with
  | some k => k.displayName chat user
  | none => user.name

def chatName (b : Bot) (chat : Chat) : String :=
  match b.backend? chat with
  | some k => k.chatName chat
  | none => chat.name

/-- The server that a chat is on. -/
def server? (b : Bot) (chat : Chat) : Option Server := do
  (← (← b.backend? chat).server?) chat

/-! ## Settings of a chat -/

/-- The delimiter of the commands in a chat. -/
def delimiter (b : Bot) (chat : Chat) : String :=
  (b.delimiters.get? chat).getD b.config.defaultDelimiter

/-- What a name stands for in a chat. -/
def resolve (b : Bot) (name : String) (chat : Chat) : Except DispatchError Entry :=
  b.registry.resolve name chat (b.server? chat)

/-! ## The directory -/

/-- Gives numbers to all chats of all backends. -/
def refreshChats (b : Bot) : Bot :=
  let chats := (b.backends.values.flatMap (·.chats)).mergeSort fun c d => (compare c d).isLE
  { b with directory := b.directory.addAll chats }

/-- The number of a chat, which gets one if it has none. -/
def chatNumber (b : Bot) (chat : Chat) : Nat × Bot :=
  let (n, directory) := b.directory.number chat
  (n, { b with directory })

/-! ## Registration -/

/-- The bot with one more backend, if no other one has its protocol. -/
def addBackend? (b : Bot) (k : Backend) : Option Bot :=
  if b.backends.contains k.protocol then none
  else some { b with backends := b.backends.insert k.protocol k }.refreshChats

/-- The protocols with a backend, in order. -/
def protocols (b : Bot) : List Protocol := b.backends.keys

/-- The bot with one more command, if its name is free. -/
def addCommand? (b : Bot) (c : Command) : Option Bot :=
  (b.registry.addCommand? c).map fun registry => { b with registry }

/-- The bot with one more variable, if its name is not empty and free. -/
def addVariable? (b : Bot) (name : String) (v : Variable) : Option Bot :=
  if name = "" ∨ (b.vars.lookup name).isSome then none
  else some { b with vars := b.vars ++ [(name, v)] }

/-! ## Variables -/

/-- The value of a variable in a reply to a sender in a chat. -/
def value? (b : Bot) (chat : Chat) (sender : User) : Variable → Option String
  | .userName => some (b.userName chat sender)
  | .displayName => some (b.displayName chat sender)
  | .botName => (b.self? chat).map (b.displayName chat)
  | .chatName => some (b.chatName chat)
  | .fixed value => value

/-- A text with values in place of variables. -/
def substitute (b : Bot) (chat : Chat) (sender : User) (text : String) : String :=
  let vars := b.vars.map fun (name, v) =>
    (name.toList, (b.value? chat sender v).map String.toList)
  String.ofList (Variables.substitute vars text.toList)

/-! ## Scheduling of tasks -/

/-- Has a task run once its time has come. -/
def scheduleTask (b : Bot) (t : Task) : Bot := { b with scheduler := b.scheduler.addTask t }

/-- Asks everything that runs for the bot to stop. -/
def shutdown (b : Bot) : Bot := { b with stopping := true }

end Bot

end ChatBot
