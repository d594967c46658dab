import ChatBot.Scheduler

/-!
# Snapshots

Everything of a bot that outlives a restart, as lists of records.
-/

namespace ChatBot

/-- The delimiter of a chat that has one of its own. -/
structure DelimiterRecord where
  chat : Chat
  delimiter : String
  deriving DecidableEq

/-- An alias, with its command by protocol and name. -/
structure AliasRecord where
  scope : Scope
  name : String
  protocol : Protocol
  command : String
  args : List String
  deriving DecidableEq

/-- The chats that a chat is linked with. -/
structure LinkRecord where
  chat : Chat
  linked : List Chat
  deriving DecidableEq

/-- A running timer. -/
structure TimerRecord where
  name : String
  started : Instant
  deriving DecidableEq

structure Snapshot where
  delimiters : List DelimiterRecord
  aliases : List AliasRecord
  scheduled : List ScheduledCommand
  links : List LinkRecord
  timers : List TimerRecord
  deriving DecidableEq

def Snapshot.empty : Snapshot := ⟨[], [], [], [], []⟩

instance : Inhabited Snapshot := ⟨.empty⟩

end ChatBot
