import ChatBot.Bot.Persistence

/-!
# Settings

Changes to delimiters, links, timers and scheduled commands. Each one that changes something is
saved at once.
-/

namespace ChatBot.Bot

/-! ## Delimiters -/

/-- Changes the delimiter of a chat. -/
def setDelimiter (b : Bot) (chat : Chat) (delimiter : String) : Except DelimiterError Bot :=
  match Delimiter.fault? delimiter with
  | some e => .error e
  | none =>
    let delimiters :=
      if delimiter = b.config.defaultDelimiter then b.delimiters.erase chat
      else b.delimiters.insert chat delimiter
    .ok { b with delimiters }.persist

/-! ## Links -/

/-- Links two chats, unless they are one. It is saved if the first was not linked with the second
before. -/
def link (b : Bot) (x y : Chat) : Bool × Bot :=
  if x = y then (false, b)
  else
    let added := !b.links.isLinked x y
    let b := { b with links := b.links.join x y }
    (added, if added then b.persist else b)

/-- Ends the link between two chats. It is saved if the first was linked with the second before. -/
def unlink (b : Bot) (x y : Chat) : Bool × Bot :=
  let removed := b.links.isLinked x y
  let b := { b with links := b.links.part x y }
  (removed, if removed then b.persist else b)

/-! ## Timers -/

/-- Starts a timer, unless it is running. -/
def startTimer (b : Bot) (name : String) (now : Instant) : Bool × Bot :=
  if b.timers.contains name then (false, b)
  else (true, { b with timers := b.timers.insert name now }.persist)

/-- How long a timer has been running. -/
def checkTimer (b : Bot) (name : String) (now : Instant) : Option Elapsed :=
  (b.timers.get? name).map now.since

/-- Stops a timer, if it is running. -/
def stopTimer (b : Bot) (name : String) (now : Instant) : Option Elapsed × Bot :=
  match b.timers.get? name with
  | some started => (some (now.since started), { b with timers := b.timers.erase name }.persist)
  | none => (none, b)

/-! ## Scheduled commands -/

/-- What a chat is told about a command that was scheduled. -/
def scheduledText (e : ScheduledCommand) : String :=
  "Scheduled " ++ ParseError.quoted e.invocation ++ " (id " ++ Nat.repr e.id ++ ") for " ++
    String.ofList (Timestamp.display e.time) ++ "."

/-- Has a command run at a time. Its name is resolved then. -/
def schedule (b : Bot) (chat : Chat) (sender : User) (command : String) (args : List String)
    (time : Instant) : ScheduledCommand × Bot :=
  let (e, scheduler) := b.scheduler.insert chat sender (Text.lowercase command) args time
  (e, { b with scheduler }.persist)

/-- Cancels a scheduled command, if there is one with the id. -/
def unschedule (b : Bot) (id : Nat) : Bool × Bot :=
  match b.scheduler.remove? id with
  | some (_, scheduler) => (true, { b with scheduler }.persist)
  | none => (false, b)

end ChatBot.Bot
