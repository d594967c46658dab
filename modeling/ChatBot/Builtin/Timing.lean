import ChatBot.Bot.Aliases
import ChatBot.Bot.Settings
import ChatBot.Time.Expression

/-!
# Commands about time

Scheduled commands and timers.
-/

namespace ChatBot.Builtin

open Text

/-! ## Scheduled commands -/

/-- The text of the command that some words stand for. A single word is the whole text; several
words are one word of the command line each. -/
def commandText : List String → String
  | [text] => text
  | words => CommandLine.quoteWords words

def scheduleReply (b : Bot) (ctx : Context) (now : Instant) : String × Bot :=
  match ctx.args with
  | expression :: first :: rest =>
    match TimeExpression.read? expression.toList now with
    | none => ("Could not understand the time " ++ ParseError.quoted expression ++ ".", b)
    | some time =>
      if time < now then ("That time has already passed.", b)
      else
        match b.readTarget ctx.chat (commandText (first :: rest)) with
        | .error e => (e.reply, b)
        | .ok none => (ParseError.quoted (ctx.joined 1) ++ " is not a command.", b)
        | .ok (some (line, _)) =>
          let (e, b) := b.schedule ctx.chat ctx.sender line.name line.args time
          (Bot.scheduledText e, b)
  | _ => (ctx.usage, b)

def unscheduleReply (b : Bot) (ctx : Context) : String × Bot :=
  match ctx.arg? 0 >>= fun arg => Decimal.readBelow? (Nat.pow 2 64) arg.toList with
  | none => (ctx.usage, b)
  | some id =>
    match b.unschedule id with
    | (true, b) => ("Unscheduled command " ++ Nat.repr id ++ ".", b)
    | (false, b) => ("No scheduled command has id " ++ Nat.repr id ++ ".", b)

def eventLine (b : Bot) (e : ScheduledCommand) : String :=
  Nat.repr e.id ++ ": " ++ ParseError.quoted e.invocation ++ " at " ++
    String.ofList (Timestamp.display e.time) ++ " in " ++ b.chatName e.chat

/-- The lines of some scheduled commands, or `absent` if there are none. -/
def eventList (b : Bot) (absent : String) : List ScheduledCommand → String
  | [] => absent
  | entries => "\n".intercalate (entries.map (eventLine b))

def eventsReply (b : Bot) (ctx : Context) : String :=
  eventList b "You have no scheduled commands." (b.scheduler.commands (some ctx.sender))

def allEventsReply (b : Bot) : String :=
  eventList b "There are no scheduled commands." (b.scheduler.commands none)

/-! ## Timers -/

/-- The text of a length of time in whole seconds. A negative one counts as none. -/
def spanText (e : Elapsed) : String := String.ofList (Span.write e.seconds.toNat)

def timerReply (b : Bot) (ctx : Context) (now : Instant) : String × Bot :=
  match ctx.args with
  | action :: name :: _ =>
    let quoted := ParseError.quoted name
    match lowercase action with
    | "start" =>
      match b.startTimer name now with
      | (true, b) => ("Timer " ++ quoted ++ " started.", b)
      | (false, b) => ("Timer " ++ quoted ++ " is already running.", b)
    | "check" =>
      match b.checkTimer name now with
      | some elapsed => ("Timer " ++ quoted ++ ": " ++ spanText elapsed, b)
      | none => ("No timer named " ++ quoted ++ ".", b)
    | "stop" =>
      match b.stopTimer name now with
      | (some elapsed, b) => ("Timer " ++ quoted ++ " stopped after " ++ spanText elapsed ++ ".", b)
      | (none, b) => ("No timer named " ++ quoted ++ ".", b)
    | _ => (ctx.usage, b)
  | _ => (ctx.usage, b)

end ChatBot.Builtin
