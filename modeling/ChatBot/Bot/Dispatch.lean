import ChatBot.Bot.Delivery
import ChatBot.Builtin.Listing
import ChatBot.Builtin.Setting
import ChatBot.Builtin.Timing

/-!
# Dispatch

What becomes of a message: it is copied to linked chats, and if it is a command, the command runs
and its reply is sent. Nothing that goes wrong on the way is more than a reply.

The handler of a command is one that every bot has, one that acts on nothing but its context, or a
script, which makes changes and goes on as their outcomes tell it.
-/

namespace ChatBot

/-! ## Commands that every bot has -/

namespace Builtin

/-- An outcome that changes nothing. -/
def told (b : Bot) (text : String) : Outcome × Bot := (.reply text, b)

/-- The reply of a command and the bot after it, at `now`. -/
def run (c : Builtin) (ctx : Context) (now : Instant) (b : Bot) : Outcome × Bot :=
  let saying (r : String × Bot) : Outcome × Bot := (.reply r.1, r.2)
  match c with
  | .help => told b (helpReply b ctx)
  | .echo => if ctx.args = [] then (.silent, b) else told b (ctx.joined 0)
  | .ping => told b "Pong!"
  | .commands => told b (commandsReply b ctx)
  | .aliases => told b (aliasesReply b ctx)
  | .chats => saying (chatsReply b ctx)
  | .exit => told b.shutdown "Shutting down."
  | .alias => saying (aliasReply b ctx)
  | .unalias => saying (unaliasReply b ctx)
  | .link => saying (linkReply b ctx)
  | .unlink => saying (unlinkReply b ctx)
  | .links => saying (linksReply b ctx)
  | .setDelimiter => saying (setDelimiterReply b ctx)
  | .schedule => saying (scheduleReply b ctx now)
  | .unschedule => saying (unscheduleReply b ctx)
  | .events => told b (eventsReply b ctx)
  | .allEvents => told b (allEventsReply b)
  | .timer => saying (timerReply b ctx now)

end Builtin

namespace Bot

/-! ## Changes and scripts -/

/-- Makes a change. Whether it was made is given along with the bot. -/
def attempt (b : Bot) : Change → Bool × Bot
  | .setDelimiter chat delimiter =>
    match b.setDelimiter chat delimiter with
    | .ok b => (true, b)
    | .error _ => (false, b)
  | .createAlias scope name target chat =>
    match b.createAlias scope name target chat with
    | .ok (_, b) => (true, b)
    | .error _ => (false, b)
  | .removeAlias scope name => b.removeAlias scope name
  | .schedule chat sender command args time =>
    (true, (b.schedule chat sender command args time).2)
  | .unschedule id => b.unschedule id
  | .link x y => b.link x y
  | .unlink x y => b.unlink x y
  | .startTimer name now => b.startTimer name now
  | .stopTimer name now =>
    let (elapsed, b) := b.stopTimer name now
    (elapsed.isSome, b)

/-- Does what a script says. -/
def follow (b : Bot) : Script → Outcome × Bot
  | .finish outcome => (outcome, b)
  | .look next => follow b (next b.snapshot)
  | .change c next =>
    let (made, b) := b.attempt c
    follow b (next made)

/-! ## Messages -/

/-- The command that a message runs in a chat; `none` if the message is plain talk. -/
def invocation? (b : Bot) (chat : Chat) (text : String) :
    Except DispatchError (Option Invocation) := do
  match ← (CommandLine.read (b.delimiter chat) text).mapError .parse with
  | none => return none
  | some line => return some ((← b.resolve line.name chat).invoke line.args)

/-- What the handler of a command sees. -/
def context (b : Bot) (chat : Chat) (sender : User) (i : Invocation) : Context :=
  let delimiter := b.delimiter chat
  ⟨chat, sender, i.command.name, i.args, delimiter, "Usage: " ++ i.command.usage delimiter,
    b.server? chat⟩

/-- The outcome of a handler, and the bot after it. -/
def handle (b : Bot) (i : Invocation) (ctx : Context) (now : Instant) : Outcome × Bot :=
  match i.command.handler with
  | .builtin c => c.run ctx now b
  | .custom run => (run ctx, b)
  | .scripted run => b.follow (run ctx)

/-- The text under which an error of a handler is reported. -/
def trouble (report : String) : String := "Error while running command! Stack trace:\n" ++ report

/-- Replies with the outcome of a command, and counts it if it is none that was meant. -/
def conclude (b : Bot) (chat : Chat) (sender : User) (command : String) : Outcome → Bot
  | .silent => b
  | .reply text => b.reply chat sender (b.substitute chat sender text)
  | .failed failure =>
    (b.count (.error command "handler_error")).reply chat sender (trouble failure.report)
  | .crashed message =>
    (b.count (.error command "handler_panic")).reply chat sender
      (trouble (message.getD "handler panicked"))

/-- Runs a command and replies with its outcome. -/
def run (b : Bot) (chat : Chat) (sender : User) (i : Invocation) (now : Instant) : Bot :=
  let (outcome, after) := b.handle i (b.context chat sender i) now
  (after.count (.handled i.command.name)).conclude chat sender i.command.name outcome

/-- Takes a message that was said in a chat. -/
def receive (b : Bot) (chat : Chat) (sender : User) (text : String) (urls : List String)
    (now : Instant) : Bot :=
  let b := if b.isSelf chat sender then b else b.forward chat sender text urls
  match b.invocation? chat text with
  | .ok none => b
  | .ok (some i) => b.run chat sender i now
  | .error e => (b.count (.error "unknown" e.code)).reply chat sender e.reply

end Bot

end ChatBot
