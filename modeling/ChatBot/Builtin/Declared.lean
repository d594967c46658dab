import ChatBot.Bot

/-!
# Declarations of the commands that every bot has

They are universal, so that a command or an alias of the same name comes before them.
-/

namespace ChatBot.Builtin

/-- The commands in the order in which they are registered. -/
def all : List Builtin :=
  [.help, .echo, .ping, .commands, .aliases, .chats, .exit, .alias, .unalias, .link, .unlink,
    .links, .setDelimiter, .schedule, .unschedule, .events, .allEvents, .timer]

def name : Builtin → String
  | .help => "help"
  | .echo => "echo"
  | .ping => "ping"
  | .commands => "commands"
  | .aliases => "aliases"
  | .chats => "chats"
  | .exit => "exit"
  | .alias => "alias"
  | .unalias => "unalias"
  | .link => "link"
  | .unlink => "unlink"
  | .links => "links"
  | .setDelimiter => "setdelimiter"
  | .schedule => "schedule"
  | .unschedule => "unschedule"
  | .events => "events"
  | .allEvents => "allevents"
  | .timer => "timer"

def specs : Builtin → List ArgumentSpec
  | .help => [⟨"page|command", .text, true⟩]
  | .echo => [⟨"text", .rest, false⟩]
  | .unalias => [⟨"names", .rest, false⟩]
  | .link | .unlink => [⟨"chat id", .integer, false⟩]
  | .setDelimiter => [⟨"delimiter", .text, false⟩]
  | .schedule => [⟨"time", .time, false⟩, ⟨"command", .rest, false⟩]
  | .unschedule => [⟨"id", .integer, false⟩]
  | _ => []

/-- The usage text of a command whose arguments do not come one after another. -/
def usageText : Builtin → Option String
  | .alias => some "[-s] <name> <command...>"
  | .timer => some "start|check|stop <name>"
  | _ => none

def summary : Builtin → String
  | .help => "Lists commands and aliases, or explains one."
  | .echo => "Repeats its arguments."
  | .ping => "Replies with Pong!"
  | .commands => "Lists the commands usable here."
  | .aliases => "Lists the aliases defined here."
  | .chats => "Lists known chats and their ids."
  | .exit => "Shuts the bot down."
  | .alias => "Creates an alias in this chat, or on this server with -s."
  | .unalias => "Removes aliases from this chat or server."
  | .link => "Forwards messages between this chat and another."
  | .unlink => "Stops forwarding between this chat and another."
  | .links => "Lists the chats linked to this one."
  | .setDelimiter => "Changes the command prefix for this chat."
  | .schedule => "Runs a command later."
  | .unschedule => "Cancels a scheduled command."
  | .events => "Lists your scheduled commands."
  | .allEvents => "Lists every scheduled command."
  | .timer => "Measures elapsed time."

def toCommand (c : Builtin) : Command where
  protocol := .universal
  name := c.name
  specs := c.specs
  handler := .builtin c
  help := c.summary
  usageText := c.usageText

end ChatBot.Builtin

namespace ChatBot.Bot

/-- Registers the commands that every bot has, as far as their names are free. Their number is given
along with the bot. -/
def addBuiltins (b : Bot) : Nat × Bot :=
  Builtin.all.foldl
    (fun (n, b) c =>
      match b.addCommand? c.toCommand with
      | some b => (n + 1, b)
      | none => (n, b))
    (0, b)

end ChatBot.Bot
