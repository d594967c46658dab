import ChatBot.Bot.Tick
import ChatBot.Builtin.Declared
import ChatBot.Config.File

/-!
# The console

A backend with one chat. Each line of input is a message of the local user, and each delivery is a
line of output. A line that cannot be read ends the session as the end of the input does.
-/

namespace ChatBot.Console

open Text

/-! ## The backend -/

def protocol : Protocol := ⟨"Console"⟩

def chat : Chat := ⟨protocol, "console"⟩

/-- The user that the bot is. -/
def self : User := ⟨protocol, "convergence"⟩

/-- The user who types. -/
def user (name : String) : User := ⟨protocol, name⟩

def backend : Backend where
  protocol := protocol
  chats := [chat]
  bot _ := self
  userName _ u := u.name
  chatName c := c.name
  delivers _ := true
  formatting? := none
  nickname? := none
  sendsImages := false
  server? := none
  others := []

/-! ## Input -/

/-- The most bytes that a line can have without its line feed. -/
def longestLine : Nat := 4096

/-- A line without a carriage return at its end. -/
def withoutReturn (line : List UInt8) : List UInt8 :=
  if line.getLast? = some 13 then line.dropLast else line

/-- The message in a line without its line feed, unless the line is too long or not UTF-8. -/
def message? (line : List UInt8) : Option String :=
  if longestLine < line.length then none
  else
    (String.fromUTF8? (ByteArray.mk (withoutReturn line).toArray)).map fun s =>
      String.ofList (trimEnd s.toList)

/-- The messages in some lines, up to the first line that cannot be read. -/
def messages : List (List UInt8) → List String
  | [] => []
  | line :: rest =>
    match message? line with
    | none => []
    | some s => if s = "" then messages rest else s :: messages rest

/-- The messages in a whole input. -/
def input (bytes : ByteArray) : List String := messages (bytes.toList.splitOn 10)

/-! ## The session -/

/-- Why a session cannot start. -/
inductive StartError
  | malformedConfig (error : ConfigError)
  | unusableConfig (problems : List ConfigProblem)
  | malformedState (error : StoreError)
  deriving DecidableEq, Repr

def StartError.message : StartError → String
  | .malformedConfig _ => "the configuration file is unusable"
  | .unusableConfig problems => "\n".intercalate (problems.map (·.message))
  | .malformedState _ => "the state file is malformed"

/-- The configuration in the bytes of a file, if a bot can work with it. -/
def configure (file : Option ByteArray) : Except StartError Config := do
  let config ← (Config.ofFile file).mapError .malformedConfig
  if config.problems = [] then return config else throw (.unusableConfig config.problems)

/-- The bot with the commands that every bot has, the console and what was stored. -/
def start (config : Config) (store : Store) : Except StartError Bot :=
  let b := (Bot.new config store).addBuiltins.2
  ((b.addBackend? backend).getD b).restore.mapError .malformedState

/-- The bot after a message, which it takes no more once it is stopping. -/
def hear (name : String) (now : Instant) (b : Bot) (message : String) : Bot :=
  if b.stopping then b else b.receive chat (user name) message [] now

/-- The bot after a tick. A lateness that cannot be measured stops all ticks. -/
def tick (b : Bot) (now : Instant) : Bot := (b.tick? now now).getD b

/-- The bot at the end of its session. -/
def finish (b : Bot) : Bot := b.shutdown.persist

/-- The text that shows a delivery. -/
def output : Delivery → String
  | .message _ text _ => text ++ "\n"
  | .images .. => ""

/-- A whole session: the bot that ticked once and took all messages at one time. -/
def session (config : Config) (store : Store) (name : String) (now : Instant)
    (messages : List String) : Except StartError Bot :=
  (start config store).map fun b => finish (messages.foldl (hear name now) (tick b now))

end ChatBot.Console
