import ChatBot.Message.Delimiter
import ChatBot.Text.Classes
import ChatBot.Time.Instant

/-!
# Configuration

The settings of a bot, what they are when nothing is configured, and which of them are unusable.
-/

namespace ChatBot

open Text

structure Config where
  /-- The delimiter of chats that have none of their own. -/
  defaultDelimiter : String
  /-- Milliseconds between two looks at the scheduler. -/
  tickInterval : Nat
  /-- How many seconds late a scheduled command may still run. -/
  allowedLateness : Nat
  /-- The file that snapshots are stored in. -/
  statePath : String
  deriving DecidableEq, Repr

def Config.standard : Config where
  defaultDelimiter := Delimiter.standard
  tickInterval := 1000
  allowedLateness := 30
  statePath := "convergence.json"

instance : Inhabited Config := ⟨.standard⟩

/-- Why a configuration file yields no configuration. -/
inductive ConfigError
  /-- The file is not UTF-8. -/
  | unreadable
  | malformed
  deriving DecidableEq, Repr

/-- Why a bot cannot work with a configuration. -/
inductive ConfigProblem
  | delimiter (error : DelimiterError)
  | zeroTickInterval
  | missingStatePath
  deriving DecidableEq, Repr

def ConfigProblem.message : ConfigProblem → String
  | .delimiter e => "bot.default_delimiter is unusable: " ++ e.message
  | .zeroTickInterval => "scheduler.tick_interval_ms must be positive"
  | .missingStatePath => "state.path is required"

namespace Config

/-- All problems of a configuration. -/
def problems (c : Config) : List ConfigProblem :=
  ((Delimiter.fault? c.defaultDelimiter).map .delimiter).toList ++
    (if c.tickInterval = 0 then [.zeroTickInterval] else []) ++
    (if trim c.statePath.toList = [] then [.missingStatePath] else [])

/-- The whole seconds of the longest time that can be measured, which is a signed number of
milliseconds in 64 bits. -/
def longestSeconds : Nat := (Nat.pow 2 63 - 1) / 1000

/-- The lateness that is allowed, unless it is too long to be measured. Numbers that are no signed
seconds in 64 bits mean the longest. -/
def lateness? (c : Config) : Option Elapsed :=
  let seconds := if c.allowedLateness < Nat.pow 2 63 then c.allowedLateness else longestSeconds
  if seconds ≤ longestSeconds then some (.ofSeconds seconds) else none

end Config

end ChatBot
