import ChatBot.OrderedMap
import ChatBot.Table
import ChatBot.Text.Classes
import ChatBot.Text.Alphanumeric
import ChatBot.Text.Cased
import ChatBot.Text.Lowercase
import ChatBot.Text.Numeral
import ChatBot.Text.Pattern
import ChatBot.Time.Calendar
import ChatBot.Time.Instant
import ChatBot.Time.Timestamp
import ChatBot.Time.Expression
import ChatBot.Message.Token
import ChatBot.Message.ParseError
import ChatBot.Message.Delimiter
import ChatBot.Message.CommandLine
import ChatBot.Chat
import ChatBot.Backend
import ChatBot.Command
import ChatBot.Registry
import ChatBot.Scheduler
import ChatBot.Directory
import ChatBot.Variables
import ChatBot.Links
import ChatBot.Counters
import ChatBot.Text.Utf8
import ChatBot.Json.Token
import ChatBot.Json.Value
import ChatBot.Snapshot
import ChatBot.Snapshot.Format
import ChatBot.Config
import ChatBot.Store
import ChatBot.Bot
import ChatBot.Bot.Persistence
import ChatBot.Bot.Settings
import ChatBot.Bot.Aliases
import ChatBot.Bot.Dispatch
import ChatBot.Bot.Delivery
import ChatBot.Builtin.Declared
import ChatBot.Builtin.Listing
import ChatBot.Builtin.Setting
import ChatBot.Builtin.Timing
import ChatBot.Bot.Tick
import ChatBot.Console
import ChatBot.Config.File
import ChatBot.Toml.Quoted
import ChatBot.Toml.Scalar
import ChatBot.Toml.Value
import ChatBot.Toml.Document
import ChatBot.Main
import ChatBot.Proofs.OrderedMap
import ChatBot.Proofs.Links
import ChatBot.Proofs.Text.Runs
import ChatBot.Proofs.Text.Decimal
import ChatBot.Proofs.Text.Classes
import ChatBot.Proofs.Text.Pattern
import ChatBot.Proofs.Text.Lowercase
import ChatBot.Proofs.Time.Order
import ChatBot.Proofs.Time.Calendar
import ChatBot.Proofs.Time.Timestamp
import ChatBot.Proofs.Time.Span
import ChatBot.Proofs.Time.Expression
import ChatBot.Proofs.Json.Scalars
import ChatBot.Proofs.Json.Lexemes
import ChatBot.Proofs.Json.RoundTrip
import ChatBot.Proofs.Snapshot.Format
import ChatBot.Proofs.Store
import ChatBot.Proofs.CommandLine.Grammar
import ChatBot.Proofs.CommandLine.Tokens
import ChatBot.Proofs.CommandLine.Alternatives
import ChatBot.Proofs.CommandLine.Munch
import ChatBot.Proofs.CommandLine.Words
import ChatBot.Proofs.CommandLine.Reading
import ChatBot.Proofs.CommandLine.Offsets
import ChatBot.Proofs.CommandLine.Faults
import ChatBot.Proofs.Registry.Lookup
import ChatBot.Proofs.Bot.Resolution
import ChatBot.Proofs.CommandLine.Quoting
import ChatBot.Proofs.CommandLine.Continuation
import ChatBot.Proofs.Bot.Aliases
import ChatBot.Proofs.Scheduler.StableSort
import ChatBot.Proofs.Scheduler.Agenda
import ChatBot.Proofs.Scheduler.Refinement
import ChatBot.Proofs.Scheduler.Skipping
import ChatBot.Proofs.Registry.Bound
import ChatBot.Proofs.Registry.Listing
import ChatBot.Proofs.Registry.Vocabulary
import ChatBot.Proofs.Bot.Soundness
import ChatBot.Proofs.Bot.Restoring
import ChatBot.Proofs.Bot.Course
import ChatBot.Proofs.Bot.Attempts
import ChatBot.Proofs.Bot.Operation
import ChatBot.Proofs.Bot.Restart
import ChatBot.Proofs.Bot.Log
import ChatBot.Proofs.Bot.Sends
import ChatBot.Proofs.Bot.Saving
import ChatBot.Proofs.Bot.Deferred
import ChatBot.Proofs.Bot.Batch
import ChatBot.Proofs.Bot.Linking
import ChatBot.Proofs.Bot.Recovery
import ChatBot.Proofs.Bot.Binding
import ChatBot.Proofs.Bot.Delimiters
import ChatBot.Proofs.Variables
import ChatBot.Proofs.Bot.History
import ChatBot.Proofs.Bot.Setup
import ChatBot.Proofs.Bot.Substitution
import ChatBot.Proofs.Bot.Echoes
import ChatBot.Proofs.Bot.Accounts
import ChatBot.Proofs.Bot.Commuting
import ChatBot.Proofs.Bot.Cancelling
import ChatBot.Proofs.Bot.Scheduling
import ChatBot.Proofs.Bot.Targets
import ChatBot.Proofs.Registry.Casing
import ChatBot.Proofs.Time.Printed
import ChatBot.Proofs.Directory
import ChatBot.Proofs.Bot.Numbering
import ChatBot.Proofs.Bot.Lateness
import ChatBot.Proofs.Bot.Paging
import ChatBot.Proofs.Console
