import ChatBot.Json.Value
import ChatBot.Snapshot
import ChatBot.Time.Timestamp

/-!
# The stored form of snapshots

A snapshot is stored as a JSON object with a list for each kind of record. A record is written as an
object and may also be read from an array of its fields in order. Fields of other names are skipped.
-/

namespace ChatBot

open Text

namespace Json

/-! ## Fields -/

def natural? : Json → Option Nat
  | .natural n => if n < Nat.pow 2 64 then some n else none
  | _ => none

def text? : Json → Option String
  | .string s => some s
  | _ => none

/-- Reads every item of an array. -/
def list? (read : Json → Option α) : Json → Option (List α)
  | .array vs => vs.mapM read
  | _ => none

/-- The values of a record with some field names, as far as it has them. No field is given twice,
and an array has no more items than there are fields. -/
def fields? (names : List String) : Json → Option (List (Option Json))
  | .object ms =>
    if names.all fun name => (ms.filter (·.1 = name)).length ≤ 1 then some (names.map (List.lookup · ms))
    else none
  | .array vs =>
    if vs.length ≤ names.length then
      some (vs.map some ++ List.replicate (names.length - vs.length) none)
    else none
  | _ => none

end Json

/-! ## Identities -/

/-- The stored form of a name on a protocol. -/
def identityJson (protocol : Protocol) (name : String) : Json :=
  .object [("protocol", .string protocol.name), ("name", .string name)]

/-- Reads a name on a protocol. -/
def identity? (make : Protocol → String → α) (j : Json) : Option α :=
  match j.fields? ["protocol", "name"] with
  | some [protocol, name] => do some (make ⟨← (← protocol).text?⟩ (← (← name).text?))
  | _ => none

def Chat.toJson (c : Chat) : Json := identityJson c.protocol c.name

def Chat.ofJson? : Json → Option Chat := identity? Chat.mk

def User.toJson (u : User) : Json := identityJson u.protocol u.name

def User.ofJson? : Json → Option User := identity? User.mk

def Server.toJson (s : Server) : Json := identityJson s.protocol s.name

def Server.ofJson? : Json → Option Server := identity? Server.mk

/-- A scope is stored under the name of its kind. -/
def Scope.toJson : Scope → Json
  | .chat c => .object [("Chat", c.toJson)]
  | .server s => .object [("Server", s.toJson)]

def Scope.ofJson? : Json → Option Scope
  | .object [(kind, j)] =>
    if kind = "Chat" then (Chat.ofJson? j).map .chat
    else if kind = "Server" then (Server.ofJson? j).map .server
    else none
  | _ => none

def Instant.toJson (t : Instant) : Json := .string (String.ofList (Timestamp.write t))

def Instant.ofJson? (j : Json) : Option Instant := j.text? >>= fun s => Timestamp.read? s.toList

/-! ## Records -/

def textsJson (texts : List String) : Json := .array (texts.map .string)

namespace DelimiterRecord

def fieldNames : List String := ["chat", "delimiter"]

def toJson (r : DelimiterRecord) : Json :=
  .object (fieldNames.zip [r.chat.toJson, .string r.delimiter])

def ofJson? (j : Json) : Option DelimiterRecord :=
  match j.fields? fieldNames with
  | some [chat, delimiter] => do some ⟨← Chat.ofJson? (← chat), ← (← delimiter).text?⟩
  | _ => none

end DelimiterRecord

namespace AliasRecord

def fieldNames : List String := ["scope", "name", "protocol", "command", "args"]

def toJson (r : AliasRecord) : Json :=
  .object (fieldNames.zip
    [r.scope.toJson, .string r.name, .string r.protocol.name, .string r.command, textsJson r.args])

def ofJson? (j : Json) : Option AliasRecord :=
  match j.fields? fieldNames with
  | some [scope, name, protocol, command, args] => do
    some ⟨← Scope.ofJson? (← scope), ← (← name).text?, ⟨← (← protocol).text?⟩,
      ← (← command).text?, ← (← args).list? Json.text?⟩
  | _ => none

end AliasRecord

namespace ScheduledCommand

def fieldNames : List String := ["id", "time", "chat", "sender", "command", "args"]

def toJson (e : ScheduledCommand) : Json :=
  .object (fieldNames.zip
    [.natural e.id, e.time.toJson, e.chat.toJson, e.sender.toJson, .string e.command,
      textsJson e.args])

def ofJson? (j : Json) : Option ScheduledCommand :=
  match j.fields? fieldNames with
  | some [id, time, chat, sender, command, args] => do
    some ⟨← (← id).natural?, ← Instant.ofJson? (← time), ← Chat.ofJson? (← chat),
      ← User.ofJson? (← sender), ← (← command).text?, ← (← args).list? Json.text?⟩
  | _ => none

end ScheduledCommand

namespace LinkRecord

def fieldNames : List String := ["chat", "linked"]

def toJson (r : LinkRecord) : Json :=
  .object (fieldNames.zip [r.chat.toJson, .array (r.linked.map Chat.toJson)])

def ofJson? (j : Json) : Option LinkRecord :=
  match j.fields? fieldNames with
  | some [chat, linked] => do some ⟨← Chat.ofJson? (← chat), ← (← linked).list? Chat.ofJson?⟩
  | _ => none

end LinkRecord

namespace TimerRecord

def fieldNames : List String := ["name", "started"]

def toJson (r : TimerRecord) : Json :=
  .object (fieldNames.zip [.string r.name, r.started.toJson])

def ofJson? (j : Json) : Option TimerRecord :=
  match j.fields? fieldNames with
  | some [name, started] => do some ⟨← (← name).text?, ← Instant.ofJson? (← started)⟩
  | _ => none

end TimerRecord

/-! ## Snapshots -/

namespace Snapshot

def fieldNames : List String := ["delimiters", "aliases", "scheduled", "links", "timers"]

def toJson (s : Snapshot) : Json :=
  .object (fieldNames.zip
    [.array (s.delimiters.map DelimiterRecord.toJson), .array (s.aliases.map AliasRecord.toJson),
      .array (s.scheduled.map ScheduledCommand.toJson), .array (s.links.map LinkRecord.toJson),
      .array (s.timers.map TimerRecord.toJson)])

/-- Reads the records of one kind, of which there are none if the field is missing. -/
def records? (read : Json → Option α) : Option Json → Option (List α)
  | some j => j.list? read
  | none => some []

def ofJson? (j : Json) : Option Snapshot :=
  match j.fields? fieldNames with
  | some [delimiters, aliases, scheduled, links, timers] => do
    some ⟨← records? DelimiterRecord.ofJson? delimiters, ← records? AliasRecord.ofJson? aliases,
      ← records? ScheduledCommand.ofJson? scheduled, ← records? LinkRecord.ofJson? links,
      ← records? TimerRecord.ofJson? timers⟩
  | _ => none

/-- The text that a snapshot is stored as. -/
def write (s : Snapshot) : String := String.ofList s.toJson.write

/-- Reads a stored snapshot. -/
def read? (s : Source) : Option Snapshot := Json.read? s >>= ofJson?

end Snapshot

end ChatBot
