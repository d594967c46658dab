import ChatBot.Config
import ChatBot.Toml.Document

/-!
# Configuration files

A configuration file is a TOML document with the sections `bot`, `scheduler` and `state`. Sections
and keys may be left out; other ones are skipped.
-/

namespace ChatBot.Config

open Toml

/-- The values of a section by the names of its keys. A section may be a table or an array of its
values in order; a date has none of the keys. -/
def values? (names : List String) : Option Value → Option (List (Option Value))
  | none | some .dateTime => some (names.map fun _ => none)
  | some (.table _ es) => some (names.map (List.lookup · es))
  | some (.array vs) => some (names.mapIdx fun i _ => vs[i]?)
  | some (.tables elements) =>
    some (names.mapIdx fun i _ => elements[i]?.map fun es => .table .header es)
  | some _ => none

/-- The text of a key, or the standard one if the key is missing. -/
def text? (standard : String) : Option Value → Option String
  | none => some standard
  | some (.string s) => some s
  | some _ => none

/-- The number of a key, or the standard one if the key is missing. -/
def natural? (standard : Nat) : Option Value → Option Nat
  | none => some standard
  | some (.integer n) => if 0 ≤ n then some n.toNat else none
  | some _ => none

/-- The configuration in the tables of a document. -/
def ofEntries? (es : Entries) : Option Config :=
  match values? ["default_delimiter"] (es.lookup "bot"),
      values? ["tick_interval_ms", "allowed_lateness_secs"] (es.lookup "scheduler"),
      values? ["path"] (es.lookup "state") with
  | some [delimiter], some [interval, lateness], some [path] => do
    some ⟨← text? standard.defaultDelimiter delimiter, ← natural? standard.tickInterval interval,
      ← natural? standard.allowedLateness lateness, ← text? standard.statePath path⟩
  | _, _, _ => none

/-- Reads the bytes of a configuration file. Without a file all is standard. -/
def ofFile : Option ByteArray → Except ConfigError Config
  | none => .ok .standard
  | some bytes =>
    match String.fromUTF8? bytes with
    | none => .error .unreadable
    | some s =>
      match document? s.toList >>= ofEntries? with
      | some config => .ok config
      | none => .error .malformed

end ChatBot.Config
