import ChatBot.Json.Token

/-!
# Values of JSON

A text is read by a machine that keeps the containers which are open. Values that no record can hold
are not told apart.
-/

namespace ChatBot

open Text

inductive Json
  | natural (value : Nat)
  | string (text : String)
  | array (items : List Json)
  | object (members : List (String × Json))
  /-- `null`, a truth value, another number, or what has a string that stands for no text as itself
  or as a name. -/
  | other

namespace Json

/-! ## Reading -/

/-- The members of an object, unless the name of one stands for no text. -/
abbrev Members := Option (List (String × Json))

def ofMembers : Members → Json
  | some ms => .object ms
  | none => .other

def ofText : Option String → Json
  | some s => .string s
  | none => .other

/-- The members with one more. -/
def Members.push (ms : Members) (name : Option String) (value : Json) : Members :=
  ms.bind fun ms => name.map fun name => ms ++ [(name, value)]

/-- A container that is open, and what it holds already. -/
inductive Frame
  | array (items : List Json)
  /-- An object with the name of the member that is being read. -/
  | object (members : Members) (key : Option String)

/-- What may come next inside of some containers, the innermost one first. -/
inductive Reading
  | value (outer : List Frame)
  /-- A value or the end of the array that has just been opened. -/
  | item (outer : List Frame)
  /-- A name or, if `first`, the end of the object. -/
  | name (first : Bool) (members : Members) (outer : List Frame)
  | colon (key : Option String) (members : Members) (outer : List Frame)
  /-- A separator or the end of the container, after a value. -/
  | after (value : Json) (outer : List Frame)

namespace Reading

/-- Reads the first token of a value. -/
def start? : Token → List Frame → Option Reading
  | .openArray, outer => some (.item outer)
  | .openObject, outer => some (.name true (some []) outer)
  | .natural n, outer => some (.after (.natural n) outer)
  | .string s, outer => some (.after (ofText s) outer)
  | .other, outer => some (.after .other outer)
  | _, _ => none

def step? : Reading → Token → Option Reading
  | .value outer, t => start? t outer
  | .item outer, .closeArray => some (.after (.array []) outer)
  | .item outer, t => start? t (.array [] :: outer)
  | .name true ms outer, .closeObject => some (.after (ofMembers ms) outer)
  | .name _ ms outer, .string key => some (.colon key ms outer)
  | .colon key ms outer, .colon => some (.value (.object ms key :: outer))
  | .after v (.array vs :: outer), .comma => some (.value (.array (vs ++ [v]) :: outer))
  | .after v (.array vs :: outer), .closeArray => some (.after (.array (vs ++ [v])) outer)
  | .after v (.object ms key :: outer), .comma => some (.name false (ms.push key v) outer)
  | .after v (.object ms key :: outer), .closeObject =>
    some (.after (ofMembers (ms.push key v)) outer)
  | _, _ => none

def run? (r : Reading) (tokens : List Token) : Option Reading := tokens.foldlM step? r

/-- The value, if nothing is open. -/
def result? : Reading → Option Json
  | .after v [] => some v
  | _ => none

end Reading

/-- Reads a text that is one value. -/
def read? (s : Source) : Option Json := do
  let tokens ← tokens? s
  (← (Reading.value []).run? tokens).result?

/-! ## Writing -/

/-- A character as it is written in a string. -/
def escape : Char → List Char
  | '"' => ['\\', '"']
  | '\\' => ['\\', '\\']
  | '\x08' => ['\\', 'b']
  | '\t' => ['\\', 't']
  | '\n' => ['\\', 'n']
  | '\x0c' => ['\\', 'f']
  | '\r' => ['\\', 'r']
  | c =>
    if c < ' ' then
      ['\\', 'u', '0', '0', Nat.digitChar (c.toNat / 16), Nat.digitChar (c.toNat % 16)]
    else [c]

def quoted (s : String) : List Char := '"' :: s.toList.flatMap escape ++ ['"']

/-- A line end, and the blanks at the start of a line. -/
def newLine (depth : Nat) : List Char := '\n' :: List.replicate (2 * depth) ' '

mutual

/-- The text of a value with every item and member on a line of its own, which is indented deeper
than `depth`. -/
def pretty (depth : Nat) : Json → List Char
  | .natural n => Decimal.write n
  | .string s => quoted s
  | .array [] => ['[', ']']
  | .array (v :: vs) => '[' :: (prettyItems (depth + 1) (v :: vs) ++ newLine depth ++ [']'])
  | .object [] => ['\x7b', '\x7d']
  | .object (m :: ms) => '\x7b' :: (prettyMembers (depth + 1) (m :: ms) ++ newLine depth ++ ['\x7d'])
  | .other => "null".toList

def prettyItems (depth : Nat) : List Json → List Char
  | [] => []
  | v :: vs =>
    newLine depth ++ pretty depth v ++ (if vs.isEmpty then [] else [',']) ++ prettyItems depth vs

def prettyMembers (depth : Nat) : List (String × Json) → List Char
  | [] => []
  | (name, v) :: ms =>
    newLine depth ++ quoted name ++ [':', ' '] ++ pretty depth v ++
      (if ms.isEmpty then [] else [',']) ++ prettyMembers depth ms

end

/-- The text of a value. -/
def write (v : Json) : List Char := v.pretty 0

end Json

end ChatBot
