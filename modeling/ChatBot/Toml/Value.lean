import ChatBot.Toml.Quoted
import ChatBot.Toml.Scalar

/-!
# Values of TOML

Strings, numbers, arrays and tables. A table remembers how it was made, as that decides what may be
added to it.
-/

namespace ChatBot.Toml

/-- How a table was made. -/
inductive Making
  /-- By its own header. -/
  | header
  /-- By the header of a table inside of it. -/
  | implicit
  /-- By a dotted key. -/
  | dotted
  /-- Between braces. -/
  | inline
  deriving DecidableEq, Repr

inductive Value
  | string (text : String)
  | integer (value : Int)
  /-- A truth value or another number. -/
  | other
  | dateTime
  | array (items : List Value)
  | table (making : Making) (entries : List (String × Value))
  /-- The tables of one double header, in order. -/
  | tables (elements : List (List (String × Value)))

abbrev Entries := List (String × Value)

/-- A key of several names: the tables on the way, and the name in the last one. -/
structure Path where
  tables : List String
  name : String
  deriving DecidableEq, Repr

/-! ## Tables -/

/-- The entries with another value at a name. -/
def Entries.set (es : Entries) (name : String) (v : Value) : Entries :=
  es.map fun e => if e.1 = name then (name, v) else e

/-- Changes the table that a path leads to. Tables that are missing on the way are made as `making`;
those that are there are entered if `passes` allows it. An array of tables is entered at its last
element. -/
def descend? (making : Making) (passes : Making → Bool)
    (change : Making → Entries → Option Entries) :
    List String → Making → Entries → Option Entries
  | [], m, es => change m es
  | name :: path, _, es =>
    let within := descend? making passes change path
    match es.lookup name with
    | none => (within making []).map fun inner => es ++ [(name, .table making inner)]
    | some (.table m inner) =>
      if passes m then (within m inner).map fun inner => es.set name (.table m inner) else none
    | some (.tables elements) => do
      let inner ← within .header (← elements.getLast?)
      some (es.set name (.tables (elements.dropLast ++ [inner])))
    | some _ => none

/-- Whether a dotted key may go through a table. -/
def Making.isOpen (m : Making) : Bool := m == .implicit || m == .dotted

/-- Adds a value under a key to a table. A dotted key only adds to tables that dotted keys made. -/
def insert? (passes : Making → Bool) (key : Path) (v : Value) (m : Making) (es : Entries) :
    Option Entries :=
  let add (m : Making) (es : Entries) : Option Entries :=
    if (m == .dotted) == key.tables.isEmpty ∨ (es.lookup key.name).isSome then none
    else some (es ++ [(key.name, v)])
  descend? .dotted passes add key.tables m es

/-! ## Keys -/

/-- Whether a character may stand in a name without quotes. -/
def isBare (c : Char) : Bool := c.isAlphanum || c == '_' || c == '-'

/-- Reads one name of a key. -/
def name? (s : List Char) : Option (String × List Char) :=
  match s with
  | '"' :: r => (basic? r).map fun (ds, last) => (String.ofList ds, last)
  | '\'' :: r => (literal? r).map fun (ds, last) => (String.ofList ds, last)
  | s =>
    if (s.takeWhile isBare).isEmpty then none
    else some (String.ofList (s.takeWhile isBare), s.dropWhile isBare)

/-- Reads the names of a key, with points between them. -/
def names? (s : List Char) : Option (List String × List Char) :=
  match name? (skipGap s) with
  | none => none
  | some (n, after) =>
    match skipGap after with
    | '.' :: rest =>
      if rest.length < s.length then (names? rest).map fun (ns, last) => (n :: ns, last) else none
    | after => some ([n], after)
termination_by s.length

/-- How deep keys, arrays and inline tables may be nested. -/
def depthLimit : Nat := 80

/-- Reads a key of fewer names than the limit. -/
def key? (s : List Char) : Option (Path × List Char) :=
  match names? s with
  | none => none
  | some (ns, after) =>
    if ns.length < depthLimit then ns.getLast?.map fun n => (⟨ns.dropLast, n⟩, after) else none

/-! ## Values -/

/-- Reads the items of an array up to its closing bracket. -/
def items? (value? : List Char → Option (Value × List Char)) (s : List Char) :
    Option (List Value × List Char) :=
  match skipLines s with
  | ']' :: rest => some ([], rest)
  | start =>
    match value? start with
    | none => none
    | some (v, after) =>
      match skipLines after with
      | ',' :: rest =>
        if rest.length < s.length then (items? value? rest).map fun (vs, last) => (v :: vs, last)
        else none
      | ']' :: rest => some ([v], rest)
      | _ => none
termination_by s.length

/-- Reads the entries of an inline table, of which there is at least one, up to its closing brace. -/
def members? (value? : List Char → Option (Value × List Char)) (es : Entries) (s : List Char) :
    Option (Entries × List Char) :=
  match key? s with
  | some (key, '=' :: afterKey) =>
    match value? (skipGap afterKey) with
    | none => none
    | some (v, after) =>
      match insert? (· == .dotted) key v .inline es, skipGap after with
      | some es, ',' :: rest => if rest.length < s.length then members? value? es rest else none
      | some es, '\x7d' :: rest => some (es, rest)
      | _, _ => none
  | _ => none
termination_by s.length

/-- Reads what is neither an array nor an inline table. -/
def scalar? (s : List Char) : Option (Value × List Char) :=
  match s with
  | 't' :: 'r' :: 'u' :: 'e' :: r => some (.other, r)
  | 'f' :: 'a' :: 'l' :: 's' :: 'e' :: r => some (.other, r)
  | s =>
    if s.head? = some '"' ∨ s.head? = some '\'' then
      (string? s).map fun (ds, last) => (.string (String.ofList ds), last)
    else if startsTime s then (dateTime? s).map fun last => (.dateTime, last)
    else
      (number? s).map fun
        | (.integer n, last) => (.integer n, last)
        | (.float, last) => (.other, last)

/-- Reads a value in which arrays and inline tables are nested at most `depth` deep. -/
def value? : (depth : Nat) → List Char → Option (Value × List Char)
  | 0, '[' :: _ | 0, '\x7b' :: _ => none
  | depth + 1, '[' :: r => (items? (value? depth) r).map fun (vs, last) => (.array vs, last)
  | depth + 1, '\x7b' :: r =>
    match skipGap r with
    | '\x7d' :: last => some (.table .inline [], last)
    | _ => (members? (value? depth) [] r).map fun (es, last) => (.table .inline es, last)
  | _, s => scalar? s

end ChatBot.Toml
