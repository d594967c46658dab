import ChatBot.Toml.Value

/-!
# Documents of TOML

A document is a sequence of headers and of keys with values. A header names the table that the keys
after it belong to.
-/

namespace ChatBot.Toml

/-- A line of a document, or several lines if its value takes several. -/
inductive Statement
  | table (path : Path)
  | tables (path : Path)
  | entry (key : Path) (value : Value)

/-! ## Reading -/

/-- Reads one statement up to the end of its line; `none` in its place if the line has none. -/
def statement? (s : List Char) : Option (Option Statement × List Char) :=
  match s with
  | '[' :: '[' :: r => do
    match ← key? r with
    | (path, ']' :: ']' :: after) => some (some (.tables path), ← endOfLine? after)
    | _ => none
  | '[' :: r => do
    match ← key? r with
    | (path, ']' :: after) => some (some (.table path), ← endOfLine? after)
    | _ => none
  | s =>
    match endOfLine? s with
    | some after => some (none, after)
    | none => do
      match ← key? s with
      | (key, '=' :: r) =>
        let (v, after) ← value? (depthLimit - 1) (skipGap r)
        some (some (.entry key v), ← endOfLine? after)
      | _ => none

/-- Reads all statements of a text. -/
def statements? (s : List Char) : Option (List Statement) :=
  match skipGap s with
  | [] => some []
  | start =>
    match statement? start with
    | none => none
    | some (statement, after) =>
      if after.length < s.length then (statements? after).map (statement.toList ++ ·) else none
termination_by s.length

/-! ## Tables -/

/-- A document as far as it is read: its tables, without the one that is being filled. -/
structure Assembly where
  root : Entries
  /-- The path of the table that is being filled and whether it is one of an array of tables; nothing
  for the table of the whole document. -/
  target : Option (Path × Bool)
  current : Entries

namespace Assembly

/-- Whether a header may go through a table. -/
def passes (m : Making) : Bool := m != .inline

/-- Changes the table that holds the table of a header. -/
def inParent? (path : Path) (change : Entries → Option Entries) (root : Entries) : Option Entries :=
  descend? .implicit passes (fun _ es => change es) path.tables .header root

/-- Puts the table that is being filled in its place. -/
def finish? (a : Assembly) : Option Entries :=
  match a.target with
  | none => some a.current
  | some (path, isElement) =>
    inParent? path
      (fun es =>
        match isElement, es.lookup path.name with
        | true, some (.tables elements) => some (es.set path.name (.tables (elements ++ [a.current])))
        | true, none => some (es ++ [(path.name, .tables [a.current])])
        | false, none => some (es ++ [(path.name, .table .header a.current)])
        | _, _ => none)
      a.root

/-- The entries of the table at a header's path, if the header may still define it. -/
def definable? (path : Path) : List String → Entries → Option Entries
  | [], es =>
    match es.lookup path.name with
    | none => some []
    | some (.table .implicit inner) => some inner
    | some _ => none
  | name :: rest, es =>
    match es.lookup name with
    | none => some []
    | some (.table m inner) => if passes m then definable? path rest inner else none
    | some (.tables elements) => elements.getLast? >>= definable? path rest
    | some _ => none

def step? (a : Assembly) : Statement → Option Assembly
  | .entry key v =>
    (insert? Making.isOpen key v .header a.current).map fun current => { a with current }
  | .table path => do
    let root ← a.finish?
    let current ← definable? path path.tables root
    let root ← inParent? path (fun es => some (es.filter (·.1 ≠ path.name))) root
    some ⟨root, some (path, false), current⟩
  | .tables path => do
    let root ← a.finish?
    let root ← inParent? path
      (fun es =>
        match es.lookup path.name with
        | none | some (.tables _) => some es
        | some _ => none)
      root
    some ⟨root, some (path, true), []⟩

end Assembly

/-- The entries of the table that some statements make up. -/
def assemble? (statements : List Statement) : Option Entries :=
  statements.foldlM Assembly.step? ⟨[], none, []⟩ >>= Assembly.finish?

/-- Reads a document. A byte order mark may stand in front of it. -/
def document? (s : List Char) : Option Entries :=
  let s := match s with
    | '\ufeff' :: r => r
    | s => s
  statements? s >>= assemble?

end ChatBot.Toml
