import ChatBot.Text.Numeral

/-!
# Lines and strings of TOML

The characters that may stand in a line, and the blanks, comments and line ends between the parts of
a document. Basic strings have escapes and literal strings have none; each kind has a form for
several lines.
-/

namespace ChatBot.Toml

open Text

/-! ## Lines -/

/-- Whether a character may stand in a comment or a string: all but control characters of ASCII
other than the tab. -/
def isPrintable (c : Char) : Bool := c == '\t' || (' ' ≤ c && c != '\x7f')

/-- Whether a character separates the parts of a line. -/
def isGap (c : Char) : Bool := c == ' ' || c == '\t'

def skipGap (s : List Char) : List Char := s.dropWhile isGap

/-- The text after a line end, if one is at its front. -/
def newLine? : List Char → Option (List Char)
  | '\n' :: r => some r
  | '\r' :: '\n' :: r => some r
  | _ => none

/-- The text without a comment at its front. -/
def skipComment : List Char → List Char
  | '#' :: r => r.dropWhile isPrintable
  | s => s

/-- The text after the rest of a line in which nothing but a comment is left. -/
def endOfLine? (s : List Char) : Option (List Char) :=
  match skipComment (skipGap s) with
  | [] => some []
  | s => newLine? s

/-- The text without blanks, comments and line ends at its front. -/
def skipLines (s : List Char) : List Char :=
  match newLine? (skipComment (skipGap s)) with
  | none => skipGap s
  | some r => if r.length < s.length then skipLines r else r
termination_by s.length

/-! ## Strings -/

/-- Reads a code point of exactly `width` hexadecimal digits. -/
def codePoint? (width : Nat) (s : List Char) : Option (Char × List Char) :=
  let digits := s.take width
  if digits.length = width ∧ digits.all (isDigitBelow 16) then
    (scalar? (digitsValue 16 digits)).map fun c => (c, s.drop width)
  else none

/-- Reads what follows a backslash. -/
def escape? : List Char → Option (Char × List Char)
  | 'b' :: r => some ('\x08', r)
  | 't' :: r => some ('\t', r)
  | 'n' :: r => some ('\n', r)
  | 'f' :: r => some ('\x0c', r)
  | 'r' :: r => some ('\r', r)
  | '"' :: r => some ('"', r)
  | '\\' :: r => some ('\\', r)
  | 'u' :: r => codePoint? 4 r
  | 'U' :: r => codePoint? 8 r
  | _ => none

/-- Reads a basic string of one line after its opening quote. -/
def basic? (s : List Char) : Option (List Char × List Char) :=
  match s with
  | [] => none
  | c :: r =>
    if c = '"' then some ([], r)
    else if c = '\\' then
      match escape? r with
      | none => none
      | some (d, after) =>
        if after.length ≤ r.length then (basic? after).map fun (ds, last) => (d :: ds, last) else none
    else if isPrintable c then (basic? r).map fun (ds, last) => (c :: ds, last)
    else none
termination_by s.length

/-- The text without blanks and line ends at its front. -/
def skipWhite (s : List Char) : List Char :=
  match newLine? (skipGap s) with
  | none => skipGap s
  | some r => if r.length < s.length then skipWhite r else r
termination_by s.length

/-- The quotes that belong to a string of several lines although its closing quotes follow, and the
text after the closing quotes. -/
def closing? (quote : Char) (s : List Char) : Option (List Char × List Char) :=
  let quotes := (s.take 5).takeWhile (· = quote)
  if quotes.length < 3 then none else some (quotes.drop 3, s.drop quotes.length)

/-- Reads a string of several lines after its opening quotes, with escapes if `escapes`. -/
def lines? (quote : Char) (escapes : Bool) (s : List Char) : Option (List Char × List Char) :=
  match closing? quote s with
  | some ending => some ending
  | none =>
    match s with
    | [] => none
    | c :: r =>
      if escapes ∧ c = '\\' then
        match newLine? (skipGap r), escape? r with
        | some _, _ =>
          if (skipWhite r).length ≤ r.length then lines? quote escapes (skipWhite r) else none
        | none, some (d, after) =>
          if after.length ≤ r.length then
            (lines? quote escapes after).map fun (ds, last) => (d :: ds, last)
          else none
        | none, none => none
      else
        match newLine? (c :: r) with
        | some after =>
          if after.length ≤ r.length then
            (lines? quote escapes after).map fun (ds, last) => ('\n' :: ds, last)
          else none
        | none =>
          if isPrintable c then (lines? quote escapes r).map fun (ds, last) => (c :: ds, last)
          else none
termination_by s.length

/-- Reads a literal string of one line after its opening quote. -/
def literal? : List Char → Option (List Char × List Char)
  | [] => none
  | c :: r =>
    if c = '\'' then some ([], r)
    else if isPrintable c then (literal? r).map fun (ds, last) => (c :: ds, last)
    else none

/-- The text without a line end at its front. -/
def skipNewLine (s : List Char) : List Char := (newLine? s).getD s

/-- Reads a string of any kind; `none` if there is no quote or the string is malformed. -/
def string? : List Char → Option (List Char × List Char)
  | '"' :: '"' :: '"' :: r => lines? '"' true (skipNewLine r)
  | '"' :: r => basic? r
  | '\'' :: '\'' :: '\'' :: r => lines? '\'' false (skipNewLine r)
  | '\'' :: r => literal? r
  | _ => none

end ChatBot.Toml
