import ChatBot.Text.Classes
import ChatBot.Text.Numeral

/-!
# Tokens of a command

A command is cut into runs of blanks, runs of plain characters, quotes and escapes. Every token is
the longest that its first characters allow, and an escape that stands for no character is a token
of its own kind.
-/

namespace ChatBot

open Text

inductive TokenKind
  /-- A run of characters that are not blanks, quotes or backslashes. -/
  | text
  | blank
  | quote
  /-- A backslash and one of the letters `n r t b f`, a quote, an apostrophe or a backslash. -/
  | namedEscape
  /-- A backslash and up to three octal digits of value at most 255. -/
  | octalEscape
  /-- A backslash, the letter `u` and four hexadecimal digits. -/
  | unicodeEscape
  | malformedEscape
  deriving DecidableEq, Repr

/-- A token as it is written, and the text that it stands for. -/
structure Token where
  kind : TokenKind
  raw : List Char
  decoded : List Char
  deriving DecidableEq, Repr

namespace Token

def isEscape (t : Token) : Bool :=
  match t.kind with
  | .text | .blank | .quote => false
  | _ => true

/-- A token that stands for itself. -/
def verbatim (kind : TokenKind) (raw : List Char) : Token := ⟨kind, raw, raw⟩

/-- An escape for a character, or a malformed one if there is no such character. -/
def escapeFor (kind : TokenKind) (raw : List Char) : Option Char → Token
  | some c => ⟨kind, raw, [c]⟩
  | none => verbatim .malformedEscape raw

/-- The character that a letter after a backslash stands for. -/
def named? : Char → Option Char
  | 'n' => some '\n'
  | 'r' => some '\r'
  | 't' => some '\t'
  | 'b' => some '\x08'
  | 'f' => some '\x0c'
  | '\'' => some '\''
  | '"' => some '"'
  | '\\' => some '\\'
  | _ => none

/-- The escape that starts with a backslash followed by `rest`. -/
def escape : List Char → Token
  | [] => verbatim .malformedEscape ['\\']
  | 'u' :: rest =>
    let digits := (rest.take 4).takeWhile (isDigitBelow 16)
    escapeFor .unicodeEscape ('\\' :: 'u' :: digits)
      (if digits.length = 4 then scalar? (digitsValue 16 digits) else none)
  | c :: rest =>
    if isDigitBelow 8 c then
      let digits := ((c :: rest).take 3).takeWhile (isDigitBelow 8)
      escapeFor .octalEscape ('\\' :: digits)
        (if digitsValue 8 digits ≤ 255 then scalar? (digitsValue 8 digits) else none)
    else escapeFor .namedEscape ['\\', c] (named? c)

/-- Whether a character may stand in a run of text. -/
def isPlain (c : Char) : Bool := !isBlank c && c != '"' && c != '\\'

/-- The token at the front of a text that starts with `c`. -/
def first (c : Char) (rest : List Char) : Token :=
  if c = '\\' then escape rest
  else if c = '"' then ⟨.quote, ['"'], []⟩
  else if isBlank c then verbatim .blank (c :: rest.takeWhile isBlank)
  else verbatim .text (c :: rest.takeWhile isPlain)

theorem raw_escapeFor {kind : TokenKind} {raw : List Char} {c : Option Char} :
    (escapeFor kind raw c).raw = raw := by
  cases c <;> rfl

theorem raw_escape_ne_nil (rest : List Char) : (escape rest).raw ≠ [] := by
  unfold escape
  split
  · simp [verbatim]
  · simp [raw_escapeFor]
  · split <;> simp [raw_escapeFor]

theorem raw_first_ne_nil (c : Char) (rest : List Char) : (first c rest).raw ≠ [] := by
  unfold first
  split
  · exact raw_escape_ne_nil rest
  · split
    · simp
    · split <;> simp [verbatim]

/-- The tokens of a text. -/
def cut : List Char → List Token
  | [] => []
  | c :: rest => first c rest :: cut ((c :: rest).drop (first c rest).raw.length)
termination_by s => s.length
decreasing_by
  have := List.length_pos_iff.2 (raw_first_ne_nil c rest)
  simp only [List.length_drop, List.length_cons]
  omega

/-- The malformed escapes among some tokens, as they are written. -/
def malformed (tokens : List Token) : List (List Char) :=
  (tokens.filter (·.kind = .malformedEscape)).map (·.raw)

end Token

end ChatBot
