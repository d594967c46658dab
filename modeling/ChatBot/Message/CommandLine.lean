import ChatBot.Text.Alphanumeric
import ChatBot.Text.Lowercase
import ChatBot.Message.Token
import ChatBot.Message.Delimiter

/-!
# Command lines

A command line is a command name and arguments, separated by blanks. Blanks inside of quotes
separate nothing, and quotes themselves contribute nothing to an argument.
-/

namespace ChatBot

open Text

/-- A word of a command line. -/
structure Word where
  raw : List Char
  value : List Char
  /-- Whether the word is written without quotes and escapes. -/
  plain : Bool
  deriving DecidableEq, Repr

namespace Word

def empty : Word := ⟨[], [], true⟩

/-- The word with one more token at its end. -/
def push (w : Word) (t : Token) : Word :=
  ⟨w.raw ++ t.raw, w.value ++ t.decoded, w.plain && (t.kind == .text || t.kind == .blank)⟩

/-- The words that some tokens make up, after the word that is being read. `opened` is what follows
from the quote that is open, if one is; it is the error if no quote closes it. -/
def gather (word : Option Word) (opened : Option (List Char)) :
    List Token → Except (List Char) (List Word)
  | [] =>
    match opened with
    | some fragment => .error fragment
    | none => .ok word.toList
  | t :: ts =>
    if t.kind = .blank ∧ opened = none then do
      return word.toList ++ (← gather none none ts)
    else
      let opened := if t.kind = .quote then
          match opened with
          | some _ => none
          | none => some ((t :: ts).flatMap (·.raw))
        else opened
      gather (some ((word.getD empty).push t)) opened ts

end Word

/-- A command name in lower case, and its arguments. -/
structure CommandLine where
  name : String
  args : List String
  deriving DecidableEq, Repr

namespace CommandLine

/-- Whether a word can be a command name. -/
def isName (w : Word) : Bool := w.plain && w.value.all isAlphanumeric

/-- The tokens of a text without malformed escapes. -/
def tokens (command text : String) : Except ParseError (List Token) :=
  let ts := Token.cut text.toList
  match Token.malformed ts with
  | [] => .ok ts
  | raws => .error (.invalidEscapes command (raws.map String.ofList))

/-- Reads the text after the delimiter of a message. -/
def ofBody (message : String) (body : List Char) : Except ParseError CommandLine := do
  let ts ← tokens message (String.ofList body)
  if (ts.head?.map (·.kind)) = some .blank then throw (.missingName message)
  match Word.gather none none ts with
  | .error fragment => throw (.unterminatedQuote (String.ofList fragment))
  | .ok [] => throw (.missingName message)
  | .ok (head :: rest) =>
    if isName head then
      return ⟨String.ofList (lowercaseAfter [] head.value), rest.map (String.ofList ·.value)⟩
    else throw (.invalidName (String.ofList head.raw))

/-- Reads a message; `none` if the message is not a command. -/
def read (delimiter message : String) : Except ParseError (Option CommandLine) :=
  match Delimiter.strip? delimiter.toList message.toList with
  | none => .ok none
  | some body => (ofBody message body).map some

/-! ## Writing -/

/-- A character as it is written inside of quotes. -/
def escaped (c : Char) : List Char := if c = '\\' ∨ c = '"' then ['\\', c] else [c]

/-- An argument written so that it reads back as one word. -/
def quoteArg (arg : String) : String :=
  let s := arg.toList
  if s = [] ∨ s.any (fun c => isBlank c || c == '"' || c == '\\') then
    String.ofList ('"' :: s.flatMap escaped ++ ['"'])
  else arg

/-- The words of a command line, each written so that it reads back as one. -/
def quoteWords (words : List String) : String := " ".intercalate (words.map quoteArg)

end CommandLine

end ChatBot
