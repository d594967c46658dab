/-!
# Faults of a command

What can be wrong with a message that is meant as a command, and what is said about it.
-/

namespace ChatBot

inductive ParseError
  /-- The command has these malformed escapes, in the order in which they appear. -/
  | invalidEscapes (command : String) (sequences : List String)
  /-- The message has a blank where its command name should be. -/
  | missingName (message : String)
  /-- The first word, as it was typed, is no command name. -/
  | invalidName (name : String)
  /-- The fragment starts with the quote that is never closed. -/
  | unterminatedQuote (fragment : String)
  deriving DecidableEq, Repr

namespace ParseError

/-- A text between quotes. -/
def quoted (s : String) : String := "\"" ++ s ++ "\""

def message : ParseError → String
  | .invalidEscapes command sequences =>
    "command " ++ quoted command ++ " contains the following invalid escape sequences: " ++
      ", ".intercalate (sequences.map quoted)
  | .missingName message => "missing command name in " ++ quoted message
  | .invalidName name => "invalid command name " ++ quoted name
  | .unterminatedQuote fragment => "unterminated quote: " ++ quoted fragment

/-- The part of the message that is at fault. -/
def offending : ParseError → String
  | .invalidEscapes _ sequences => ", ".intercalate sequences
  | .missingName message => message
  | .invalidName name => name
  | .unterminatedQuote fragment => fragment

def isInvalidEscape : ParseError → Bool
  | .invalidEscapes .. => true
  | _ => false

end ParseError

end ChatBot
