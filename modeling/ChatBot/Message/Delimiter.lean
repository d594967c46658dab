import ChatBot.Text.Classes
import ChatBot.Message.ParseError

/-!
# Delimiters

The text that commands start with. A message is a command if the delimiter stands once before a
text that is not empty; a doubled delimiter marks plain talk.
-/

namespace ChatBot

open Text

inductive DelimiterError
  | empty
  /-- The delimiter has a blank or a quote in it. -/
  | invalid (delimiter : String)
  deriving DecidableEq, Repr

def DelimiterError.message : DelimiterError → String
  | .empty => "the delimiter cannot be empty"
  | .invalid delimiter =>
    "the delimiter cannot contain whitespace or quotes: " ++ ParseError.quoted delimiter

namespace Delimiter

/-- The delimiter of chats that have set none. -/
def standard : String := "!"

/-- Why a text cannot be a delimiter, if it cannot. -/
def fault? (delimiter : String) : Option DelimiterError :=
  if delimiter = "" then some .empty
  else if delimiter.toList.any fun c => isBlank c || c == '"' then some (.invalid delimiter)
  else none

/-- The command in a message, without the delimiter. -/
def strip? (delimiter message : List Char) : Option (List Char) :=
  if delimiter = [] then none
  else (delimiter.isPrefixOf? message).filter fun body => body ≠ [] ∧ ¬delimiter <+: body

/-- The text with a delimiter in front, unless it has one there already. -/
def ensure (delimiter text : String) : String :=
  if delimiter.toList <+: text.toList then text else delimiter ++ text

end Delimiter

end ChatBot
