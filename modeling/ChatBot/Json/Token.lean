import ChatBot.Text.Numeral
import ChatBot.Text.Utf8

/-!
# Tokens of JSON

A text is cut into brackets, separators and scalars. The text of a string is found from its pieces,
so that a string which stands for no text is still a token.
-/

namespace ChatBot.Json

open Text

inductive Token
  | openArray | closeArray | openObject | closeObject | colon | comma
  /-- A number without sign, fraction and exponent. -/
  | natural (value : Nat)
  /-- A string, with the text that it stands for if it stands for one. -/
  | string (text : Option String)
  /-- `null`, a truth value or another number. -/
  | other
  deriving DecidableEq, Repr

/-! ## Strings -/

/-- What stands between the quotes of a string. -/
inductive Piece
  | char (c : Char)
  /-- A code unit of sixteen bits, given by number. -/
  | unit (code : Nat)
  | gap
  deriving DecidableEq, Repr

/-- The characters that pieces stand for. Two halves of a surrogate pair are one character. -/
def textOfPieces : List Piece → Option (List Char)
  | [] => some []
  | .char c :: r => (textOfPieces r).map (c :: ·)
  | .gap :: _ => none
  | .unit high :: r =>
    match scalar? high, r with
    | some c, r => (textOfPieces r).map (c :: ·)
    | none, .unit low :: r =>
      if high < 0xDC00 ∧ 0xDC00 ≤ low ∧ low < 0xE000 then do
        let c ← scalar? (0x10000 + (high - 0xD800) * 0x400 + (low - 0xDC00))
        (textOfPieces r).map (c :: ·)
      else none
    | none, _ => none

/-- The character that a letter after a backslash stands for. -/
def named? : Char → Option Char
  | '"' => some '"'
  | '\\' => some '\\'
  | '/' => some '/'
  | 'b' => some '\x08'
  | 'f' => some '\x0c'
  | 'n' => some '\n'
  | 'r' => some '\r'
  | 't' => some '\t'
  | _ => none

/-- The pieces up to a closing quote, and what follows it. -/
def pieces? : Source → Option (List Piece × Source)
  | [] => none
  | none :: r => (pieces? r).map fun (ps, after) => (.gap :: ps, after)
  | some c :: r =>
    if c = '"' then some ([], r)
    else if c = '\\' then
      match r with
      | some 'u' :: some h₁ :: some h₂ :: some h₃ :: some h₄ :: r =>
        if [h₁, h₂, h₃, h₄].all (isDigitBelow 16) then
          (pieces? r).map fun (ps, after) => (.unit (digitsValue 16 [h₁, h₂, h₃, h₄]) :: ps, after)
        else none
      | some d :: r =>
        match named? d with
        | some e => (pieces? r).map fun (ps, after) => (.char e :: ps, after)
        | none => none
      | _ => none
    else if c < ' ' then none
    else (pieces? r).map fun (ps, after) => (.char c :: ps, after)

/-! ## Numbers and words -/

def isDigit (c : Option Char) : Bool := c.any Char.isDigit

/-- The text without the digits at its front, of which there must be some. -/
def someDigits? (s : Source) : Option Source :=
  if (s.takeWhile isDigit).isEmpty then none else some (s.dropWhile isDigit)

/-- The text after a fraction, if one is at its front. -/
def fraction? : Source → Option Source
  | some '.' :: r => someDigits? r
  | s => some s

/-- The text after an exponent, if one is at its front. -/
def exponent? : Source → Option Source
  | some 'e' :: r | some 'E' :: r =>
    match r with
    | some '+' :: r | some '-' :: r => someDigits? r
    | r => someDigits? r
  | s => some s

/-- Reads a number without its sign. A whole part of several digits does not start with a zero. -/
def unsigned? (s : Source) : Option (Token × Source) :=
  let digits := (s.takeWhile isDigit).filterMap id
  if digits.head? = some '0' ∧ 1 < digits.length then none
  else do
    let whole ← someDigits? s
    let after ← fraction? whole >>= exponent?
    some (if after.length = whole.length then .natural (Decimal.value digits) else .other, after)

/-- The text after a word, if the word is at its front. -/
def word? : List Char → Source → Option Source
  | [], s => some s
  | c :: word, some d :: s => if c = d then word? word s else none
  | _, _ => none

/-- The token that starts with a character, and what follows it. -/
def first? (c : Char) (rest : Source) : Option (Token × Source) :=
  match c with
  | '[' => some (.openArray, rest)
  | ']' => some (.closeArray, rest)
  | '\x7b' => some (.openObject, rest)
  | '\x7d' => some (.closeObject, rest)
  | ':' => some (.colon, rest)
  | ',' => some (.comma, rest)
  | '"' => (pieces? rest).map fun (ps, after) => (.string ((textOfPieces ps).map String.ofList), after)
  | 'n' => (word? "ull".toList rest).map fun after => (.other, after)
  | 't' => (word? "rue".toList rest).map fun after => (.other, after)
  | 'f' => (word? "alse".toList rest).map fun after => (.other, after)
  | '-' => (unsigned? rest).map fun (_, after) => (.other, after)
  | c => unsigned? (some c :: rest)

def isSpace (c : Char) : Bool := c == ' ' || c == '\t' || c == '\n' || c == '\r'

/-! ## Whole texts -/

theorem length_lt_of_pieces? {s after : Source} {ps : List Piece} (h : pieces? s = some (ps, after)) :
    after.length < s.length := by
  fun_induction pieces? s generalizing ps <;>
    simp_all only [Option.map_eq_some_iff, reduceCtorEq, Option.some.injEq, Prod.mk.injEq,
      Prod.exists, List.length_cons] <;>
    grind

theorem length_lt_of_someDigits? {s after : Source} (h : someDigits? s = some after) :
    after.length < s.length := by
  unfold someDigits? at h
  have hsplit := congrArg List.length (List.takeWhile_append_dropWhile (p := isDigit) (l := s))
  rw [List.length_append] at hsplit
  split at h
  · cases h
  · rename_i hdigits
    cases h
    have := List.length_pos_iff.2 (mt List.isEmpty_iff.2 hdigits)
    omega

theorem length_le_of_fraction? {s after : Source} (h : fraction? s = some after) :
    after.length ≤ s.length := by
  unfold fraction? at h
  split at h
  · have := length_lt_of_someDigits? h
    simp only [List.length_cons]
    omega
  · cases h
    exact Nat.le_refl _

theorem length_le_of_exponent? {s after : Source} (h : exponent? s = some after) :
    after.length ≤ s.length := by
  unfold exponent? at h
  split at h
  · split at h <;> have := length_lt_of_someDigits? h <;> simp only [List.length_cons] at * <;> omega
  · split at h <;> have := length_lt_of_someDigits? h <;> simp only [List.length_cons] at * <;> omega
  · cases h
    exact Nat.le_refl _

theorem length_lt_of_unsigned? {s after : Source} {t : Token} (h : unsigned? s = some (t, after)) :
    after.length < s.length := by
  simp only [unsigned?] at h
  split at h
  · cases h
  · simp only [Option.bind_eq_bind, Option.bind_eq_some_iff, Option.some.injEq, Prod.mk.injEq] at h
    obtain ⟨whole, hwhole, rest, ⟨frac, hfrac, hexp⟩, _, rfl⟩ := h
    have := length_lt_of_someDigits? hwhole
    have := length_le_of_fraction? hfrac
    have := length_le_of_exponent? hexp
    omega

theorem length_le_of_word? {word : List Char} {s after : Source} (h : word? word s = some after) :
    after.length ≤ s.length := by
  fun_induction word? word s with
  | case1 => cases h; exact Nat.le_refl _
  | case2 _ _ _ ih => exact Nat.le_succ_of_le (ih h)
  | case3 => cases h
  | case4 => cases h

theorem length_le_of_first? {c : Char} {rest after : Source} {t : Token}
    (h : first? c rest = some (t, after)) : after.length ≤ rest.length := by
  unfold first? at h
  split at h
  case h_7 =>
    obtain ⟨⟨_, _⟩, hp, heq⟩ := Option.map_eq_some_iff.1 h
    cases heq
    exact Nat.le_of_lt (length_lt_of_pieces? hp)
  case h_8 | h_9 | h_10 =>
    obtain ⟨_, hw, heq⟩ := Option.map_eq_some_iff.1 h
    cases heq
    exact length_le_of_word? hw
  case h_11 =>
    obtain ⟨⟨_, _⟩, hu, heq⟩ := Option.map_eq_some_iff.1 h
    cases heq
    exact Nat.le_of_lt (length_lt_of_unsigned? hu)
  case h_12 => exact Nat.le_of_lt_succ (length_lt_of_unsigned? h)
  all_goals
    cases h
    exact Nat.le_refl _

/-- The tokens of a whole text. Spaces, tabs and line ends separate them. -/
def tokens? : Source → Option (List Token)
  | [] => some []
  | none :: _ => none
  | some c :: rest =>
    if isSpace c then tokens? rest
    else
      match _found : first? c rest with
      | none => none
      | some (t, after) => (tokens? after).map (t :: ·)
termination_by s => s.length
decreasing_by
  · simp
  · have := length_le_of_first? ‹_›
    simp only [List.length_cons]
    omega

end ChatBot.Json
