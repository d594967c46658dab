/-!
# Bytes as text

The scalar values that a byte sequence encodes in UTF-8. Bytes that belong to no scalar value are
kept as gaps.
-/

namespace ChatBot.Text

/-- A text with a gap for every byte that belongs to no character. -/
abbrev Source := List (Option Char)

namespace Source

/-- The six low bits of a continuation byte. -/
def tail? (b : UInt8) : Option Nat :=
  if 0x80 ≤ b ∧ b < 0xC0 then some (b.toNat - 0x80) else none

/-- The character with a code point, if that needs exactly the number of bytes it was written in. -/
def char? (least code : Nat) : Option Char :=
  if least ≤ code ∧ (code < 0xD800 ∨ 0xDFFF < code ∧ code < 0x110000) then some (Char.ofNat code)
  else none

/-- The character at the front of some bytes, and the bytes that follow it. -/
def front? : List UInt8 → Option (Char × List UInt8)
  | [] => none
  | a :: r =>
    if a < 0x80 then some (Char.ofNat a.toNat, r)
    else match r with
      | b :: r =>
        if 0xC0 ≤ a ∧ a < 0xE0 then do
          let c ← char? 0x80 ((a.toNat - 0xC0) * 64 + (← tail? b))
          some (c, r)
        else match r with
          | c :: r =>
            if 0xE0 ≤ a ∧ a < 0xF0 then do
              let c ← char? 0x800 (((a.toNat - 0xE0) * 64 + (← tail? b)) * 64 + (← tail? c))
              some (c, r)
            else match r with
              | d :: r =>
                if 0xF0 ≤ a ∧ a < 0xF8 then do
                  let c ← char? 0x10000
                    ((((a.toNat - 0xF0) * 64 + (← tail? b)) * 64 + (← tail? c)) * 64 + (← tail? d))
                  some (c, r)
                else none
              | [] => none
          | [] => none
      | [] => none

/-- Reads the bytes of a text that is not UTF-8 throughout. At most `fuel` bytes are read. -/
def ofFaulty : (fuel : Nat) → List UInt8 → Source
  | 0, _ => []
  | _, [] => []
  | fuel + 1, b :: r =>
    match front? (b :: r) with
    | some (c, after) => some c :: ofFaulty fuel after
    | none => none :: ofFaulty fuel r

def ofText (s : String) : Source := s.toList.map some

def ofBytes (bytes : ByteArray) : Source :=
  match String.fromUTF8? bytes with
  | some s => ofText s
  | none => ofFaulty bytes.size bytes.toList

theorem ofBytes_toUTF8 (s : String) : ofBytes s.toUTF8 = ofText s := by
  have h : String.fromUTF8? s.toUTF8 = some s := by
    simp [String.fromUTF8?, s.isValidUTF8, String.fromUTF8, String.toUTF8]
  rw [ofBytes, h]

end Source

end ChatBot.Text
