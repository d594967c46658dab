import ChatBot.Proofs.Json.Lexemes

/-!
# Values that are written and read

The machine that reads values takes the tokens of a value as that value, inside of any containers
(`Reading.run?_lexemes`). So every value that is written reads back (`read?_write`).
-/

namespace ChatBot.Json

open Text

namespace Reading

theorem run?_cons {r r' : Reading} {t : Token} (h : r.step? t = some r') (ts : List Token) :
    r.run? (t :: ts) = r'.run? ts := by
  rw [run?, List.foldlM_cons, h]
  rfl

/-- The first item of an array is read as any value is. -/
theorem run?_item (v : Json) (outer : List Frame) (ts : List Token) :
    (item outer).run? (lexemes v ++ ts) = (value (.array [] :: outer)).run? (lexemes v ++ ts) := by
  cases v <;> rfl

theorem step?_name (first : Bool) (ms : Members) (outer : List Frame) (key : Option String) :
    (name first ms outer).step? (.string key) = some (.colon key ms outer) := by
  cases first <;> rfl

theorem push_some (ms : List (String × Json)) (key : String) (v : Json) :
    Members.push (some ms) (some key) v = some (ms ++ [(key, v)]) := rfl

mutual

/-- A machine that wants a value takes the tokens of one as that value. -/
theorem run?_lexemes (v : Json) (outer : List Frame) (ts : List Token) :
    (value outer).run? (lexemes v ++ ts) = (after v outer).run? ts := by
  match v with
  | .natural _ | .string _ | .other | .array [] | .object [] => rfl
  | .array (v :: vs) =>
    have hitems := run?_lexemesOfItems (v :: vs) nofun [] outer ts
    rw [lexemesOfItems, List.append_assoc, ← run?_item] at hitems
    rw [lexemes, lexemesOfItems, List.cons_append, run?_cons rfl]
    simpa using hitems
  | .object (m :: ms) =>
    have hmembers := run?_lexemesOfMembers (m :: ms) nofun true [] outer ts
    rw [lexemes, List.cons_append, run?_cons rfl]
    simpa using hmembers

/-- The items of an array are read after those that are read already. -/
theorem run?_lexemesOfItems (vs : List Json) (hne : vs ≠ []) (done : List Json)
    (outer : List Frame) (ts : List Token) :
    (value (.array done :: outer)).run? (lexemesOfItems vs ++ .closeArray :: ts) =
      (after (.array (done ++ vs)) outer).run? ts := by
  match vs with
  | [] => exact absurd rfl hne
  | [v] =>
    have hv := run?_lexemes v (.array done :: outer) (.closeArray :: ts)
    rw [run?_cons rfl] at hv
    simpa [lexemesOfItems] using hv
  | v :: w :: vs =>
    have hv := run?_lexemes v (.array done :: outer)
      (.comma :: (lexemesOfItems (w :: vs) ++ .closeArray :: ts))
    have hrest := run?_lexemesOfItems (w :: vs) nofun (done ++ [v]) outer ts
    rw [run?_cons rfl, hrest] at hv
    simpa [lexemesOfItems] using hv

theorem run?_lexemesOfMembers (ms : List (String × Json)) (hne : ms ≠ []) (first : Bool)
    (done : List (String × Json)) (outer : List Frame) (ts : List Token) :
    (name first (some done) outer).run? (lexemesOfMembers ms ++ .closeObject :: ts) =
      (after (.object (done ++ ms)) outer).run? ts := by
  match ms with
  | [] => exact absurd rfl hne
  | [(key, v)] =>
    have hv := run?_lexemes v (.object (some done) (some key) :: outer) (.closeObject :: ts)
    rw [run?_cons rfl, push_some] at hv
    rw [lexemesOfMembers, List.cons_append, List.cons_append, run?_cons (step?_name ..),
      run?_cons rfl]
    simpa [lexemesOfMembers, ofMembers] using hv
  | (key, v) :: m :: ms =>
    have hv := run?_lexemes v (.object (some done) (some key) :: outer)
      (.comma :: (lexemesOfMembers (m :: ms) ++ .closeObject :: ts))
    have hrest := run?_lexemesOfMembers (m :: ms) nofun false (done ++ [(key, v)]) outer ts
    rw [run?_cons rfl, push_some, hrest] at hv
    rw [lexemesOfMembers, List.cons_append, List.cons_append, run?_cons (step?_name ..),
      run?_cons rfl]
    simpa using hv

end

end Reading

/-- **Every value that is written reads back.** -/
theorem read?_write (v : Json) : read? (v.write.map some) = some v := by
  have htokens := cuts_pretty 0 v [] .finish
  have hrun := Reading.run?_lexemes v [] []
  have hempty : tokens? [] = some [] := by rw [tokens?]
  rw [List.append_nil, hempty, Option.map_some, List.append_nil] at htokens
  rw [List.append_nil] at hrun
  rw [read?, write, htokens]
  simp only [Option.bind_eq_bind, Option.bind_some, hrun]
  rfl

end ChatBot.Json
