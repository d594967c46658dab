import ChatBot.Proofs.Json.Scalars

/-!
# The tokens of a value

A written value is cut into the tokens of its parts, whatever its depth and whatever comes after it
(`cuts_pretty`).
-/

namespace ChatBot.Json

open Text

/-! ## Tokens of parts -/

mutual

/-- The tokens of a value. -/
def lexemes : Json → List Token
  | .natural n => [.natural n]
  | .string s => [.string (some s)]
  | .array vs => .openArray :: (lexemesOfItems vs ++ [.closeArray])
  | .object ms => .openObject :: (lexemesOfMembers ms ++ [.closeObject])
  | .other => [.other]

def lexemesOfItems : List Json → List Token
  | [] => []
  | v :: vs => lexemes v ++ ((if vs.isEmpty then [] else [.comma]) ++ lexemesOfItems vs)

def lexemesOfMembers : List (String × Json) → List Token
  | [] => []
  | (name, v) :: ms =>
    .string (some name) :: .colon :: (lexemes v ++
      ((if ms.isEmpty then [] else [.comma]) ++ lexemesOfMembers ms))

end

/-! ## Cutting off tokens -/

theorem tokens?_space {c : Char} (h : isSpace c) (rest : Source) :
    tokens? (some c :: rest) = tokens? rest := by
  rw [tokens?, if_pos h]

theorem tokens?_cons {c : Char} {rest after : Source} {t : Token} (h : isSpace c = false)
    (hfirst : first? c rest = some (t, after)) :
    tokens? (some c :: rest) = (tokens? after).map (t :: ·) := by
  rw [tokens?, if_neg (by simp [h])]
  split
  next hnone =>
    rw [hfirst] at hnone
    contradiction
  next hsome =>
    rw [hfirst] at hsome
    cases hsome
    rfl

/-- In front of a text of some kind, the characters are cut into the tokens. -/
def Cuts (follow : Source → Prop) (cs : List Char) (ts : List Token) : Prop :=
  ∀ rest, follow rest → tokens? (cs.map some ++ rest) = (tokens? rest).map (ts ++ ·)

namespace Cuts

variable {P Q : Source → Prop} {cs ds : List Char} {ts us : List Token} {c : Char} {t : Token}

theorem nil : Cuts P [] [] := fun rest _ => by
  cases h : tokens? rest <;> simp [h]

theorem append (h : Cuts P cs ts) (h' : Cuts Q ds us)
    (hfollow : ∀ rest, Q rest → P (ds.map some ++ rest)) : Cuts Q (cs ++ ds) (ts ++ us) := by
  intro rest hrest
  rw [List.map_append, List.append_assoc, h _ (hfollow rest hrest), h' rest hrest, Option.map_map]
  congr 1
  funext vs
  exact (List.append_assoc ts us vs).symm

theorem space (hspace : isSpace c) (h : Cuts P cs ts) : Cuts P (c :: cs) ts := fun rest hrest =>
  (tokens?_space hspace _).trans (h rest hrest)

/-- A line end and the blanks after it are no token. -/
theorem line (depth : Nat) (h : Cuts P cs ts) : Cuts P (newLine depth ++ cs) ts := by
  have hblanks (n : Nat) : Cuts P (List.replicate n ' ' ++ cs) ts := by
    induction n with
    | zero => exact h
    | succ n ih => exact ih.space rfl
  exact (hblanks (2 * depth)).space rfl

/-- A bracket or a separator is a token of its own. -/
theorem cons (hspace : isSpace c = false) (hfirst : ∀ rest, first? c rest = some (t, rest))
    (h : Cuts P cs ts) : Cuts P (c :: cs) (t :: ts) := by
  intro rest hrest
  rw [List.map_cons, List.cons_append, tokens?_cons hspace (hfirst _), h rest hrest,
    Option.map_map]
  rfl

theorem quoted (s : String) : Cuts P (quoted s) [.string (some s)] := fun rest _ =>
  tokens?_cons rfl (first?_quoted s rest)

/-- A name and a colon stand in front of the value of a member. -/
theorem member (name : String) (h : Cuts P cs ts) :
    Cuts P (Json.quoted name ++ ([':', ' '] ++ cs)) (.string (some name) :: .colon :: ts) :=
  (quoted (P := fun _ => True) name).append (.cons rfl (fun _ => rfl) (.space rfl h))
    fun _ _ => trivial

theorem null : Cuts P "null".toList [.other] := fun _ _ => tokens?_cons rfl rfl

end Cuts

theorem isSpace_of_isDigit {c : Char} (h : c.isDigit) : isSpace c = false := by
  rw [Bool.eq_false_iff]
  intro hspace
  simp only [isSpace, Bool.or_eq_true, beq_iff_eq] at hspace
  rcases hspace with ((rfl | rfl) | rfl) | rfl <;> exact absurd h (by decide)

theorem cuts_write (n : Nat) : Cuts AfterValue (Decimal.write n) [.natural n] := by
  intro rest hrest
  obtain ⟨c, cs, hc, hn, hfirst⟩ := exists_first?_write n hrest
  rw [hn]
  exact tokens?_cons (isSpace_of_isDigit hc) hfirst

/-! ## Values -/

mutual

/-- **A written value is cut into the tokens of the value.** -/
theorem cuts_pretty (depth : Nat) (v : Json) : Cuts AfterValue (pretty depth v) (lexemes v) := by
  match v with
  | .natural n => exact cuts_write n
  | .string s => exact .quoted s
  | .other => exact .null
  | .array [] | .object [] => exact .cons rfl (fun _ => rfl) (.cons rfl (fun _ => rfl) .nil)
  | .array (v :: vs) =>
    have hitems := cuts_prettyItems (depth + 1) (v :: vs)
    rw [pretty, List.append_assoc]
    exact .cons rfl (fun _ => rfl)
      (hitems.append (.line depth (.cons rfl (fun _ => rfl) .nil)) fun _ _ => .line _)
  | .object (m :: ms) =>
    have hmembers := cuts_prettyMembers (depth + 1) (m :: ms)
    rw [pretty, List.append_assoc]
    exact .cons rfl (fun _ => rfl)
      (hmembers.append (.line depth (.cons rfl (fun _ => rfl) .nil)) fun _ _ => .line _)

theorem cuts_prettyItems (depth : Nat) (vs : List Json) :
    Cuts AfterValue (prettyItems depth vs) (lexemesOfItems vs) := by
  match vs with
  | [] => exact .nil
  | [v] =>
    have hv := cuts_pretty depth v
    rw [prettyItems, List.append_assoc, List.append_assoc]
    exact .line depth (hv.append .nil fun _ hrest => hrest)
  | v :: w :: vs =>
    have hv := cuts_pretty depth v
    have hrest := cuts_prettyItems depth (w :: vs)
    rw [prettyItems, List.append_assoc, List.append_assoc]
    exact .line depth (hv.append (.cons rfl (fun _ => rfl) hrest) fun _ _ => .comma _)

theorem cuts_prettyMembers (depth : Nat) (ms : List (String × Json)) :
    Cuts AfterValue (prettyMembers depth ms) (lexemesOfMembers ms) := by
  match ms with
  | [] => exact .nil
  | [(name, v)] =>
    have hv := cuts_pretty depth v
    simp only [prettyMembers, List.append_assoc]
    exact .line depth (.member name (hv.append .nil fun _ hrest => hrest))
  | (name, v) :: m :: ms =>
    have hv := cuts_pretty depth v
    have hrest := cuts_prettyMembers depth (m :: ms)
    rw [prettyMembers]
    simp only [List.append_assoc]
    exact .line depth
      (.member name (hv.append (.cons rfl (fun _ => rfl) hrest) fun _ _ => .comma _))

end

end ChatBot.Json
