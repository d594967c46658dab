import ChatBot.Message.CommandLine
import ChatBot.Proofs.Text.Classes

/-!
# The grammar of command lines

What the text of a command looks like, said on characters and without tokens: words between runs of
blanks, where a word is made of plain characters, escapes and quoted sections. Each relation ties a
text to what it stands for; `Written` is the grammar of a whole command.
-/

namespace ChatBot

open Text Token

/-- The delimiter, which is not empty, stands once in front of the body of the message. -/
def Delimiter.Precedes (delimiter : String) (body : List Char) (message : String) : Prop :=
  delimiter ≠ "" ∧ message.toList = delimiter.toList ++ body ∧ body ≠ [] ∧
    ¬delimiter.toList <+: body

namespace CommandLine

/-! ## Escapes -/

/-- The letters after a backslash, with the characters that they stand for. -/
def namedEscapes : List (Char × Char) :=
  [('n', '\n'), ('r', '\r'), ('t', '\t'), ('b', '\x08'), ('f', '\x0c'), ('\'', '\''), ('"', '"'),
    ('\\', '\\')]

/-- Whether a text goes on with an octal digit. -/
def startsOctal (s : List Char) : Bool := s.head?.any (isDigitBelow 8)

/-- `Escape e c rest` says that `e` is a well-formed escape for `c` in front of `rest`. Octal digits
are read greedily, so fewer than three are an escape only where no further one follows. The code of
a character is never half of a surrogate pair. -/
inductive Escape : List Char → Char → List Char → Prop
  | named : (x, c) ∈ namedEscapes → Escape ['\\', x] c rest
  | octal : digits ≠ [] → digits.length ≤ 3 → (∀ d ∈ digits, isDigitBelow 8 d) →
      (digits.length < 3 → startsOctal rest = false) → digitsValue 8 digits ≤ 0o377 →
      c.toNat = digitsValue 8 digits → Escape ('\\' :: digits) c rest
  | unicode : digits.length = 4 → (∀ d ∈ digits, isDigitBelow 16 d) →
      c.toNat = digitsValue 16 digits → Escape ('\\' :: 'u' :: digits) c rest

/-- The end of a word: a text that is empty or starts with a blank. -/
def Ends (s : List Char) : Prop := ∀ c ∈ s.head?, isBlank c

theorem Ends.append (hs : Ends s) (hx : Ends x) : Ends (s ++ x) := by
  cases s with
  | nil => exact hx
  | cons => exact hs

theorem startsOctal_of_ends {s : List Char} (h : Ends s) : startsOctal s = false := by
  cases s with
  | nil => rfl
  | cons c s => exact isDigitBelow_eight_of_isBlank (h c rfl)

theorem startsOctal_append {s x : List Char} (hx : startsOctal x = false) :
    startsOctal (s ++ x) = startsOctal s := by
  cases s with
  | nil => exact hx
  | cons => rfl

namespace Escape

theorem exists_cons (h : Escape e c s) : ∃ x t, e = '\\' :: x :: t := by
  cases h with
  | named => exact ⟨_, _, rfl⟩
  | octal hne =>
    obtain ⟨x, t, rfl⟩ := List.exists_cons_of_ne_nil hne
    exact ⟨_, _, rfl⟩
  | unicode => exact ⟨_, _, rfl⟩

theorem not_all_isPlain (h : Escape e c s) : e.all isPlain = false := by
  obtain ⟨x, t, rfl⟩ := h.exists_cons
  rfl

/-- Whether a text is an escape hangs on the first character after it alone. -/
theorem congr (h : Escape e c s) (hs : startsOctal s' = startsOctal s) : Escape e c s' := by
  cases h with
  | named hmem => exact .named hmem
  | octal hne hlen hdigits hgreedy hvalue hc =>
    exact .octal hne hlen hdigits (fun hlt => hs.trans (hgreedy hlt)) hvalue hc
  | unicode hlen hdigits hc => exact .unicode hlen hdigits hc

theorem append (h : Escape e c s) (hx : startsOctal x = false) : Escape e c (s ++ x) :=
  h.congr (startsOctal_append hx)

theorem of_append (h : Escape e c (s ++ x)) (hx : startsOctal x = false) : Escape e c s :=
  h.congr (startsOctal_append hx).symm

end Escape

/-! ## Words -/

/-- The text between two quotes, and what it stands for. -/
inductive Section : List Char → List Char → Prop
  | nil : Section [] []
  | char : isPlain c ∨ isBlank c → Section s v → Section (c :: s) (c :: v)
  | escape : Escape e c s → Section s v → Section (e ++ s) (c :: v)

/-- A row of plain characters, escapes and quoted sections, and what it stands for. -/
inductive Pieces : List Char → List Char → Prop
  | nil : Pieces [] []
  | char : isPlain c → Pieces s v → Pieces (c :: s) (c :: v)
  | escape : Escape e c s → Pieces s v → Pieces (e ++ s) (c :: v)
  | quoted : Section q u → Pieces s v → Pieces ('"' :: q ++ '"' :: s) (u ++ v)

/-- A text of plain characters stands for itself. -/
theorem Pieces.of_isPlain : ∀ {s : List Char}, s.all isPlain → Pieces s s
  | [], _ => .nil
  | c :: s, h => by
    rw [List.all_cons, Bool.and_eq_true] at h
    exact .char h.1 (.of_isPlain h.2)

theorem Pieces.eq_of_isPlain (h : Pieces p v) (hp : p.all isPlain) : v = p := by
  induction h with
  | nil => rfl
  | char _ _ ih =>
    rw [List.all_cons, Bool.and_eq_true] at hp
    rw [ih hp.2]
  | escape he =>
    rw [List.all_append, he.not_all_isPlain, Bool.false_and] at hp
    contradiction
  | quoted => exact absurd hp (by simp [isPlain])

theorem Pieces.isBlank_head (h : Pieces (c :: p) v) : isBlank c = false := by
  generalize hs : c :: p = s at h
  cases h with
  | nil => contradiction
  | char hc =>
    cases hs
    simp only [isPlain, Bool.and_eq_true, Bool.not_eq_true'] at hc
    exact hc.1.1
  | escape he =>
    obtain ⟨x, t, rfl⟩ := he.exists_cons
    cases hs
    rfl
  | quoted =>
    cases hs
    rfl

/-! ## Commands -/

/-- What follows a word of a command: further words, each after a run of blanks, and a run of blanks
at the end, which may be empty. -/
inductive Arguments : List Char → List (List Char) → Prop
  | nil : (∀ b ∈ gap, isBlank b) → Arguments gap []
  | word : gap ≠ [] → (∀ b ∈ gap, isBlank b) → w ≠ [] → Pieces w v → Arguments s vs →
      Arguments (gap ++ w ++ s) (v :: vs)

namespace Arguments

theorem ends (h : Arguments s vs) : Ends s := by
  intro c hc
  cases h with
  | nil hgap => exact hgap c (List.mem_of_mem_head? hc)
  | word hne hgap =>
    obtain ⟨b, gap, rfl⟩ := List.exists_cons_of_ne_nil hne
    exact hgap c (List.mem_of_mem_head? hc)

theorem cons_blank (hb : isBlank b) (h : Arguments s vs) : Arguments (b :: s) vs := by
  cases h with
  | nil hgap => exact .nil (List.forall_mem_cons.2 ⟨hb, hgap⟩)
  | word hne hgap hw hp hs =>
    exact .word (List.cons_ne_nil _ _) (List.forall_mem_cons.2 ⟨hb, hgap⟩) hw hp hs

theorem blanks_append (hgap : ∀ b ∈ gap, isBlank b) (h : Arguments s vs) :
    Arguments (gap ++ s) vs := by
  induction gap with
  | nil => exact h
  | cons b gap ih =>
    rw [List.forall_mem_cons] at hgap
    exact cons_blank hgap.1 (ih hgap.2)

/-- Arguments may be written one after the other. -/
theorem append (h : Arguments s vs) (h' : Arguments s' vs') : Arguments (s ++ s') (vs ++ vs') := by
  induction h with
  | nil hgap => exact blanks_append hgap h'
  | word hne hgap hw hp _ ih =>
    rw [List.append_assoc]
    exact .word hne hgap hw hp ih

end Arguments

/-- The text after the delimiter of a command: a name of plain alphanumeric characters, which is
lowercased, and arguments. -/
def Written (body : List Char) (line : CommandLine) : Prop :=
  ∃ name s, body = name ++ s ∧ name ≠ [] ∧ (∀ c ∈ name, isPlain c ∧ isAlphanumeric c) ∧
    line.name = lowercase (String.ofList name) ∧ Arguments s (line.args.map String.toList)

theorem Written.ne_nil (h : Written body line) : body ≠ [] := by
  obtain ⟨name, s, rfl, hne, -⟩ := h
  simp [hne]

end CommandLine

/-! ## Delimiters -/

namespace Delimiter

theorem fault?_eq_none_iff {delimiter : String} : fault? delimiter = none ↔
    delimiter ≠ "" ∧ ∀ c ∈ delimiter.toList, isBlank c = false ∧ c ≠ '"' := by
  unfold fault?
  by_cases hd : delimiter = ""
  · simp [hd]
  · simp [hd]

/-- A delimiter cannot reach over the end of a word. -/
theorem not_prefix_append {delimiter : String} {name s : List Char} (hd : fault? delimiter = none)
    (hname : ¬delimiter.toList <+: name) (hs : CommandLine.Ends s) :
    ¬delimiter.toList <+: name ++ s := by
  intro h
  rcases List.prefix_or_prefix_of_prefix h (List.prefix_append name s) with h' | ⟨t, ht⟩
  · exact hname h'
  rw [← ht, List.prefix_append_right_inj] at h
  cases t with
  | nil =>
    rw [List.append_nil] at ht
    exact hname (ht ▸ List.prefix_refl name)
  | cons c t =>
    obtain ⟨r, rfl⟩ := h
    have hmem : c ∈ delimiter.toList := by rw [← ht]; simp
    have hblank := ((fault?_eq_none_iff.1 hd).2 c hmem).1
    rw [hs c rfl] at hblank
    contradiction

theorem ne_empty_of_fault? {delimiter : String} (hd : fault? delimiter = none) :
    delimiter ≠ "" :=
  (fault?_eq_none_iff.1 hd).1

theorem ensure_of_not_prefix {delimiter text : String} (h : ¬delimiter.toList <+: text.toList) :
    ensure delimiter text = delimiter ++ text := by
  rw [ensure, if_neg h]

end Delimiter

end ChatBot
