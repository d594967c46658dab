import ChatBot.Proofs.CommandLine.Alternatives

/-!
# Maximal munch

The tokens of a text lie side by side, and each is as long as can be (`Tiling`). There is one such
list of tokens for every text, and it is the one that the text is cut into (`tiling_iff`).
-/

namespace ChatBot.Token

open Text CommandLine

/-! ## Escapes by themselves -/

/-- The ways to write an escape, well-formed or not. -/
inductive EscapeForm : List Char → Prop
  | unicode : digits.length ≤ 4 → (∀ d ∈ digits, isDigitBelow 16 d) →
      EscapeForm ('\\' :: 'u' :: digits)
  | octal : digits ≠ [] → digits.length ≤ 3 → (∀ d ∈ digits, isDigitBelow 8 d) →
      EscapeForm ('\\' :: digits)
  | single : EscapeForm ['\\', x]
  | lone : EscapeForm ['\\']

/-- The escapes that stand for no character. -/
inductive Malformed : List Char → Prop
  | surrogate : digits.length = 4 → (∀ d ∈ digits, isDigitBelow 16 d) →
      0xD800 ≤ digitsValue 16 digits → digitsValue 16 digits ≤ 0xDFFF →
      Malformed ('\\' :: 'u' :: digits)
  | short : digits.length < 4 → (∀ d ∈ digits, isDigitBelow 16 d) →
      Malformed ('\\' :: 'u' :: digits)
  | octal : digits ≠ [] → digits.length ≤ 3 → (∀ d ∈ digits, isDigitBelow 8 d) →
      0o377 < digitsValue 8 digits → Malformed ('\\' :: digits)
  | unknown : x ≠ 'u' → isDigitBelow 8 x = false → (∀ c, (x, c) ∉ namedEscapes) →
      Malformed ['\\', x]
  | lone : Malformed ['\\']

/-- The escapes of each kind, with the characters that they stand for. -/
inductive Denotes : TokenKind → List Char → Char → Prop
  | named : (x, c) ∈ namedEscapes → Denotes .namedEscape ['\\', x] c
  | octal : digits ≠ [] → digits.length ≤ 3 → (∀ d ∈ digits, isDigitBelow 8 d) →
      digitsValue 8 digits ≤ 0o377 → c.toNat = digitsValue 8 digits →
      Denotes .octalEscape ('\\' :: digits) c
  | unicode : digits.length = 4 → (∀ d ∈ digits, isDigitBelow 16 d) →
      c.toNat = digitsValue 16 digits → Denotes .unicodeEscape ('\\' :: 'u' :: digits) c

/-- What tokens look like, and what they stand for. -/
inductive Sound : Token → Prop
  | text : (∀ c ∈ run, isPlain c) → Sound (verbatim .text run)
  | blank : (∀ c ∈ run, isBlank c) → Sound (verbatim .blank run)
  | quote : Sound ⟨.quote, ['"'], []⟩
  | malformed : Malformed e → Sound (verbatim .malformedEscape e)
  | escape : Denotes k e c → Sound ⟨k, e, [c]⟩

variable {c : Char} {s rest raw run digits : List Char} {t : Token} {ts : List Token}
  {kind : TokenKind}

theorem escape_unicode (hlength : digits.length ≤ 4) (hdigits : ∀ d ∈ digits, isDigitBelow 16 d) :
    escape ('u' :: digits) = escapeFor .unicodeEscape ('\\' :: 'u' :: digits)
      (if digits.length = 4 then scalar? (digitsValue 16 digits) else none) := by
  rw [escape, takeWhile_take_self hdigits hlength]

theorem escape_octal (hne : digits ≠ []) (hlength : digits.length ≤ 3)
    (hdigits : ∀ d ∈ digits, isDigitBelow 8 d) :
    escape digits = escapeFor .octalEscape ('\\' :: digits)
      (if digitsValue 8 digits ≤ 255 then scalar? (digitsValue 8 digits) else none) := by
  obtain ⟨x, t, rfl⟩ := List.exists_cons_of_ne_nil hne
  have hx := hdigits x List.mem_cons_self
  rw [escape_of_ne_u (ne_u_of_isDigitBelow_eight hx), if_pos hx]
  dsimp only
  rw [takeWhile_take_self hdigits hlength]

theorem escape_other {x : Char} (hu : x ≠ 'u') (hx : isDigitBelow 8 x = false) :
    escape [x] = escapeFor .namedEscape ['\\', x] (named? x) := by
  rw [escape_of_ne_u hu, if_neg (by simp [hx])]

theorem scalar?_eq_none {code : Nat} (hfirst : 0xD800 ≤ code) (hlast : code ≤ 0xDFFF) :
    scalar? code = none := by
  rw [scalar?, if_neg (by omega)]

/-- A malformed escape is cut off when it stands alone. -/
theorem Malformed.escape_tail (h : Malformed raw) :
    escape raw.tail = verbatim .malformedEscape raw := by
  cases h with
  | surrogate hlength hdigits hfirst hlast =>
    rw [List.tail_cons, escape_unicode (Nat.le_of_eq hlength) hdigits, if_pos hlength,
      scalar?_eq_none hfirst hlast, escapeFor]
  | short hlength hdigits =>
    rw [List.tail_cons, escape_unicode (Nat.le_of_lt hlength) hdigits,
      if_neg (Nat.ne_of_lt hlength), escapeFor]
  | octal hne hlength hdigits hvalue =>
    rw [List.tail_cons, escape_octal hne hlength hdigits, if_neg (Nat.not_le.2 hvalue), escapeFor]
  | @unknown x hu hx hnamed =>
    have hnone : named? x = none := by
      rw [Option.eq_none_iff_forall_not_mem]
      intro c hc
      exact hnamed c (named?_eq_some_iff.1 hc)
    rw [List.tail_cons, escape_other hu hx, hnone, escapeFor]
  | lone => rfl

/-- A well-formed escape is cut off when it stands alone. -/
theorem Denotes.escape_tail (h : Denotes kind raw c) : escape raw.tail = ⟨kind, raw, [c]⟩ := by
  cases h with
  | named hmem =>
    obtain ⟨hu, hx⟩ := isDigitBelow_eight_of_named hmem
    rw [List.tail_cons, escape_other hu hx, named?_eq_some_iff.2 hmem, escapeFor]
  | octal hne hlength hdigits hvalue hc =>
    rw [List.tail_cons, escape_octal hne hlength hdigits, if_pos hvalue, scalar?_eq_some_iff.2 hc,
      escapeFor]
  | unicode hlength hdigits hc =>
    rw [List.tail_cons, escape_unicode (Nat.le_of_eq hlength) hdigits, if_pos hlength,
      scalar?_eq_some_iff.2 hc, escapeFor]

theorem Denotes.mem_escapeKinds (h : Denotes kind raw c) : kind ∈ escapeKinds := by
  cases h <;> decide

theorem Denotes.ne_malformed (h : Denotes kind raw c) : kind ≠ .malformedEscape := by
  rintro rfl
  exact absurd h.mem_escapeKinds (by decide)

theorem Denotes.not_malformed (h : Denotes kind raw c) : ¬Malformed raw := by
  intro hm
  have heq := h.escape_tail.symm.trans hm.escape_tail
  exact h.ne_malformed (congrArg Token.kind heq)

/-! ## Tokens by themselves -/

theorem Malformed.exists_cons (h : Malformed raw) : ∃ e, raw = '\\' :: e := by
  cases h <;> exact ⟨_, rfl⟩

theorem Denotes.exists_cons (h : Denotes kind raw c) : ∃ e, raw = '\\' :: e := by
  cases h <;> exact ⟨_, rfl⟩

/-- A token is malformed exactly if it is written as a malformed escape. -/
theorem Sound.kind_eq_malformed_iff (h : t.Sound) : t.kind = .malformedEscape ↔ Malformed t.raw := by
  cases h with
  | @text run hrun =>
    refine ⟨nofun, fun hm => ?_⟩
    obtain ⟨e, rfl⟩ : ∃ e, run = '\\' :: e := hm.exists_cons
    exact absurd (hrun '\\' List.mem_cons_self) (by decide)
  | @blank run hrun =>
    refine ⟨nofun, fun hm => ?_⟩
    obtain ⟨e, rfl⟩ : ∃ e, run = '\\' :: e := hm.exists_cons
    exact absurd (hrun '\\' List.mem_cons_self) (by decide)
  | quote => exact ⟨nofun, fun hm => by obtain ⟨e, he⟩ := hm.exists_cons; simp at he⟩
  | malformed hm => exact ⟨fun _ => hm, fun _ => rfl⟩
  | escape hd => exact ⟨fun hk => absurd hk hd.ne_malformed, fun hm => absurd hm hd.not_malformed⟩

theorem Sound.decoded_of_quote (h : t.Sound) (hk : t.kind = .quote) : t.decoded = [] := by
  cases h with
  | quote => rfl
  | @escape k e c hd =>
    obtain rfl : k = .quote := hk
    exact absurd hd.mem_escapeKinds (by decide)
  | text => contradiction
  | blank => contradiction
  | malformed => contradiction

/-! ## The token at the front -/

/-- A number is less than the power of its radix to the number of its digits. -/
theorem foldl_digits_lt {radix : Nat} (h : ∀ d ∈ digits, isDigitBelow radix d) (n : Nat) :
    digits.foldl (fun n c => n * radix + (hexDigit? c).getD 0) n <
      (n + 1) * radix ^ digits.length := by
  induction digits generalizing n with
  | nil => simp
  | cons d digits ih =>
    rw [List.forall_mem_cons] at h
    have hd : (hexDigit? d).getD 0 < radix := by
      have hd := h.1
      unfold isDigitBelow at hd
      cases hvalue : hexDigit? d with
      | none => simp [hvalue] at hd
      | some v => simpa [hvalue] using hd
    calc (d :: digits).foldl (fun n c => n * radix + (hexDigit? c).getD 0) n
      _ < (n * radix + (hexDigit? d).getD 0 + 1) * radix ^ digits.length := ih h.2 _
      _ ≤ ((n + 1) * radix) * radix ^ digits.length := by
        refine Nat.mul_le_mul_right _ ?_
        rw [Nat.add_mul, Nat.one_mul]
        omega
      _ = (n + 1) * radix ^ (d :: digits).length := by
        rw [List.length_cons, Nat.pow_succ, Nat.mul_assoc, Nat.mul_comm radix]

theorem digitsValue_lt {radix : Nat} (h : ∀ d ∈ digits, isDigitBelow radix d) :
    digitsValue radix digits < radix ^ digits.length := by
  simpa [digitsValue] using foldl_digits_lt h 0

theorem sound_escape (s : List Char) : (escape s).Sound := by
  unfold escape
  split
  next => exact .malformed .lone
  next rest =>
    have hdigits : ∀ d ∈ (rest.take 4).takeWhile (isDigitBelow 16), isDigitBelow 16 d :=
      List.all_eq_true.1 List.all_takeWhile
    have hmost : ((rest.take 4).takeWhile (isDigitBelow 16)).length ≤ 4 :=
      length_takeWhile_take_le ..
    dsimp only
    generalize (rest.take 4).takeWhile (isDigitBelow 16) = digits at *
    split
    next hlength =>
      cases hc : scalar? (digitsValue 16 digits) with
      | some c => exact .escape (.unicode hlength hdigits (scalar?_eq_some_iff.1 hc))
      | none =>
        have hlt := digitsValue_lt hdigits
        rw [hlength] at hlt
        have hsurrogate : 0xD800 ≤ digitsValue 16 digits ∧ digitsValue 16 digits ≤ 0xDFFF := by
          unfold scalar? at hc
          split at hc
          next => contradiction
          next hnot => omega
        exact .malformed (.surrogate hlength hdigits hsurrogate.1 hsurrogate.2)
    next hlength => exact .malformed (.short (by omega) hdigits)
  next x rest hu =>
    split
    next hx =>
      have hdigits : ∀ d ∈ ((x :: rest).take 3).takeWhile (isDigitBelow 8), isDigitBelow 8 d :=
        List.all_eq_true.1 List.all_takeWhile
      have hmost : (((x :: rest).take 3).takeWhile (isDigitBelow 8)).length ≤ 3 :=
        length_takeWhile_take_le ..
      have hne : ((x :: rest).take 3).takeWhile (isDigitBelow 8) ≠ [] := by simp [hx]
      dsimp only
      generalize ((x :: rest).take 3).takeWhile (isDigitBelow 8) = digits at *
      split
      next hvalue =>
        cases hc : scalar? (digitsValue 8 digits) with
        | some c => exact .escape (.octal hne hmost hdigits hvalue (scalar?_eq_some_iff.1 hc))
        | none =>
          rw [scalar?, if_pos (.inl (by omega))] at hc
          contradiction
      next hvalue => exact .malformed (.octal hne hmost hdigits (Nat.not_le.1 hvalue))
    next hx =>
      cases hc : named? x with
      | some c => exact .escape (.named (named?_eq_some_iff.1 hc))
      | none =>
        refine .malformed (.unknown hu (by simpa using hx) fun c hmem => ?_)
        rw [named?_eq_some_iff.2 hmem] at hc
        contradiction

/-! ## The longest escape -/

/-- A text is of a form and stands in front of another one, and no longer one does. -/
def Longest (form : List Char → Prop) (e s : List Char) : Prop :=
  form e ∧ e <+: s ∧ ∀ e', form e' → e' <+: s → e'.length ≤ e.length

theorem Longest.unique {form : List Char → Prop} {e e' : List Char} (h : Longest form e s)
    (h' : Longest form e' s) : e = e' := by
  have hlength := Nat.le_antisymm (h'.2.2 e h.1 h.2.1) (h.2.2 e' h'.1 h'.2.1)
  exact List.IsPrefix.eq_of_length (List.prefix_of_prefix_length_le h.2.1 h'.2.1 hlength.le) hlength

theorem longest_escape (s : List Char) : Longest EscapeForm (escape s).raw ('\\' :: s) := by
  unfold escape
  split
  next =>
    exact ⟨.lone, List.prefix_rfl, fun e' _ he' => he'.length_le⟩
  next rest =>
    rw [raw_escapeFor]
    have hrun : ∀ d ∈ (rest.take 4).takeWhile (isDigitBelow 16), isDigitBelow 16 d :=
      List.all_eq_true.1 List.all_takeWhile
    refine ⟨.unicode ?_ hrun, ?_, fun e' hform he' => ?_⟩
    · exact length_takeWhile_take_le ..
    · simpa using takeWhile_take_isPrefix (isDigitBelow 16) 4 rest
    · cases hform with
      | unicode hlength hdigits =>
        simp only [List.cons_prefix_cons, true_and] at he'
        simpa using length_le_takeWhile_take he' hdigits hlength
      | @octal digits hne _ hdigits =>
        obtain ⟨x, t, rfl⟩ := List.exists_cons_of_ne_nil hne
        simp only [List.cons_prefix_cons, true_and] at he'
        exact absurd he'.1 (ne_u_of_isDigitBelow_eight (hdigits x List.mem_cons_self))
      | single => simp
      | lone => simp
  next x rest hu =>
    split
    next hx =>
      rw [raw_escapeFor]
      have hrun : ∀ d ∈ ((x :: rest).take 3).takeWhile (isDigitBelow 8), isDigitBelow 8 d :=
        List.all_eq_true.1 List.all_takeWhile
      have hne : ((x :: rest).take 3).takeWhile (isDigitBelow 8) ≠ [] := by simp [hx]
      refine ⟨.octal hne ?_ hrun, ?_, fun e' hform he' => ?_⟩
      · exact length_takeWhile_take_le ..
      · exact List.cons_prefix_cons.2 ⟨rfl, takeWhile_take_isPrefix (isDigitBelow 8) 3 (x :: rest)⟩
      · cases hform with
        | unicode =>
          simp only [List.cons_prefix_cons, true_and] at he'
          exact absurd he'.1.symm hu
        | octal _ hlength hdigits =>
          simp only [List.cons_prefix_cons, true_and] at he'
          exact Nat.succ_le_succ (length_le_takeWhile_take he' hdigits hlength)
        | single => exact Nat.succ_le_succ (List.length_pos_iff.2 hne)
        | lone => exact Nat.succ_le_succ (Nat.zero_le _)
    next hx =>
      rw [raw_escapeFor]
      refine ⟨.single, by simp, fun e' hform he' => ?_⟩
      cases hform with
      | unicode =>
        simp only [List.cons_prefix_cons, true_and] at he'
        exact absurd he'.1.symm hu
      | @octal digits hne _ hdigits =>
        obtain ⟨y, t, rfl⟩ := List.exists_cons_of_ne_nil hne
        simp only [List.cons_prefix_cons, true_and] at he'
        exact absurd (he'.1 ▸ hdigits y List.mem_cons_self) hx
      | single => exact Nat.le_refl 2
      | lone => exact Nat.le_succ 1

/-! ## The first token -/

theorem sound_first (c : Char) (s : List Char) : (first c s).Sound := by
  unfold first
  split
  next => exact sound_escape s
  next hs =>
    split
    next => exact .quote
    next hq =>
      split
      next hb =>
        exact .blank (List.forall_mem_cons.2 ⟨hb, List.all_eq_true.1 List.all_takeWhile⟩)
      next hb =>
        have hc : isPlain c := isPlain_iff.2 ⟨by simpa using hb, hq, hs⟩
        exact .text (List.forall_mem_cons.2 ⟨hc, List.all_eq_true.1 List.all_takeWhile⟩)

theorem raw_first_isPrefix (c : Char) (s : List Char) : (first c s).raw <+: c :: s := by
  unfold first
  split
  next hc =>
    subst hc
    exact (longest_escape s).2.1
  next =>
    split
    next hc =>
      subst hc
      exact List.cons_prefix_cons.2 ⟨rfl, List.nil_prefix⟩
    next =>
      split
      next => exact List.cons_prefix_cons.2 ⟨rfl, List.takeWhile_prefix _⟩
      next => exact List.cons_prefix_cons.2 ⟨rfl, List.takeWhile_prefix _⟩

/-- The first character of a token tells what sort of token it is. -/
theorem Sound.kind_of_first (h : t.Sound) (hraw : t.raw = c :: rest) :
    t.kind = .text ∧ isPlain c ∨ t.kind = .blank ∧ isBlank c ∨ t.kind = .quote ∧ c = '"' ∨
      t.kind ∈ .malformedEscape :: escapeKinds ∧ c = '\\' := by
  cases h with
  | text hrun =>
    obtain rfl := hraw
    exact .inl ⟨rfl, hrun c List.mem_cons_self⟩
  | blank hrun =>
    obtain rfl := hraw
    exact .inr (.inl ⟨rfl, hrun c List.mem_cons_self⟩)
  | quote =>
    cases hraw
    exact .inr (.inr (.inl ⟨rfl, rfl⟩))
  | malformed hm =>
    obtain ⟨e, rfl⟩ := hm.exists_cons
    cases hraw
    exact .inr (.inr (.inr ⟨List.mem_cons_self, rfl⟩))
  | escape hd =>
    obtain ⟨e, rfl⟩ := hd.exists_cons
    cases hraw
    exact .inr (.inr (.inr ⟨List.mem_cons_of_mem _ hd.mem_escapeKinds, rfl⟩))

theorem Sound.kind_eq_text_iff (h : t.Sound) (hraw : t.raw = c :: rest) :
    t.kind = .text ↔ isPlain c := by
  rcases h.kind_of_first hraw with ⟨hk, hc⟩ | ⟨hk, hc⟩ | ⟨hk, rfl⟩ | ⟨hk, rfl⟩
  · simp [hk, hc]
  · simp [hk, isPlain_iff, hc]
  · simp [hk, isPlain_iff]
  · refine ⟨?_, fun hc => absurd hc (by decide)⟩
    intro htext
    rw [htext] at hk
    exact absurd hk (by decide)

theorem Sound.kind_eq_blank_iff (h : t.Sound) (hraw : t.raw = c :: rest) :
    t.kind = .blank ↔ isBlank c := by
  rcases h.kind_of_first hraw with ⟨hk, hc⟩ | ⟨hk, hc⟩ | ⟨hk, rfl⟩ | ⟨hk, rfl⟩
  · simp [hk, (isPlain_iff.1 hc).1]
  · simp [hk, hc]
  · rw [hk]
    decide
  · refine ⟨?_, fun hc => absurd hc (by decide)⟩
    intro hblank
    rw [hblank] at hk
    exact absurd hk (by decide)

/-! ## Tilings -/

/-- Two tokens that can stand next to each other: no runs of the same class. -/
def Separate (t t' : Token) : Prop :=
  ¬(t.kind = .text ∧ t'.kind = .text) ∧ ¬(t.kind = .blank ∧ t'.kind = .blank)

/-- The tokens of a text: side by side, each written and read as tokens are, no two runs of one
class next to each other, and escapes that are as long as can be. -/
structure Tiling (s : List Char) (ts : List Token) : Prop where
  nonempty : ∀ t ∈ ts, t.raw ≠ []
  raws : ts.flatMap (·.raw) = s
  sound : ∀ t ∈ ts, t.Sound
  neighbours : ts.IsChain Separate
  longest : ∀ before t after, ts = before ++ t :: after → t.raw.head? = some '\\' →
    Longest EscapeForm t.raw ((t :: after).flatMap (·.raw))

theorem tiling_nil : Tiling s [] ↔ s = [] := by
  constructor
  · intro h
    exact h.raws.symm
  · rintro rfl
    exact ⟨nofun, rfl, nofun, .nil, fun before t after h => by simp at h⟩

theorem tiling_cons : Tiling s (t :: ts) ↔ t.raw ≠ [] ∧ t.Sound ∧
    (∀ t' ∈ ts.head?, t.Separate t') ∧ (t.raw.head? = some '\\' → Longest EscapeForm t.raw s) ∧
    ∃ rest, s = t.raw ++ rest ∧ Tiling rest ts := by
  constructor
  · rintro ⟨hne, rfl, hsound, hchain, hlongest⟩
    rw [List.forall_mem_cons] at hne hsound
    rw [List.isChain_cons] at hchain
    refine ⟨hne.1, hsound.1, hchain.1, hlongest [] t ts rfl, _, List.flatMap_cons, hne.2, rfl,
      hsound.2, hchain.2, ?_⟩
    rintro before t' after rfl
    exact hlongest (t :: before) t' after rfl
  · rintro ⟨hne, hsound, hneighbour, hlongest, rest, rfl, h⟩
    refine ⟨List.forall_mem_cons.2 ⟨hne, h.nonempty⟩, ?_, List.forall_mem_cons.2 ⟨hsound, h.sound⟩,
      List.isChain_cons.2 ⟨hneighbour, h.neighbours⟩, ?_⟩
    · rw [List.flatMap_cons, h.raws]
    · intro before t' after heq hhead
      rcases List.cons_eq_append_iff.1 heq with ⟨rfl, heq⟩ | ⟨before, rfl, rfl⟩
      · cases heq
        rw [List.flatMap_cons, h.raws]
        exact hlongest hhead
      · exact h.longest before t' after rfl hhead

/-! ## The tokens that a text is cut into -/

theorem exists_raw_first_eq_cons (c : Char) (s : List Char) : ∃ r, (first c s).raw = c :: r := by
  obtain ⟨d, r, hr⟩ := List.exists_cons_of_ne_nil (raw_first_ne_nil c s)
  have hstart := raw_first_isPrefix c s
  rw [hr, List.cons_prefix_cons] at hstart
  exact ⟨r, hr.trans (by rw [hstart.1])⟩

theorem kind_first_eq_text_iff : (first c s).kind = .text ↔ isPlain c := by
  obtain ⟨r, hr⟩ := exists_raw_first_eq_cons c s
  exact (sound_first c s).kind_eq_text_iff hr

theorem kind_first_eq_blank_iff : (first c s).kind = .blank ↔ isBlank c := by
  obtain ⟨r, hr⟩ := exists_raw_first_eq_cons c s
  exact (sound_first c s).kind_eq_blank_iff hr

/-- The tokens of one kind are the runs of one class of characters. -/
structure Runs (kind : TokenKind) (p : Char → Bool) : Prop where
  kind_first : ∀ c s, (first c s).kind = kind ↔ p c
  cut_cons : ∀ c s, p c →
    cut (c :: s) = verbatim kind (c :: s.takeWhile p) :: cut (s.dropWhile p)

theorem runs_text : Runs .text isPlain :=
  ⟨fun _ _ => kind_first_eq_text_iff, fun _ s hc => cut_text hc s⟩

theorem runs_blank : Runs .blank isBlank :=
  ⟨fun _ _ => kind_first_eq_blank_iff, fun _ s hc => cut_blank hc s⟩

namespace Runs

variable {p : Char → Bool}

/-- The next token is no such run if the next character is not in the class. -/
theorem any_head?_eq_false_iff (h : Runs kind p) :
    rest.head?.any p = false ↔ ∀ t ∈ (cut rest).head?, t.kind ≠ kind := by
  cases rest with
  | nil => simp [cut]
  | cons c s => simp [Token.cut_cons, h.kind_first]

/-- After a run comes another token. -/
theorem kind_ne_of_next (h : Runs kind p) (hfirst : (first c s).kind = kind)
    (ht : t ∈ (cut ((c :: s).drop (first c s).raw.length)).head?) : t.kind ≠ kind := by
  have hcut := h.cut_cons c s ((h.kind_first c s).1 hfirst)
  rw [Token.cut_cons, List.cons.injEq] at hcut
  rw [hcut.1, verbatim, List.length_cons, List.drop_succ_cons, drop_length_takeWhile] at ht
  exact h.any_head?_eq_false_iff.1 (any_head?_dropWhile p s) t ht

/-- A run is cut off where another token comes after it. -/
theorem cut_append (h : Runs kind p) (hne : run ≠ []) (hrun : ∀ c ∈ run, p c)
    (hnext : ∀ t ∈ (cut rest).head?, t.kind ≠ kind) :
    cut (run ++ rest) = verbatim kind run :: cut rest := by
  have hstop := h.any_head?_eq_false_iff.2 hnext
  obtain ⟨c, run, rfl⟩ := List.exists_cons_of_ne_nil hne
  rw [List.forall_mem_cons] at hrun
  rw [List.cons_append, h.cut_cons c _ hrun.1, takeWhile_append_of_stop hrun.2 hstop,
    dropWhile_append_of_stop hrun.2 hstop]

end Runs

theorem tiling_cut (s : List Char) : Tiling s (cut s) := by
  induction s using cut.induct with
  | case1 =>
    rw [cut]
    exact tiling_nil.2 rfl
  | case2 c s ih =>
    rw [cut_cons, tiling_cons]
    refine ⟨raw_first_ne_nil c s, sound_first c s, fun t ht => ⟨?_, ?_⟩, fun hhead => ?_, _,
      (List.prefix_iff_eq_append.1 (raw_first_isPrefix c s)).symm, ih⟩
    · rintro ⟨hfirst, hnext⟩
      exact runs_text.kind_ne_of_next hfirst ht hnext
    · rintro ⟨hfirst, hnext⟩
      exact runs_blank.kind_ne_of_next hfirst ht hnext
    · obtain ⟨r, hr⟩ := exists_raw_first_eq_cons c s
      rw [hr] at hhead
      obtain rfl : c = '\\' := Option.some.inj hhead
      rw [first, if_pos rfl]
      exact longest_escape s

/-- An escape is cut off when it stands alone. -/
theorem Sound.eq_escape (h : t.Sound) (hhead : t.raw.head? = some '\\') :
    Token.escape t.raw.tail = t := by
  cases h with
  | text hrun => exact absurd (hrun _ (List.mem_of_mem_head? hhead)) (by decide)
  | blank hrun => exact absurd (hrun _ (List.mem_of_mem_head? hhead)) (by decide)
  | quote => exact absurd hhead (by decide)
  | malformed hm => exact hm.escape_tail
  | escape hd => exact hd.escape_tail

/-- The longest escape is cut off in front of any text. -/
theorem Sound.cut_longest (h : t.Sound) (hhead : t.raw.head? = some '\\')
    (hlongest : Longest EscapeForm t.raw (t.raw ++ rest)) :
    cut (t.raw ++ rest) = t :: cut rest := by
  have halone := h.eq_escape hhead
  obtain ⟨e, he⟩ : ∃ e, t.raw = '\\' :: e := List.head?_eq_some_iff.1 hhead
  rw [he, List.tail_cons] at halone
  rw [he, List.cons_append] at hlongest ⊢
  -- What is cut off has the same length, so it is the same alone.
  have hraw := (longest_escape (e ++ rest)).unique hlongest
  have hfirst := (sound_escape (e ++ rest)).eq_escape (by rw [hraw]; rfl)
  rw [hraw, List.tail_cons, halone] at hfirst
  rw [cut_cons, first, if_pos rfl, ← hfirst, he, ← List.cons_append, List.drop_left]

/-- A token is cut off where its neighbour is. -/
theorem Sound.cut_append (h : t.Sound) (hne : t.raw ≠ [])
    (hneighbour : ∀ t' ∈ (cut rest).head?, t.Separate t')
    (hlongest : t.raw.head? = some '\\' → Longest EscapeForm t.raw (t.raw ++ rest)) :
    cut (t.raw ++ rest) = t :: cut rest := by
  cases h with
  | text hrun =>
    exact runs_text.cut_append hne hrun fun t' ht' hk => (hneighbour t' ht').1 ⟨rfl, hk⟩
  | blank hrun =>
    exact runs_blank.cut_append hne hrun fun t' ht' hk => (hneighbour t' ht').2 ⟨rfl, hk⟩
  | quote => exact cut_quote rest
  | @malformed e hm =>
    have hhead : (verbatim .malformedEscape e).raw.head? = some '\\' := by
      obtain ⟨e, rfl⟩ := hm.exists_cons
      rfl
    exact (Sound.malformed hm).cut_longest hhead (hlongest hhead)
  | @escape k e c hd =>
    have hhead : (⟨k, e, [c]⟩ : Token).raw.head? = some '\\' := by
      obtain ⟨e, rfl⟩ := hd.exists_cons
      rfl
    exact (Sound.escape hd).cut_longest hhead (hlongest hhead)

/-- **A text is tiled in one way**, by the tokens that it is cut into. -/
theorem tiling_iff : Tiling s ts ↔ ts = cut s := by
  constructor
  · intro h
    induction ts generalizing s with
    | nil =>
      rw [tiling_nil.1 h, cut]
    | cons t ts ih =>
      obtain ⟨hne, hsound, hneighbour, hlongest, rest, rfl, hrest⟩ := tiling_cons.1 h
      rw [ih hrest] at hneighbour ⊢
      exact (hsound.cut_append hne hneighbour hlongest).symm
  · rintro rfl
    exact tiling_cut s

/-! ## Tokens of a command -/

theorem malformed_eq_nil_iff : malformed ts = [] ↔ ∀ t ∈ ts, t.kind ≠ .malformedEscape := by
  simp [malformed]

/-- **Reading tokens is cutting by maximal munch**: the first alternative that succeeds is the
longest token, there is one everywhere, and the only texts without tokens are those with malformed
escapes, which are all reported. -/
theorem tokens_by_maximal_munch (command text : String) :
    ∃ ts, Tiling text.toList ts ∧ scan 0 text.toList = .ok ts ∧
      (∀ ts', Tiling text.toList ts' → ts' = ts) ∧
      (∀ t ∈ ts, t.kind = .malformedEscape ↔ Malformed t.raw) ∧
      tokens command text = if ∀ t ∈ ts, t.kind ≠ .malformedEscape then .ok ts
        else .error (.invalidEscapes command ((malformed ts).map String.ofList)) := by
  refine ⟨cut text.toList, tiling_cut _, scan_eq 0 _, fun ts' h => tiling_iff.1 h, fun t ht =>
    ((tiling_cut _).sound t ht).kind_eq_malformed_iff, ?_⟩
  rw [tokens]
  split
  next hnil => rw [if_pos (malformed_eq_nil_iff.1 hnil)]
  next hne =>
    rw [if_neg fun h => hne (malformed_eq_nil_iff.2 h)]

end ChatBot.Token
