import ChatBot.Proofs.CommandLine.Offsets

/-!
# What is said about a faulty command

A text that is meant as a command can have several faults at once. One is reported, by a fixed order
(`Fault`), and what the report quotes is a part of the message as it was typed.
-/

namespace ChatBot

open Text Token CommandLine

variable {body fragment : List Char} {t : Token} {ts : List Token}

/-! ## Quotes -/

namespace Token

/-- The number of quotes among some tokens. -/
def quotes (ts : List Token) : Nat := ts.countP (·.kind = .quote)

/-- A text is what some tokens are written as from their last quote on. -/
def FromLastQuote (ts : List Token) (fragment : List Char) : Prop :=
  ∃ before q after, ts = before ++ q :: after ∧ q.kind = .quote ∧ quotes after = 0 ∧
    fragment = (q :: after).flatMap (·.raw)

theorem quotes_cons_of_quote (h : t.kind = .quote) : quotes (t :: ts) = quotes ts + 1 :=
  List.countP_cons_of_pos (by simpa using h)

theorem quotes_cons_of_ne (h : t.kind ≠ .quote) : quotes (t :: ts) = quotes ts :=
  List.countP_cons_of_neg (by simpa using h)

theorem fromLastQuote_nil : ¬FromLastQuote [] fragment := by
  rintro ⟨before, q, after, h, -⟩
  simp at h

theorem fromLastQuote_cons : FromLastQuote (t :: ts) fragment ↔ FromLastQuote ts fragment ∨
    t.kind = .quote ∧ quotes ts = 0 ∧ fragment = (t :: ts).flatMap (·.raw) := by
  constructor
  · rintro ⟨before, q, after, heq, hq, hafter, hfragment⟩
    rcases List.cons_eq_append_iff.1 heq with ⟨rfl, heq⟩ | ⟨before, rfl, rfl⟩
    · cases heq
      exact .inr ⟨hq, hafter, hfragment⟩
    · exact .inl ⟨before, q, after, rfl, hq, hafter, hfragment⟩
  · rintro (⟨before, q, after, rfl, hq, hafter, hfragment⟩ | ⟨hq, hafter, hfragment⟩)
    · exact ⟨t :: before, q, after, rfl, hq, hafter, hfragment⟩
    · exact ⟨[], t, ts, rfl, hq, hafter, hfragment⟩

theorem exists_fromLastQuote (h : quotes ts ≠ 0) : ∃ fragment, FromLastQuote ts fragment := by
  induction ts with
  | nil => contradiction
  | cons t ts ih =>
    simp only [fromLastQuote_cons]
    by_cases hzero : quotes ts = 0
    · have hk : t.kind = .quote := by
        by_contra hk
        exact h ((quotes_cons_of_ne hk).trans hzero)
      exact ⟨_, .inr ⟨hk, hzero, rfl⟩⟩
    · obtain ⟨fragment, hlast⟩ := ih hzero
      exact ⟨fragment, .inl hlast⟩

end Token

/-- Words are read unless the number of quotes is odd, counted with one that is open before. What is
left over then starts at the last quote. -/
theorem Word.gather_eq_error_iff {word : Option Word} {opened : Option (List Char)} :
    gather word opened ts = .error fragment ↔ Odd (quotes ts + opened.toList.length) ∧
      (FromLastQuote ts fragment ∨ quotes ts = 0 ∧ opened = some fragment) := by
  induction ts generalizing word opened with
  | nil =>
    cases opened with
    | none => simp [gather, quotes, fromLastQuote_nil]
    | some => simp [gather, quotes, fromLastQuote_nil]
  | cons t ts ih =>
    rw [fromLastQuote_cons]
    by_cases hblank : t.kind = .blank ∧ opened = none
    · obtain ⟨hk, rfl⟩ := hblank
      have hne : t.kind ≠ .quote := by simp [hk]
      have hmap : (gather none none ts).map (word.toList ++ ·) = .error fragment ↔
          gather none none ts = .error fragment := by
        cases gather none none ts <;> simp [Except.map]
      rw [gather_blank hk, hmap, ih, quotes_cons_of_ne hne]
      simp [hne]
    · rw [gather_of_not_blank hblank, ih]
      by_cases hk : t.kind = .quote
      · rw [if_pos hk, quotes_cons_of_quote hk]
        cases opened with
        | none => simp [Word.toggle, hk, eq_comm]
        | some f =>
          have hodd : Odd (quotes ts + 1 + 1) ↔ Odd (quotes ts) := by
            rw [Nat.odd_add_one, Nat.odd_add_one, not_not]
          simp only [Word.toggle, hk, Option.toList_none, Option.toList_some, List.length_nil,
            List.length_singleton, Nat.add_zero, hodd, reduceCtorEq, and_false, or_false, true_and]
          constructor
          · rintro ⟨ho, hlast⟩
            exact ⟨ho, .inl (.inl hlast)⟩
          · rintro ⟨ho, (hlast | ⟨hzero, -⟩) | ⟨hzero, -⟩⟩
            · exact ⟨ho, hlast⟩
            · rw [hzero] at ho
              exact absurd ho (by decide)
            · contradiction
      · rw [if_neg hk, quotes_cons_of_ne hk]
        simp [hk]

/-! ## The first word -/

/-- A text starts with a word as the grammar has it: as it is typed, up to the first blank that is
not quoted. -/
def FirstWord (body word : List Char) : Prop :=
  ∃ value rest, body = word ++ rest ∧ Pieces word value ∧ Ends rest

section FirstWord

variable {c : Char} {s word : List Char} {w : Word} {ws : List Word}

theorem exists_pieces_of_wordsOf (hc : isBlank c = false)
    (h : Word.wordsOf none false (c :: s) = some (w :: ws)) :
    ∃ value, w = Word.empty.add w.raw value ∧ Pieces w.raw value ∧ FirstWord (c :: s) w.raw := by
  obtain ⟨p, v, x, more, hs, -, hpieces, hends, -, hw⟩ := Word.exists_word hc h
  cases hw
  have hraw : (Word.empty.add p v).raw = p := rfl
  rw [hraw]
  exact ⟨v, rfl, hpieces, v, x, hs, hpieces, hends⟩

/-- The first of the words that a text is read as is the one that the grammar finds. -/
theorem firstWord_iff (hc : isBlank c = false)
    (h : Word.wordsOf none false (c :: s) = some (w :: ws)) :
    FirstWord (c :: s) word ↔ word = w.raw := by
  constructor
  · rintro ⟨v, x, heq, hpieces, hends⟩
    rw [Word.wordsOf_none hc, heq, Word.wordsOf_pieces hpieces (startsOctal_of_ends hends),
      Word.wordsOf_ends hends] at h
    obtain ⟨more, -, hw⟩ := Option.map_eq_some_iff.1 h
    cases hw
    rfl
  · rintro rfl
    obtain ⟨-, -, -, hfirst⟩ := exists_pieces_of_wordsOf hc h
    exact hfirst

theorem isName_iff (hc : isBlank c = false)
    (h : Word.wordsOf none false (c :: s) = some (w :: ws)) :
    isName w ↔ ∀ c ∈ w.raw, isPlain c ∧ isAlphanumeric c := by
  obtain ⟨v, hw, hpieces, -⟩ := exists_pieces_of_wordsOf hc h
  have hname : isName w = (w.raw.all isPlain && v.all isAlphanumeric) := by
    rw [hw]
    rfl
  rw [hname, Bool.and_eq_true, forall₂_and, List.all_eq_true]
  refine and_congr_right fun hplain => ?_
  rw [hpieces.eq_of_isPlain (List.all_eq_true.2 hplain), List.all_eq_true]

end FirstWord

/-! ## Faults -/

/-- The fault that is reported of a body with these tokens. Each one counts only if none of those
before it is there. -/
inductive Fault (message : String) (body : List Char) (ts : List Token) : ParseError → Prop
  | escapes : malformed ts ≠ [] →
    Fault message body ts (.invalidEscapes message ((malformed ts).map String.ofList))
  | missing : malformed ts = [] → body.head?.any isBlank →
    Fault message body ts (.missingName message)
  | quote {fragment : List Char} : malformed ts = [] → ¬body.head?.any isBlank →
    Odd (quotes ts) → FromLastQuote ts fragment →
    Fault message body ts (.unterminatedQuote (String.ofList fragment))
  | name {word : List Char} : malformed ts = [] → ¬body.head?.any isBlank → ¬Odd (quotes ts) →
    FirstWord body word → ¬(∀ c ∈ word, isPlain c ∧ isAlphanumeric c) →
    Fault message body ts (.invalidName (String.ofList word))

section Classification

variable {message : String} {e : ParseError} {c : Char} {s : List Char}

theorem head?_kind_cut (c : Char) (s : List Char) :
    (cut (c :: s)).head?.map (·.kind) = some .blank ↔ (c :: s).head?.any isBlank := by
  rw [cut_cons, List.head?_cons, Option.map_some, Option.some.injEq, kind_first_eq_blank_iff]
  rfl

theorem fault_iff_of_malformed (hm : malformed ts ≠ []) : Fault message body ts e ↔
    e = .invalidEscapes message ((malformed ts).map String.ofList) := by
  constructor
  · rintro (_ | hnil | hnil | hnil)
    · rfl
    all_goals exact absurd hnil hm
  · rintro rfl
    exact .escapes hm

theorem fault_iff_of_blank (hm : malformed ts = []) (hb : body.head?.any isBlank) :
    Fault message body ts e ↔ e = .missingName message := by
  constructor
  · rintro (hne | - | ⟨-, hnot⟩ | ⟨-, hnot⟩)
    · exact absurd hm hne
    · rfl
    all_goals exact absurd hb hnot
  · rintro rfl
    exact .missing hm hb

theorem fault_iff_of_odd (hm : malformed ts = []) (hb : ¬body.head?.any isBlank)
    (hodd : Odd (quotes ts)) : Fault message body ts e ↔
      ∃ fragment, FromLastQuote ts fragment ∧ e = .unterminatedQuote (String.ofList fragment) := by
  constructor
  · rintro (hne | ⟨-, hblank⟩ | ⟨-, -, -, hlast⟩ | ⟨-, -, heven⟩)
    · exact absurd hm hne
    · exact absurd hblank hb
    · exact ⟨_, hlast, rfl⟩
    · exact absurd hodd heven
  · rintro ⟨fragment, hlast, rfl⟩
    exact .quote hm hb hodd hlast

theorem fault_iff_of_even (hm : malformed ts = []) (hb : ¬body.head?.any isBlank)
    (heven : ¬Odd (quotes ts)) : Fault message body ts e ↔
      ∃ word, FirstWord body word ∧ ¬(∀ c ∈ word, isPlain c ∧ isAlphanumeric c) ∧
        e = .invalidName (String.ofList word) := by
  constructor
  · rintro (hne | ⟨-, hblank⟩ | ⟨-, -, hodd⟩ | ⟨-, -, -, hfirst, hname⟩)
    · exact absurd hm hne
    · exact absurd hblank hb
    · exact absurd hodd heven
    · exact ⟨_, hfirst, hname, rfl⟩
  · rintro ⟨word, hfirst, hname, rfl⟩
    exact .name hm hb heven hfirst hname

theorem ofWords_of_odd (hodd : Odd (quotes ts)) :
    ofWords message (Word.gather none none ts) = .error e ↔
      ∃ fragment, FromLastQuote ts fragment ∧ e = .unterminatedQuote (String.ofList fragment) := by
  have hgather {fragment : List Char} (hlast : FromLastQuote ts fragment) :
      Word.gather none none ts = .error fragment :=
    Word.gather_eq_error_iff.2 ⟨hodd, .inl hlast⟩
  obtain ⟨fragment, hlast⟩ := exists_fromLastQuote hodd.pos.ne'
  rw [hgather hlast, ofWords, Except.error.injEq]
  constructor
  · rintro rfl
    exact ⟨fragment, hlast, rfl⟩
  · rintro ⟨fragment', hlast', rfl⟩
    rw [Except.error.inj ((hgather hlast).symm.trans (hgather hlast'))]

theorem ofWords_of_even (hm : malformed (cut (c :: s)) = []) (hc : isBlank c = false)
    (heven : ¬Odd (quotes (cut (c :: s)))) :
    ofWords message (Word.gather none none (cut (c :: s))) = .error e ↔
      ∃ word, FirstWord (c :: s) word ∧ ¬(∀ d ∈ word, isPlain d ∧ isAlphanumeric d) ∧
        e = .invalidName (String.ofList word) := by
  cases hgather : Word.gather none none (cut (c :: s)) with
  | error fragment => exact absurd (Word.gather_eq_error_iff.1 hgather).1 heven
  | ok words =>
    have hwords : Word.wordsOf none false (c :: s) = some words := by
      rw [Word.wordsOf, if_pos hm, if_neg Bool.false_ne_true, hgather]
      rfl
    cases words with
    | nil =>
      obtain ⟨_, _, _, _, _, _, _, _, _, hnil⟩ := Word.exists_word hc hwords
      contradiction
    | cons w ws =>
      simp only [firstWord_iff hc hwords, exists_eq_left, ← isName_iff hc hwords]
      by_cases hname : isName w
      · simp [ofWords, hname]
      · simp [ofWords, hname, eq_comm]

/-- With a text after the delimiter, an error is the fault of the tokens of that text. -/
theorem ofBody_eq_error_iff (hne : body ≠ []) :
    ofBody message body = .error e ↔ Fault message body (cut body) e := by
  obtain ⟨c, s, rfl⟩ := List.exists_cons_of_ne_nil hne
  rw [ofBody_eq]
  split
  next hm => rw [fault_iff_of_malformed hm, Except.error.injEq, eq_comm]
  next hm =>
    rw [ne_eq, not_not] at hm
    split
    next hb =>
      rw [fault_iff_of_blank hm ((head?_kind_cut c s).1 hb), Except.error.injEq, eq_comm]
    next hb =>
      rw [head?_kind_cut] at hb
      by_cases hodd : Odd (quotes (cut (c :: s)))
      · rw [fault_iff_of_odd hm hb hodd, ofWords_of_odd hodd]
      · rw [fault_iff_of_even hm hb hodd, ofWords_of_even hm (by simpa using hb) hodd]

end Classification

/-- **A message is refused for one fault, and the report quotes it as it was typed.** Reading finds
a token at every byte, and all that it slices out lies between characters. -/
theorem refused_for_first_fault (delimiter message : String) :
    readBytes delimiter message = (read delimiter message).mapError .fault ∧
    (∀ s t rest, token? s = some (t, rest) →
      slice? s 0 (String.utf8Len s - String.utf8Len rest) = some t.raw) ∧
    ∀ e, read delimiter message = .error e ↔ ∃ body ts, Delimiter.Precedes delimiter body message ∧
      Tiling body ts ∧ Fault message body ts e := by
  refine ⟨readBytes_eq delimiter message, fun s t rest => slice?_of_token?, fun e => ?_⟩
  have hread : read delimiter message = .error e ↔
      ∃ body, Delimiter.Precedes delimiter body message ∧ ofBody message body = .error e := by
    simp only [← strip?_eq_some_iff]
    unfold CommandLine.read
    cases Delimiter.strip? delimiter.toList message.toList with
    | none => simp
    | some body => cases h : ofBody message body <;> simp [h, Except.map]
  rw [hread]
  constructor
  · rintro ⟨body, hbody, herror⟩
    exact ⟨body, _, hbody, tiling_cut body, (ofBody_eq_error_iff hbody.2.2.1).1 herror⟩
  · rintro ⟨body, ts, hbody, htiling, hfault⟩
    rw [tiling_iff.1 htiling] at hfault
    exact ⟨body, hbody, (ofBody_eq_error_iff hbody.2.2.1).2 hfault⟩

end ChatBot
