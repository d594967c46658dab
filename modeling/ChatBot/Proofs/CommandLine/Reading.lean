import ChatBot.Proofs.CommandLine.Munch
import ChatBot.Proofs.CommandLine.Words

/-!
# What is read as a command

The words of a text are those that the grammar finds in it: a text of the grammar is read as its
words, and a text that is read belongs to the grammar. From this follows when a message is a command
and what it says (`read_eq_some_iff`), and when it is none (`read_eq_none_iff`).
-/

namespace ChatBot

open Text Token CommandLine

namespace Word

/-! ## Texts of the grammar are read -/

theorem wordsOf_section {w : Word} (h : Section q u) (hw : w.plain = false) (s : List Char) :
    wordsOf (some w) true (q ++ '"' :: s) = wordsOf (some (w.add (q ++ ['"']) u)) false s := by
  induction h generalizing w with
  | nil => rw [List.nil_append, wordsOf_quote]; rfl
  | char hc _ ih =>
    rw [List.cons_append]
    rcases hc with hc | hc
    · rw [wordsOf_plain hc, Option.getD_some, ih (by simp [add, hw]), add_add]
      rfl
    · rw [wordsOf_blank_quoted hw hc, ih (by simp [add, hw]), add_add]
      rfl
  | escape he _ ih =>
    rw [List.append_assoc, wordsOf_escape (he.append rfl), Option.getD_some,
      ih (by simp [add, hw]), add_add, List.append_assoc]
    rfl

theorem wordsOf_pieces {w : Word} (h : Pieces p v) (hs : startsOctal s = false) :
    wordsOf (some w) false (p ++ s) = wordsOf (some (w.add p v)) false s := by
  induction h generalizing w with
  | nil => rw [List.nil_append, add_nil]
  | char hc _ ih =>
    rw [List.cons_append, wordsOf_plain hc, Option.getD_some, ih, add_add]
    rfl
  | escape he _ ih =>
    rw [List.append_assoc, wordsOf_escape (he.append hs), Option.getD_some, ih, add_add]
    rfl
  | @quoted q u p v hq _ ih =>
    have hplain : (w.add ['"'] []).plain = false := by simp [add, isPlain]
    rw [List.cons_append, List.cons_append, List.append_assoc, List.cons_append, wordsOf_quote,
      Option.getD_some, Bool.not_false, wordsOf_section hq hplain, ih, add_add, add_add]
    simp

/-- A text that starts no blank starts a word. -/
theorem wordsOf_none (hc : isBlank c = false) :
    wordsOf none false (c :: s) = wordsOf (some empty) false (c :: s) := by
  by_cases hq : c = '"'
  · subst hq
    rw [wordsOf_quote, wordsOf_quote]
    rfl
  by_cases hs : c = '\\'
  · subst hs
    rcases escape_or_malformed s with hm | ⟨e, c, s', hes, he⟩
    · have hfirst : (first '\\' s).kind = .malformedEscape := hm
      rw [wordsOf_of_malformed (cut_cons _ _) hfirst, wordsOf_of_malformed (cut_cons _ _) hfirst]
    · rw [hes, wordsOf_escape he, wordsOf_escape he]
      rfl
  · have hp : isPlain c := isPlain_iff.2 ⟨hc, hq, hs⟩
    rw [wordsOf_plain hp, wordsOf_plain hp]
    rfl

theorem wordsOf_ends (hs : Ends s) :
    wordsOf word false s = (wordsOf none false s).map (word.toList ++ ·) := by
  cases s with
  | nil => simp
  | cons c s =>
    have hc : ∀ word, wordsOf word false (c :: s) =
        (wordsOf none false s).map (word.toList ++ ·) := fun _ => wordsOf_blank (hs c rfl)
    rw [hc word, hc none]
    simp

theorem wordsOf_blanks (hgap : ∀ b ∈ gap, isBlank b) (hs : gap = [] → Ends s) :
    wordsOf word false (gap ++ s) = (wordsOf none false s).map (word.toList ++ ·) := by
  induction gap generalizing word with
  | nil => exact wordsOf_ends (hs rfl)
  | cons b gap ih =>
    rw [List.forall_mem_cons] at hgap
    rw [List.cons_append, wordsOf_blank hgap.1]
    cases gap with
    | nil => rfl
    | cons d gap =>
      rw [ih hgap.2 (fun h => absurd h (List.cons_ne_nil _ _))]
      simp

/-- The words that arguments are read as stand between the word before them and what follows. -/
theorem wordsOf_arguments (h : Arguments s vs) (hx : Ends x) : ∃ ws : List Word,
    ws.map (·.value) = vs ∧ ∀ word, wordsOf word false (s ++ x) =
      (wordsOf none false x).map fun more => word.toList ++ (ws ++ more) := by
  induction h with
  | nil hgap => exact ⟨[], rfl, fun word => wordsOf_blanks hgap fun _ => hx⟩
  | @word gap w v s vs hne hgap hw hp hs ih =>
    obtain ⟨ws, hws, hread⟩ := ih
    refine ⟨empty.add w v :: ws, by simp [add, hws, empty], fun word => ?_⟩
    obtain ⟨c, w', rfl⟩ := List.exists_cons_of_ne_nil hw
    rw [List.append_assoc, List.append_assoc, wordsOf_blanks hgap fun h => absurd h hne,
      List.cons_append, wordsOf_none hp.isBlank_head, ← List.cons_append,
      wordsOf_pieces hp (startsOctal_of_ends (hs.ends.append hx)), hread]
    simp [Function.comp_def]

/-! ## Texts that are read belong to the grammar -/

theorem exists_section {w : Word} (hw : w.plain = false) :
    ∀ {s : List Char}, wordsOf (some w) true s = some ws → ∃ q u x, s = q ++ '"' :: x ∧
      Section q u ∧ wordsOf (some (w.add (q ++ ['"']) u)) false x = some ws
  | [], h => by simp at h
  | c :: s, h => by
    by_cases hq : c = '"'
    · subst hq
      rw [wordsOf_quote] at h
      exact ⟨[], [], s, rfl, .nil, h⟩
    by_cases hs : c = '\\'
    · subst hs
      obtain ⟨e, c, s', hes, he, hlen⟩ := exists_escape_of_wordsOf h
      rw [hes, wordsOf_escape he] at h
      obtain ⟨q, u, x, rfl, hqu, hx⟩ := exists_section (by simp [add, hw]) h
      refine ⟨e ++ q, c :: u, x, by rw [hes, List.append_assoc], .escape (he.of_append rfl) hqu, ?_⟩
      simpa using hx
    have hc : isPlain c ∨ isBlank c := by
      cases hb : isBlank c
      · exact .inl (isPlain_iff.2 ⟨hb, hq, hs⟩)
      · exact .inr rfl
    have hstep : wordsOf (some w) true (c :: s) = wordsOf (some (w.add [c] [c])) true s := by
      rcases hc with hc | hc
      · exact wordsOf_plain hc
      · exact wordsOf_blank_quoted hw hc
    rw [hstep] at h
    obtain ⟨q, u, x, rfl, hqu, hx⟩ := exists_section (by simp [add, hw]) h
    refine ⟨c :: q, c :: u, x, rfl, .char hc hqu, ?_⟩
    simpa using hx
termination_by s => s.length

theorem exists_pieces {w : Word} :
    ∀ {s : List Char}, wordsOf (some w) false s = some ws → ∃ p v x more, s = p ++ x ∧
      Pieces p v ∧ Ends x ∧ wordsOf none false x = some more ∧ ws = w.add p v :: more
  | [], h => ⟨[], [], [], [], rfl, .nil, nofun, wordsOf_nil, by simpa using h.symm⟩
  | c :: s, h => by
    by_cases hq : c = '"'
    · subst hq
      rw [wordsOf_quote] at h
      obtain ⟨q, u, x, rfl, hqu, hx⟩ := exists_section (by simp [add, isPlain]) h
      obtain ⟨p, v, y, more, rfl, hpv, hy, hmore, rfl⟩ := exists_pieces hx
      refine ⟨'"' :: q ++ '"' :: p, u ++ v, y, more, ?_, .quoted hqu hpv, hy, hmore, ?_⟩
      · simp
      · simp
    by_cases hs : c = '\\'
    · subst hs
      obtain ⟨e, c, s', hes, he, hlen⟩ := exists_escape_of_wordsOf h
      rw [hes, wordsOf_escape he] at h
      obtain ⟨p, v, x, more, rfl, hpv, hx, hmore, rfl⟩ := exists_pieces h
      refine ⟨e ++ p, c :: v, x, more, ?_, .escape ?_ hpv, hx, hmore, by simp⟩
      · rw [hes, List.append_assoc]
      · exact he.of_append (startsOctal_of_ends hx)
    cases hb : isBlank c with
    | true =>
      refine ⟨[], [], c :: s, ws.tail, rfl, .nil, ?_, ?_⟩
      · intro d hd
        cases hd
        exact hb
      · rw [wordsOf_blank hb] at h ⊢
        obtain ⟨more, hmore, rfl⟩ := Option.map_eq_some_iff.1 h
        simp [hmore]
    | false =>
      have hp : isPlain c := isPlain_iff.2 ⟨hb, hq, hs⟩
      rw [wordsOf_plain hp] at h
      obtain ⟨p, v, x, more, rfl, hpv, hx, hmore, rfl⟩ := exists_pieces h
      exact ⟨c :: p, c :: v, x, more, rfl, .char hp hpv, hx, hmore, by simp⟩
termination_by s => s.length

/-- A word that a text without a blank in front is read as. -/
theorem exists_word (hb : isBlank c = false) (h : wordsOf none false (c :: s) = some ws) :
    ∃ p v x more, c :: s = p ++ x ∧ p ≠ [] ∧ Pieces p v ∧ Ends x ∧
      wordsOf none false x = some more ∧ ws = empty.add p v :: more := by
  rw [wordsOf_none hb] at h
  obtain ⟨p, v, x, more, hs, hpv, hx, hmore, hws⟩ := exists_pieces h
  refine ⟨p, v, x, more, hs, ?_, hpv, hx, hmore, hws⟩
  rintro rfl
  rw [List.nil_append] at hs
  have := hx c (by rw [← hs]; rfl)
  rw [hb] at this
  contradiction

theorem arguments_of_wordsOf :
    ∀ {x : List Char}, Ends x → wordsOf none false x = some ws → Arguments x (ws.map (·.value))
  | [], _, h => by
    obtain rfl : [] = ws := by simpa using h
    exact .nil nofun
  | [b], hx, h => by
    have hb : isBlank b := hx b rfl
    obtain rfl : [] = ws := by simpa [wordsOf_blank hb] using h
    exact .nil (by simpa using hb)
  | b :: c :: s, hx, h => by
    have hb : isBlank b := hx b rfl
    rw [wordsOf_blank hb] at h
    obtain ⟨ws, hread, rfl⟩ := Option.map_eq_some_iff.1 h
    rw [Option.toList_none, List.nil_append]
    cases hc : isBlank c with
    | true =>
      have hends : Ends (c :: s) := fun d hd => by cases hd; exact hc
      exact (arguments_of_wordsOf hends hread).cons_blank hb
    | false =>
      -- What follows the first word starts with a blank again, or is empty.
      obtain ⟨p, v, x, more, hs, hne, hpv, hends, hmore, rfl⟩ := exists_word hc hread
      have hlen : x.length < (b :: c :: s).length := by
        have hlength := congrArg List.length hs
        rw [List.length_append] at hlength
        rw [List.length_cons, hlength]
        omega
      have hrest := arguments_of_wordsOf hends hmore
      have hword : Arguments ([b] ++ p ++ x) (v :: more.map value) :=
        .word (List.cons_ne_nil _ _) (by simpa using hb) hne hpv hrest
      rw [hs]
      simpa [add, empty] using hword
termination_by x => x.length
decreasing_by
  · exact hlen
  · exact Nat.lt_succ_self _

end Word

/-! ## Commands -/

namespace CommandLine

/-- What the words of a text are read as. -/
def ofWords (message : String) : Except (List Char) (List Word) → Except ParseError CommandLine
  | .error fragment => .error (.unterminatedQuote (String.ofList fragment))
  | .ok [] => .error (.missingName message)
  | .ok (head :: rest) =>
    if isName head then
      .ok ⟨String.ofList (lowercaseAfter [] head.value), rest.map (String.ofList ·.value)⟩
    else .error (.invalidName (String.ofList head.raw))

/-- Malformed escapes are reported before a blank in front, and that before all else. -/
theorem ofBody_eq (message : String) (body : List Char) : ofBody message body =
    if malformed (cut body) ≠ [] then
      .error (.invalidEscapes message ((malformed (cut body)).map String.ofList))
    else if (cut body).head?.map (·.kind) = some .blank then .error (.missingName message)
    else ofWords message (Word.gather none none (cut body)) := by
  unfold ofBody tokens
  rw [String.toList_ofList]
  dsimp only
  split
  next hnil =>
    rw [if_neg (not_not.2 hnil)]
    show ite _ _ _ = _
    split
    next => rfl
    next =>
      cases Word.gather none none (cut body) with
      | error fragment => rfl
      | ok words => cases words <;> rfl
  next hne =>
    rw [if_pos hne]
    rfl

/-- What a text is read as depends on its words alone, once it starts with no blank. -/
theorem ofBody_eq_ok_iff_words {message : String} {body : List Char} {line : CommandLine} :
    ofBody message body = .ok line ↔ ¬(cut body).head?.map (·.kind) = some .blank ∧
      ∃ head rest, Word.wordsOf none false body = some (head :: rest) ∧ isName head ∧
        line = ⟨String.ofList (lowercaseAfter [] head.value), rest.map (String.ofList ·.value)⟩ := by
  rw [ofBody_eq, Word.wordsOf]
  by_cases hm : malformed (cut body) = []
  · rw [if_neg (not_not.2 hm), if_pos hm, if_neg Bool.false_ne_true]
    split
    next hb => simp [hb]
    next hb =>
      rw [and_iff_right hb]
      cases Word.gather none none (cut body) with
      | error fragment => simp [ofWords, Except.toOption]
      | ok words =>
        cases words with
        | nil => simp [ofWords, Except.toOption]
        | cons head rest =>
          by_cases hn : isName head
          · simp only [ofWords, hn, if_true, Except.toOption, Except.ok.injEq, Option.some.injEq,
              List.cons.injEq]
            constructor
            · rintro rfl
              exact ⟨head, rest, ⟨rfl, rfl⟩, hn, rfl⟩
            · rintro ⟨_, _, ⟨rfl, rfl⟩, _, rfl⟩
              rfl
          · simp [ofWords, hn, Except.toOption]
  · simp [hm]

theorem written_of_ofBody {message : String} {body : List Char} {line : CommandLine}
    (h : ofBody message body = .ok line) : Written body line := by
  obtain ⟨hb, head, rest, hwords, hname, rfl⟩ := ofBody_eq_ok_iff_words.1 h
  cases body with
  | nil => simp at hwords
  | cons c s =>
    rw [cut_cons, List.head?_cons, Option.map_some, Option.some.injEq, kind_first_eq_blank_iff,
      Bool.not_eq_true] at hb
    obtain ⟨p, v, x, more, hs, hne, hpv, hx, hmore, hws⟩ := Word.exists_word hb hwords
    obtain ⟨rfl, rfl⟩ := List.cons.inj hws
    simp only [isName, Word.add, Word.empty, List.nil_append, Bool.true_and, Bool.and_eq_true]
      at hname
    obtain rfl := hpv.eq_of_isPlain hname.1
    refine ⟨_, x, hs, hne, ?_, ?_, ?_⟩
    · intro d hd
      exact ⟨List.all_eq_true.1 hname.1 d hd, List.all_eq_true.1 hname.2 d hd⟩
    · simp [lowercase, Word.add, Word.empty]
    · simpa [Function.comp_def] using Word.arguments_of_wordsOf hx hmore

theorem ofBody_of_written {message : String} {body : List Char} {line : CommandLine}
    (h : Written body line) : ofBody message body = .ok line := by
  obtain ⟨name, s, rfl, hne, hname, hline, hargs⟩ := h
  have hplain : name.all isPlain := List.all_eq_true.2 fun c hc => (hname c hc).1
  have halnum : name.all isAlphanumeric := List.all_eq_true.2 fun c hc => (hname c hc).2
  obtain ⟨ws, hws, hread⟩ := Word.wordsOf_arguments hargs (x := []) nofun
  have hwords : Word.wordsOf none false (name ++ s) = some (Word.empty.add name name :: ws) := by
    have hends := startsOctal_of_ends hargs.ends
    have hpieces := Word.wordsOf_pieces (w := .empty) (Pieces.of_isPlain hplain) hends
    obtain ⟨c, t, rfl⟩ := List.exists_cons_of_ne_nil hne
    rw [List.cons_append] at hpieces ⊢
    rw [Word.wordsOf_none (Pieces.of_isPlain hplain).isBlank_head, hpieces, ← List.append_nil s,
      hread]
    simp
  rw [ofBody_eq_ok_iff_words]
  refine ⟨?_, _, ws, hwords, ?_, ?_⟩
  · obtain ⟨c, t, rfl⟩ := List.exists_cons_of_ne_nil hne
    rw [List.cons_append, cut_cons, List.head?_cons, Option.map_some, Option.some.injEq,
      kind_first_eq_blank_iff, (Pieces.of_isPlain hplain).isBlank_head]
    exact Bool.false_ne_true
  · simp [isName, Word.add, Word.empty, hplain, halnum]
  · obtain ⟨lineName, args⟩ := line
    have hargs : args = ws.map (String.ofList ·.value) := by
      have := congrArg (List.map String.ofList) hws
      simpa [Function.comp_def] using this.symm
    rw [hargs, show lineName = _ from hline]
    simp [lowercase, Word.add, Word.empty]

/-- The text after a delimiter is read as exactly what the grammar says. -/
theorem ofBody_eq_ok_iff {message : String} {body : List Char} {line : CommandLine} :
    ofBody message body = .ok line ↔ Written body line :=
  ⟨written_of_ofBody, ofBody_of_written⟩

theorem strip?_eq_some_iff {delimiter message : String} {body : List Char} :
    Delimiter.strip? delimiter.toList message.toList = some body ↔
      Delimiter.Precedes delimiter body message := by
  unfold Delimiter.strip? Delimiter.Precedes
  by_cases hd : delimiter = ""
  · simp [hd]
  · have hd' : delimiter.toList ≠ [] := by simpa using hd
    simp [hd, hd', Option.filter_eq_some_iff, List.isPrefixOf?_eq_some_iff_append_eq,
      eq_comm (a := message.toList)]

theorem read_eq_none_iff {delimiter message : String} :
    read delimiter message = .ok none ↔ ¬∃ body, Delimiter.Precedes delimiter body message := by
  unfold read
  cases h : Delimiter.strip? delimiter.toList message.toList with
  | none =>
    simp only [true_iff]
    rintro ⟨body, hbody⟩
    rw [strip?_eq_some_iff.2 hbody] at h
    contradiction
  | some body =>
    have hsome : ∃ body, Delimiter.Precedes delimiter body message :=
      ⟨body, strip?_eq_some_iff.1 h⟩
    dsimp only
    cases ofBody message body <;> simp [Except.map, hsome]

theorem read_eq_some_iff {delimiter message : String} {line : CommandLine} :
    read delimiter message = .ok (some line) ↔
      ∃ body, Delimiter.Precedes delimiter body message ∧ Written body line := by
  have hbody : ∀ body, Written body line ↔ ofBody message body = .ok line :=
    fun _ => ofBody_eq_ok_iff.symm
  simp only [← strip?_eq_some_iff, hbody]
  unfold read
  cases Delimiter.strip? delimiter.toList message.toList with
  | none => simp
  | some body =>
    dsimp only
    cases h : ofBody message body <;> simp [Except.map, h]

/-- What is read after a delimiter. -/
theorem read_append_eq_some_iff {delimiter message : String} {s : List Char} {line : CommandLine}
    (hd : delimiter ≠ "") (hm : message.toList = delimiter.toList ++ s) :
    read delimiter message = .ok (some line) ↔ ¬delimiter.toList <+: s ∧ Written s line := by
  rw [read_eq_some_iff]
  constructor
  · rintro ⟨body, ⟨-, hbody, -, hnd⟩, hline⟩
    rw [hm, List.append_cancel_left_eq] at hbody
    subst hbody
    exact ⟨hnd, hline⟩
  · rintro ⟨hnd, hline⟩
    exact ⟨s, ⟨hd, hm, hline.ne_nil, hnd⟩, hline⟩

/-- **Reading accepts the grammar of commands and nothing else.** A message is no command exactly if
the delimiter does not stand once in front of a body, and a body is read as exactly the command that
it is a written form of. -/
theorem read_iff_written (delimiter message : String) :
    (read delimiter message = .ok none ↔ ¬∃ body, Delimiter.Precedes delimiter body message) ∧
      ∀ line, read delimiter message = .ok (some line) ↔
        ∃ body, Delimiter.Precedes delimiter body message ∧ Written body line :=
  ⟨read_eq_none_iff, fun _ => read_eq_some_iff⟩

example : read "!" "!Echo a\"b c\"\\1012 \"\" " = .ok (some ⟨"echo", ["ab cA2", ""]⟩) := by cbv

end CommandLine

end ChatBot
