import ClassSchema.Proofs.Token.Spaced

/-!
# Tokens tile their text

The lexer goes through a text from the first character to the last. What it passes over in one step
is a token, or a single character that starts no token, or a string whose closing quote is missing,
and that reaches to the end of the text. So the tokens lie behind each other, none of them empty but
the end token, and what lies outside of them is known exactly.

The text is cut up once, in `Cut`: one constructor for each thing a step can pass over. That the
lexer cuts its text in this way is an induction on the steps; everything else about the places of
the tokens is an induction on the cut, which knows nothing of the lexer.
-/

namespace ClassSchema

/-! ## What starts no token -/

namespace Lexeme

/-- The characters behind an opening quote if no closing one follows. A backslash takes the
character after it along, so a quote behind a backslash closes nothing. -/
inductive Unclosed : List Char → Prop
  | nil : Unclosed []
  | backslash : Unclosed ['\\']
  | escape (c : Char) {cs : List Char} (rest : Unclosed cs) : Unclosed ('\\' :: c :: cs)
  | plain {c : Char} {cs : List Char} (not_quote : c ≠ '"') (not_backslash : c ≠ '\\')
    (rest : Unclosed cs) : Unclosed (c :: cs)

/-- The character `c` starts no token in front of `cs`: it belongs to no class of characters that
do, and where it is a slash or a minus sign, no comment and no number starts with it. -/
structure Stray (c : Char) (cs : List Char) : Prop where
  not_newline : c ≠ '\n' ∧ c ≠ '\r'
  not_space : c ≠ ' ' ∧ c ≠ '\t' ∧ c ≠ '\x0c'
  not_quote : c ≠ '"'
  not_digit : Text.isDigit c = false
  not_identifierStart : isIdentifierStart c = false
  not_mark : ∀ m : Mark, m.char ≠ c
  no_comment : c = '/' → cs.head? ≠ some '/' ∧ cs.head? ≠ some '*'
  no_number : c = '-' → ∀ d ∈ cs.head?, Text.isDigit d = false

variable {c : Char} {cs : List Char}

private theorem unclosed_of_stringLength? (h : stringLength? cs = none) : Unclosed cs := by
  fun_induction stringLength? cs with
  | case1 => exact .nil
  | case2 => cases h
  | case3 c cs ih => exact .escape c (ih (Option.map_eq_none_iff.mp h))
  | case4 c cs hquote hescape ih =>
    have hrest := ih (Option.map_eq_none_iff.mp h)
    by_cases hbackslash : c = '\\'
    · -- a backslash is left over only in front of the end
      cases cs with
      | nil => exact hbackslash ▸ .backslash
      | cons d ds => exact absurd rfl (hescape d ds hbackslash)
    · exact .plain (fun h ↦ hquote h) hbackslash hrest

/-- What can start at a character, one constructor for each family of tokens and for what is passed
over without one. -/
inductive Starts : Char → List Char → Lexeme → Prop
  | lineFeed (cs : List Char) : Starts '\n' cs ⟨some .newline, 0⟩
  | carriageReturn {cs : List Char} (alone : cs.head? ≠ some '\n') :
    Starts '\r' cs ⟨some .newline, 0⟩
  | carriageReturnLineFeed (cs : List Char) : Starts '\r' ('\n' :: cs) ⟨some .newline, 1⟩
  | blank {c : Char} (cs : List Char) (space : isSpaceChar c = true) :
    Starts c cs ⟨some .blank, (cs.takeWhile isSpaceChar).length⟩
  | lineComment (cs : List Char) :
    Starts '/' ('/' :: cs) ⟨some (.comment .line), (cs.takeWhile (!isNewlineChar ·)).length + 1⟩
  | blockComment (form : CommentForm) (cs : List Char) (form_ne : form ≠ .line) :
    Starts '/' ('*' :: cs) ⟨some (.comment form), blockLength cs + 1⟩
  | string {cs : List Char} {length : Nat} (closed : stringLength? cs = some length) :
    Starts '"' cs ⟨some .string, length⟩
  | unclosed {cs : List Char} (unclosed : Unclosed cs) : Starts '"' cs ⟨none, cs.length⟩
  | number {c : Char} (cs : List Char) (digit : Text.isDigit c = true) :
    Starts c cs ⟨some .number, numberLength (c :: cs) - 1⟩
  | negative {cs : List Char} (digit : cs.head?.any Text.isDigit = true) :
    Starts '-' cs ⟨some .number, numberLength cs⟩
  | word {c : Char} (cs : List Char) (start : isIdentifierStart c = true) {kind : Kind}
    (kind_eq : kind = .identifier ∨ ∃ word, kind = .keyword word) :
    Starts c cs ⟨some kind, (cs.takeWhile isIdentifierPart).length⟩
  | mark (m : Mark) (cs : List Char) : Starts m.char cs ⟨some (.mark m), 0⟩
  | stray {c : Char} {cs : List Char} (stray : Stray c cs) : Starts c cs ⟨none, 0⟩

private theorem starts_of_isNewlineChar (h : isNewlineChar c = true) (cs : List Char) :
    Starts c cs ⟨some .newline, if c = '\r' ∧ cs.head? = some '\n' then 1 else 0⟩ := by
  rw [isNewlineChar, Bool.or_eq_true, decide_eq_true_eq, decide_eq_true_eq] at h
  rcases h with rfl | rfl
  · rw [if_neg fun hreturn ↦ absurd hreturn.1 (by decide)]
    exact .lineFeed cs
  · split
    · rename_i hfeed
      obtain ⟨rest, rfl⟩ := List.head?_eq_some_iff.mp hfeed.2
      exact .carriageReturnLineFeed rest
    · rename_i hfeed
      exact .carriageReturn fun hhead ↦ hfeed ⟨rfl, hhead⟩

private theorem starts_of_slash (cs : List Char) : Starts '/' cs (read '/' cs) := by
  unfold read
  rw [if_neg (by decide), if_neg (by decide), if_pos rfl]
  split
  · exact .lineComment _
  · refine .blockComment _ _ ?_
    split <;> decide
  · rename_i hline hblock
    refine .stray ⟨by decide, by decide, by decide, by decide +kernel, by decide +kernel,
      fun m ↦ by cases m <;> decide, fun _ ↦ ⟨fun hhead ↦ ?_, fun hhead ↦ ?_⟩,
      fun hminus ↦ absurd hminus (by decide)⟩
    · obtain ⟨rest, hrest⟩ := List.head?_eq_some_iff.mp hhead
      exact hline rest hrest
    · obtain ⟨rest, hrest⟩ := List.head?_eq_some_iff.mp hhead
      exact hblock rest hrest

/-- **What starts at a character** is one of these. -/
theorem starts_read (c : Char) (cs : List Char) : Starts c cs (read c cs) := by
  by_cases hslash : c = '/'
  · exact hslash ▸ starts_of_slash cs
  -- one branch of the reader after the other; each knows that those before it were not taken
  unfold read
  split
  · rename_i hnewline
    exact starts_of_isNewlineChar hnewline cs
  rename_i hnewline
  split
  · rename_i hspace
    exact .blank cs hspace
  rename_i hspace
  split
  · rename_i hquote
    subst hquote
    split
    · rename_i hlength
      exact .string hlength
    · rename_i hlength
      exact .unclosed (unclosed_of_stringLength? hlength)
  rename_i hquote
  split
  · rename_i hdigit
    exact .number cs hdigit
  rename_i hdigit
  split
  · rename_i hminus
    exact hminus.1 ▸ .negative hminus.2
  rename_i hminus
  split
  · rename_i hstart
    refine .word cs hstart ?_
    split
    · exact .inr ⟨_, rfl⟩
    · exact .inl rfl
  rename_i hstart
  cases hmark : Mark.ofChar? c with
  | some m =>
    have hchar : m.char = c := by simpa using List.find?_some hmark
    exact hchar ▸ .mark m cs
  | none =>
    refine .stray
      { not_newline := by simpa [isNewlineChar] using hnewline
        not_space := by simpa [isSpaceChar, and_assoc] using hspace
        not_quote := hquote
        not_digit := Bool.eq_false_iff.mpr hdigit
        not_identifierStart := Bool.eq_false_iff.mpr hstart
        not_mark := fun m ↦ by simpa using List.find?_eq_none.mp hmark m (Mark.mem_all m)
        no_comment := fun h ↦ absurd h hslash
        no_number := fun h d hd ↦ Bool.eq_false_iff.mpr fun hdigit' ↦ hminus ⟨h, ?_⟩ }
    rw [Option.mem_def.mp hd]
    exact hdigit'

/-- A stray character is passed over alone. -/
theorem read_of_stray (h : Stray c cs) : read c cs = ⟨none, 0⟩ := by
  have hstarts := starts_read c cs
  generalize read c cs = lexeme at hstarts ⊢
  cases hstarts with
  | stray => rfl
  | lineFeed => exact absurd rfl h.not_newline.1
  | carriageReturn | carriageReturnLineFeed => exact absurd rfl h.not_newline.2
  | blank _ space =>
    obtain ⟨hspace, htab, hfeed⟩ := h.not_space
    simp [isSpaceChar, hspace, htab, hfeed] at space
  | lineComment => exact absurd rfl (h.no_comment rfl).1
  | blockComment => exact absurd rfl (h.no_comment rfl).2
  | string | unclosed => exact absurd rfl h.not_quote
  | number _ digit => exact absurd digit (ne_true_of_eq_false h.not_digit)
  | negative digit =>
    cases cs with
    | nil => cases digit
    | cons d ds => exact absurd digit (ne_true_of_eq_false (h.no_number rfl d rfl))
  | word _ start => exact absurd start (ne_true_of_eq_false h.not_identifierStart)
  | mark m => exact absurd rfl (h.not_mark m)

/-- What gives no token is a stray character, which is passed over alone, or an opening quote
without a closing one, and then everything behind it is passed over. -/
theorem read_of_kind?_eq_none (h : (read c cs).kind? = none) :
    Stray c cs ∧ (read c cs).extra = 0 ∨
      c = '"' ∧ Unclosed cs ∧ (read c cs).extra = cs.length := by
  have hstarts := starts_read c cs
  generalize read c cs = lexeme at h hstarts
  cases hstarts with
  | unclosed unclosed => exact .inr ⟨rfl, unclosed, rfl⟩
  | stray stray => exact .inl ⟨stray, rfl⟩
  | _ => cases h

end Lexeme

/-! ## Steps of the lexer -/

namespace Lexer

variable {text : List Char} {l : Lexer}

/-- The lexer stands in the text: what is still to be read is what comes from its offset on. -/
structure StandsIn (text : List Char) (l : Lexer) : Prop where
  offset_le : l.place.offset ≤ text.length
  rest_eq : text.drop l.place.offset = l.rest

theorem standsIn_ofText (source : String) : (ofText source).StandsIn source.toList :=
  ⟨Nat.zero_le _, rfl⟩

theorem offset_next_of_cons {c : Char} {cs : List Char} (h : l.rest = c :: cs) :
    l.next.2.place.offset = l.place.offset + (c :: cs.take (Lexeme.read c cs).extra).length := by
  rw [next, h]
  exact Place.offset_after ..

theorem StandsIn.drop_eq (h : l.StandsIn text) {c : Char} {cs : List Char}
    (hrest : l.rest = c :: cs) : text.drop l.place.offset =
      (c :: cs.take (Lexeme.read c cs).extra) ++ cs.drop (Lexeme.read c cs).extra := by
  rw [h.rest_eq, hrest, List.cons_append, List.take_append_drop]

theorem StandsIn.next (h : l.StandsIn text) : l.next.2.StandsIn text := by
  cases hrest : l.rest with
  | nil =>
    have hstays : l.next.2 = l := by rw [Lexer.next, hrest]
    rw [hstays]
    exact h
  | cons c cs =>
    have hrest' : l.next.2.rest = cs.drop (Lexeme.read c cs).extra := by rw [Lexer.next, hrest]
    have hahead := h.drop_eq hrest
    have hlength := congrArg List.length hahead
    rw [List.length_drop, List.length_append] at hlength
    constructor
    · rw [offset_next_of_cons hrest]
      have := h.offset_le
      omega
    · rw [offset_next_of_cons hrest, hrest', ← List.drop_drop, hahead, List.drop_left]

/-- The lexer after some steps. -/
def after (l : Lexer) : Nat → Lexer
  | 0 => l
  | n + 1 => l.next.2.after n

private theorem after_succ (l : Lexer) (n : Nat) : l.after (n + 1) = (l.after n).next.2 := by
  induction n generalizing l with
  | zero => rfl
  | succ n ih => exact ih l.next.2

theorem after_induction {P : Lexer → Prop} (hnext : ∀ l, P l → P l.next.2) (h : P l) (n : Nat) :
    P (l.after n) := by
  induction n generalizing l with
  | zero => exact h
  | succ n ih => exact ih (hnext l h)

private theorem StandsIn.after (h : l.StandsIn text) (n : Nat) : (l.after n).StandsIn text :=
  after_induction (fun _ ↦ StandsIn.next) h n

private theorem offset_lt_next (h : l.isDone = false) : l.place.offset < l.next.2.place.offset := by
  cases hrest : l.rest with
  | nil =>
    rw [isDone, hrest] at h
    cases h
  | cons c cs =>
    rw [offset_next_of_cons hrest, List.length_cons]
    omega

/-- **The tokens are what the steps give**, up to the first one at the end, which comes after no
more steps than there are characters. -/
theorem exists_tokens_eq_filterMap (l : Lexer) :
    ∃ steps ≤ l.rest.length, (l.after steps).isDone = true ∧
      (∀ n < steps, (l.after n).isDone = false) ∧
      l.tokens = (List.range (steps + 1)).filterMap fun n ↦ (l.after n).next.1 := by
  fun_induction tokens l with
  | case1 l hrest =>
    have hnext : l.next.1 = some l.endToken := by rw [next, hrest]
    refine ⟨0, Nat.zero_le _, List.isEmpty_iff.mpr hrest, fun n hn ↦ absurd hn (Nat.not_lt_zero n),
      ?_⟩
    simp [after, hnext]
  | case2 l hrest step ih =>
    obtain ⟨steps, hle, hdone, hbefore, htokens⟩ := ih
    refine ⟨steps + 1, Nat.lt_of_le_of_lt hle (next_rest_length hrest), hdone, fun n hn ↦ ?_, ?_⟩
    · cases n with
      | zero => exact Bool.eq_false_iff.mpr fun h ↦ hrest (List.isEmpty_iff.mp h)
      | succ n => exact hbefore n (Nat.lt_of_succ_lt_succ hn)
    · rw [List.range_succ_eq_map (n := steps + 1), List.filterMap_cons, List.filterMap_map]
      cases hstep : l.next.1 with
      | none => simpa [step, hstep, after, Function.comp_def] using htokens
      | some t => simpa [step, hstep, after, Function.comp_def] using htokens

end Lexer

/-! ## Texts that are cut up -/

/-- The text `text`, from an offset on, is cut up into the tokens `ts`. Between the tokens there are
stray characters, each on its own, and at the end there may be a string that is not closed. -/
inductive Cut (text : List Char) : Nat → List Token → Prop
  | done (last : Token) (kind_eq : last.kind = .endOfInput) (text_eq : last.text = "")
    (span_eq : last.span = .empty text.length) : Cut text text.length [last]
  | unclosed {offset : Nat} {body : List Char} {ts : List Token}
    (ahead : text.drop offset = '"' :: body) (unclosed : Lexeme.Unclosed body)
    (rest : Cut text text.length ts) : Cut text offset ts
  | stray {offset : Nat} {c : Char} {cs : List Char} {ts : List Token}
    (ahead : text.drop offset = c :: cs) (stray : Lexeme.Stray c cs)
    (rest : Cut text (offset + 1) ts) : Cut text offset ts
  | token {t : Token} {ts : List Token} (kind_ne : t.kind ≠ .endOfInput)
    (nonempty : t.span.start < t.span.stop) (stop_le : t.span.stop ≤ text.length)
    (text_eq : t.text = String.ofList ((text.drop t.span.start).take t.span.length))
    (rest : Cut text t.span.stop ts) : Cut text t.span.start (t :: ts)

namespace Lexer

variable {text : List Char} {l : Lexer}

theorem StandsIn.offset_eq_of_isDone (h : l.StandsIn text) (hdone : l.isDone = true) :
    l.place.offset = text.length := by
  have hnil : text.drop l.place.offset = [] := h.rest_eq.trans (List.isEmpty_iff.mp hdone)
  exact Nat.le_antisymm h.offset_le (List.drop_eq_nil_iff.mp hnil)

/-- **The lexer cuts up its text.** -/
theorem cut_tokens (h : l.StandsIn text) : Cut text l.place.offset l.tokens := by
  fun_induction tokens l with
  | case1 l hrest =>
    rw [h.offset_eq_of_isDone (List.isEmpty_iff.mpr hrest)]
    refine .done _ rfl rfl ?_
    rw [endToken, h.offset_eq_of_isDone (List.isEmpty_iff.mpr hrest)]
  | case2 l hrest step ih =>
    obtain ⟨c, cs, hcons⟩ := List.exists_cons_of_ne_nil hrest
    have hahead : text.drop l.place.offset = c :: cs := h.rest_eq.trans hcons
    have hlater := ih h.next
    have hoffset : step.2.place.offset =
      l.place.offset + (c :: cs.take (Lexeme.read c cs).extra).length := offset_next_of_cons hcons
    have htoken : step.1 = (Lexeme.read c cs).kind?.map
        (l.tokenOf · (c :: cs.take (Lexeme.read c cs).extra)) := by
      rw [show step = l.next from rfl, next, hcons]
    cases hkind : (Lexeme.read c cs).kind? with
    | none =>
      rw [htoken, hkind]
      rcases Lexeme.read_of_kind?_eq_none hkind with ⟨hstray, hextra⟩ | ⟨rfl, hunclosed, hextra⟩
      · rw [hoffset, hextra] at hlater
        exact .stray hahead hstray hlater
      · -- nothing is left behind the string
        have hend : step.2.place.offset = text.length := by
          have hlength := congrArg List.length hahead
          rw [List.length_drop, List.length_cons] at hlength
          rw [hoffset, hextra, List.take_length, List.length_cons]
          have := h.offset_le
          omega
        rw [hend] at hlater
        exact .unclosed hahead hunclosed hlater
    | some kind =>
      rw [htoken, hkind]
      let taken := c :: cs.take (Lexeme.read c cs).extra
      have hstop : (l.tokenOf kind taken).span.stop = step.2.place.offset := hoffset.symm
      have htaken : taken <+: text.drop l.place.offset := ⟨_, (h.drop_eq hcons).symm⟩
      refine .token (t := l.tokenOf kind taken) (fun hend ↦ ?_) (Nat.lt_add_of_pos_right ?_) ?_ ?_
        (hstop ▸ hlater)
      · exact Lexeme.read_kind?_ne_endOfInput c cs (hend ▸ hkind)
      · exact Nat.succ_pos _
      · rw [hstop]
        exact h.next.offset_le
      · have hlength : (l.tokenOf kind taken).span.length = taken.length :=
          Nat.add_sub_cancel_left ..
        rw [hlength]
        exact congrArg String.ofList (List.prefix_iff_eq_take.mp htaken)

end Lexer

/-! ## Where the tokens lie -/

/-- The token `a` lies in front of the token `b`. -/
def Token.Before (a b : Token) : Prop := a.span.stop ≤ b.span.start

/-- The token takes the character at an offset. -/
def Token.Covers (t : Token) (offset : Nat) : Prop := t.span.start ≤ offset ∧ offset < t.span.stop

namespace Cut

variable {text : List Char} {offset : Nat} {ts : List Token}

private theorem offset_le (h : Cut text offset ts) : offset ≤ text.length := by
  cases h with
  | done => exact Nat.le_refl _
  | unclosed ahead | stray ahead =>
    have hlength := congrArg List.length ahead
    rw [List.length_drop, List.length_cons] at hlength
    omega
  | token _ nonempty stop_le => exact Nat.le_trans (Nat.le_of_lt nonempty) stop_le

theorem le_start (h : Cut text offset ts) : ∀ t ∈ ts, offset ≤ t.span.start := by
  induction h with
  | done last _ _ span_eq =>
    intro t ht
    rw [List.mem_singleton.mp ht, span_eq]
    exact Nat.le_refl _
  | unclosed ahead _ rest ih =>
    have hlength := congrArg List.length ahead
    rw [List.length_drop, List.length_cons] at hlength
    exact fun t ht ↦ Nat.le_trans (by omega) (ih t ht)
  | stray _ _ _ ih => exact fun t ht ↦ Nat.le_trans (Nat.le_succ _) (ih t ht)
  | token _ nonempty _ _ _ ih =>
    refine List.forall_mem_cons.mpr ⟨Nat.le_refl _, fun t ht ↦ ?_⟩
    exact Nat.le_trans (Nat.le_of_lt nonempty) (ih t ht)

theorem pairwise_before (h : Cut text offset ts) : ts.Pairwise Token.Before := by
  induction h with
  | done last => exact List.pairwise_singleton _ last
  | unclosed _ _ _ ih => exact ih
  | stray _ _ _ ih => exact ih
  | token _ _ _ _ rest ih => exact List.pairwise_cons.mpr ⟨rest.le_start, ih⟩

theorem pairwise_start (h : Cut text offset ts) :
    ts.Pairwise fun a b ↦ a.span.start < b.span.start := by
  induction h with
  | done last => exact List.pairwise_singleton _ last
  | unclosed _ _ _ ih => exact ih
  | stray _ _ _ ih => exact ih
  | token _ nonempty _ _ rest ih =>
    exact List.pairwise_cons.mpr ⟨fun t ht ↦ Nat.lt_of_lt_of_le nonempty (rest.le_start t ht), ih⟩

theorem exists_concat (h : Cut text offset ts) :
    ∃ others last, ts = others ++ [last] ∧
      last.kind = .endOfInput ∧ last.span = .empty text.length ∧
      ∀ t ∈ others, t.kind ≠ .endOfInput ∧ t.span.start < t.span.stop := by
  induction h with
  | done last kind_eq _ span_eq =>
    exact ⟨[], last, rfl, kind_eq, span_eq, List.forall_mem_nil _⟩
  | unclosed _ _ _ ih => exact ih
  | stray _ _ _ ih => exact ih
  | @token t ts kind_ne nonempty _ _ _ ih =>
    obtain ⟨others, last, rfl, hkind, hspan, hothers⟩ := ih
    exact ⟨t :: others, last, rfl, hkind, hspan,
      List.forall_mem_cons.mpr ⟨⟨kind_ne, nonempty⟩, hothers⟩⟩

/-- The text of a token is what the text has there. -/
theorem text_eq (h : Cut text offset ts) : ∀ t ∈ ts, t.span.stop ≤ text.length ∧
    t.text = String.ofList ((text.drop t.span.start).take t.span.length) := by
  induction h with
  | done last _ text_eq span_eq =>
    intro t ht
    rw [List.mem_singleton.mp ht, text_eq, span_eq]
    refine ⟨Nat.le_refl _, ?_⟩
    rw [Span.length, Span.empty, Nat.sub_self]
    rfl
  | unclosed _ _ _ ih => exact ih
  | stray _ _ _ ih => exact ih
  | token _ _ stop_le text_eq _ ih => exact List.forall_mem_cons.mpr ⟨⟨stop_le, text_eq⟩, ih⟩

private theorem start_lt_stop (h : Cut text offset ts) :
    ∀ t ∈ ts, t.kind ≠ .endOfInput → t.span.start < t.span.stop := by
  obtain ⟨others, last, rfl, hkind, -, hothers⟩ := h.exists_concat
  intro t ht hne
  rcases List.mem_append.mp ht with hmem | hmem
  · exact (hothers t hmem).2
  · rw [List.mem_singleton.mp hmem] at hne
    exact absurd hkind hne

/-- **What lies outside of all tokens.** Up to some place every character is taken by a token or is
a stray one. All tokens end in front of that place, and if the text goes on there, what is left is a
string that is not closed. -/
theorem exists_gaps (h : Cut text offset ts) :
    ∃ stop, offset ≤ stop ∧ stop ≤ text.length ∧
      (∀ i, offset ≤ i → i < stop →
        (∃ t ∈ ts, t.Covers i) ∨ ∃ c cs, text.drop i = c :: cs ∧ Lexeme.Stray c cs) ∧
      (∀ t ∈ ts, t.kind ≠ .endOfInput → t.span.stop ≤ stop) ∧
      (stop < text.length → ∃ body, text.drop stop = '"' :: body ∧ Lexeme.Unclosed body) := by
  induction h with
  | done last kind_eq _ _ =>
    refine ⟨text.length, Nat.le_refl _, Nat.le_refl _, fun i hle hlt ↦ by omega, fun t ht hne ↦ ?_,
      fun hlt ↦ absurd hlt (Nat.lt_irrefl _)⟩
    exact absurd (List.mem_singleton.mp ht ▸ kind_eq) hne
  | @unclosed offset body ts ahead unclosed rest _ =>
    have hle := (Cut.unclosed ahead unclosed rest).offset_le
    refine ⟨offset, Nat.le_refl _, hle, fun i hle hlt ↦ by omega, fun t ht hne ↦ ?_,
      fun _ ↦ ⟨body, ahead, unclosed⟩⟩
    -- a token would start behind the end of the text
    have hstart := rest.le_start t ht
    have hlt := rest.start_lt_stop t ht hne
    have hstop := (rest.text_eq t ht).1
    omega
  | @stray offset c cs ts ahead stray _ ih =>
    obtain ⟨stop, hle, hlength, hgaps, htokens, hrest⟩ := ih
    refine ⟨stop, Nat.le_of_succ_le hle, hlength, fun i hi hlt ↦ ?_, htokens, hrest⟩
    rcases Nat.eq_or_lt_of_le hi with rfl | hlt'
    · exact .inr ⟨c, cs, ahead, stray⟩
    · exact hgaps i hlt' hlt
  | @token t ts _ _ _ _ _ ih =>
    obtain ⟨stop, hle, hlength, hgaps, htokens, hrest⟩ := ih
    refine ⟨stop, Nat.le_trans t.span.start_le_stop hle, hlength, fun i hi hlt ↦ ?_,
      List.forall_mem_cons.mpr ⟨fun _ ↦ hle, htokens⟩, hrest⟩
    by_cases hinside : i < t.span.stop
    · exact .inl ⟨t, List.mem_cons_self, hi, hinside⟩
    · rcases hgaps i (Nat.le_of_not_lt hinside) hlt with ⟨u, hu, hcovers⟩ | hstray
      · exact .inl ⟨u, List.mem_cons_of_mem t hu, hcovers⟩
      · exact .inr hstray

end Cut

/-! ## The tokens of a text -/

namespace Token

theorem cut_lex (source : String) : Cut source.toList 0 (lex source) :=
  Lexer.cut_tokens (Lexer.standsIn_ofText source)

/-- How a text is taken apart into tokens: what the steps of the lexer do, where the tokens lie, and
what lies outside of them. -/
structure Tiles (source : String) : Prop where
  /-- The lexer comes to the end of the text, each step in front of it moves on, and the tokens are
  what these steps and the one at the end give. -/
  steps : ∃ steps ≤ source.length,
    ((Lexer.ofText source).after steps).place.offset = source.length ∧
    ((Lexer.ofText source).after steps).isDone = true ∧
    (∀ n < steps, ((Lexer.ofText source).after n).isDone = false ∧
      ((Lexer.ofText source).after n).place.offset <
        ((Lexer.ofText source).after (n + 1)).place.offset) ∧
    lex source = (List.range (steps + 1)).filterMap fun n ↦
      ((Lexer.ofText source).after n).next.1
  /-- The last token is the one end token, and the others are not empty. -/
  ends : ∃ others last, lex source = others ++ [last] ∧
    last.kind = .endOfInput ∧ last.span = .empty source.length ∧
    ∀ t ∈ others, t.kind ≠ .endOfInput ∧ t.span.start < t.span.stop
  /-- The tokens do not overlap, and they come in the order of the text. -/
  ascend : (lex source).Pairwise Before
  /-- The text of a token is what the source has there. -/
  text_eq : ∀ t ∈ lex source, t.span.stop ≤ source.length ∧ t.text = t.span.sliceOf source
  /-- Up to some place a character outside of all tokens is a stray one, and what is left from there
  on, behind all tokens, is a string that is not closed. -/
  gaps : ∃ stop ≤ source.length,
    (∀ i < stop, (∀ t ∈ lex source, ¬t.Covers i) →
      ∃ c cs, source.toList.drop i = c :: cs ∧ Lexeme.Stray c cs) ∧
    (∀ t ∈ lex source, t.kind ≠ .endOfInput → t.span.stop ≤ stop) ∧
    (stop < source.length →
      ∃ body, source.toList.drop stop = '"' :: body ∧ Lexeme.Unclosed body)

/-- **Lexing tiles the text.** -/
theorem tiles_lex (source : String) : Tiles source := by
  have hcut := cut_lex source
  have hlength : source.toList.length = source.length := String.length_toList
  constructor
  · obtain ⟨steps, hle, hdone, hbefore, htokens⟩ :=
      Lexer.exists_tokens_eq_filterMap (.ofText source)
    have hstands := (Lexer.standsIn_ofText source).after steps
    refine ⟨steps, hlength ▸ hle, hlength ▸ hstands.offset_eq_of_isDone hdone, hdone,
      fun n hn ↦ ⟨hbefore n hn, ?_⟩, htokens⟩
    rw [Lexer.after_succ]
    exact Lexer.offset_lt_next (hbefore n hn)
  · rw [← hlength]
    exact hcut.exists_concat
  · exact hcut.pairwise_before
  · rw [← hlength]
    exact hcut.text_eq
  · obtain ⟨stop, -, hle, hgaps, htokens, hrest⟩ := hcut.exists_gaps
    rw [← hlength]
    refine ⟨stop, hle, fun i hi houtside ↦ ?_, htokens, hrest⟩
    refine (hgaps i (Nat.zero_le i) hi).resolve_left fun ⟨t, ht, hcovers⟩ ↦ ?_
    exact houtside t ht hcovers

end Token

end ClassSchema
