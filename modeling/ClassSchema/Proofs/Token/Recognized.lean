import ClassSchema.Proofs.Token.Matching

/-!
# Every token is recognized

A token is recognized in a text if it can be cut off where it starts, as `Kind.Matches` describes
it, and nothing else can be. So its kind says which form its text has, and the token is as long as
that form allows.

All tokens of the lexer are. Where the lexer finds a token there is some cut that is described,
`Lexeme.exists_matches`, and this is enough: the lexer takes what is described, so what it has taken
is this cut.
-/

namespace ClassSchema

private theorem Keyword.eq_text_of_ofText?_eq_some {text : String} {word : Keyword}
    (h : ofText? text = some word) : text = word.text := by
  have hfound := List.find?_some (p := fun word : Keyword ↦ decide (word.text = text)) h
  exact (of_decide_eq_true hfound).symm

namespace Lexeme

variable {c : Char} {cs rest : List Char} {kind : Kind}

/-! ## What is found at a character -/

private theorem exists_enclosed {n : Nat} (h : stringLength? cs = some n) :
    ∃ body rest, cs = body ++ '"' :: rest ∧ Enclosed body := by
  fun_induction stringLength? cs generalizing n with
  | case1 => cases h
  | case2 cs => exact ⟨[], cs, rfl, .nil⟩
  | case3 c cs ih =>
    obtain ⟨n, hn, -⟩ := Option.map_eq_some_iff.mp h
    obtain ⟨body, rest, rfl, hbody⟩ := ih hn
    exact ⟨'\\' :: c :: body, rest, rfl, .escape c hbody⟩
  | case4 c cs hquote hescape ih =>
    obtain ⟨n, hn, -⟩ := Option.map_eq_some_iff.mp h
    obtain ⟨body, rest, rfl, hbody⟩ := ih hn
    refine ⟨c :: body, rest, rfl, .plain (fun hc ↦ hquote hc) (fun hc ↦ ?_) hbody⟩
    -- a backslash would have taken the next character along
    obtain ⟨d, ds, hds⟩ := List.exists_cons_of_ne_nil
      (show body ++ '"' :: rest ≠ [] by simp)
    exact hescape d ds hc hds

/-- A text has a first closing delimiter or none. -/
theorem exists_first_closing (cs : List Char) :
    ∃ body, ¬['*', '/'] <:+: body ∧ ((∃ rest, cs = body ++ '*' :: '/' :: rest) ∨ cs = body) := by
  induction cs with
  | nil => exact ⟨[], by simp, .inr rfl⟩
  | cons c cs ih =>
    by_cases hclosed : c = '*' ∧ cs.head? = some '/'
    · obtain ⟨rfl, hslash⟩ := hclosed
      obtain ⟨rest, rfl⟩ := List.head?_eq_some_iff.mp hslash
      exact ⟨[], by simp, .inl ⟨rest, rfl⟩⟩
    · obtain ⟨body, hbody, hcs⟩ := ih
      have hnone : ¬['*', '/'] <:+: c :: body := by
        rw [List.infix_cons_iff, not_or]
        refine ⟨fun hprefix ↦ hclosed ?_, hbody⟩
        obtain ⟨rfl, hslash⟩ := List.cons_prefix_cons.mp hprefix
        obtain ⟨ds, rfl⟩ := hslash
        rcases hcs with ⟨rest, rfl⟩ | rfl <;> exact ⟨rfl, rfl⟩
      refine ⟨c :: body, hnone, ?_⟩
      rcases hcs with ⟨rest, rfl⟩ | rfl
      · exact .inl ⟨rest, rfl⟩
      · exact .inr rfl

theorem eq_false_of_head?_dropWhile (p : Char → Bool) (cs : List Char) :
    ∀ c ∈ (cs.dropWhile p).head?, p c = false := by
  intro c hc
  have hhead := List.head?_dropWhile_not p cs
  rwa [Option.mem_def.mp hc] at hhead

theorem exists_suffix (cs : List Char) :
    ∃ suffix : Option Char, ∃ rest, cs = suffix.toList ++ rest ∧
      (∀ c ∈ suffix, c ∈ typeLetters) ∧
      (suffix ≠ none → ∀ c ∈ rest.head?, isIdentifierPart c = false) ∧
      (suffix = none → ∀ c ds, rest = c :: ds → c ∈ typeLetters →
        ∃ d ∈ ds.head?, isIdentifierPart d = true) := by
  by_cases h : ∃ c ds, cs = c :: ds ∧ c ∈ typeLetters ∧ ∀ d ∈ ds.head?, isIdentifierPart d = false
  · obtain ⟨c, ds, rfl, hc, hds⟩ := h
    exact ⟨some c, ds, rfl, fun _ hmem ↦ Option.some.inj hmem ▸ hc, fun _ ↦ hds, nofun⟩
  · refine ⟨none, cs, rfl, nofun, fun hne ↦ absurd rfl hne, fun _ c ds hcs hc ↦ ?_⟩
    by_contra hno
    refine h ⟨c, ds, hcs, hc, fun d hd ↦ Bool.eq_false_iff.mpr fun hpart ↦ hno ⟨d, hd, hpart⟩⟩

/-- The fraction behind the digits of a number, if a digit comes behind the point. -/
theorem exists_fraction (hcs : ∀ c ∈ cs.head?, Text.isDigit c = false) :
    ∃ fraction : Option (List Char), ∃ behind, cs = fraction.elim [] ('.' :: ·) ++ behind ∧
      (∀ digits ∈ fraction, IsDigits digits) ∧ (∀ c ∈ behind.head?, Text.isDigit c = false) ∧
      (fraction = none → ∀ c ds, behind = '.' :: c :: ds → Text.isDigit c = false) := by
  by_cases h : ∃ c ds, cs = '.' :: c :: ds ∧ Text.isDigit c = true
  · obtain ⟨c, ds, rfl, hc⟩ := h
    refine ⟨some ((c :: ds).takeWhile Text.isDigit), (c :: ds).dropWhile Text.isDigit, ?_, ?_, ?_,
      nofun⟩
    · rw [Option.elim_some, List.cons_append, List.takeWhile_append_dropWhile]
    · rintro digits ⟨rfl⟩
      refine ⟨?_, fun d hd ↦ List.mem_takeWhile_imp hd⟩
      rw [List.takeWhile_cons_of_pos hc]
      exact List.cons_ne_nil _ _
    · exact eq_false_of_head?_dropWhile _ _
  · refine ⟨none, cs, rfl, nofun, hcs, fun _ c ds hpoint ↦ ?_⟩
    exact Bool.eq_false_iff.mpr fun hdigit ↦ h ⟨c, ds, hpoint, hdigit⟩

/-- What starts with a digit starts with a number. -/
theorem exists_form (h : cs.head?.any Text.isDigit = true) :
    ∃ f : NumberForm, ∃ rest, cs = f.unsigned ++ rest ∧ f.isNegative = false ∧ f.IsWritten ∧
      f.EndsBefore rest := by
  have hwhole : IsDigits (cs.takeWhile Text.isDigit) := by
    refine ⟨?_, fun d hd ↦ List.mem_takeWhile_imp hd⟩
    cases cs with
    | nil => cases h
    | cons c cs =>
      have hdigit : Text.isDigit c = true := h
      rw [List.takeWhile_cons_of_pos hdigit]
      exact List.cons_ne_nil _ _
  obtain ⟨fraction, behind, hbehind, hfraction, hdigit, hpoint⟩ :=
    exists_fraction (eq_false_of_head?_dropWhile Text.isDigit cs)
  obtain ⟨suffix, rest, rfl, hsuffix, hword, hletter⟩ := exists_suffix behind
  refine ⟨⟨false, cs.takeWhile Text.isDigit, fraction, suffix⟩, rest, ?_, rfl,
    ⟨hwhole, hfraction, hsuffix⟩, ⟨hword, ?_, ?_, hletter⟩⟩
  · rw [NumberForm.unsigned, List.append_assoc, List.append_assoc, ← hbehind,
      List.takeWhile_append_dropWhile]
  · rintro rfl
    exact hdigit
  · rintro rfl
    exact hpoint

private theorem matches_word_iff {word? : Option Keyword}
    (h : word? = Keyword.ofText? (String.ofList (c :: cs))) :
    (word?.elim Kind.identifier .keyword).Matches (c :: cs) rest ↔ IsWord (c :: cs) rest := by
  cases word? with
  | some word =>
    refine and_iff_left ?_
    rw [← Keyword.eq_text_of_ofText?_eq_some h.symm, String.toList_ofList]
  | none =>
    refine and_iff_left fun word hword ↦ ?_
    rw [hword, String.ofList_toList, Keyword.ofText?_text] at h
    cases h

private theorem exists_matches_of_isBlockComment (h : IsBlockComment cs rest) :
    ∃ kind : Kind, kind.Matches cs rest := by
  by_cases hdoc : StartsDoc cs
  · exact ⟨.comment .doc, h, hdoc⟩
  · exact ⟨.comment .block, h, hdoc⟩

/-- Where a token starts, there is one that is described. -/
theorem exists_matches (h : (read c cs).kind? ≠ none) :
    ∃ kind : Kind, ∃ tail rest, cs = tail ++ rest ∧ kind.Matches (c :: tail) rest := by
  have hstarts := starts_read c cs
  -- each way to start gives the text of a kind, and what it ends in front of
  generalize read c cs = lexeme at h hstarts
  cases hstarts with
  | lineFeed => exact ⟨.newline, [], cs, rfl, .inl rfl⟩
  | carriageReturn alone => exact ⟨.newline, [], cs, rfl, .inr (.inl ⟨rfl, alone⟩)⟩
  | carriageReturnLineFeed cs => exact ⟨.newline, ['\n'], cs, rfl, .inr (.inr rfl)⟩
  | blank _ space =>
    refine ⟨.blank, cs.takeWhile isSpaceChar, cs.dropWhile isSpaceChar,
      List.takeWhile_append_dropWhile.symm, List.cons_ne_nil _ _,
      List.forall_mem_cons.mpr ⟨space, fun d hd ↦ List.mem_takeWhile_imp hd⟩,
      eq_false_of_head?_dropWhile _ cs⟩
  | lineComment cs =>
    refine ⟨.comment .line, '/' :: cs.takeWhile (!isNewlineChar ·),
      cs.dropWhile (!isNewlineChar ·), ?_, _, rfl, fun d hd ↦ ?_, fun d hd ↦ ?_⟩
    · rw [List.cons_append, List.takeWhile_append_dropWhile]
    · have hin := List.mem_takeWhile_imp hd
      simpa using hin
    · have hout := eq_false_of_head?_dropWhile (!isNewlineChar ·) cs d hd
      simpa using hout
  | blockComment _ cs =>
    obtain ⟨body, hbody, ⟨rest, rfl⟩ | rfl⟩ := exists_first_closing cs
    · obtain ⟨kind, hkind⟩ := exists_matches_of_isBlockComment ⟨body, hbody, .inl rfl⟩
      exact ⟨kind, _, rest, by simp, hkind⟩
    · obtain ⟨kind, hkind⟩ := exists_matches_of_isBlockComment ⟨cs, hbody, .inr ⟨rfl, rfl⟩⟩
      exact ⟨kind, _, [], by simp, hkind⟩
  | string closed =>
    obtain ⟨body, rest, rfl, hbody⟩ := exists_enclosed closed
    exact ⟨.string, body ++ ['"'], rest, by simp, body, rfl, hbody⟩
  | number _ digit =>
    have hany : (c :: cs).head?.any Text.isDigit = true := digit
    obtain ⟨f, rest, hcs, hsign, hf, hrest⟩ := exists_form hany
    obtain ⟨d, ds, hunsigned, -⟩ := exists_cons_unsigned hf
    rw [hunsigned] at hcs
    obtain ⟨rfl, rfl⟩ := List.cons.inj hcs
    refine ⟨.number, ds, rest, rfl, f, ?_, hf, hrest⟩
    rw [NumberForm.text, hsign, hunsigned]
    rfl
  | negative digit =>
    obtain ⟨f, rest, rfl, -, hf, hrest⟩ := exists_form digit
    exact ⟨.number, f.unsigned, rest, rfl, { f with isNegative := true }, rfl,
      ⟨hf.whole, hf.fraction, hf.suffix⟩, ⟨hrest.word, hrest.digit, hrest.point, hrest.letter⟩⟩
  | word _ start =>
    refine ⟨_, cs.takeWhile isIdentifierPart, cs.dropWhile isIdentifierPart,
      List.takeWhile_append_dropWhile.symm, (matches_word_iff rfl).mpr ⟨_, _, rfl, start,
        fun d hd ↦ List.mem_takeWhile_imp hd, eq_false_of_head?_dropWhile _ cs⟩⟩
  | mark m => exact ⟨.mark m, [], cs, rfl, rfl⟩
  | unclosed | stray => exact absurd rfl h

/-- **What the lexer takes is described.** -/
theorem matches_of_read (h : (read c cs).kind? = some kind) :
    kind.Matches (c :: cs.take (read c cs).extra) (cs.drop (read c cs).extra) := by
  obtain ⟨kind', tail, rest, rfl, hmatches⟩ := exists_matches (by rw [h]; nofun)
  have hread := read_of_matches hmatches
  rw [hread] at h ⊢
  obtain rfl : kind' = kind := Option.some.inj h
  rwa [List.take_left, List.drop_left]

end Lexeme

/-! ## The tokens of a text -/

/-- A token of a text is what can be cut off where it starts. -/
structure Token.Recognized (source : List Char) (t : Token) : Prop where
  /-- The text has the characters of the token there. -/
  ahead : source.drop t.span.start = t.text.toList ++ source.drop t.span.stop
  /-- They have the form of its kind and end in front of what comes behind. -/
  matches_text : t.kind.Matches t.text.toList (source.drop t.span.stop)
  /-- Nothing else there is a token, be it shorter, longer or of another kind. -/
  unique : ∀ kind text rest, source.drop t.span.start = text ++ rest → kind.Matches text rest →
    kind = t.kind ∧ text = t.text.toList

namespace Token

variable {source : List Char} {t : Token}

theorem Recognized.of_matches
    (ahead : source.drop t.span.start = t.text.toList ++ source.drop t.span.stop)
    (matches_text : t.kind.Matches t.text.toList (source.drop t.span.stop)) :
    t.Recognized source :=
  ⟨ahead, matches_text, fun _ _ _ hahead hmatches ↦
    hmatches.unique matches_text (hahead.symm.trans ahead)⟩

end Token

namespace Lexer

variable {text : List Char} {l : Lexer}

private theorem recognized_endToken (h : l.StandsIn text) (hrest : l.rest = []) :
    l.endToken.Recognized text := by
  have hdrop : text.drop l.place.offset = [] := h.rest_eq.trans hrest
  exact .of_matches (hdrop.trans hdrop.symm) ⟨rfl, hdrop⟩

private theorem recognized_next (h : l.StandsIn text) (hrest : l.rest ≠ []) {t : Token}
    (ht : l.next.1 = some t) : t.Recognized text := by
  obtain ⟨c, cs, hcons⟩ := List.exists_cons_of_ne_nil hrest
  have hbehind : text.drop l.next.2.place.offset = cs.drop (Lexeme.read c cs).extra := by
    rw [h.next.rest_eq, next, hcons]
  rw [offset_next_of_cons hcons] at hbehind
  rw [next, hcons] at ht
  obtain ⟨kind, hkind, rfl⟩ := Option.map_eq_some_iff.mp ht
  refine .of_matches ?_ ?_
  · rw [tokenOf, String.toList_ofList, hbehind]
    exact h.drop_eq hcons
  · rw [tokenOf, String.toList_ofList, hbehind]
    exact Lexeme.matches_of_read hkind

private theorem recognized_tokens (h : l.StandsIn text) : ∀ t ∈ l.tokens, t.Recognized text := by
  fun_induction tokens l with
  | case1 l hrest => exact List.forall_mem_singleton.mpr (recognized_endToken h hrest)
  | case2 l hrest step ih =>
    refine List.forall_mem_append.mpr ⟨fun t ht ↦ ?_, ih h.next⟩
    exact recognized_next h hrest (Option.mem_toList.mp ht)

end Lexer

/-- **Every token is recognized**: its kind tells the form of its text, and nothing longer could be
taken. -/
theorem Token.recognized_lex (source : String) : ∀ t ∈ lex source, t.Recognized source.toList :=
  Lexer.recognized_tokens (Lexer.standsIn_ofText source)

/-- A letter behind a number belongs to the word that starts with it. -/
theorem Token.recognized_number_in_front_of_word : ∃ t ∈ lex "/***/-1.5lx/*/",
    t.kind = .number ∧ t.text = "-1.5" ∧ t.Recognized "/***/-1.5lx/*/".toList := by
  have hmem : ⟨.number, "-1.5", 1, 6, ⟨5, 9, by decide⟩⟩ ∈ lex "/***/-1.5lx/*/" := by
    decide +kernel
  exact ⟨_, hmem, rfl, rfl, recognized_lex "/***/-1.5lx/*/" _ hmem⟩

example : (Token.lex "/***/-1.5lx/*/").map (·.kind) =
    [.comment .doc, .number, .identifier, .comment .block, .endOfInput] := by
  decide +kernel

end ClassSchema
