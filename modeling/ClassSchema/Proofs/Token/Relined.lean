import ClassSchema.Proofs.Token.Recognized

/-!
# Layout does not matter

The tokens of a text, white space and line breaks apart, are the same if they are written again with
each of them on a line of its own. Whatever stood between them, be it white space, nothing at all or
characters that are no tokens, is not needed to tell them apart.

What has to be seen is that a token stays what it is in a new place. A number or a word ends in
front of a line break and at the end of the text in any case. Only a comment that is not closed
would go on over the line break. But there is one at the end of a text only, so no other token comes
behind it, and it stands at the end of the new text, too.
-/

namespace ClassSchema

/-! ## A token in a new place -/

namespace Kind.Matches

variable {kind : Kind} {text rest : List Char}

/-- A token is the same in front of a line break and at the end of a text, but one with which a text
ends has to stay there. -/
theorem relined (h : kind.Matches text rest) (hkind : kind.isTrivia = false) {rest' : List Char}
    (hbreak : ∀ c ∈ rest'.head?, c = '\n') (hend : rest = [] → rest' = []) :
    kind.Matches text rest' := by
  -- a line feed ends whatever the old rest ended
  have hhead {p : Char → Prop} (hp : p '\n') : ∀ c ∈ rest'.head?, p c := fun c hc ↦
    (hbreak c hc).symm ▸ hp
  have hword : IsWord text rest → IsWord text rest' := by
    rintro ⟨c, cs, rfl, hstart, hpart, -⟩
    exact ⟨c, cs, rfl, hstart, hpart, hhead (by decide)⟩
  have hblock : IsBlockComment text rest → IsBlockComment text rest' := by
    rintro ⟨body, hbody, rfl | ⟨rfl, hnil⟩⟩
    · exact ⟨body, hbody, .inl rfl⟩
    · exact ⟨body, hbody, .inr ⟨rfl, hend hnil⟩⟩
  match kind with
  | .endOfInput => exact ⟨h.1, hend h.2⟩
  | .blank | .newline => cases hkind
  | .comment .line =>
    obtain ⟨body, rfl, hbody, -⟩ := h
    exact ⟨body, rfl, hbody, hhead (by decide)⟩
  | .comment .block | .comment .doc => exact ⟨hblock h.1, h.2⟩
  | .identifier | .keyword _ => exact ⟨hword h.1, h.2⟩
  | .string | .mark _ => exact h
  | .number =>
    obtain ⟨f, rfl, hf, -⟩ := h
    refine ⟨f, rfl, hf, ⟨fun _ ↦ hhead (by decide), fun _ ↦ hhead (by decide), ?_, ?_⟩⟩
    · rintro _ _ c cs rfl
      exact absurd (hbreak '.' rfl) (by decide)
    · rintro _ c cs rfl hletter
      rw [hbreak c rfl] at hletter
      exact absurd hletter (by decide)

end Kind.Matches

/-! ## Tokens on lines of their own -/

/-- What is written of a token: its kind and its text. -/
def Token.written (t : Token) : Kind × String := (t.kind, t.text)

/-- Some tokens keep to their lines: the last one is a token at the end of a text, and each other
one in front of a line break. -/
inductive Token.KeepLines : List Token → Prop
  | nil : KeepLines []
  | last {t : Token} (isTrivia_eq : t.kind.isTrivia = false) (nonempty : t.text.toList ≠ [])
    (at_end : t.kind.Matches t.text.toList []) : KeepLines [t]
  | cons {t u : Token} {ts : List Token} (isTrivia_eq : t.kind.isTrivia = false)
    (nonempty : t.text.toList ≠ [])
    (before_newline : ∀ more, t.kind.Matches t.text.toList ('\n' :: more))
    (rest : KeepLines (u :: ts)) : KeepLines (t :: u :: ts)

namespace Lexer

theorem reaches_of_matches {kind : Kind} {text rest : List Char} (h : kind.Matches text rest)
    (hne : text ≠ []) (place : Place) :
    Reaches ⟨text ++ rest, place⟩
      ([tokenOf ⟨text ++ rest, place⟩ kind text].filter (!·.kind.isTrivia))
      ⟨rest, place.after text rest⟩ := by
  obtain ⟨c, cs, rfl⟩ := List.exists_cons_of_ne_nil hne
  exact Reaches.of_read_append place (Lexeme.read_of_matches h)

private theorem reaches_token {t : Token} {rest : List Char} (h : t.kind.Matches t.text.toList rest)
    (hne : t.text.toList ≠ []) (htrivia : t.kind.isTrivia = false) (place : Place) :
    ∃ u l, Reaches ⟨t.text.toList ++ rest, place⟩ [u] l ∧ u.written = t.written ∧
      l.rest = rest := by
  have hreaches := reaches_of_matches h hne place
  rw [List.filter_cons_of_pos, List.filter_nil] at hreaches
  · exact ⟨_, _, hreaches, Prod.ext rfl String.ofList_toList, rfl⟩
  · rw [tokenOf, htrivia]
    rfl

theorem reaches_newline (rest : List Char) (place : Place) :
    Reaches ⟨'\n' :: rest, place⟩ [] ⟨rest, place.after ['\n'] rest⟩ :=
  reaches_of_matches (show Kind.newline.Matches ['\n'] rest from .inl rfl) (List.cons_ne_nil _ _)
    place

/-- **On lines of their own** the tokens that keep to their lines are found again. -/
theorem written_tokens_of_keepLines {ts : List Token} (h : Token.KeepLines ts) (place : Place) :
    ((tokens ⟨("\n".intercalate (ts.map Token.text)).toList, place⟩).filter
      (!·.kind.isTrivia)).map Token.written = ts.map Token.written ++ [(.endOfInput, "")] := by
  have hend (l : Lexer) (hrest : l.rest = []) :
      (l.tokens.filter (!·.kind.isTrivia)).map Token.written = [(.endOfInput, "")] := by
    rw [tokens, dif_pos hrest]
    rfl
  -- one token to a line, so each is read up to the line feed behind it
  induction h generalizing place with
  | nil => exact hend _ rfl
  | @last t isTrivia_eq nonempty at_end =>
    obtain ⟨u, l, hreaches, hu, hl⟩ := reaches_token at_end nonempty isTrivia_eq place
    rw [List.append_nil] at hreaches
    rw [List.map_singleton, String.intercalate_singleton, hreaches.filter_tokens, List.map_append,
      hend l hl, List.map_singleton, List.map_singleton, hu]
  | @cons t u ts isTrivia_eq nonempty before_newline _ ih =>
    let more := ("\n".intercalate ((u :: ts).map Token.text)).toList
    have htext : ("\n".intercalate ((t :: u :: ts).map Token.text)).toList =
        t.text.toList ++ '\n' :: more := by
      rw [List.map_cons, List.map_cons, String.intercalate_cons_cons, String.toList_append,
        String.toList_append, List.append_assoc]
      rfl
    obtain ⟨v, l, hreaches, hv, hl⟩ :=
      reaches_token (before_newline more) nonempty isTrivia_eq place
    obtain ⟨rest, place'⟩ := l
    obtain rfl : rest = '\n' :: more := hl
    rw [htext, (hreaches.trans (reaches_newline more place')).filter_tokens, List.map_append, ih,
      List.append_nil, List.map_singleton, hv]
    rfl

end Lexer

/-! ## The tokens of a text on lines of their own -/

namespace Token

private theorem Recognized.text_ne_nil {source : List Char} {t : Token} (h : t.Recognized source)
    (hkind : t.kind ≠ .endOfInput) : t.text.toList ≠ [] := by
  intro hnil
  have hmatches := h.matches_text
  rw [hnil] at hmatches
  exact hkind hmatches.eq_endOfInput

/-- Tokens that come one behind the other in a text keep to their lines. -/
theorem keepLines_of_recognized {source : List Char} {ts : List Token}
    (hts : ∀ t ∈ ts, t.Recognized source ∧ t.kind.isTrivia = false ∧ t.kind ≠ .endOfInput)
    (hbefore : ts.Pairwise Before) : KeepLines ts := by
  induction ts with
  | nil => exact .nil
  | cons t ts ih =>
    obtain ⟨⟨hrecognized, htrivia, hkind⟩, hts⟩ := List.forall_mem_cons.mp hts
    obtain ⟨hfirst, hbefore⟩ := List.pairwise_cons.mp hbefore
    have hne := hrecognized.text_ne_nil hkind
    cases ts with
    | nil => exact .last htrivia hne (hrecognized.matches_text.relined htrivia nofun fun _ ↦ rfl)
    | cons u ts =>
      obtain ⟨hnext, -, hnext_kind⟩ := hts u List.mem_cons_self
      -- the next token is left in the text
      have hleft : source.drop t.span.stop ≠ [] := by
        intro hnil
        have hlength : source.length ≤ t.span.stop := List.drop_eq_nil_iff.mp hnil
        have hempty : source.drop u.span.start = [] :=
          List.drop_eq_nil_iff.mpr (hlength.trans (hfirst u List.mem_cons_self))
        have happend := hnext.ahead.symm.trans hempty
        exact hnext.text_ne_nil hnext_kind (List.append_eq_nil_iff.mp happend).1
      have hline (more : List Char) : t.kind.Matches t.text.toList ('\n' :: more) := by
        refine hrecognized.matches_text.relined htrivia ?_ fun hnil ↦ absurd hnil hleft
        rintro c ⟨rfl⟩
        rfl
      exact .cons htrivia hne hline (ih hts hbefore)

/-- **Layout does not matter.** The tokens of a text, the end token apart, are found again if each
of them is written on a line of its own. -/
theorem tokenize_relined (source : String) : ∃ front last,
    tokenize source = front ++ [last] ∧ last.written = (.endOfInput, "") ∧
      (∀ t ∈ front, t.kind ≠ .endOfInput) ∧
      (tokenize ("\n".intercalate (front.map Token.text))).map written =
        front.map written ++ [(.endOfInput, "")] := by
  obtain ⟨front, last, htokens, hlast, hfront⟩ :=
    Lexer.exists_filter_tokens_eq (Lexer.ofText source)
  have hmem : ∀ t ∈ front ++ [last], t ∈ lex source ∧ t.kind.isTrivia = false := by
    intro t ht
    rw [← htokens, List.mem_filter, Bool.not_eq_true'] at ht
    exact ht
  have hrecognized := fun t ht ↦ recognized_lex source t (hmem t ht).1
  have hbefore : (front ++ [last]).Pairwise Before :=
    htokens ▸ (cut_lex source).pairwise_before.filter _
  have hkeep : KeepLines front := by
    have hall : ∀ t ∈ front, t.Recognized source.toList ∧ t.kind.isTrivia = false ∧
        t.kind ≠ .endOfInput := by
      intro t ht
      have ht' : t ∈ front ++ [last] := List.mem_append_left _ ht
      exact ⟨hrecognized t ht', (hmem t ht').2, hfront t ht⟩
    exact keepLines_of_recognized hall (List.pairwise_append.mp hbefore).1
  refine ⟨front, last, htokens, Prod.ext hlast ?_, hfront,
    Lexer.written_tokens_of_keepLines hkeep .start⟩
  have hmatches := (hrecognized last (List.mem_append_right _ List.mem_cons_self)).matches_text
  rw [hlast] at hmatches
  exact String.toList_inj.mp hmatches.1

end Token

end ClassSchema
