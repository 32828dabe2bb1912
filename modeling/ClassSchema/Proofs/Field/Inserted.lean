import ClassSchema.Proofs.Field.Commented
import ClassSchema.Proofs.Parser.Opaque
import ClassSchema.Proofs.Written.Class
import Mathlib.Data.List.Infix

/-!
# Comments written in front of the semicolon of a field

What comments in front of a semicolon do to a field is known in terms of the tokens. Here they are
written into a text. The lexer comes to the semicolon and has looked at nothing behind it, so in
front of a comment it gives the same tokens; it goes over the comments, each of which is closed, and
stands at the semicolon again. The parser has the comments ahead in front of the semicolon then, and
nothing else has changed in front of it, neither the tokens nor the text that they cover.

One slash is in the way: directly behind a slash that is no part of a token, the slash of a comment
would begin a line comment that goes over the semicolon.
-/

namespace ClassSchema

/-! ## The tokens -/

namespace Written.CommentText

/-- A comment as it is written in front of other text: a line comment with the end of its line. -/
def closed (c : CommentText) : List Char :=
  c.piece.chars ++ if c.form = .line then ['\n'] else []

/-- The lexer goes over a comment and gives it as a token. -/
theorem reaches_closed (c : CommentText) (us : List Char) (place : Place) :
    ∃ t place', Lexer.Reaches ⟨c.closed ++ us, place⟩ [t] ⟨us, place'⟩ ∧
      t.written = (.comment c.form, c.text) := by
  have hborders : c.piece.kind.Borders ((if c.form = .line then ['\n'] else []) ++ us) := by
    intro d hd
    have hkind : c.piece.kind = .comment c.form := rfl
    rw [hkind]
    cases hform : c.form with
    | line =>
      rw [hform, if_pos rfl] at hd
      exact Option.some.inj hd ▸ rfl
    | block | doc => trivial
  have hcomment := Lexer.Reaches.of_read_append place (c.piece.read_append hborders)
  rw [Option.map_some, Option.toList_some, List.filter_cons_of_pos
    (by rw [Lexer.tokenOf, c.piece.isTrivia_eq_false]; rfl), List.filter_nil] at hcomment
  rw [closed, List.append_assoc]
  cases hform : c.form with
  | line =>
    rw [hform, if_pos rfl] at hcomment
    rw [if_pos rfl]
    exact ⟨_, _, hcomment.trans (Lexer.reaches_newline us _), congrArg (Kind.comment ·, _) hform⟩
  | block | doc =>
    rw [hform, if_neg (by decide)] at hcomment
    rw [if_neg (by decide)]
    exact ⟨_, _, hcomment, congrArg (Kind.comment ·, _) hform⟩

theorem reaches_flatMap_closed (comments : List CommentText) (us : List Char) (place : Place) :
    ∃ ts place', Lexer.Reaches ⟨comments.flatMap closed ++ us, place⟩ ts ⟨us, place'⟩ ∧
      ts.map Token.written = comments.map fun c ↦ (.comment c.form, c.text) := by
  induction comments generalizing place with
  | nil => exact ⟨[], place, .refl _, rfl⟩
  | cons c comments ih =>
    obtain ⟨t, between, hfirst, ht⟩ := c.reaches_closed (comments.flatMap closed ++ us) place
    obtain ⟨ts, place', hothers, hts⟩ := ih between
    refine ⟨t :: ts, place', ?_, ?_⟩
    · rw [List.flatMap_cons, List.append_assoc]
      exact hfirst.trans hothers
    · rw [List.map_cons, List.map_cons, ht, hts]

end Written.CommentText

open Written (CommentText)

namespace Token

variable {front behind : List Char} {ts us : List Token} {semicolon : Token}

theorem reaches_of_tokenize {rest : List Char} {t : Token}
    (h : tokenize (String.ofList (front ++ rest)) = ts ++ t :: us)
    (hstart : t.span.start = front.length) :
    ∃ q, Lexer.Reaches ⟨front ++ rest, .start⟩ ts ⟨rest, q⟩ ∧ q.offset = front.length := by
  rw [tokenize, lex, Lexer.ofText, String.toList_ofList] at h
  obtain ⟨⟨rest', q⟩, hreaches, hoffset⟩ := Lexer.Reaches.exists_of_filter_tokens h
  rw [hstart] at hoffset
  have hdrop := hreaches.drop_offset
  dsimp only at hoffset hdrop
  rw [hoffset, List.drop_left] at hdrop
  exact ⟨q, hdrop ▸ hreaches, hoffset⟩

theorem mem_of_stop_eq {m : Mark} {q : Place} {t : Token}
    (hreaches : Lexer.Reaches ⟨front ++ m.char :: behind, .start⟩ ts ⟨m.char :: behind, q⟩)
    (ht : t ∈ tokenize (String.ofList (front ++ m.char :: behind)))
    (hstop : t.span.stop = q.offset) : t ∈ ts := by
  have hmark := hreaches.trans (.of_mark m q behind)
  rw [hmark.tokenize_eq, List.append_assoc] at ht
  refine (List.mem_append.mp ht).resolve_right fun ht ↦ ?_
  have hle := t.span.start_le_stop
  rcases List.mem_append.mp ht with ht | ht
  · rw [List.mem_singleton.mp ht] at hstop
    exact absurd hstop (Nat.succ_ne_self q.offset)
  · have hbehind := Lexer.Reaches.offset_le_of_mem ht
    rw [Place.offset_step] at hbehind
    omega

/-- **Comments in front of a semicolon** are tokens in front of it, and the tokens in front of them
are as before. A slash that is no part of a token must not stand there, as it would begin a
comment of its own. -/
theorem tokenize_comments
    (h : tokenize (String.ofList (front ++ ';' :: behind)) = ts ++ semicolon :: us)
    (hstart : semicolon.span.start = front.length)
    (hslash : front.getLast? = some '/' →
      ∃ t ∈ tokenize (String.ofList (front ++ ';' :: behind)), t.span.stop = front.length)
    {comments : List CommentText} (hne : comments ≠ []) :
    (∀ t ∈ ts, t.span.stop ≤ front.length) ∧
      ∃ cs semicolon' us',
        tokenize (String.ofList (front ++ comments.flatMap (·.closed) ++ ';' :: behind)) =
          ts ++ (cs ++ semicolon' :: us') ∧
        cs.map written = comments.map (fun c ↦ (.comment c.form, c.text)) ∧
        semicolon'.kind = .mark .semicolon ∧
        semicolon'.span.start = (front ++ comments.flatMap (·.closed)).length := by
  obtain ⟨q, hreaches, hoffset⟩ := reaches_of_tokenize h hstart
  refine ⟨fun t ht ↦ hoffset ▸ (hreaches.within t ht).2, ?_⟩
  -- a slash in front of the semicolon ends a token, and so it opens no comment
  have hinside : front.getLast? = some '/' → ∃ t ∈ ts, t.span.stop = q.offset := by
    intro hlast
    obtain ⟨t, ht, hstop⟩ := hslash hlast
    replace hstop := hstop.trans hoffset.symm
    exact ⟨t, mem_of_stop_eq (m := .semicolon) hreaches ht hstop, hstop⟩
  obtain ⟨cs, q', hcomments, hcs⟩ := CommentText.reaches_flatMap_closed comments (';' :: behind) q
  obtain ⟨more, hmore⟩ : ∃ more, comments.flatMap (·.closed) ++ ';' :: behind = '/' :: more := by
    obtain ⟨c, others, rfl⟩ := List.exists_cons_of_ne_nil hne
    exact ⟨_, rfl⟩
  have hsemicolon : EndsRuns ';' := by constructor <;> decide
  have hborder : EndsRuns '/' := by constructor <;> decide
  -- the tokens up to the semicolon are the same in front of a comment
  have hfront := hreaches.append_of_border hsemicolon hborder
    (fun hlast ↦ .inr (hinside hlast)) more
  rw [← hmore] at hfront
  have htokens :=
    ((hfront.trans hcomments).trans (.of_mark .semicolon q' behind)).tokenize_eq
  rw [List.append_assoc ts, List.append_assoc ts, List.append_assoc cs, List.singleton_append,
    ← List.append_assoc front] at htokens
  refine ⟨cs, _, _, htokens, hcs, rfl, ?_⟩
  have hlength := (hfront.trans hcomments).offset_eq
  simp only [List.length_append, List.length_cons] at hlength ⊢
  dsimp only [Lexer.tokenOf, Place.start] at hlength ⊢
  omega

theorem isComment_of_map_written {cs : List Token} {comments : List CommentText}
    (h : cs.map written = comments.map fun c ↦ (.comment c.form, c.text)) :
    ∀ c ∈ cs, c.kind.isComment = true := by
  intro c hc
  have hwritten := h ▸ List.mem_map_of_mem (f := written) hc
  obtain ⟨comment, -, hcomment⟩ := List.mem_map.mp hwritten
  rw [← (Prod.mk.inj hcomment).1]
  rfl

/-- The last of some comments that are written down, if it is a line comment. -/
theorem lastLine?_map_text {cs : List Token} {comments : List CommentText}
    (h : cs.map written = comments.map fun c ↦ (.comment c.form, c.text)) :
    (lastLine? cs).map (·.text) = (comments.getLast?.filter (·.form = .line)).map (·.text) := by
  have hlast := congrArg List.getLast? h
  rw [List.getLast?_map, List.getLast?_map] at hlast
  rw [lastLine?]
  cases hcs : cs.getLast? with
  | none =>
    rw [hcs] at hlast
    rw [Option.map_eq_none_iff.mp hlast.symm]
    rfl
  | some c =>
    rw [hcs, Option.map_some] at hlast
    obtain ⟨comment, hcomment, hwritten⟩ := Option.map_eq_some_iff.mp hlast.symm
    obtain ⟨hkind, htext⟩ := Prod.mk.inj hwritten
    have hline : c.is (.comment .line) = decide (comment.form = .line) := by
      rw [is, ← hkind]
      exact decide_eq_decide.mpr ⟨Kind.comment.inj, congrArg _⟩
    rw [hcomment, Option.filter_some, Option.filter_some, hline]
    split
    · exact congrArg some htext.symm
    · rfl

end Token

/-! ## The parser -/

namespace Parser

variable {text : List Char} {n : Nat} {before ts us rest : List Token} {t : Token} {p : Parser}

/-- The parser at a token of a text, which is given by its number. -/
def atToken (text : List Char) (n : Nat) : Parser :=
  (ofTokens (Token.tokenize (String.ofList text)) (some (String.ofList text))).advance n

theorem source_atToken : (atToken text n).source = some text :=
  congrArg some String.toList_ofList

/-- The tokens ahead are tokens of the text, with as many in front of them as the number says. -/
theorem exists_of_ahead_atToken (h : (atToken text n).ahead = ts ++ t :: us) :
    ∃ before behind, Token.tokenize (String.ofList text) = before ++ ts ++ t :: behind ∧
      before.length = n ∧ ∀ u ∈ before ++ ts, u.kind ≠ .endOfInput := by
  obtain ⟨all, last, hall, hlast, hnoEnd⟩ :=
    Lexer.exists_filter_tokens_eq (.ofText (String.ofList text))
  have htokens : Token.tokenize (String.ofList text) = all ++ [last] := hall
  have hahead : (atToken text n).ahead = all.drop n := by
    rw [atToken, advance, htokens, ahead_ofTokens_concat _ hnoEnd hlast]
  have hsplit : all = all.take n ++ ts ++ t :: us := by
    rw [List.append_assoc, ← h, hahead, List.take_append_drop]
  refine ⟨all.take n, us ++ [last], ?_, ?_, fun u hu ↦ hnoEnd u ?_⟩
  · rw [htokens, ← List.cons_append, ← List.append_assoc, ← hsplit]
  · have hlength := congrArg List.length (hahead.symm.trans h)
    rw [List.length_drop, List.length_append, List.length_cons] at hlength
    rw [List.length_take]
    omega
  · rw [hsplit]
    exact List.mem_append_left _ hu

private theorem ahead_atToken (h : Token.tokenize (String.ofList text) = before ++ ts ++ us)
    (hnoEnd : ∀ u ∈ before ++ ts, u.kind ≠ .endOfInput) :
    (atToken text before.length).ahead = ts ++ (ofTokens us (some (String.ofList text))).ahead := by
  rw [atToken, advance, h, ahead_ofTokens_append hnoEnd, List.append_assoc, List.drop_left]

/-- Comments written in front of a semicolon are ahead in front of it, and the tokens in front of
them are as before. -/
theorem ahead_atToken_comments {front behind : List Char} {semicolon : Token}
    (h : (atToken (front ++ ';' :: behind) n).ahead = ts ++ semicolon :: rest)
    (hstart : semicolon.span.start = front.length)
    (hslash : front.getLast? = some '/' →
      ∃ t ∈ Token.tokenize (String.ofList (front ++ ';' :: behind)), t.span.stop = front.length)
    {comments : List CommentText} (hne : comments ≠ []) :
    let front' := front ++ comments.flatMap (·.closed)
    SameText ts (some (front ++ ';' :: behind)) (some (front' ++ ';' :: behind)) ∧
      ∃ cs semicolon' rest',
        (atToken (front' ++ ';' :: behind) n).ahead = ts ++ (cs ++ semicolon' :: rest') ∧
        cs.map Token.written = comments.map (fun c ↦ (.comment c.form, c.text)) ∧
        semicolon'.kind = .mark .semicolon ∧ semicolon'.span.start = front'.length := by
  intro front'
  obtain ⟨before, us, htokens, rfl, hnoEnd⟩ := exists_of_ahead_atToken h
  obtain ⟨hstop, cs, semicolon', us', htokens', hcs, hsemicolon', hstart'⟩ :=
    Token.tokenize_comments htokens hstart hslash hne
  constructor
  · rw [List.append_assoc front]
    exact .append (fun t ht ↦ hstop t (List.mem_append_right _ ht)) _ _
  -- the tokens that the parser stands in, divided at the place where it stands
  have hsplit : Token.tokenize (String.ofList (front' ++ ';' :: behind)) =
      before ++ (ts ++ (cs ++ [semicolon'])) ++ us' := by
    rw [htokens']
    simp only [List.append_assoc, List.singleton_append]
  have hcomments : ∀ c ∈ cs ++ [semicolon'], c.kind ≠ .endOfInput := by
    refine List.forall_mem_append.mpr ⟨fun c hc hend ↦ ?_, List.forall_mem_singleton.mpr ?_⟩
    · have hcomment := Token.isComment_of_map_written hcs c hc
      rw [hend] at hcomment
      cases hcomment
    · rw [hsemicolon']
      decide
  have hahead := ahead_atToken hsplit (by
    rw [← List.append_assoc]
    exact List.forall_mem_append.mpr ⟨hnoEnd, hcomments⟩)
  rw [List.append_assoc ts, List.append_assoc cs, List.singleton_append] at hahead
  exact ⟨cs, semicolon', _, hahead, hcs, hsemicolon', hstart'⟩

theorem head?_passed_settle (h : p.ahead = ts ++ t :: rest) :
    (p.settle rest).passed.head? = some t := by
  rw [List.append_cons] at h
  rw [settle_eq_advance h, advance, h, List.take_left, List.reverse_concat]
  rfl

end Parser

namespace Rule

variable {text : List Char} {n k : Nat} {f : FieldDecl} {ts rest : List Token} {t : Token}

/-- At the token number `n` of a text a field is read as a member on its own, without a warning, and
the semicolon that ends it stands at the offset `k`. -/
def ReadsFieldAt (text : List Char) (n : Nat) (f : FieldDecl) (k : Nat) : Prop :=
  ∃ q, classMember (.atToken text n) = (.present [.field f], q) ∧ q.errors = [] ∧ q.warnings = [] ∧
    ∃ t ∈ q.passed.head?, t.kind = .mark .semicolon ∧ t.span.start = k

instance (text : List Char) (n : Nat) (f : FieldDecl) (k : Nat) :
    Decidable (ReadsFieldAt text n f k) :=
  match hresult : classMember (.atToken text n) with
  | (.present decls, q) =>
    have : Decidable (∃ t ∈ q.passed.head?, t.kind = .mark .semicolon ∧ t.span.start = k) :=
      Option.decidableExistsMem _
    decidable_of_iff (decls = [.field f] ∧ q.errors = [] ∧ q.warnings = [] ∧
        ∃ t ∈ q.passed.head?, t.kind = .mark .semicolon ∧ t.span.start = k)
      ⟨fun ⟨hdecls, hq⟩ ↦ ⟨q, hdecls ▸ hresult, hq⟩, fun ⟨_, hmember, hq⟩ ↦ by
        obtain ⟨hdecls, rfl⟩ := Prod.mk.inj (hresult.symm.trans hmember)
        exact ⟨Outcome.present.inj hdecls, hq⟩⟩
  | (.absent, _) | (.fault _, _) => isFalse fun ⟨_, hmember, _⟩ ↦ by
      cases hresult.symm.trans hmember

theorem ReadsFieldAt.exists_read (h : ReadsFieldAt text n f k) :
    ∃ rest, MemberItem.read (some text) (Parser.atToken text n).final
        (Parser.atToken text n).ahead = .found (.members [.field f]) rest ∧
      ∀ ⦃ts t⦄, (Parser.atToken text n).ahead = ts ++ t :: rest → t.span.start = k := by
  obtain ⟨q, hmember, -, -, semicolon, hpassed, -, hstart⟩ := h
  obtain ⟨rest, hread, rfl⟩ := (classMember_cases hmember).resolve_right fun h ↦ nomatch h.1
  rw [Parser.source_atToken] at hread
  refine ⟨rest, hread, fun ts t hahead ↦ ?_⟩
  obtain rfl := Option.some.inj ((Parser.head?_passed_settle hahead).symm.trans hpassed)
  exact hstart

private theorem ReadsFieldAt.of_read (hahead : (Parser.atToken text n).ahead = ts ++ t :: rest)
    (hread : MemberItem.read (some text) (Parser.atToken text n).final (ts ++ t :: rest) =
      .found (.members [.field f]) rest)
    (hkind : t.kind = .mark .semicolon) (hstart : t.span.start = k) : ReadsFieldAt text n f k := by
  refine ⟨(Parser.atToken text n).settle rest, ?_, rfl, rfl, t, Parser.head?_passed_settle hahead,
    hkind, hstart⟩
  rw [classMember, Parser.source_atToken, hahead, hread]

end Rule

/-- Comments in front of its semicolon leave a field as it is. They are passed over with its value,
or they are the one comment that is looked for in front of the semicolon. -/
def FieldDecl.Keeps (f : FieldDecl) (comments : List CommentText) : Prop :=
  f.defaultValue.isSome ∨ comments = [] ∨
    f.trailingComment = none ∧ comments.map (·.form) = [.line]

/-- A field with comments in front of its semicolon, of which a line comment that stands last is the
trailing comment of the field. -/
def FieldDecl.withComments (f : FieldDecl) (comments : List CommentText) : FieldDecl :=
  match comments.getLast? with
  | some c => { f with trailingComment := if c.form = .line then some c.text else none }
  | none => f

namespace FieldDecl

variable {f : FieldDecl} {last cs : List Token} {comments : List CommentText}

private theorem withComments_eq
    (hcs : cs.map Token.written = comments.map fun c ↦ (.comment c.form, c.text))
    (hne : comments ≠ []) : f.withComments comments =
      { f with trailingComment := (Token.lastLine? cs).map (·.text) } := by
  obtain ⟨front, c, rfl⟩ := (List.eq_nil_or_concat' comments).resolve_left hne
  rw [Token.lastLine?_map_text hcs, withComments, List.getLast?_concat, Option.filter_some]
  dsimp only
  cases hform : c.form <;> rfl

/-- In terms of the tokens, where the line comments `last` stood in front of the semicolon. -/
theorem keeps_iff (hlast : ∀ c ∈ last, c.kind = .comment .line)
    (htrailing : f.trailingComment = (Token.lastLine? last).map (·.text))
    (hcs : cs.map Token.written = comments.map fun c ↦ (.comment c.form, c.text))
    (hne : comments ≠ []) : f.Keeps comments ↔
      f.defaultValue.isSome ∨ (last ++ cs).length = 1 ∧ (Token.lastLine? cs).isSome = true := by
  have hsome :
      (Token.lastLine? cs).isSome = (comments.getLast?.filter (·.form = .line)).isSome := by
    have hsame := congrArg Option.isSome (Token.lastLine?_map_text hcs)
    rwa [Option.isSome_map, Option.isSome_map] at hsame
  have hlength : cs.length = comments.length := by
    have hsame := congrArg List.length hcs
    rwa [List.length_map, List.length_map] at hsame
  -- `last` has line comments only, so one of them trails unless there are none
  have hnone : f.trailingComment = none ↔ last = [] := by
    rw [htrailing, Option.map_eq_none_iff, Token.lastLine?, Option.filter_eq_none_iff]
    refine ⟨fun hall ↦ ?_, fun hnil ↦ by simp [hnil]⟩
    by_contra hlastNe
    obtain ⟨front, c, rfl⟩ := (List.eq_nil_or_concat' last).resolve_left hlastNe
    exact hall c List.getLast?_concat (decide_eq_true (hlast c (by simp)))
  constructor
  · rintro (hvalue | hnil | ⟨hfree, hforms⟩)
    · exact .inl hvalue
    · exact absurd hnil hne
    · obtain ⟨c, rfl, hc⟩ := List.map_eq_singleton_iff.mp hforms
      obtain rfl := hnone.mp hfree
      refine .inr ⟨hlength, ?_⟩
      rw [hsome, List.getLast?_singleton, Option.filter_some, if_pos (decide_eq_true hc)]
      rfl
  · rintro (hvalue | ⟨hone, hline⟩)
    · exact .inl hvalue
    · have hpos := List.length_pos_of_ne_nil hne
      rw [List.length_append, hlength] at hone
      obtain ⟨c, rfl⟩ := List.length_eq_one_iff.mp (show comments.length = 1 by omega)
      rw [hsome, List.getLast?_singleton, Option.filter_some] at hline
      refine .inr (.inr ⟨hnone.mpr (List.eq_nil_of_length_eq_zero (by omega)), ?_⟩)
      split at hline
      · rename_i hform
        exact congrArg (fun form ↦ [form]) (of_decide_eq_true hform)
      · cases hline

end FieldDecl

/-- **Comments directly in front of its semicolon** leave a field as it is if it has a default
value, or if they are one line comment and it has no trailing comment yet. A line comment that
stands last is the trailing comment then. Other comments keep the semicolon from being found: the
field is left out, with a warning. -/
theorem Rule.classMember_comments {front behind : List Char} {n : Nat} {f : FieldDecl}
    (h : ReadsFieldAt (front ++ ';' :: behind) n f front.length)
    (hslash : front.getLast? = some '/' →
      ∃ t ∈ Token.tokenize (String.ofList (front ++ ';' :: behind)), t.span.stop = front.length)
    (comments : List CommentText) :
    let front' := front ++ comments.flatMap (·.closed)
    (f.Keeps comments →
      ReadsFieldAt (front' ++ ';' :: behind) n (f.withComments comments) front'.length) ∧
    (¬f.Keeps comments →
      ∃ q, classMember (.atToken (front' ++ ';' :: behind) n) = (.present [], q) ∧
        q.errors = [] ∧ q.warnings = [(Malformation.semicolon f.name).message]) := by
  intro front'
  by_cases hne : comments = []
  · subst hne
    have hsame : front' = front := List.append_nil front
    rw [hsame]
    exact ⟨fun _ ↦ h, fun hnot ↦ absurd (.inr (.inl rfl)) hnot⟩
  obtain ⟨rest, hread, hstart⟩ := h.exists_read
  obtain ⟨own, last, semicolon, hahead, -, hlast, htrailing, hcomments⟩ :=
    MemberItem.read_comments hread
  rw [← List.append_assoc] at hahead
  obtain ⟨htext, cs, semicolon', rest', hahead', hcs, hsemicolon', hstart'⟩ :=
    Parser.ahead_atToken_comments hahead (hstart hahead) hslash hne
  have hcsNe : cs ≠ [] := by
    rintro rfl
    exact hne (List.map_eq_nil_iff.mp hcs.symm)
  -- both texts are read alike up to the comments, which are all that is new
  let p := Parser.atToken (front' ++ ';' :: behind) n
  have hread' := @hcomments _ p.final cs semicolon' (htext.mono (List.prefix_append ..).isInfix)
    (Token.isComment_of_map_written hcs) hcsNe hsemicolon' rest'
  have hkeeps := FieldDecl.keeps_iff hlast htrailing hcs hne
  rw [List.append_assoc last, ← List.append_assoc own] at hread'
  constructor
  · intro hkeep
    rw [if_pos (hkeeps.mp hkeep), ← f.withComments_eq hcs hne, ← List.append_assoc (own ++ last)]
      at hread'
    rw [← List.append_assoc (own ++ last)] at hahead'
    exact .of_read hahead' hread' hsemicolon' hstart'
  · intro hnot
    rw [if_neg (mt hkeeps.mpr hnot)] at hread'
    refine ⟨(p.warn (Malformation.semicolon f.name).message).skipToMemberEnd, ?_, rfl, rfl⟩
    rw [classMember, Parser.source_atToken, hahead', hread']
    rfl

/-- Two comments behind a value that has a comment behind it already. -/
theorem Rule.classMember_comments_of_value :
    let f : FieldDecl := ⟨"s", "String", ["final"], [], none, none, some "\"y\"", 1, 14⟩
    let front := "final String s = \"y\" /* a */".toList
    let comments : List CommentText :=
      [.block " b ".toList (by decide), .line " c".toList (by decide)]
    ReadsFieldAt (front ++ ';' :: " int n;".toList) 0 f front.length ∧
      (∃ t ∈ Token.tokenize (String.ofList (front ++ ';' :: " int n;".toList)),
        t.span.stop = front.length) ∧
      f.Keeps comments ∧
      ReadsFieldAt "final String s = \"y\" /* a *//* b */// c\n; int n;".toList 0
        { f with trailingComment := some "// c" } 40 := by
  intro f front comments
  have hfield : ReadsFieldAt (front ++ ';' :: " int n;".toList) 0 f front.length := by
    decide +kernel
  have hslash : ∃ t ∈ Token.tokenize (String.ofList (front ++ ';' :: " int n;".toList)),
      t.span.stop = front.length := by decide +kernel
  have hkeeps : f.Keeps comments := .inl rfl
  have hcommented := (classMember_comments hfield (fun _ ↦ hslash) comments).1 hkeeps
  have hform : f.withComments comments = { f with trailingComment := some "// c" } := by
    decide +kernel
  have htext : front ++ comments.flatMap (·.closed) ++ ';' :: " int n;".toList =
      "final String s = \"y\" /* a *//* b */// c\n; int n;".toList := by decide +kernel
  have hlength : (front ++ comments.flatMap (·.closed)).length = 40 := by decide +kernel
  rw [hform, htext, hlength] at hcommented
  exact ⟨hfield, hslash, hkeeps, hcommented⟩

/-- A block comment behind the name of a field without a value: the field is gone. -/
theorem Rule.classMember_ne_of_comment :
    ReadsFieldAt "int x ;".toList 0 ⟨"x", "int", [], [], none, none, none, 1, 5⟩ 6 ∧
      (∀ f k, ¬ReadsFieldAt "int x /* c */;".toList 0 f k) ∧
      (classMember (.atToken "int x /* c */;".toList 0)).2.warnings =
        ["Expected ';' after field 'x', skipping member"] := by
  have hwarnings : (classMember (.atToken "int x /* c */;".toList 0)).2.warnings =
      ["Expected ';' after field 'x', skipping member"] := by decide +kernel
  refine ⟨by decide +kernel, ?_, hwarnings⟩
  rintro f k ⟨q, hmember, -, hnone, -⟩
  rw [hmember, hnone] at hwarnings
  cases hwarnings

end ClassSchema
