import ClassSchema.Proofs.Member.Block
import ClassSchema.Proofs.Member.Moved
import ClassSchema.Proofs.Parser.Whole
import ClassSchema.Proofs.Token.Balanced

/-!
# Method bodies are opaque

The body of a method is passed over by counting braces. A class `A` with a method and fields behind
it is taken apart for that: the front of the class, the header of the method up to its brace, the
body, and what stands behind the brace that closes it.

Up to the brace the tokens are the same whatever the body is, and so is the text, so the method is
the one that is read with an empty body. The lexer goes over a body with balanced braces, and its
tokens leave no block open. And the tokens behind it are those of the class that has the fields
alone, moved to another place, so the fields are the same apart from their places.

Balanced is what the lexer takes for it, to which a single quote is a character like any other. With
a brace between single quotes a body may be balanced, but not for the lexer.
-/

namespace ClassSchema

/-! ## Texts of classes -/

/-- The text of a class `A` in front of its body. -/
def classFront : List Char := "class A \x7b".toList

/-- The text of a class `A` with the given body. -/
def classText (body : List Char) : String := String.ofList (classFront ++ (body ++ ['}']))

/-- The body of a class with a method, of which the header and the body are given, and with fields
behind it. -/
def methodText (header body fields : List Char) : List Char :=
  header ++ '{' :: (body ++ '}' :: fields)

theorem classText_methodText (header body fields : List Char) :
    classText (methodText header body fields) = String.ofList
      (classFront ++ (header ++ '{' :: (body ++ '}' :: (fields ++ ['}'])))) := by
  rw [classText, methodText, List.append_assoc, List.cons_append, List.append_assoc,
    List.cons_append]

/-- The tokens of a class `A` in front of its body. -/
def classTokens : List Token := [.onFirstLine (.keyword .classWord) "class" 0,
  .onFirstLine .identifier "A" 6, .onFirstLine (.mark .openBrace) "\x7b" 8]

namespace Lexer

theorem Reaches.tokenize_eq {cs : List Char} {ts : List Token} {l : Lexer}
    (h : Reaches ⟨cs, .start⟩ ts l) : Token.tokenize (String.ofList cs) =
      ts ++ l.tokens.filter (!·.kind.isTrivia) := by
  rw [Token.tokenize, Token.lex, ofText, String.toList_ofList, h.filter_tokens]

theorem reaches_classFront (rest : List Char) :
    Reaches ⟨classFront ++ rest, .start⟩ classTokens ⟨rest, ⟨9, 1, 10⟩⟩ := by
  let l : Lexer := ⟨"class A ".toList ++ ['{'], .start⟩
  have hafter : l.after 4 = ⟨['{'], ⟨8, 1, 9⟩⟩ := by decide
  obtain ⟨ts, hts⟩ : ∃ ts, Reaches l ts ⟨['{'], ⟨8, 1, 9⟩⟩ :=
    hafter ▸ Reaches.exists_of_after (by rw [hafter]; exact List.cons_ne_nil _ _)
  obtain rfl : ts =
      [.onFirstLine (.keyword .classWord) "class" 0, .onFirstLine .identifier "A" 6] := by
    have htokens : l.tokens.filter (!·.kind.isTrivia) =
        [.onFirstLine (.keyword .classWord) "class" 0, .onFirstLine .identifier "A" 6] ++
          (tokens ⟨['{'], ⟨8, 1, 9⟩⟩).filter (!·.kind.isTrivia) := by decide +kernel
    exact List.append_cancel_right (hts.filter_tokens.symm.trans htokens)
  exact (hts.append_of_brace (.inl rfl) (.inl rfl) rest).trans (.of_mark .openBrace _ rest)

end Lexer

/-- The header of a method in the class `A`, up to the brace behind it, as the lexer goes over it in
any text. -/
structure HeaderTokens (header : List Char) where
  /-- The tokens of the header. -/
  tokens : List Token
  /-- The brace behind the header. -/
  opening : Token
  /-- The place behind the brace. -/
  place : Place
  opening_kind : opening.kind = .mark .openBrace
  reaches (rest : List Char) : Lexer.Reaches ⟨classFront ++ (header ++ '{' :: rest), .start⟩
    (classTokens ++ (tokens ++ [opening])) ⟨rest, place⟩

namespace HeaderTokens

variable {header : List Char}

private theorem exists_of_isUnquoted (h : IsUnquoted header) : Nonempty (HeaderTokens header) := by
  obtain ⟨ts, p, hheader, -⟩ := Lexer.crosses_of_balanced h [] ⟨9, 1, 10⟩
  let opening := Lexer.tokenOf ⟨[], p⟩ (.mark .openBrace) ['{']
  refine ⟨⟨ts, opening, p.step '{' none, rfl, fun rest ↦ ?_⟩⟩
  have hblock := hheader.append_of_brace (.inr rfl) (.inl rfl) rest
  exact (Lexer.reaches_classFront _).trans (hblock.trans (.of_mark .openBrace p rest))

variable (h : HeaderTokens header)

private theorem stop_le : ∀ t ∈ h.tokens ++ [h.opening],
    t.span.stop ≤ (classFront ++ (header ++ ['{'])).length := by
  have hplace : h.place.offset = (classFront ++ (header ++ ['{'])).length :=
    (h.reaches []).offset_eq.trans (Nat.zero_add _)
  exact fun t ht ↦ hplace ▸ ((h.reaches []).within t (List.mem_append_right _ ht)).2

/-- Behind the header there may be an empty block, the end of the class and nothing more. -/
theorem exists_tokenize_empty : ∃ close closing last, close.kind = .mark .closeBrace ∧
    closing.kind = .mark .closeBrace ∧
      Token.tokenize (classText (methodText header [] [])) =
        classTokens ++ (h.tokens ++ [h.opening, close, closing]) ++ [last] := by
  let p := h.place.step '}' none
  let close := Lexer.tokenOf ⟨[], h.place⟩ (.mark .closeBrace) ['}']
  let closing := Lexer.tokenOf ⟨[], p⟩ (.mark .closeBrace) ['}']
  let last := Lexer.endToken ⟨[], p.step '}' none⟩
  have hall := ((h.reaches ['}', '}']).trans (.of_mark .closeBrace h.place ['}'])).trans
    (.of_mark .closeBrace p [])
  have hlast : (Lexer.tokens ⟨[], p.step '}' none⟩).filter (!·.kind.isTrivia) = [last] := by
    rw [Lexer.tokens, dif_pos rfl]
    rfl
  refine ⟨close, closing, last, rfl, rfl, ?_⟩
  rw [classText_methodText]
  refine hall.tokenize_eq.trans ?_
  simp only [List.append_assoc, List.cons_append, List.nil_append, ← hlast]
  rfl

/-- Behind the header there may be a block with a balanced text inside, and anything else. -/
theorem exists_tokenize {body : List Char} (hbody : IsUnquoted body) (fields : List Char) :
    ∃ bs close p, close.kind = .mark .closeBrace ∧ Skip.Passes bs ∧
      (classText (methodText header body fields)).toList.drop p.offset =
        fields ++ ['}'] ∧
      Token.tokenize (classText (methodText header body fields)) =
        classTokens ++ (h.tokens ++ h.opening :: (bs ++ close ::
          (Lexer.tokens ⟨fields ++ ['}'], p⟩).filter (!·.kind.isTrivia))) := by
  obtain ⟨bs, p, hbs, hpasses⟩ := Lexer.crosses_of_balanced hbody (fields ++ ['}']) h.place
  have hall := ((h.reaches (body ++ '}' :: (fields ++ ['}']))).trans hbs).trans
    (.of_mark .closeBrace p (fields ++ ['}']))
  let close := Lexer.tokenOf ⟨[], p⟩ (.mark .closeBrace) ['}']
  refine ⟨bs, close, p.step '}' none, rfl, hpasses, ?_, ?_⟩
  · rw [classText_methodText, String.toList_ofList]
    exact hall.drop_offset
  · rw [classText_methodText]
    refine hall.tokenize_eq.trans ?_
    simp only [List.append_assoc, List.cons_append, List.nil_append]
    rfl

end HeaderTokens

/-! ## Rows of the members -/

theorem Skip.Passes.drop_toMemberEnd {ts : List Token} {opening closing : Token} (hts : Passes ts)
    (hopening : opening.kind = .mark .openBrace) (hclosing : closing.kind = .mark .closeBrace)
    (us : List Token) : (opening :: (ts ++ closing :: us)).drop
      (toMemberEnd (opening :: (ts ++ closing :: us))) = us := by
  have hopen : opening.isMark .openBrace = true := decide_eq_true hopening
  rw [toMemberEnd_of_openBrace hopen, groupLength, if_pos hopen, hts, groupLength,
    Token.isMark_of_kind hclosing, Token.isMark_of_kind hclosing, if_neg (by decide),
    if_pos (by decide), if_pos (Nat.le_refl _), List.drop_succ_cons, ← List.drop_drop,
    List.drop_left]
  rfl

/-! ## Parts of a text at another place -/

private theorem Token.Shifted.getLast {a b : Nat} {t u : Token} {ts us : List Token}
    (h : List.Forall₂ (Shifted a b) ts us) (htu : Shifted a b t u) :
    Shifted a b (ts.getLast?.getD t) (us.getLast?.getD u) := by
  induction h generalizing t u with
  | nil => exact htu
  | cons hmore _ ih =>
    rw [List.getLast?_cons, List.getLast?_cons]
    exact ih hmore

/-- The end of a source at the end of another one. -/
def Relocation.shift (source source' : List Char) (a b : Nat)
    (h : source'.drop b = source.drop a) : Relocation (some source) (some source') where
  Moved := Token.Shifted a b
  kind_eq h := h.kind_eq
  text_eq h := h.text_eq
  sourceText_eq {ts us} hts := by
    cases hts with
    | nil => rfl
    | @cons t u ts us htu hts =>
      obtain ⟨m, hm, hm'⟩ := htu.start_eq
      obtain ⟨n, hn, hn'⟩ := (Token.Shifted.getLast hts htu).stop_eq
      rw [sourceText, sourceText, hm, hm', hn, hn', ← List.drop_drop, ← List.drop_drop, h,
        Nat.add_sub_add_left, Nat.add_sub_add_left]

/-! ## Classes that are read alone -/

/-- The class with the given body is read, alone in its file and without a report. -/
def ClassDecl.IsRead (decl : ClassDecl) (body : List Char) : Prop :=
  decl.StandsAlone (some (classText body)) (Token.tokenize (classText body)).dropLast

/-- The members of a class `A` that is read alone are a row between its braces. -/
theorem ClassDecl.StandsAlone.exists_row {decl : ClassDecl} {source : Option String}
    {ts : List Token} (h : decl.StandsAlone source (classTokens ++ ts)) :
    ∃ body closing final members, ts = body ++ [closing] ∧ closing.kind = .mark .closeBrace ∧
      Row (source.map (·.toList)) final ts members [closing] ∧
      decl.fields = Member.fields members ∧ decl.methods = Member.methods members := by
  obtain ⟨q, hread, -, hwarnings, hahead⟩ := h.read
  have hts : (Parser.ofTokens (classTokens ++ ts) source).ahead = classTokens ++ ts ++ q.ahead := by
    rw [hahead, List.append_nil, Parser.ahead_ofTokens h.noEnd]
  obtain ⟨f, before, header, body, head, members, -, hprelude, hheader, hrow, rfl⟩ :=
    Rule.exists_row_of_typeDeclaration (Parser.final_ofTokens _ source) hread hwarnings hts
  -- nothing stands in front of the keyword, and nothing between the name and the brace
  rw [Parser.ahead_ofTokens h.noEnd] at hprelude
  have hclass := (Reading.found.inj
    (hprelude.symm.trans (Prelude.readFrom_of_classWord rfl))).2
  rw [hahead] at hclass hrow
  have hbehind := (List.cons.inj (List.cons.inj hclass).2).2
  cases header with
  | nil =>
    obtain rfl : body ++ [f.closing] = ts := (List.cons.inj hbehind).2
    exact ⟨body, f.closing, _, members, rfl, f.closing_kind, hrow, rfl, rfl⟩
  | cons t header =>
    have ht := hheader t List.mem_cons_self
    rw [(List.cons.inj hbehind).1] at ht
    cases ht

/-- **The members of a header with an empty block** are members in front of anything, whatever is
in the block. -/
theorem HeaderTokens.exists_row {header : List Char} (h : HeaderTokens header) {decl : ClassDecl}
    (hdecl : decl.IsRead (methodText header [] [])) :
    ∃ final members, decl.fields = Member.fields members ∧ decl.methods = Member.methods members ∧
      ∀ {body fields : List Char} {bs us : List Token} {close : Token}, Skip.Passes bs →
        close.kind = .mark .closeBrace →
        Row (some (classText (methodText header body fields)).toList) final
          (h.tokens ++ h.opening :: (bs ++ close :: us)) members us := by
  obtain ⟨close, closing, last, hclose, hclosing, htokens⟩ := h.exists_tokenize_empty
  rw [ClassDecl.IsRead, htokens, List.dropLast_concat] at hdecl
  obtain ⟨inner, closing', final, members, hinner, -, hrow, hfields, hmethods⟩ := hdecl.exists_row
  obtain rfl : closing' = closing := by
    have hlast := congrArg List.getLast? hinner
    simpa using hlast.symm
  refine ⟨final, members, hfields, hmethods, fun {body fields bs us close'} hbs hclose' ↦ ?_⟩
  let front := classFront ++ (header ++ ['{'])
  have hsource : (classText (methodText header [] [])).toList = front ++ ['}', '}'] := by
    simp [front, classText_methodText]
  have hsource' : (classText (methodText header body fields)).toList =
      front ++ (body ++ '}' :: (fields ++ ['}'])) := by
    simp [front, classText_methodText]
  rw [Option.map_some, hsource] at hrow
  have hblock := hrow.exists_block_of_source h.opening_kind hclose hclosing
    (.append h.stop_le _ (body ++ '}' :: (fields ++ ['}']))) (bs ++ close' :: us)
  rw [hbs.drop_toMemberEnd h.opening_kind hclose'] at hblock
  rw [hsource']
  exact hblock

/-- **Members that are read alone** are read at the end of any other text, too. -/
theorem ClassDecl.IsRead.exists_row_at {decl : ClassDecl} {fields source : List Char}
    (h : decl.IsRead fields) (p : Place) (hsource : source.drop p.offset = fields ++ ['}'])
    (final : Token) :
    ∃ ts closing last members, (Lexer.tokens ⟨fields ++ ['}'], p⟩).filter (!·.kind.isTrivia) =
        ts ++ [closing] ++ [last] ∧ closing.kind = .mark .closeBrace ∧
      Row (some source) final (ts ++ [closing]) members [closing] ∧
      (Member.fields members).map FieldDecl.unplaced = decl.fields.map FieldDecl.unplaced ∧
      (Member.methods members).map MethodDecl.unplaced = decl.methods.map MethodDecl.unplaced := by
  let l : Lexer := ⟨fields ++ ['}'], ⟨9, 1, 10⟩⟩
  obtain ⟨ts, last, hts, -, -⟩ := l.exists_filter_tokens_eq
  obtain ⟨us, last', hus, -, -⟩ := Lexer.exists_filter_tokens_eq ⟨fields ++ ['}'], p⟩
  have htokens : Token.tokenize (classText fields) = classTokens ++ ts ++ [last] := by
    rw [List.append_assoc, ← hts]
    exact (Lexer.reaches_classFront _).tokenize_eq
  rw [ClassDecl.IsRead, htokens, List.dropLast_concat] at h
  obtain ⟨inner, closing, final', members, rfl, hclosing, hrow, hfields, hmethods⟩ := h.exists_row
  have hdrop : (classText fields).toList.drop 9 = fields ++ ['}'] := by
    rw [classText, String.toList_ofList]
    exact @List.drop_left _ classFront _
  -- the fields are the same in both texts and stand at other offsets
  let M := Relocation.shift (classText fields).toList source 9 p.offset (hsource.trans hdrop.symm)
  have hmoved : M.All (inner ++ [closing]) us := by
    have hall : M.All (inner ++ [closing] ++ [last]) (us ++ [last']) := by
      rw [← hts, ← hus]
      refine List.rel_filter (fun {t u} htu ↦ ?_)
        (Lexer.shifted_tokens (fields ++ ['}']) ⟨9, 1, 10⟩ p)
      dsimp only
      rw [M.kind_eq htu]
    have hlength := Relocation.length_eq hall
    have htake := Relocation.take hall us.length
    rw [List.take_left, List.take_left' (by simpa using hlength.symm)] at htake
    exact htake
  obtain ⟨members', rest, hrow', hrest, hunplaced⟩ := hrow.exists_moved hmoved final
  obtain ⟨ts, rfl⟩ := hrow'.rest_suffix
  cases hrest with
  | @cons _ closing' _ rest hclosing' hnil =>
    cases hnil
    refine ⟨ts, closing', last', members', hus, (M.kind_eq hclosing').trans hclosing, hrow', ?_, ?_⟩
    · rw [← Member.fields_unplaced, hunplaced, Member.fields_unplaced, hfields]
    · rw [← Member.methods_unplaced, hunplaced, Member.methods_unplaced, hmethods]

/-- A class with its members in a row is parsed. -/
theorem ParsedUnit.exists_ofText_of_row {body : List Char} {ts : List Token}
    {closing last final : Token} {members : List Member}
    (hclosing : closing.kind = .mark .closeBrace)
    (htokens : Token.tokenize (classText body) = classTokens ++ (ts ++ [closing]) ++ [last])
    (hrow : Row (some (classText body).toList) final (ts ++ [closing]) members [closing]) :
    ∃ decl, ofText (classText body) = ⟨some ⟨[decl]⟩, [], [], []⟩ ∧
      decl.fields = Member.fields members ∧ decl.methods = Member.methods members := by
  obtain ⟨others, last', hothers, hlast, hnoEnd⟩ :=
    Lexer.exists_filter_tokens_eq (.ofText (classText body))
  obtain ⟨rfl, hsame⟩ := List.append_inj' (htokens.symm.trans hothers) rfl
  obtain rfl := (List.cons.inj hsame).1
  let f : ClassFrame :=
    ⟨.onFirstLine (.keyword .classWord) "class" 0, .onFirstLine .identifier "A" 6,
      .onFirstLine (.mark .openBrace) "\x7b" 8, closing, rfl, rfl, rfl, hclosing⟩
  refine ⟨f.declBehind none {} members, ?_, rfl, rfl⟩
  rw [ofText, htokens]
  exact @ofTokens_of_row (some (classText body)) f [] [] [] _ _ _ {} _ hnoEnd hlast
    (List.forall_mem_nil _) rfl (Prelude.readFrom_of_classWord rfl) (List.forall_mem_nil _) hrow

/-! ## Method bodies -/

/-- A class with a method and fields behind it is parsed, whatever is in the body of the method. -/
theorem ParsedUnit.exists_ofText_of_body {header fields body : List Char} {m f : ClassDecl}
    (hheader : IsUnquoted header) (hmethod : m.IsRead (methodText header [] []))
    (hfields : f.IsRead fields) (hbody : IsUnquoted body) :
    ∃ decl more, ofText (classText (methodText header body fields)) =
        ⟨some ⟨[decl]⟩, [], [], []⟩ ∧
      decl.fields = m.fields ++ Member.fields more ∧
      decl.methods = m.methods ++ Member.methods more ∧
      (Member.fields more).map FieldDecl.unplaced = f.fields.map FieldDecl.unplaced ∧
      (Member.methods more).map MethodDecl.unplaced = f.methods.map MethodDecl.unplaced := by
  obtain ⟨h⟩ := HeaderTokens.exists_of_isUnquoted hheader
  obtain ⟨final, members, hmfields, hmmethods, hrow⟩ := h.exists_row hmethod
  obtain ⟨bs, close, p, hclose, hbs, hsource, htokens⟩ := h.exists_tokenize hbody fields
  obtain ⟨ts, closing, last, more, hts, hclosing, hrow', hffields, hfmethods⟩ :=
    hfields.exists_row_at p hsource final
  -- the row of the method and the row of the fields make up the body
  have hall := (hrow hbs hclose).append hrow'
  have hshape : h.tokens ++ h.opening :: (bs ++ close :: (ts ++ [closing])) =
      h.tokens ++ h.opening :: (bs ++ close :: ts) ++ [closing] := by simp
  rw [hshape] at hall
  have htokens' : Token.tokenize (classText (methodText header body fields)) =
      classTokens ++ (h.tokens ++ h.opening :: (bs ++ close :: ts) ++ [closing]) ++ [last] := by
    rw [htokens, hts]
    simp
  obtain ⟨decl, hdecl, hdfields, hdmethods⟩ := exists_ofText_of_row hclosing htokens' hall
  refine ⟨decl, more, hdecl, ?_, ?_, hffields, hfmethods⟩
  · rw [hdfields, hmfields]
    exact List.filterMap_append
  · rw [hdmethods, hmmethods]
    exact List.filterMap_append

/-- **Method bodies are opaque.** Which body a method has makes no difference to the class: it is
parsed without a report, with the method and with the fields that stand behind the body. -/
theorem ParsedUnit.ofText_ignores_body {header fields body body' : List Char} {m f : ClassDecl}
    (hheader : IsUnquoted header) (hmethod : m.IsRead (methodText header [] []))
    (hnoFields : m.fields = []) (hfields : f.IsRead fields) (hnoMethods : f.methods = [])
    (hbody : IsUnquoted body) (hbody' : IsUnquoted body') :
    ∃ decl decl', ofText (classText (methodText header body fields)) =
        ⟨some ⟨[decl]⟩, [], [], []⟩ ∧
      ofText (classText (methodText header body' fields)) = ⟨some ⟨[decl']⟩, [], [], []⟩ ∧
      decl.methods = m.methods ∧ decl'.methods = m.methods ∧
      decl.fields.map FieldDecl.unplaced = f.fields.map FieldDecl.unplaced ∧
      decl'.fields.map FieldDecl.unplaced = f.fields.map FieldDecl.unplaced := by
  have hparsed {text : List Char} (htext : IsUnquoted text) :
      ∃ decl, ofText (classText (methodText header text fields)) = ⟨some ⟨[decl]⟩, [], [], []⟩ ∧
        decl.methods = m.methods ∧
        decl.fields.map FieldDecl.unplaced = f.fields.map FieldDecl.unplaced := by
    obtain ⟨decl, more, hdecl, hdfields, hdmethods, hmfields, hmmethods⟩ :=
      exists_ofText_of_body hheader hmethod hfields htext
    rw [hnoMethods, List.map_nil, List.map_eq_nil_iff] at hmmethods
    rw [hnoFields, List.nil_append] at hdfields
    rw [hmmethods, List.append_nil] at hdmethods
    exact ⟨decl, hdecl, hdmethods, hdfields ▸ hmfields⟩
  obtain ⟨decl, hdecl, hmethods, hdfields⟩ := hparsed hbody
  obtain ⟨decl', hdecl', hmethods', hdfields'⟩ := hparsed hbody'
  exact ⟨decl, decl', hdecl, hdecl', hmethods, hmethods', hdfields, hdfields'⟩

/-! ## A method and a field -/

/-- A class is read alone if its parse, run on its tokens, says so. -/
theorem ClassDecl.exists_isRead {body : List Char} {fields methods : Nat}
    (hnoEnd : ∀ t ∈ (Token.tokenize (classText body)).dropLast, t.kind ≠ .endOfInput)
    (hstarts : (Ahead.kind (Token.tokenize (classText body)).dropLast).startsDeclaration = true)
    (hcounts : (Rule.typeDeclaration (.ofTokens (Token.tokenize (classText body)).dropLast
      (some (classText body)))).1.value?.join.map
        (fun decl ↦ (decl.fields.length, decl.methods.length)) = some (fields, methods))
    (hclean : let q := (Rule.typeDeclaration (.ofTokens (Token.tokenize (classText body)).dropLast
      (some (classText body)))).2
      q.errors = [] ∧ q.warnings = [] ∧ q.ahead = []) :
    ∃ decl : ClassDecl, decl.IsRead body ∧ decl.fields.length = fields ∧
      decl.methods.length = methods := by
  obtain ⟨decl, hdecl, hlengths⟩ := Option.map_eq_some_iff.mp hcounts
  have hread := Outcome.eq_present_of_value? (Option.join_eq_some_iff.mp hdecl)
  exact ⟨decl, ⟨hnoEnd, hstarts, _, Prod.ext hread rfl, hclean⟩, (Prod.mk.inj hlengths).1,
    (Prod.mk.inj hlengths).2⟩

theorem exists_isRead_method : ∃ m : ClassDecl, m.IsRead (methodText "void m()".toList [] []) ∧
    m.fields.length = 0 ∧ m.methods.length = 1 :=
  ClassDecl.exists_isRead (by decide +kernel) (by decide +kernel) (by decide +kernel)
    (by decide +kernel)

theorem exists_isRead_field : ∃ f : ClassDecl, f.IsRead "int x;".toList ∧
    f.fields.length = 1 ∧ f.methods.length = 0 :=
  ClassDecl.exists_isRead (by decide +kernel) (by decide +kernel) (by decide +kernel)
    (by decide +kernel)

private theorem isUnquoted_header : IsUnquoted "void m()".toList := by
  rw [← List.append_nil "void m()".toList]
  exact Balanced.plain_append_of_all (by decide) .nil

/-- A method may have an empty body, or a block with braces in a string and in a comment and with a
character in single quotes. -/
theorem ParsedUnit.ofText_ignores_body_of_quotes :
    let body := "\x7b\"\x7d\"'a'/*\x7b*/\x7d".toList
    IsBody IsHarmless body ∧ ∃ decl decl' : ClassDecl,
      ofText (classText (methodText "void m()".toList [] "int x;".toList)) =
        ⟨some ⟨[decl]⟩, [], [], []⟩ ∧
      ofText (classText (methodText "void m()".toList body "int x;".toList)) =
        ⟨some ⟨[decl']⟩, [], [], []⟩ ∧
      decl'.methods = decl.methods ∧ decl.methods.length = 1 ∧ decl.fields.length = 1 ∧
      decl'.fields.map FieldDecl.unplaced = decl.fields.map FieldDecl.unplaced := by
  intro body
  have hbody : IsBody IsHarmless body := by
    have hcharacter : IsHarmless ['a'] :=
      ⟨.plain (by decide) (by decide) (by decide), List.forall_mem_singleton.mpr (by decide)⟩
    have hstring : StringBody ['}'] := .plain (by decide) (by decide) (by decide) .nil
    have hcomment : ¬['*', '/'] <:+: ['{'] := by decide
    exact .block (.string hstring (.character hcharacter (.blockComment hcomment .nil))) .nil
  obtain ⟨m, hm, hmfields, hmmethods⟩ := exists_isRead_method
  obtain ⟨f, hf, hffields, hfmethods⟩ := exists_isRead_field
  obtain ⟨decl, decl', hdecl, hdecl', hmethods, hmethods', hfields, hfields'⟩ :=
    ofText_ignores_body isUnquoted_header hm (List.length_eq_zero_iff.mp hmfields) hf
      (List.length_eq_zero_iff.mp hfmethods) .nil (Balanced.unquoted_of_isBody hbody)
  have hlength := congrArg List.length hfields
  rw [List.length_map, List.length_map] at hlength
  exact ⟨hbody, decl, decl', hdecl, hdecl', hmethods'.trans hmethods.symm, hmethods ▸ hmmethods,
    hlength.trans hffields, hfields'.trans hfields.symm⟩

/-- With a brace between single quotes in the body the class is not closed. -/
theorem ParsedUnit.ofText_ne_of_quotedBrace :
    let body := "char c = '\x7b';".toList
    IsBody CharacterBody body ∧
      (∃ m : ClassDecl, m.IsRead (methodText "void m()".toList [] []) ∧ m.methods.length = 1) ∧
      (∃ f : ClassDecl, f.IsRead "int x;".toList ∧ f.fields.length = 1) ∧
      (ofText (classText (methodText "void m()".toList [] "int x;".toList))).errors = [] ∧
      (ofText (classText (methodText "void m()".toList body "int x;".toList))).errors ≠ [] ∧
      (ofText (classText (methodText "void m()".toList body "int x;".toList))).tree = none := by
  intro body
  have hbody : IsBody CharacterBody body := by
    have hcharacter : CharacterBody ['{'] := .plain (by decide) (by decide) (by decide)
    have hall : IsBody CharacterBody ("char c = ".toList ++ '\'' :: (['{'] ++ '\'' :: [';'])) :=
      .plain_append_of_all (by decide) (.character hcharacter (.plain (by decide) .nil))
    exact hall
  obtain ⟨m, hm, -, hmethods⟩ := exists_isRead_method
  obtain ⟨f, hf, hfields, -⟩ := exists_isRead_field
  exact ⟨hbody, ⟨m, hm, hmethods⟩, ⟨f, hf, hfields⟩, by decide +kernel, by decide +kernel,
    by decide +kernel⟩

end ClassSchema
