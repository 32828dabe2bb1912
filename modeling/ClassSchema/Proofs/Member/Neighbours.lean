import ClassSchema.Proofs.Member.Malformed

/-!
# Neighbours of a malformed member

In front of a malformed member there are members of a class, and behind it there are others. The
class has just these members, and one warning about the malformed one. The argument has three parts.
The members in front are a row, and a row can be moved in front of the malformed member. That is
malformed in front of any tokens, so it is passed over up to its semicolon. The members behind it
are a row again.

The second part needs that the attempt at the malformed member ends in front of its semicolon, which
is seen from the member alone. Most attempts do, since a type, an annotation or a parameter is never
looked for behind a semicolon. But a group in angle brackets in front of a declaration and one in an
initializer are passed over to where they are closed, over any semicolon on the way. Such an attempt
can end far behind the member, and the members in between are lost.
-/

namespace ClassSchema

namespace Rule

/-! ## Rules in a row -/

variable {α β γ : Type} {p : Parser} {rest : List Token}

theorem bind_expect {kind : Kind} {c : Complaint} {t : Token} {next : Token → Rule β}
    (hp : p.ahead = t :: rest) (ht : t.kind = kind) :
    bind (expect kind c) next p = next t p.bump := by
  rw [bind, expect_of_ahead hp ht]

theorem bind_modify (g : Parser → Parser) (next : Unit → Rule β) :
    bind (modify g) next p = next () (g p) := rfl

private theorem bind_assoc (rule : Rule α) (next : α → Rule β) (last : β → Rule γ) :
    bind (bind rule next) last = bind rule fun value ↦ bind (next value) last := by
  funext p
  rw [bind, bind, bind]
  cases rule p with
  | mk outcome q => cases outcome <;> rfl

/-! ## Bodies with a malformed member -/

/-- In front of the closing brace all of a body is found. -/
theorem classBody_of_closeBrace (hp : Ahead.atMark .closeBrace p.ahead = true) :
    classBody p = (.present [], p) := by
  have hends : endsBody p = true := by
    cases hahead : p.ahead with
    | nil => rw [hahead] at hp; cases hp
    | cons t ts =>
      rw [hahead] at hp
      rw [endsBody, Parser.isAt, Parser.current, hahead]
      exact Bool.or_eq_true_iff.mpr (.inl hp)
  rw [classBody, if_pos hends]

/-- A malformed member is not the end of a body. -/
theorem endsBody_of_malformed {comments member behind : List Token} {semicolon : Token}
    (hcomments : ∀ t ∈ comments, t.kind.isComment = true)
    (hmember : ∀ t ∈ member, Skip.endsHeader t.kind = false)
    (hsemicolon : semicolon.kind = .mark .semicolon)
    (hp : p.ahead = comments ++ (member ++ semicolon :: behind)) : endsBody p = false := by
  have hmark {t : Token} (ht : Skip.endsHeader t.kind = false) : t.isMark .closeBrace = false := by
    refine decide_eq_false fun hkind ↦ ?_
    rw [hkind] at ht
    cases ht
  cases comments with
  | cons t comments =>
    have ht := Skip.endsHeader_of_isComment (hcomments t List.mem_cons_self)
    exact endsBody_of_ahead hp (hmark ht)
  | nil =>
    cases member with
    | cons t member => exact endsBody_of_ahead hp (hmark (hmember t List.mem_cons_self))
    | nil => exact endsBody_of_ahead hp (decide_eq_false (by rw [hsemicolon]; exact nofun))

/-- **A malformed member in a body** leaves a warning; the members before it and behind it are those
of the two bodies. -/
theorem classBody_of_malformed {before after member : List Token} {semicolon closing : Token}
    {decls more : List Member} (hclosing : Ahead.atMark .closeBrace [closing] = true)
    (hbefore : Row p.source p.final (before ++ [closing]) decls [closing])
    (hmember : MemberItem.Malformed p.source p.final member semicolon [closing])
    (hafter : Row p.source p.final (after ++ [closing]) more [closing])
    (hp : p.ahead = before ++ (member ++ semicolon :: (after ++ [closing]))) :
    ∃ q warning, classBody p = (.present (decls ++ more), q) ∧
      (p.warn warning).MovesTo [closing] q := by
  obtain ⟨front, comments, rfl, hcomments, hrow⟩ := hbefore.exists_front hclosing
  have hmalformed := hmember.move (after ++ [closing])
  rw [List.append_assoc] at hp
  -- the members before are found, up to the comments in front of the malformed one
  obtain ⟨q, hq, hbody⟩ := classBody_of_row (p := p) (hp ▸ hrow _)
  rw [← hq.source_eq, ← hq.final_eq] at hmalformed
  -- the malformed member is passed over
  obtain ⟨r, warning, hgivenUp, hr⟩ := classMember_of_malformed hcomments hq.ahead_eq hmalformed
  have hinside := endsBody_of_malformed hcomments hmalformed.noBar hmalformed.semicolon_kind
    hq.ahead_eq
  -- the members behind it are found, up to the end of the body
  rw [← hq.source_eq, ← hq.final_eq] at hafter
  have hrow' : Row r.source r.final r.ahead more [closing] := by
    rw [hr.source_eq, hr.final_eq, hr.ahead_eq]
    exact hafter
  obtain ⟨s, hs, hbody'⟩ := classBody_of_row hrow'
  have hend := classBody_of_closeBrace (p := s) (hs.ahead_eq ▸ hclosing)
  refine ⟨s, warning, ?_, (hq.warn warning).trans (hr.trans hs)⟩
  rw [hbody, bind, classBody_eq hinside, bind, hgivenUp]
  dsimp only
  rw [bind, hbody', bind, hend]
  dsimp only [pure]
  rw [List.append_nil, List.nil_append]

end Rule

/-! ## A class around members -/

/-- The tokens of a class around its members: `class`, its name and two braces. -/
structure ClassFrame where
  keyword : Token
  name : Token
  opening : Token
  closing : Token
  keyword_kind : keyword.kind = .keyword .classWord
  name_kind : name.kind = .identifier
  opening_kind : opening.kind = .mark .openBrace
  closing_kind : closing.kind = .mark .closeBrace

namespace ClassFrame

variable (f : ClassFrame)

/-- A class with the tokens `body` between its braces. -/
def around (body : List Token) : List Token :=
  f.keyword :: f.name :: f.opening :: (body ++ [f.closing])

/-- The class with the given members. -/
def decl (members : List Member) : ClassDecl where
  name := f.name.text
  fields := Member.fields members
  methods := Member.methods members
  line := f.keyword.line
  column := f.keyword.column

/-- The class whose body is `body` and the warnings about it, if there is no error and the class
takes all tokens. -/
def parse (source : Option String) (body : List Token) : Option (ClassDecl × List String) :=
  match Rule.typeDeclaration (.ofTokens (f.around body) source) with
  | (.present (some decl), q) =>
    if q.passed.reverse = f.around body ∧ q.errors = [] then some (decl, q.warnings) else none
  | _ => none

/-- The parser in front of the body. -/
def inside (source : Option String) (body : List Token) : Parser where
  passed := [f.opening, f.name, f.keyword]
  ahead := body ++ [f.closing]
  final := .endAfter f.closing
  beyond := []
  source := source.map (·.toList)

variable {f} {source : Option String} {body : List Token} {decl : ClassDecl}
  {warnings : List String}

theorem parse_eq_some_iff : f.parse source body = some (decl, warnings) ↔
    ∃ q, Rule.typeDeclaration (.ofTokens (f.around body) source) = (.present (some decl), q) ∧
      q.passed.reverse = f.around body ∧ q.errors = [] ∧ q.warnings = warnings := by
  rw [parse]
  split
  · rename_i found q heq
    rw [heq, Option.ite_none_right_eq_some]
    constructor
    · rintro ⟨⟨hpassed, herrors⟩, hfound⟩
      obtain ⟨rfl, rfl⟩ := Prod.mk.inj (Option.some.inj hfound)
      exact ⟨q, rfl, hpassed, herrors, rfl⟩
    · rintro ⟨q', hfound, hpassed, herrors, rfl⟩
      obtain ⟨hdecl, rfl⟩ := Prod.mk.inj hfound
      obtain rfl := Option.some.inj (Outcome.present.inj hdecl)
      exact ⟨⟨hpassed, herrors⟩, rfl⟩
  · rename_i hnone
    exact iff_of_false nofun fun ⟨q, hfound, _⟩ ↦ hnone _ q hfound

theorem ofTokens_around (hbody : ∀ t ∈ body, t.kind ≠ .endOfInput) :
    Parser.ofTokens (f.around body) source =
      { f.inside source body with passed := [], ahead := f.around body } := by
  have hclosing : f.closing.is .endOfInput = false :=
    decide_eq_false (by rw [f.closing_kind]; decide)
  have hclosed : Parser.closed (f.around body) = f.around body ++ [.endAfter f.closing] := by
    have hlast : (f.around body).getLast? = some f.closing :=
      List.getLast?_concat (l := f.keyword :: f.name :: f.opening :: body)
    rw [Parser.closed, hlast]
    exact if_neg (ne_true_of_eq_false hclosing)
  have hinside : ∀ t ∈ f.around body, (!t.is .endOfInput) = true := by
    simp only [around, List.forall_mem_cons, List.forall_mem_append, Token.is, f.keyword_kind,
      f.name_kind, f.opening_kind, f.closing_kind]
    exact ⟨rfl, rfl, rfl, fun t ht ↦ by simpa using hbody t ht, rfl, List.forall_mem_nil _⟩
  have hend : [Token.endAfter f.closing].takeWhile (!·.is .endOfInput) = [] := rfl
  rw [Parser.ofTokens, hclosed]
  dsimp only
  rw [List.takeWhile_append_of_pos hinside, List.dropWhile_append_of_pos hinside, hend,
    List.append_nil]
  rfl

theorem readPrelude_around :
    Prelude.read (source.map (·.toList)) (f.around body) = .found {} (f.around body) := by
  have hcomment : f.keyword.kind.isComment = false := by
    rw [f.keyword_kind]
    rfl
  have hstarts (ts : List Token) : Prelude.startsAnnotations f.keyword ts = false := by
    rw [Prelude.startsAnnotations, Token.isMark, f.keyword_kind]
    rfl
  have hmodifier (ts : List Token) : Prelude.isModifier f.keyword ts = false := by
    rw [Prelude.isModifier, Token.is, f.keyword_kind]
    rfl
  rw [Prelude.read, around, Prelude.readFrom, hcomment, hstarts, hmodifier,
    if_neg Bool.false_ne_true, if_neg Bool.false_ne_true, if_neg Bool.false_ne_true]

private theorem typeDeclaration_around (hbody : ∀ t ∈ body, t.kind ≠ .endOfInput) :
    Rule.typeDeclaration (.ofTokens (f.around body) source) =
      Rule.bind Rule.classBody (fun members ↦
        Rule.bind (Rule.expect (.mark .closeBrace) .unclosedClassBody) fun _ ↦
          Rule.pure (some (f.decl members))) (f.inside source body) := by
  let p : Parser := { f.inside source body with passed := [], ahead := f.around body }
  have hreading : Rule.reading Prelude.read p = (.present {}, p) := by
    have hstays : p.settle (f.around body) = p := by
      rw [Parser.settle, Nat.sub_self]
      rfl
    rw [Rule.reading, show p.source = source.map (·.toList) from rfl,
      show p.ahead = f.around body from rfl, readPrelude_around]
    dsimp only
    rw [hstays]
  have hskippable : Skippable.at? false p.ahead = none := by
    rw [Skippable.at?, show Ahead.kind p.ahead = .keyword .classWord from f.keyword_kind]
    rfl
  rw [ofTokens_around hbody, Rule.typeDeclaration, hreading]
  dsimp only
  rw [Rule.declarationRest, hskippable]
  dsimp only
  have hopening : Rule.isOpenBrace f.opening.kind = true := decide_eq_true f.opening_kind
  let q : Parser := { f.inside source body with
    passed := [f.name, f.keyword], ahead := f.opening :: (body ++ [f.closing]) }
  have hskip : q.skipUntil Rule.isOpenBrace = q := Parser.skipUntil_eq_self rfl hopening
  rw [Rule.classRest, Rule.bind_assoc, Rule.bind_expect rfl f.keyword_kind, Rule.bind_assoc,
    Rule.bind_expect rfl f.name_kind, Rule.bind_assoc, Rule.bind_modify,
    show (p.bump.bump).skipUntil Rule.isOpenBrace = q from hskip, Rule.bind_assoc,
    Rule.bind_expect rfl f.opening_kind, Rule.bind_assoc]
  simp only [Rule.bind_assoc]
  rfl

/-- No end token stands in a body that the class takes. -/
theorem kind_ne_endOfInput_of_parse (h : f.parse source body = some (decl, warnings)) :
    ∀ t ∈ body, t.kind ≠ .endOfInput := by
  obtain ⟨q, htype, hpassed, -⟩ := parse_eq_some_iff.mp h
  intro t ht
  have honward := (Rule.typeDeclaration_endsFrom (.ofTokens (f.around body) source)).onward
  rw [htype] at honward
  have hmem : t ∈ q.passed.reverse ++ q.ahead := by
    rw [hpassed]
    simp [around, ht]
  rw [honward.passed_append_ahead] at hmem
  have hahead : (!t.is .endOfInput) = true :=
    List.mem_takeWhile_imp (p := fun t : Token ↦ !t.is .endOfInput) hmem
  intro hkind
  rw [Token.is, decide_eq_true hkind] at hahead
  cases hahead

private theorem ahead_eq_nil {outcome : Outcome (Option ClassDecl)} {q : Parser}
    (hbody : ∀ t ∈ body, t.kind ≠ .endOfInput)
    (htype : Rule.typeDeclaration (.ofTokens (f.around body) source) = (outcome, q))
    (hpassed : q.passed.reverse = f.around body) : q.ahead = [] := by
  have honward := (Rule.typeDeclaration_endsFrom (.ofTokens (f.around body) source)).onward
  rw [htype, ofTokens_around hbody] at honward
  have hall := honward.passed_append_ahead
  rw [hpassed] at hall
  exact List.append_right_eq_self.mp hall

/-- A body is parsed if its members are read up to the closing brace. -/
theorem parse_eq_some_iff_classBody :
    f.parse source body = some (decl, warnings) ↔ (∀ t ∈ body, t.kind ≠ .endOfInput) ∧
      ∃ members q, Rule.classBody (f.inside source body) = (.present members, q) ∧
        q.ahead = [f.closing] ∧ q.warnings = warnings ∧ decl = f.decl members := by
  constructor
  · intro h
    have hbody := kind_ne_endOfInput_of_parse h
    obtain ⟨q, htype, hpassed, -, rfl⟩ := parse_eq_some_iff.mp h
    have hnil := ahead_eq_nil hbody htype hpassed
    rw [typeDeclaration_around hbody] at htype
    obtain ⟨members, r, hmembers, htype⟩ := Rule.exists_of_bind_eq_present htype
    obtain ⟨t, s, hexpect, hpure⟩ := Rule.exists_of_bind_eq_present htype
    obtain ⟨hdecl, rfl⟩ := Prod.mk.inj hpure
    have hmoved := (Rule.classBody_endsFrom (f.inside source body)).onward
    rw [hmembers] at hmoved
    have hfinal : r.final.kind = .endOfInput := by
      rw [hmoved.final_eq]
      rfl
    have hclosing : Kind.mark .closeBrace ≠ .endOfInput := nofun
    obtain ⟨hne, rfl⟩ := Rule.expect_eq_present hfinal hclosing hexpect
    refine ⟨hbody, members, r, hmembers, ?_, rfl,
      (Option.some.inj (Outcome.present.inj hdecl)).symm⟩
    -- what is left in front of the end is the last of the tokens
    obtain ⟨t, ts, hahead⟩ := List.exists_cons_of_ne_nil hne
    have hts : ts = [] := by
      rw [Parser.bump, Parser.advance, hahead] at hnil
      exact hnil
    rw [hahead, hts]
    have hsuffix := hmoved.ahead_suffix
    rw [hahead, hts] at hsuffix
    obtain ⟨taken, htaken⟩ := hsuffix
    have hlast := congrArg List.getLast? htaken
    rw [List.getLast?_concat, show (f.inside source body).ahead = body ++ [f.closing] from rfl,
      List.getLast?_concat] at hlast
    rw [Option.some.inj hlast]
  · rintro ⟨hbody, members, q, hmembers, hahead, rfl, rfl⟩
    have hends := Rule.classBody_endsFrom (f.inside source body)
    rw [hmembers] at hends
    cases hends with
    | present _ moved errors =>
      refine parse_eq_some_iff.mpr ⟨q.bump, ?_, ?_, errors, rfl⟩
      · rw [typeDeclaration_around hbody, Rule.bind, hmembers]
        dsimp only
        rw [Rule.bind_expect hahead f.closing_kind]
        rfl
      · have hall := moved.passed_append_ahead
        rw [hahead] at hall
        rw [Parser.bump, Parser.advance, hahead]
        exact (List.reverse_cons ..).trans hall

private theorem row_of_parse (h : f.parse source body = some (decl, [])) :
    (∀ t ∈ body, t.kind ≠ .endOfInput) ∧ ∃ members,
      Row (source.map (·.toList)) (.endAfter f.closing) (body ++ [f.closing]) members [f.closing] ∧
        decl = f.decl members := by
  obtain ⟨hbody, members, q, hq, hahead, hwarnings, hdecl⟩ := parse_eq_some_iff_classBody.mp h
  have hrow := Rule.row_of_classBody hq (congrArg List.length hwarnings)
  rw [hahead] at hrow
  exact ⟨hbody, members, hrow, hdecl⟩

/-- A member that is read alone, in an attempt that ends in front of its semicolon, is malformed. -/
theorem malformed_of_parse {member : List Token} {semicolon : Token}
    (hmember : ∀ t ∈ member, Skip.endsHeader t.kind = false)
    (hsemicolon : semicolon.kind = .mark .semicolon)
    (h : f.parse source (member ++ [semicolon]) = some (decl, warnings))
    (hstays : [semicolon, f.closing] <:+
      (MemberItem.read (source.map (·.toList)) (.endAfter f.closing)
        (member ++ [semicolon, f.closing])).rest) :
    (∀ t ∈ member ++ [semicolon], t.kind ≠ .endOfInput) ∧
      MemberItem.Malformed (source.map (·.toList)) (.endAfter f.closing) member semicolon
        [f.closing] := by
  obtain ⟨hbody, members, q, hq, -⟩ := parse_eq_some_iff_classBody.mp h
  have hahead : (f.inside source (member ++ [semicolon])).ahead =
      [] ++ (member ++ semicolon :: [f.closing]) := List.append_assoc member [semicolon] [f.closing]
  have hinside := Rule.endsBody_of_malformed (List.forall_mem_nil _) hmember hsemicolon hahead
  obtain ⟨first, more, r, hfirst, -⟩ := Rule.exists_of_classBody_eq_present hinside hq
  refine ⟨hbody, Rule.malformed_of_classMember hmember hsemicolon hahead rfl hfirst ?_⟩
  rw [hahead]
  exact hstays

/-- **A malformed member does not affect its neighbours.** Two bodies that are parsed without a
warning are given, and a member without a semicolon or a brace of its own. If the attempt at the
member, where it stands alone in the class, ends in front of its semicolon, the class with the
member between the two bodies has just their fields and methods, and one warning. -/
theorem parse_neighbours {before after member : List Token} {semicolon : Token}
    {declBefore declAfter declMember : ClassDecl}
    (hbefore : f.parse source before = some (declBefore, []))
    (hafter : f.parse source after = some (declAfter, []))
    (hmember : ∀ t ∈ member, Skip.endsHeader t.kind = false)
    (hsemicolon : semicolon.kind = .mark .semicolon)
    (hleft : f.parse source (member ++ [semicolon]) = some (declMember, warnings))
    (hstays : [semicolon, f.closing] <:+
      (MemberItem.read (source.map (·.toList)) (.endAfter f.closing)
        (member ++ [semicolon, f.closing])).rest) :
    ∃ decl warning,
      f.parse source (before ++ (member ++ semicolon :: after)) = some (decl, [warning]) ∧
      decl.fields = declBefore.fields ++ declAfter.fields ∧
      decl.methods = declBefore.methods ++ declAfter.methods := by
  obtain ⟨hinsideBefore, membersBefore, hrowBefore, rfl⟩ := row_of_parse hbefore
  obtain ⟨hinsideAfter, membersAfter, hrowAfter, rfl⟩ := row_of_parse hafter
  obtain ⟨hinsideMember, hmalformed⟩ := malformed_of_parse hmember hsemicolon hleft hstays
  have hinside : ∀ t ∈ before ++ (member ++ semicolon :: after), t.kind ≠ .endOfInput := by
    rw [List.append_cons, List.forall_mem_append, List.forall_mem_append]
    exact ⟨hinsideBefore, hinsideMember, hinsideAfter⟩
  have hahead : (f.inside source (before ++ (member ++ semicolon :: after))).ahead =
      before ++ (member ++ semicolon :: (after ++ [f.closing])) := by
    rw [← List.cons_append, ← List.append_assoc member]
    exact List.append_assoc ..
  obtain ⟨q, warning, hbody, hq⟩ := Rule.classBody_of_malformed (decide_eq_true f.closing_kind)
    hrowBefore hmalformed hrowAfter hahead
  refine ⟨f.decl (membersBefore ++ membersAfter), warning, parse_eq_some_iff_classBody.mpr
    ⟨hinside, _, q, hbody, hq.ahead_eq, hq.warnings_eq, rfl⟩, ?_, ?_⟩
  · exact List.filterMap_append
  · exact List.filterMap_append

/-! ## A member between two, and one that takes the members behind it -/

open Token (onFirstLine)

/-- A class on the first line that is closed at an offset. -/
def onFirstLine (closing : Nat) : ClassFrame where
  keyword := .onFirstLine (.keyword .classWord) "class" 0
  name := .onFirstLine .identifier "A" 6
  opening := .onFirstLine (.mark .openBrace) "\x7b" 8
  closing := .onFirstLine (.mark .closeBrace) "\x7d" closing
  keyword_kind := rfl
  name_kind := rfl
  opening_kind := rfl
  closing_kind := rfl

/-- A declaration without a name, between a field and a method: both are found. -/
theorem parse_neighbours_of_missing_name :
    let f := onFirstLine 33
    let before := [.onFirstLine (.keyword .intWord) "int" 10, .onFirstLine .identifier "a" 14,
      .onFirstLine (.mark .semicolon) ";" 15]
    let member := [.onFirstLine (.keyword .intWord) "int" 17, .onFirstLine (.mark .equal) "=" 21]
    let semicolon := .onFirstLine (.mark .semicolon) ";" 22
    let after := [.onFirstLine (.keyword .intWord) "int" 24, .onFirstLine .identifier "b" 28,
      .onFirstLine (.mark .openParen) "(" 29, .onFirstLine (.mark .closeParen) ")" 30,
      .onFirstLine (.mark .semicolon) ";" 31]
    let all := before ++ (member ++ semicolon :: after)
    (Parser.ofTokens (Token.tokenize "class A \x7b int a; int =; int b(); \x7d")).ahead =
        f.around all ∧
      ∃ decl warning, f.parse none all = some (decl, [warning]) ∧
        decl.fields.map (·.name) = ["a"] ∧ decl.methods.map (·.name) = ["b"] := by
  intro f before member semicolon after all
  have hbefore : f.parse none before =
      some (f.decl [.field { name := "a", type := "int", line := 1, column := 15 }], []) := by
    decide +kernel
  have hafter : f.parse none after = some (f.decl
      [.method { name := "b", returnType := some "int", line := 1, column := 29 }], []) := by
    decide +kernel
  have hleft : f.parse none (member ++ [semicolon]) = some (f.decl [],
      ["Expected identifier after type 'int', got '=', skipping member"]) := by
    decide +kernel
  obtain ⟨decl, warning, hparse, hfields, hmethods⟩ :=
    parse_neighbours hbefore hafter (by decide) rfl hleft (by decide +kernel)
  refine ⟨by decide +kernel, decl, warning, hparse, ?_, ?_⟩
  · rw [hfields]
    rfl
  · rw [hmethods]
    rfl

/-- An opening angle bracket alone is a malformed member, but the attempt at it goes on to the next
closing one. In front of two fields it takes the first and half of the second. -/
theorem parse_neighbours_ne_of_openAngle :
    let f := onFirstLine 43
    let member := [.onFirstLine (.mark .openAngle) "<" 10]
    let semicolon := .onFirstLine (.mark .semicolon) ";" 12
    let after := [.onFirstLine (.keyword .booleanWord) "boolean" 14,
      .onFirstLine .identifier "b" 22, .onFirstLine (.mark .equal) "=" 24,
      .onFirstLine .identifier "x" 26, .onFirstLine (.mark .closeAngle) ">" 28,
      .onFirstLine .identifier "foo" 30, .onFirstLine (.mark .openParen) "(" 33,
      .onFirstLine (.mark .closeParen) ")" 34, .onFirstLine (.mark .semicolon) ";" 35,
      .onFirstLine (.keyword .intWord) "int" 37, .onFirstLine .identifier "z" 41,
      .onFirstLine (.mark .semicolon) ";" 42]
    let found (body : List Token) := (f.parse none body).map fun (decl, warnings) ↦
      (decl.fields.map (·.name), decl.methods.map (·.name), warnings.length)
    (Parser.ofTokens (Token.tokenize "class A \x7b < ; boolean b = x > foo(); int z;\x7d")).ahead =
        f.around (member ++ semicolon :: after) ∧
      found [] = some ([], [], 0) ∧ found after = some (["b", "z"], [], 0) ∧
      found (member ++ [semicolon]) = some ([], [], 1) ∧
      found (member ++ semicolon :: after) = some (["z"], ["foo"], 0) := by
  decide +kernel

end ClassFrame

end ClassSchema
