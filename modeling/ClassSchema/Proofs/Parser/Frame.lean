import ClassSchema.Proofs.Member.Neighbours

/-!
# The tokens of a class

A class is read off its keyword, its name, tokens that are passed over up to a brace, its members,
and the brace behind them. A rule that has found a class has found just that, and where tokens of
this form are ahead, with members in a row, a class is found. The two directions are what other
properties of classes are shown by.
-/

namespace ClassSchema

/-! ## Tokens around members -/

namespace ClassFrame

variable (f : ClassFrame)

/-- The tokens of a class but for its last brace, where `header` stands between its name and its
first brace. -/
def front (header body : List Token) : List Token :=
  f.keyword :: f.name :: (header ++ f.opening :: body)

/-- The class with the given members, behind what stands in front of it. -/
def declBehind (comment : Option Token) (head : Prelude) (members : List Member) : ClassDecl where
  name := f.name.text
  modifiers := head.modifiers
  annotations := head.annotations
  fields := Member.fields members
  methods := Member.methods members
  comment := (comment.or head.comment).map (·.text)
  line := f.keyword.line
  column := f.keyword.column

end ClassFrame

private theorem Parser.exists_header (p : Parser) (stops : Kind → Bool) :
    ∃ header, p.ahead = header ++ (p.skipUntil stops).ahead ∧
      ∀ t ∈ header, stops t.kind = false := by
  refine ⟨p.ahead.take (Skip.upTo stops p.ahead), (List.take_append_drop ..).symm, fun t ht ↦ ?_⟩
  rw [Skip.upTo, ← List.prefix_iff_eq_take.mp (List.takeWhile_prefix _)] at ht
  simpa using List.mem_takeWhile_imp ht

private theorem Parser.MovesTo.skipUntil {p : Parser} {stops : Kind → Bool}
    {header rest : List Token}
    {t : Token} (hp : p.ahead = header ++ t :: rest) (hheader : ∀ t ∈ header, stops t.kind = false)
    (ht : stops t.kind = true) : p.MovesTo (t :: rest) (p.skipUntil stops) := by
  refine .advance ?_
  have hcount : Skip.upTo stops p.ahead = header.length := by
    rw [Skip.upTo, hp, List.takeWhile_append_of_pos fun t ht ↦ by rw [hheader t ht]; rfl,
      List.takeWhile_cons_of_neg (by rw [ht]; decide), List.append_nil]
  rw [hcount, hp, List.drop_left]

namespace Rule

variable {p q : Parser} {comment : Option Token} {head : Prelude}

/-- **What a class was read off**: its members stand between its braces, the parser `r` in front of
them and the parser `s` behind them. -/
theorem exists_of_classRest {decl : ClassDecl} (hfinal : p.final.kind = .endOfInput)
    (h : classRest comment head p = (.present decl, q)) :
    ∃ (f : ClassFrame) (header : List Token) (members : List Member) (r s : Parser),
      p.ahead = f.keyword :: f.name :: (header ++ f.opening :: r.ahead) ∧
      (∀ t ∈ header, isOpenBrace t.kind = false) ∧ p.MovesTo r.ahead r ∧
      classBody r = (.present members, s) ∧ s.ahead = f.closing :: q.ahead ∧ q = s.bump ∧
      decl = f.declBehind comment head members := by
  rw [classRest_eq] at h
  -- one token or part after the other, each found where the parser stands
  obtain ⟨keyword, p₁, hkeyword, h⟩ := exists_of_bind_eq_present h
  obtain ⟨hahead, hkeywordKind⟩ := ahead_of_expect hfinal (by simp) hkeyword
  obtain ⟨-, rfl⟩ := expect_eq_present hfinal (by simp) hkeyword
  obtain ⟨name, p₂, hname, h⟩ := exists_of_bind_eq_present h
  obtain ⟨hahead', hnameKind⟩ := ahead_of_expect (p := p.bump) hfinal (by simp) hname
  obtain ⟨-, rfl⟩ := expect_eq_present (p := p.bump) hfinal (by simp) hname
  obtain ⟨_, p₃, hskip, h⟩ := exists_of_bind_eq_present h
  obtain rfl := (Prod.mk.inj hskip).2
  obtain ⟨opening, r, hopening, h⟩ := exists_of_bind_eq_present h
  let p₃ := p.bump.bump.skipUntil isOpenBrace
  obtain ⟨hahead'', hopeningKind⟩ := ahead_of_expect (p := p₃) hfinal (by simp) hopening
  obtain ⟨-, rfl⟩ := expect_eq_present (p := p₃) hfinal (by simp) hopening
  obtain ⟨members, s, hbody, h⟩ := exists_of_bind_eq_present h
  have hmoved := (classBody_endsFrom p₃.bump).onward
  rw [hbody] at hmoved
  have hfinal' : s.final.kind = .endOfInput := hmoved.final_eq ▸ hfinal
  obtain ⟨closing, q', hclosing, h⟩ := exists_of_bind_eq_present h
  obtain ⟨hbehind, hclosingKind⟩ := ahead_of_expect hfinal' (by simp) hclosing
  obtain ⟨-, rfl⟩ := expect_eq_present hfinal' (by simp) hclosing
  obtain ⟨hdecl, rfl⟩ := Prod.mk.inj h
  obtain ⟨header, hheader, hnone⟩ := p.bump.bump.exists_header isOpenBrace
  refine ⟨⟨keyword, name, opening, closing, hkeywordKind, hnameKind, hopeningKind, hclosingKind⟩,
    header, members, p₃.bump, s, ?_, hnone, ⟨rfl, rfl, rfl, rfl, rfl, rfl⟩, hbody, hbehind, rfl,
    (Outcome.present.inj hdecl).symm⟩
  rw [hahead, hahead', hheader]
  exact congrArg (fun us ↦ keyword :: name :: (header ++ us)) hahead''

/-- **Tokens of a class are read as one**, in any state of the parser. -/
theorem classRest_of_row {f : ClassFrame} {header body rest : List Token} {members : List Member}
    (hp : p.ahead = f.front header body ++ f.closing :: rest)
    (hheader : ∀ t ∈ header, isOpenBrace t.kind = false)
    (hrow : Row p.source p.final (body ++ f.closing :: rest) members (f.closing :: rest)) :
    ∃ q, classRest comment head p = (.present (f.declBehind comment head members), q) ∧
      p.MovesTo rest q := by
  replace hp : p.ahead =
      f.keyword :: f.name :: (header ++ f.opening :: (body ++ f.closing :: rest)) := by
    rw [hp]
    simp [ClassFrame.front]
  have h₁ : p.MovesTo (f.name :: (header ++ f.opening :: (body ++ f.closing :: rest))) p.bump :=
    .advance (by rw [hp]; rfl)
  have h₂ : p.bump.MovesTo (header ++ f.opening :: (body ++ f.closing :: rest)) p.bump.bump :=
    .advance (by rw [h₁.ahead_eq]; rfl)
  let p₃ := p.bump.bump.skipUntil isOpenBrace
  have h₃ : p.bump.bump.MovesTo (f.opening :: (body ++ f.closing :: rest)) p₃ :=
    .skipUntil h₂.ahead_eq hheader (decide_eq_true f.opening_kind)
  have h₄ : p₃.MovesTo (body ++ f.closing :: rest) p₃.bump := .advance (by rw [h₃.ahead_eq]; rfl)
  -- the parser has moved up to the body, with the source and the final token it had
  have hmoves := ((h₁.trans h₂).trans h₃).trans h₄
  rw [← hmoves.ahead_eq, ← hmoves.source_eq, ← hmoves.final_eq] at hrow
  obtain ⟨s, hs, hbody⟩ := classBody_of_row hrow
  have hclosing : Ahead.atMark .closeBrace s.ahead = true := by
    rw [hs.ahead_eq]
    exact decide_eq_true f.closing_kind
  have h₅ : s.MovesTo rest s.bump := .advance (by rw [hs.ahead_eq]; rfl)
  refine ⟨s.bump, ?_, (hmoves.trans hs).trans h₅⟩
  rw [classRest, bind_expect hp f.keyword_kind, bind_expect h₁.ahead_eq f.name_kind, bind_modify,
    bind_expect h₃.ahead_eq f.opening_kind, bind, hbody, bind, classBody_of_closeBrace hclosing]
  dsimp only [pure]
  rw [List.append_nil, bind_expect hs.ahead_eq f.closing_kind]
  rfl

/-- A class is found behind what stands in front of it. -/
theorem exists_of_typeDeclaration {decl : ClassDecl}
    (h : typeDeclaration p = (.present (some decl), q)) :
    ∃ head rest, Prelude.read p.source p.ahead = .found head rest ∧ rest <:+ p.ahead ∧
      classRest p.precedingComment head (p.settle rest) = (.present decl, q) := by
  obtain ⟨head, rest, hread, hrest, h⟩ := exists_declarationRest h
  unfold declarationRest at h
  split at h
  · cases h
  · obtain ⟨found, r, hclass, hr⟩ := exists_of_bind_eq_present h
    obtain ⟨hdecl, rfl⟩ := Prod.mk.inj hr
    obtain rfl := Option.some.inj (Outcome.present.inj hdecl)
    exact ⟨head, rest, hread, hrest, hclass⟩

/-- Where the keyword of a class comes behind what stands in front of it, the class is found. -/
theorem typeDeclaration_of_classRest {decl : ClassDecl} {rest : List Token}
    (hread : Prelude.read p.source p.ahead = .found head rest) (hrest : rest <:+ p.ahead)
    (hkeyword : Ahead.kind rest = .keyword .classWord)
    (h : classRest p.precedingComment head (p.settle rest) = (.present decl, q)) :
    typeDeclaration p = (.present (some decl), q) := by
  have hskippable : Skippable.at? false (p.settle rest).ahead = none := by
    rw [Parser.ahead_settle hrest, Skippable.at?, hkeyword]
    rfl
  rw [typeDeclaration, reading, hread]
  dsimp only
  rw [declarationRest, hskippable]
  dsimp only
  rw [bind, h]
  rfl

/-- **A class that is read without a warning** takes what stands in front of it, its members in a
row, and its last brace. -/
theorem exists_row_of_typeDeclaration {decl : ClassDecl} {ts : List Token}
    (hfinal : p.final.kind = .endOfInput) (h : typeDeclaration p = (.present (some decl), q))
    (hwarnings : q.warnings = p.warnings) (hp : p.ahead = ts ++ q.ahead) :
    ∃ (f : ClassFrame) (before header body : List Token) (head : Prelude) (members : List Member),
      ts = before ++ f.front header body ++ [f.closing] ∧
      Prelude.read p.source p.ahead =
        .found head (f.front header body ++ f.closing :: q.ahead) ∧
      (∀ t ∈ header, isOpenBrace t.kind = false) ∧
      Row p.source p.final (body ++ f.closing :: q.ahead) members (f.closing :: q.ahead) ∧
      decl = f.declBehind p.precedingComment head members := by
  obtain ⟨head, between, hread, hbetween, hclass⟩ := exists_of_typeDeclaration h
  obtain ⟨f, header, members, r, s, hahead, hheader, hmoves, hbody, hs, rfl, rfl⟩ :=
    exists_of_classRest (p := p.settle between) hfinal hclass
  rw [Parser.ahead_settle hbetween] at hahead
  have hrow : Row r.source r.final r.ahead members s.ahead :=
    row_of_classBody hbody (congrArg List.length (hwarnings.trans hmoves.warnings_eq.symm))
  obtain ⟨body, hbodyEq⟩ := hrow.rest_suffix
  obtain ⟨before, hbefore⟩ := hbetween
  have hfront : between = f.front header body ++ f.closing :: s.bump.ahead := by
    rw [hahead, ← hbodyEq, hs]
    simp [ClassFrame.front]
  refine ⟨f, before, header, body, head, members, ?_, hfront ▸ hread, hheader, ?_, rfl⟩
  · refine (List.append_left_inj s.bump.ahead).mp ?_
    rw [← hp, ← hbefore, hfront]
    simp
  · rw [← hbodyEq, hs, hmoves.source_eq, hmoves.final_eq] at hrow
    exact hrow

end Rule

end ClassSchema
