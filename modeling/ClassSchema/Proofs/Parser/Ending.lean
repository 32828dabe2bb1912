import ClassSchema.Proofs.Parser.Progress
import ClassSchema.Proofs.Parser.Start
import Mathlib.Logic.Basic

/-!
# How rules end

Every rule of the grammar keeps one contract. Where it finds its construct it has reported no error;
where its construct is absent it has reported just one, if none was reported before; and a fault is
a number that cannot be read, met before anything was reported. In all three cases the parser has
moved on in its tokens. The contract passes through `Rule.bind`, so it is shown once for each rule.
The two rules that repeat another are first shown to be binds as well, for which the guard against
standing still has to go, and then follow by induction on the tokens ahead.

The errors of a malformed member do not count: what was reported while it was read belongs to a
parser that is thrown away. That is why a rule can be found without an error although an annotation
was left open inside of a parameter.
-/

namespace ClassSchema

namespace Rule

variable {α β : Type} {p q : Parser}

/-- The contract of a rule that was started at `p`. -/
inductive EndsFrom (p : Parser) : Outcome α × Parser → Prop
  | present (value : α) {q : Parser} (moved : p.Onward q) (errors : q.errors = p.errors) :
    EndsFrom p (.present value, q)
  | absent {q : Parser} (moved : p.Onward q)
    (errors : p.errors = [] → ∃ c t, c ≠ Complaint.internal ∧ q.errors = [c.diagnosticAt t]) :
    EndsFrom p (.absent, q)
  | fault (cause : Numeral.TooLong) {q : Parser} (moved : p.Onward q) (errors : q.errors = p.errors)
    (blame : ∃ t ∈ p.ahead, t.kind = .number ∧ Numeral.IsLongInteger t.text) :
    EndsFrom p (.fault (.longNumeral cause), q)

namespace EndsFrom

theorem onward {result : Outcome α × Parser} (h : EndsFrom p result) : p.Onward result.2 := by
  cases h <;> assumption

/-- A rule that starts after some tokens were passed, and nothing was reported, may as well have
started before them. -/
theorem of_onward {result : Outcome α × Parser} (hpq : p.Onward q) (herrors : q.errors = p.errors)
    (h : EndsFrom q result) : EndsFrom p result := by
  cases h with
  | present value moved errors => exact .present value (hpq.trans moved) (errors.trans herrors)
  | absent moved errors =>
    exact .absent (hpq.trans moved) fun hnil ↦ errors (herrors.trans hnil)
  | fault cause moved errors blame =>
    obtain ⟨t, ht, hlong⟩ := blame
    exact .fault cause (hpq.trans moved) (errors.trans herrors)
      ⟨t, hpq.ahead_suffix.subset ht, hlong⟩

theorem bind {rule : Rule α} {next : α → Rule β} (hrule : EndsFrom p (rule p))
    (hnext : ∀ value q, rule p = (.present value, q) → p.Onward q → EndsFrom q (next value q)) :
    EndsFrom p (Rule.bind rule next p) := by
  unfold Rule.bind
  cases hresult : rule p with
  | mk outcome q =>
    rw [hresult] at hrule
    cases hrule with
    | present value moved errors => exact (hnext value q hresult moved).of_onward moved errors
    | absent moved errors => exact .absent moved errors
    | fault cause moved errors blame => exact .fault cause moved errors blame

theorem pure (value : α) : EndsFrom p (Rule.pure value p) := .present value (.refl p) rfl

end EndsFrom

/-! ## Single tokens and members -/

theorem expect_endsFrom (kind : Kind) {c : Complaint} (hc : c ≠ .internal) (p : Parser) :
    EndsFrom p (expect kind c p) := by
  unfold expect Parser.expect
  by_cases hat : p.isAt kind = true
  · rw [if_pos hat]
    exact .present _ (p.onward_advance 1) rfl
  · rw [if_neg hat]
    exact .absent (p.onward_complain c _) fun hnil ↦
      ⟨c, p.current, hc, Parser.errors_complain hnil c _⟩

theorem giveUp_endsFrom (why : Malformation) (p : Parser) : EndsFrom p (giveUp why p) :=
  .present _ ((p.onward_warn _).trans (Parser.onward_advance _ _)) rfl

theorem classMember_endsFrom (p : Parser) : EndsFrom p (classMember p) := by
  have hgrounded := MemberItem.read_grounded p.source p.final p.ahead
  unfold classMember
  split
  · exact .present _ (p.onward_settle _) rfl
  · rename_i rest _
    exact .present _ (((p.onward_settle rest).trans (Parser.onward_warn _ _)).trans
      (Parser.onward_advance _ _)) rfl
  · exact giveUp_endsFrom _ p
  · rename_i fault rest hread
    exact .fault _ (p.onward_settle _) rfl (hgrounded.longNumeral hread)
  · exact giveUp_endsFrom _ p
  · rename_i rest _
    dsimp only
    split
    · exact .absent ((p.onward_settle rest).trans (Parser.onward_complain _ _ _)) fun hnil ↦
        ⟨_, _, by decide, Parser.errors_complain (p := p.settle rest) hnil _ _⟩
    · exact giveUp_endsFrom _ p

/-! ## Classes -/

/-- The members of a class are a member and the members behind it. The guard is not needed, since a
member takes a token. -/
theorem classBody_eq (hend : endsBody p = false) :
    classBody p =
      bind classMember (fun decls ↦ bind classBody fun more ↦ pure (decls ++ more)) p := by
  rw [classBody, if_neg (ne_true_of_eq_false hend), bind]
  cases hmember : classMember p with
  | mk outcome q =>
    cases outcome with
    | present decls =>
      dsimp only
      rw [if_pos (length_ahead_classMember_lt hend hmember), bind]
      cases classBody q with
      | mk outcome r => cases outcome <;> rfl
    | absent => rfl
    | fault cause => rfl

theorem classBody_endsFrom (p : Parser) : EndsFrom p (classBody p) := by
  -- without the guard the induction has to be on the tokens ahead, of which a member takes one
  induction hn : p.ahead.length using Nat.strongRecOn generalizing p with
  | ind n ih =>
    cases hend : endsBody p with
    | true =>
      rw [classBody, if_pos hend]
      exact .pure []
    | false =>
      rw [classBody_eq hend]
      refine (classMember_endsFrom p).bind fun decls q hmember _ ↦ ?_
      have hlt := length_ahead_classMember_lt hend hmember
      exact (ih _ (hn ▸ hlt) q rfl).bind fun more r _ _ ↦ .pure _

/-- A class behind its keyword. -/
def classBehindKeyword (comment : Option Token) (head : Prelude) (classToken : Token) :
    Rule ClassDecl :=
  bind (expect .identifier .className) fun name ↦
  bind (modify (·.skipUntil isOpenBrace)) fun _ ↦
  bind (expect (.mark .openBrace) .classBody) fun _ ↦
  bind classBody fun members ↦
  bind (expect (.mark .closeBrace) .unclosedClassBody) fun _ ↦
  pure
    { name := name.text
      modifiers := head.modifiers
      annotations := head.annotations
      fields := Member.fields members
      methods := Member.methods members
      comment := (comment.or head.comment).map (·.text)
      line := classToken.line
      column := classToken.column }

theorem classRest_eq (comment : Option Token) (head : Prelude) :
    classRest comment head =
      bind (expect (.keyword .classWord) .classKeyword) (classBehindKeyword comment head) := rfl

theorem classBehindKeyword_endsFrom (comment : Option Token) (head : Prelude) (classToken : Token)
    (p : Parser) : EndsFrom p (classBehindKeyword comment head classToken p) := by
  refine (expect_endsFrom _ (by decide) p).bind fun name p _ _ ↦ ?_
  refine EndsFrom.bind (.present () (p.onward_advance _) rfl) fun _ p _ _ ↦ ?_
  refine (expect_endsFrom _ (by decide) p).bind fun _ p _ _ ↦ ?_
  refine (classBody_endsFrom p).bind fun members p _ _ ↦ ?_
  exact (expect_endsFrom _ (by decide) p).bind fun _ p _ _ ↦ .pure _

private theorem classRest_endsFrom (comment : Option Token) (head : Prelude) (p : Parser) :
    EndsFrom p (classRest comment head p) := by
  rw [classRest_eq]
  exact (expect_endsFrom _ (by decide) p).bind fun classToken p _ _ ↦
    classBehindKeyword_endsFrom comment head classToken p

private theorem declarationRest_endsFrom (start : Token) (comment : Option Token) (head : Prelude)
    (p : Parser) : EndsFrom p (declarationRest start comment head p) := by
  unfold declarationRest
  split
  · exact .present _ ⟨(p.onward_advance _).passed_append_ahead, (p.onward_advance _).ahead_suffix,
      rfl, rfl, rfl⟩ rfl
  · exact (classRest_endsFrom comment head p).bind fun _ _ _ _ ↦ .pure _

/-! ## Declarations -/

/-- What stands in front of a declaration is found without an error, or it is absent, and then an
error has been reported only for arguments that are left open. -/
private theorem readPrelude_cases (p : Parser) :
    (∃ head rest, reading Prelude.read p = (.present head, p.settle rest)) ∨
      (∃ rest, reading Prelude.read p = (.absent, p.settle rest)) ∨
      (∃ rest, reading Prelude.read p = (.absent, (p.settle rest).complain .unclosedArguments)) ∨
      ∃ fault rest, reading Prelude.read p = (.fault (.longNumeral fault), p.settle rest) ∧
        ∃ t ∈ p.ahead, t.kind = .number ∧ Numeral.IsLongInteger t.text := by
  have hgrounded := Prelude.read_grounded p.source p.ahead
  unfold reading
  cases hread : Prelude.read p.source p.ahead with
  | found head rest => exact .inl ⟨head, rest, rfl⟩
  | missed cause rest =>
    cases cause with
    | absent => exact .inr (.inl ⟨rest, rfl⟩)
    | malformed why => exact .inr (.inl ⟨rest, rfl⟩)
    | unclosedArguments => exact .inr (.inr (.inl ⟨rest, rfl⟩))
    | longNumeral fault =>
      exact .inr (.inr (.inr ⟨fault, rest, rfl, hgrounded.longNumeral hread⟩))

theorem hasErrors_of_errors_eq_nil (h : p.errors = []) : p.hasErrors = false := by
  rw [Parser.hasErrors, h]
  rfl

private theorem hasErrors_of_errors_eq_complaint {c : Complaint} {t : Token} {message : String}
    (h : p.errors = [c.diagnosticAt t message]) : p.hasErrors = true := by
  rw [Parser.hasErrors, h]
  rfl

theorem typeDeclaration_endsFrom (p : Parser) : EndsFrom p (typeDeclaration p) := by
  unfold typeDeclaration
  rcases readPrelude_cases p with ⟨head, rest, h⟩ | ⟨rest, h⟩ | ⟨rest, h⟩ | ⟨fault, rest, h, blame⟩
  · rw [h]
    exact (declarationRest_endsFrom _ _ head _).of_onward (p.onward_settle rest) rfl
  · rw [h]
    dsimp only
    split
    · rename_i hsome
      refine .absent (p.onward_settle rest) fun hnil ↦ ?_
      rw [hasErrors_of_errors_eq_nil (p := p.settle rest) hnil] at hsome
      cases hsome
    · exact .absent ((p.onward_settle rest).trans (Parser.onward_complain _ _ _)) fun hnil ↦
        ⟨_, _, by decide, Parser.errors_complain (p := p.settle rest) hnil _ _⟩
  · -- the arguments were complained of already, so the missing class is not
    rw [h]
    have hmoved := (p.onward_settle rest).trans
      ((p.settle rest).onward_complain .unclosedArguments "")
    dsimp only
    split
    · exact .absent hmoved fun hnil ↦
        ⟨_, _, by decide, Parser.errors_complain (p := p.settle rest) hnil _ _⟩
    · rename_i hnone
      refine .absent (hmoved.trans (Parser.onward_complain _ _ _)) fun hnil ↦ absurd ?_ hnone
      exact hasErrors_of_errors_eq_complaint
        (Parser.errors_complain (p := p.settle rest) hnil .unclosedArguments "")
  · rw [h]
    exact .fault fault (p.onward_settle rest) rfl blame

/-- A declaration that is found, or passed over, comes behind what stands in front of it. -/
theorem exists_declarationRest {decl : Option ClassDecl}
    (h : typeDeclaration p = (.present decl, q)) :
    ∃ head rest, Prelude.read p.source p.ahead = .found head rest ∧ rest <:+ p.ahead ∧
      declarationRest p.current p.precedingComment head (p.settle rest) = (.present decl, q) := by
  unfold typeDeclaration reading at h
  cases hread : Prelude.read p.source p.ahead with
  | missed cause rest =>
    rw [hread] at h
    cases cause <;> cases h
  | found head rest =>
    rw [hread] at h
    exact ⟨head, rest, rfl, (Prelude.read_grounded _ _).suffix_of_found hread, h⟩

/-- **A declaration takes a token**, also one that is passed over. -/
theorem length_ahead_typeDeclaration_lt {decl : Option ClassDecl}
    (hfinal : p.final.kind = .endOfInput) (h : typeDeclaration p = (.present decl, q)) :
    q.ahead.length < p.ahead.length := by
  obtain ⟨head, rest, -, -, h⟩ := exists_declarationRest h
  -- at least the keyword of the declaration is passed over
  refine Nat.lt_of_lt_of_le ?_ (p.onward_settle rest).ahead_suffix.length_le
  unfold declarationRest at h
  split at h
  · rename_i what hwhat
    obtain ⟨-, rfl⟩ := Prod.mk.inj h
    obtain ⟨u, us, hahead, hu⟩ := Skippable.exists_cons_of_at? hwhat
    rw [Parser.skipTypeDeclaration_eq]
    exact Parser.length_ahead_skipToMemberEnd_lt
      (p := { p.settle rest with skipped := _ }) hahead hu
  · obtain ⟨decl, r, hclass, hr⟩ := exists_of_bind_eq_present h
    obtain ⟨-, rfl⟩ := Prod.mk.inj hr
    rw [classRest_eq] at hclass
    obtain ⟨classToken, r', hkeyword, hbehind⟩ := exists_of_bind_eq_present hclass
    obtain ⟨hne, rfl⟩ := expect_eq_present (p := p.settle rest) hfinal (by simp) hkeyword
    have hmoved := (classBehindKeyword_endsFrom p.precedingComment head classToken
      (p.settle rest).bump).onward
    rw [hbehind] at hmoved
    exact Nat.lt_of_le_of_lt hmoved.ahead_suffix.length_le (length_drop_lt hne Nat.one_pos)

/-! ## Files -/

theorem length_ahead_toDeclaration_lt {decl : Option ClassDecl}
    (hfinal : p.final.kind = .endOfInput) (h : typeDeclaration p = (.present decl, q)) :
    (toDeclaration q).ahead.length < p.ahead.length := by
  refine Nat.lt_of_le_of_lt ?_ (length_ahead_typeDeclaration_lt hfinal h)
  exact (q.onward_advance _).ahead_suffix.length_le

/-- The classes of a file are those of a declaration and of the declarations behind it. Here too the
guard is not needed. -/
theorem classesFrom_eq (hfinal : p.final.kind = .endOfInput) :
    classesFrom p =
      bind typeDeclaration (fun decl q ↦
        if (toDeclaration q).atEnd then (.present decl.toList, toDeclaration q)
        else bind classesFrom (fun more ↦ pure (decl.toList ++ more)) (toDeclaration q)) p := by
  rw [classesFrom, bind]
  cases hdecl : typeDeclaration p with
  | mk outcome q =>
    cases outcome with
    | present decl =>
      dsimp only
      rw [if_pos (length_ahead_toDeclaration_lt hfinal hdecl), bind]
      congr 1
      cases classesFrom (toDeclaration q) with
      | mk outcome r => cases outcome <;> rfl
    | absent => rfl
    | fault cause => rfl

theorem classesFrom_endsFrom (p : Parser) (hfinal : p.final.kind = .endOfInput) :
    EndsFrom p (classesFrom p) := by
  induction hn : p.ahead.length using Nat.strongRecOn generalizing p with
  | ind n ih =>
    rw [classesFrom_eq hfinal]
    refine (typeDeclaration_endsFrom p).bind fun decl q hdecl hmoved ↦ ?_
    have hnext : q.Onward (toDeclaration q) := q.onward_advance _
    have hlt := length_ahead_toDeclaration_lt hfinal hdecl
    split
    · exact .present _ hnext rfl
    · have hrest := ih _ (hn ▸ hlt) (toDeclaration q) (hmoved.final_eq ▸ hfinal) rfl
      exact (hrest.bind fun more r _ _ ↦ .pure _).of_onward hnext rfl

/-- `R p classes q` can be shown of a file, where `classes` are found on the way from `p` to `q`: it
holds of a declaration and of tokens that are passed over, and of two ways when one follows the
other. -/
structure Gathers (R : Parser → List ClassDecl → Parser → Prop) : Prop where
  advance : ∀ p n, R p [] (p.advance n)
  typeDeclaration : ∀ {p q decl}, p.final.kind = .endOfInput →
    typeDeclaration p = (.present decl, q) → R p decl.toList q
  append : ∀ {p q r classes more}, q.ahead <:+ p.ahead → R p classes q → R q more r →
    R p (classes ++ more) r

namespace Gathers

variable {R : Parser → List ClassDecl → Parser → Prop}

private theorem classesFrom {classes : List ClassDecl} (hR : Gathers R)
    (hfinal : p.final.kind = .endOfInput) (h : classesFrom p = (.present classes, q)) :
    R p classes q := by
  -- each round takes a token, as in `classesFrom_endsFrom`
  induction hn : p.ahead.length using Nat.strongRecOn generalizing p classes with
  | ind n ih =>
    rw [classesFrom_eq hfinal] at h
    obtain ⟨decl, r, hdecl, hbehind⟩ := exists_of_bind_eq_present h
    have hmoved := (typeDeclaration_endsFrom p).onward
    rw [hdecl] at hmoved
    have hround : R p decl.toList (toDeclaration r) := by
      rw [← List.append_nil decl.toList]
      exact hR.append hmoved.ahead_suffix (hR.typeDeclaration hfinal hdecl) (hR.advance r _)
    split at hbehind
    · obtain ⟨hclasses, rfl⟩ := Prod.mk.inj hbehind
      obtain rfl := Outcome.present.inj hclasses
      exact hround
    · obtain ⟨more, r', hmore, hr'⟩ := exists_of_bind_eq_present hbehind
      obtain ⟨hclasses, rfl⟩ := Prod.mk.inj hr'
      obtain rfl := Outcome.present.inj hclasses
      have hlt := length_ahead_toDeclaration_lt hfinal hdecl
      have hlater := ih _ (hn ▸ hlt) (p := toDeclaration r) (hmoved.final_eq ▸ hfinal) hmore rfl
      exact hR.append ((r.onward_advance _).ahead_suffix.trans hmoved.ahead_suffix) hround hlater

theorem compilationUnit {tree : CompilationUnit} (hR : Gathers R)
    (hfinal : p.final.kind = .endOfInput) (h : compilationUnit p = (.present tree, q)) :
    R p tree.classes q := by
  unfold Rule.compilationUnit at h
  dsimp only at h
  split at h
  · -- there is no declaration, so all tokens are passed over
    obtain ⟨htree, rfl⟩ := Prod.mk.inj h
    obtain rfl := Outcome.present.inj htree
    exact hR.advance p _
  · obtain ⟨classes, r, hclasses, hr⟩ := exists_of_bind_eq_present h
    obtain ⟨htree, rfl⟩ := Prod.mk.inj hr
    obtain rfl := Outcome.present.inj htree
    exact hR.append (p.onward_advance _).ahead_suffix (hR.advance p _)
      (hR.classesFrom (p := toDeclaration p) hfinal hclasses)

end Gathers

theorem compilationUnit_endsFrom (p : Parser) (hfinal : p.final.kind = .endOfInput) :
    EndsFrom p (compilationUnit p) := by
  have hmoved : p.Onward (toDeclaration p) := p.onward_advance _
  unfold compilationUnit
  dsimp only
  split
  · exact .present _ hmoved rfl
  · have hclasses := classesFrom_endsFrom (toDeclaration p) hfinal
    exact (hclasses.bind fun _ _ _ _ ↦ .pure _).of_onward hmoved rfl

end Rule

/-! ## The end of a parse -/

namespace ParsedUnit

/-- **A parse ends with a tree or with one error.** Whatever the tokens, there is a tree and no
error has been reported, or there is no tree and there is a single error, which concerns the syntax.
-/
theorem ofTokens_tree_xor_error (ts : List Token) (source : Option String) :
    Xor (∃ unit, (ofTokens ts source).tree = some unit ∧ (ofTokens ts source).errors = [])
      ((ofTokens ts source).tree = none ∧
        ∃ d, (ofTokens ts source).errors = [d] ∧ d.severity = .syntactic) := by
  have hends := Rule.compilationUnit_endsFrom (.ofTokens ts source)
    (Parser.final_ofTokens ts source)
  have hnil : (Parser.ofTokens ts source).errors = [] := rfl
  unfold ofTokens
  cases hresult : Rule.compilationUnit (.ofTokens ts source) with
  | mk outcome q =>
    rw [hresult] at hends
    cases hends with
    | present unit moved errors =>
      have herrors : q.errors = [] := errors.trans hnil
      refine .inl ⟨⟨unit, ?_, herrors⟩, fun ⟨_, d, hd, _⟩ ↦ ?_⟩
      · simp [Rule.hasErrors_of_errors_eq_nil herrors]
      · exact List.cons_ne_nil _ _ (hd.symm.trans herrors)
    | absent moved errors =>
      obtain ⟨c, t, -, herrors⟩ := errors hnil
      exact .inr ⟨⟨rfl, _, herrors, rfl⟩, fun ⟨_, h, _⟩ ↦ nomatch h⟩
    | fault cause moved errors blame =>
      have herrors := Parser.errors_complain (errors.trans hnil) .internal
        (ParseFault.longNumeral cause).message
      exact .inr ⟨⟨rfl, _, herrors, rfl⟩, fun ⟨_, h, _⟩ ↦ nomatch h⟩

end ParsedUnit

end ClassSchema
