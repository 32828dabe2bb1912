import ClassSchema.Proofs.Parser.Ending

/-!
# What a rule does not see

A parser keeps the tokens it has passed, but a rule looks back at them in one place only: the
comment of a class is looked for directly in front of it. So a rule that is started behind more
tokens comes to the same, as long as a comment is not looked for among them. `Rule.Ignores` says so
of a rule at a parser. The property passes through `Rule.bind`, and the two rules that repeat
another follow by induction on the tokens ahead.

The tokens that are put behind have to end with one that is neither white space nor a comment. A
look back then stops there with nothing, just as it does at the start of the input.
-/

namespace ClassSchema

namespace Parser

/-- The parser with more tokens passed, in front of those that it has passed. They come latest
first, as all tokens that a parser has passed. -/
def behind (p : Parser) (base : List Token) : Parser := { p with passed := p.passed ++ base }

variable (p : Parser) (base : List Token)

@[simp] theorem ahead_behind : (p.behind base).ahead = p.ahead := rfl

@[simp] private theorem final_behind : (p.behind base).final = p.final := rfl

@[simp] theorem source_behind : (p.behind base).source = p.source := rfl

@[simp] theorem current_behind : (p.behind base).current = p.current := rfl

@[simp] theorem errors_behind : (p.behind base).errors = p.errors := rfl

theorem advance_behind (n : Nat) : (p.behind base).advance n = (p.advance n).behind base := by
  rw [advance, advance, behind, behind]
  simp only [List.append_assoc]

theorem settle_behind (rest : List Token) :
    (p.behind base).settle rest = (p.settle rest).behind base := advance_behind p base _

private theorem report_behind (d : Diagnostic) :
    (p.behind base).report d = (p.report d).behind base := by
  rw [report, report, errors_behind]
  split
  · split <;> rfl
  · rfl

theorem complain_behind (c : Complaint) (message : String) :
    (p.behind base).complain c message = (p.complain c message).behind base :=
  report_behind p base _

/-- The latest of the tokens is one at which a look back for a comment ends. -/
def EndsLookBack (base : List Token) : Prop :=
  ∃ t ∈ base.head?, t.kind.isTrivia = false ∧ t.kind.isComment = false

variable {base}

theorem precedingComment_behind (hbase : EndsLookBack base) :
    (p.behind base).precedingComment = p.precedingComment := by
  obtain ⟨t, ht, htrivia, hcomment⟩ := hbase
  obtain ⟨others, rfl⟩ := List.head?_eq_some_iff.mp ht
  have hpassed : (p.behind (t :: others)).passed = p.passed ++ t :: others := rfl
  rw [precedingComment, precedingComment, hpassed, List.dropWhile_append]
  cases p.passed.dropWhile (·.kind.isTrivia) with
  | nil =>
    have hstops : (t :: others).dropWhile (·.kind.isTrivia) = t :: others :=
      List.dropWhile_cons_of_neg (ne_true_of_eq_false htrivia)
    rw [List.isEmpty_nil, if_pos rfl, hstops]
    exact if_neg (ne_true_of_eq_false hcomment)
  | cons u us => rfl

end Parser

namespace Rule

variable {α β : Type} {base : List Token} {p q : Parser}

/-- The rule comes to the same behind more tokens. -/
def Ignores (base : List Token) (rule : Rule α) (p : Parser) : Prop :=
  rule (p.behind base) = ((rule p).1, (rule p).2.behind base)

namespace Ignores

theorem pure (value : α) : Ignores base (Rule.pure value) p := rfl

theorem bind {rule : Rule α} {next : α → Rule β} (hrule : Ignores base rule p)
    (hnext : ∀ value q, rule p = (.present value, q) → Ignores base (next value) q) :
    Ignores base (Rule.bind rule next) p := by
  rw [Ignores, Rule.bind, hrule, Rule.bind]
  cases hresult : rule p with
  | mk outcome q =>
    cases outcome with
    | present value => exact hnext value q hresult
    | absent => rfl
    | fault cause => rfl

end Ignores

/-! ## Rules that look ahead only -/

private theorem expect_ignores (kind : Kind) (c : Complaint) (p : Parser) :
    Ignores base (expect kind c) p := by
  have hat : (p.behind base).isAt kind = p.isAt kind := rfl
  unfold Ignores expect Parser.expect
  rw [hat]
  cases p.isAt kind with
  | true => exact congrArg (Prod.mk _) (p.advance_behind base 1)
  | false => exact congrArg (Prod.mk _) (p.complain_behind base c "")

private theorem reading_ignores (read : Option (List Char) → List Token → Reading α) (p : Parser) :
    Ignores base (reading read) p := by
  unfold Ignores reading
  rw [Parser.source_behind, Parser.ahead_behind]
  split
  · rw [Parser.settle_behind]
  · rw [Parser.settle_behind, Parser.complain_behind]
  · rw [Parser.settle_behind]
  · rw [Parser.settle_behind]

private theorem skipUntil_ignores (stops : Kind → Bool) (p : Parser) :
    Ignores base (modify (·.skipUntil stops)) p :=
  congrArg (Prod.mk _) (p.advance_behind base _)

private theorem giveUp_ignores (why : Malformation) (p : Parser) : Ignores base (giveUp why) p :=
  congrArg (Prod.mk _) ((p.warn why.message).advance_behind base _)

private theorem classMember_ignores (p : Parser) : Ignores base classMember p := by
  unfold Ignores classMember
  rw [Parser.source_behind, Parser.ahead_behind, Parser.final_behind, Parser.current_behind,
    Parser.errors_behind]
  split
  · rw [Parser.settle_behind]
  · rw [Parser.settle_behind]
    exact congrArg (Prod.mk _) (((p.settle _).warn _).advance_behind base _)
  · exact giveUp_ignores _ p
  · rw [Parser.settle_behind]
  · exact giveUp_ignores _ p
  · dsimp only
    rw [Parser.settle_behind, Parser.complain_behind, Parser.errors_behind]
    split
    · rfl
    · exact giveUp_ignores _ p

/-! ## Classes and files -/

private theorem classBody_ignores (p : Parser) : Ignores base classBody p := by
  induction hn : p.ahead.length using Nat.strongRecOn generalizing p with
  | ind n ih =>
    have hends : endsBody (p.behind base) = endsBody p := rfl
    cases hend : endsBody p with
    | true =>
      rw [Ignores, classBody, classBody, hends, if_pos hend, if_pos hend]
    | false =>
      rw [Ignores, classBody_eq hend, classBody_eq (hends.trans hend)]
      refine (classMember_ignores p).bind fun decls q hmember ↦ ?_
      have hlt := length_ahead_classMember_lt hend hmember
      exact (ih _ (hn ▸ hlt) q rfl).bind fun _ _ _ ↦ .pure _

private theorem classRest_ignores (comment : Option Token) (head : Prelude) (p : Parser) :
    Ignores base (classRest comment head) p := by
  refine (expect_ignores _ _ p).bind fun _ p _ ↦ ?_
  refine (expect_ignores _ _ p).bind fun _ p _ ↦ ?_
  refine (skipUntil_ignores _ p).bind fun _ p _ ↦ ?_
  refine (expect_ignores _ _ p).bind fun _ p _ ↦ ?_
  refine (classBody_ignores p).bind fun _ p _ ↦ ?_
  exact (expect_ignores _ _ p).bind fun _ p _ ↦ .pure _

private theorem declarationRest_ignores (start : Token) (comment : Option Token) (head : Prelude)
    (p : Parser) : Ignores base (declarationRest start comment head) p := by
  unfold Ignores declarationRest
  rw [Parser.ahead_behind]
  split
  · rename_i what _
    let noted : Parser :=
      { p with skipped := p.skipped ++ [⟨what, start.line, start.column⟩] }
    exact congrArg (Prod.mk _) (noted.advance_behind base (Skip.toDeclarationEnd p.ahead))
  · exact (classRest_ignores comment head p).bind fun _ _ _ ↦ .pure _

private theorem typeDeclaration_ignores (hbase : Parser.EndsLookBack base) (p : Parser) :
    Ignores base typeDeclaration p := by
  unfold Ignores typeDeclaration
  rw [reading_ignores Prelude.read p, Parser.current_behind, p.precedingComment_behind hbase]
  cases reading Prelude.read p with
  | mk outcome q =>
    cases outcome with
    | present head => exact declarationRest_ignores _ _ head q
    | absent =>
      have herrors : (q.behind base).hasErrors = q.hasErrors := rfl
      dsimp only
      rw [herrors]
      split
      · rfl
      · rw [Parser.complain_behind]
    | fault cause => rfl

theorem toDeclaration_behind (p : Parser) :
    toDeclaration (p.behind base) = (toDeclaration p).behind base := p.advance_behind base _

private theorem classesFrom_ignores (hbase : Parser.EndsLookBack base) (p : Parser)
    (hfinal : p.final.kind = .endOfInput) : Ignores base classesFrom p := by
  induction hn : p.ahead.length using Nat.strongRecOn generalizing p with
  | ind n ih =>
    rw [Ignores, classesFrom_eq hfinal, classesFrom_eq (p := p.behind base) hfinal]
    refine (typeDeclaration_ignores hbase p).bind fun decl q hdecl ↦ ?_
    have hmoved := (typeDeclaration_endsFrom p).onward
    rw [hdecl] at hmoved
    have hlt := length_ahead_toDeclaration_lt hfinal hdecl
    have hdone : ((toDeclaration q).behind base).atEnd = (toDeclaration q).atEnd := rfl
    unfold Ignores
    dsimp only
    rw [toDeclaration_behind, hdone]
    split
    · rfl
    · exact (ih _ (hn ▸ hlt) (toDeclaration q) (hmoved.final_eq ▸ hfinal) rfl).bind
        fun _ _ _ ↦ .pure _

/-- **A file is read the same behind other tokens.** -/
theorem compilationUnit_ignores (hbase : Parser.EndsLookBack base) (p : Parser)
    (hfinal : p.final.kind = .endOfInput) : Ignores base compilationUnit p := by
  have hdone : ((toDeclaration p).behind base).atEnd = (toDeclaration p).atEnd := rfl
  unfold Ignores compilationUnit
  rw [toDeclaration_behind]
  dsimp only
  rw [hdone]
  split
  · rfl
  · exact (classesFrom_ignores hbase (toDeclaration p) hfinal).bind fun _ _ _ ↦ .pure _

end Rule

end ClassSchema
