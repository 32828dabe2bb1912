import ClassSchema.Proofs.Parser.Ending

/-!
# The parser ends

Two rules repeat another one, and both are guarded: a round that leaves the parser where it was
would end the parse with a fault. The guards are never needed. A member that was found has taken a
token, also when it was malformed: reading it is given up, and what is passed over from its start on
is not empty. The same holds for a declaration. So the two loops are the ones without a guard,
neither has an endless run, and the one fault that is left is an integer that is too long to be
read.

The other loops are recursions of the readings. Each of them takes tokens off the front and leaves
an end of the tokens that it was started on.
-/

namespace ClassSchema

namespace Rule

variable {p q : Parser}

/-! ## Rounds -/

/-- The parser at a member of a class and behind it, as the members of a class are read. -/
def MemberRound (p q : Parser) : Prop :=
  endsBody p = false ∧ ∃ members, classMember p = (.present members, q)

/-- The parser at a declaration and at the next one, as the declarations of a file are read. -/
def DeclarationRound (p q : Parser) : Prop :=
  p.final.kind = .endOfInput ∧
    ∃ decl r, typeDeclaration p = (.present decl, r) ∧ toDeclaration r = q ∧ q.atEnd = false

theorem position_classMember_lt {members : List Member} (hp : endsBody p = false)
    (h : classMember p = (.present members, q)) : p.position < q.position := by
  have hmoved := (classMember_endsFrom p).onward
  rw [h] at hmoved
  exact hmoved.position_lt (length_ahead_classMember_lt hp h)

private theorem position_typeDeclaration_lt {decl : Option ClassDecl}
    (hfinal : p.final.kind = .endOfInput) (h : typeDeclaration p = (.present decl, q)) :
    p.position < q.position := by
  have hmoved := (typeDeclaration_endsFrom p).onward
  rw [h] at hmoved
  exact hmoved.position_lt (length_ahead_typeDeclaration_lt hfinal h)

private theorem memberRound_wellFounded : WellFounded fun q p ↦ MemberRound p q := by
  refine Subrelation.wf ?_ (InvImage.wf (·.ahead.length) Nat.lt_wfRel.wf)
  rintro q p ⟨hend, members, h⟩
  exact length_ahead_classMember_lt hend h

private theorem declarationRound_wellFounded : WellFounded fun q p ↦ DeclarationRound p q := by
  refine Subrelation.wf ?_ (InvImage.wf (·.ahead.length) Nat.lt_wfRel.wf)
  rintro q p ⟨hfinal, decl, r, h, rfl, -⟩
  exact length_ahead_toDeclaration_lt hfinal h

private theorem EndsFrom.ne_stalled {α : Type} {outcome : Outcome α} {t : Token}
    (h : EndsFrom p (outcome, q)) : outcome ≠ .fault (.stalled t) := by
  rintro rfl
  cases h

end Rule

/-! ## What ends, and where -/

/-- The loops that are recursions of the readings, and the counts of the tokens to pass over, stay
inside of the tokens they are started on. -/
structure Reading.StaysInside (source : Option (List Char)) (ts : List Token) : Prop where
  prelude : (Prelude.read source ts).rest <:+ ts
  annotationUse : (Arguments.use source ts).rest <:+ ts
  arguments : (Arguments.read source ts).rest <:+ ts
  type : (TypeText.read ts).rest <:+ ts
  typeArguments : (TypeText.arguments ts).taken.length ≤ ts.length
  initializer : (Initializer.read source ts).rest <:+ ts
  parameters : (ParameterDecl.readList source ts).rest <:+ ts
  declarators (type : String) (name : Token) :
    (Declarator.readList source type name ts).rest <:+ ts
  member (final : Token) : (MemberItem.read source final ts).rest <:+ ts
  balanced : Skip.balanced ts ≤ ts.length
  upTo (stops : Kind → Bool) : Skip.upTo stops ts ≤ ts.length
  toMemberEnd : Skip.toMemberEnd ts ≤ ts.length
  search (target : Kind) (stops : Kind → Bool) : (Skip.search target stops ts).1 ≤ ts.length

private theorem Skip.search_le (target : Kind) (stops : Kind → Bool) (ts : List Token) :
    (search target stops ts).1 ≤ ts.length := by
  unfold search
  split
  · exact Nat.zero_le _
  · dsimp only
    have hle := upTo_le (fun kind ↦ kind = target || stops kind) ts
    split <;> exact hle

private theorem Reading.staysInside (source : Option (List Char)) (ts : List Token) :
    StaysInside source ts where
  prelude := (Prelude.read_grounded source ts).rest_suffix
  annotationUse := (Arguments.use_grounded source ts).rest_suffix
  arguments := (Arguments.read_grounded source ts).rest_suffix
  type := (TypeText.read_grounded ts).rest_suffix
  typeArguments := by
    have h := congrArg List.length (TypeText.divides_arguments ts)
    rw [List.length_append] at h
    omega
  initializer := (Initializer.read_grounded source ts).rest_suffix
  parameters := (ParameterDecl.readList_grounded source ts).rest_suffix
  declarators type name := (Declarator.readList_grounded source type name ts).rest_suffix
  member final := (MemberItem.read_grounded source final ts).rest_suffix
  balanced := Skip.balanced_le ts
  upTo stops := Skip.upTo_le stops ts
  toMemberEnd := Skip.toMemberEnd_le ts
  search target stops := Skip.search_le target stops ts

/-- How parsing some tokens comes to an end. The parsers are all those that stand somewhere in these
tokens, whatever has been reported to them. -/
structure ParsedUnit.Ends (ts : List Token) (source : Option String) : Prop where
  /-- A declaration that was found, or passed over, has moved the parser. -/
  declaration_moves : ∀ p q decl, (Parser.ofTokens ts source).Onward p →
    Rule.typeDeclaration p = (.present decl, q) → p.position < q.position
  /-- A member that was found, or given up, has moved the parser. -/
  member_moves : ∀ p q members, (Parser.ofTokens ts source).Onward p → Rule.endsBody p = false →
    Rule.classMember p = (.present members, q) → p.position < q.position
  /-- There is no endless run of declarations. -/
  declarations_end : WellFounded fun q p ↦ Rule.DeclarationRound p q
  /-- There is no endless run of members. -/
  members_end : WellFounded fun q p ↦ Rule.MemberRound p q
  /-- The guard of the loop over declarations is not needed. -/
  declarations_unguarded : ∀ p t, (Parser.ofTokens ts source).Onward p →
    (Rule.classesFrom p).1 ≠ .fault (.stalled t)
  /-- The guard of the loop over members is not needed. -/
  members_unguarded : ∀ p t, (Parser.ofTokens ts source).Onward p →
    (Rule.classBody p).1 ≠ .fault (.stalled t)
  /-- The loops of the readings end inside of their tokens. -/
  readings_end : ∀ chars us, Reading.StaysInside chars us
  /-- Without an integer that is too long there is no internal error. -/
  no_internal : (∀ t ∈ ts, t.kind = .number → ¬Numeral.IsLongInteger t.text) →
    ∀ d ∈ (ofTokens ts source).errors, d.code ≠ Complaint.internal.code

private theorem Complaint.code_ne_internal {c : Complaint} (h : c ≠ .internal) :
    c.code ≠ Complaint.internal.code := by
  cases c <;> first | exact absurd rfl h | decide

namespace ParsedUnit

/-- An internal error comes from an integer that is too long. -/
theorem code_ne_internal_of_mem_errors {ts : List Token} {source : Option String}
    (hshort : ∀ t ∈ ts, t.kind = .number → ¬Numeral.IsLongInteger t.text) :
    ∀ d ∈ (ofTokens ts source).errors, d.code ≠ Complaint.internal.code := by
  have hends := Rule.compilationUnit_endsFrom (.ofTokens ts source)
    (Parser.final_ofTokens ts source)
  have hnil : (Parser.ofTokens ts source).errors = [] := rfl
  unfold ofTokens
  intro d hd
  cases hresult : Rule.compilationUnit (.ofTokens ts source) with
  | mk outcome q =>
    rw [hresult] at hends hd
    cases hends with
    | present unit moved errors =>
      exact absurd hd (by simp [errors.trans hnil])
    | absent moved errors =>
      obtain ⟨c, t, hc, herrors⟩ := errors hnil
      dsimp only at hd
      rw [herrors, List.mem_singleton] at hd
      rw [hd]
      exact Complaint.code_ne_internal hc
    | fault cause moved errors blame =>
      obtain ⟨t, ht, hkind, hlong⟩ := blame
      exact absurd hlong (hshort t ((Parser.ahead_ofTokens_sublist ts source).subset ht) hkind)

/-- **Parsing ends.** Whatever the tokens, every round of the two guarded loops moves the parser,
their guards are never needed, the loops of the readings stay inside of their tokens, and only an
integer that is too long makes an internal error. -/
theorem ofTokens_ends (ts : List Token) (source : Option String) : Ends ts source where
  declaration_moves _ _ _ hp h :=
    Rule.position_typeDeclaration_lt (hp.final_eq ▸ Parser.final_ofTokens ts source) h
  member_moves _ _ _ _ hend h := Rule.position_classMember_lt hend h
  declarations_end := Rule.declarationRound_wellFounded
  members_end := Rule.memberRound_wellFounded
  declarations_unguarded p _ hp :=
    (Rule.classesFrom_endsFrom p (hp.final_eq ▸ Parser.final_ofTokens ts source)).ne_stalled
  members_unguarded p _ _ := (Rule.classBody_endsFrom p).ne_stalled
  readings_end := Reading.staysInside
  no_internal := code_ne_internal_of_mem_errors

end ParsedUnit

end ClassSchema
