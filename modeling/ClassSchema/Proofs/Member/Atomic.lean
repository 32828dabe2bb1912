import ClassSchema.Proofs.Parser.Termination

/-!
# Members are atomic

However far the attempt at a member gets, it leaves the parser in one of three states. The member is
kept, and nothing is reported. Or it is left out: all that is seen of it is one warning, and the
parser stands where passing over the member from its first token takes it, or, at a nested type,
where passing over the type from its keyword does. Or the class as a whole is given up with one
error. What was reported before is never touched.

The errors that an attempt met on its way are no part of this: a reading reports nothing, so giving
it up drops them, and only the rule for members decides what is reported.
-/

namespace ClassSchema

namespace MemberItem

variable {source : Option (List Char)} {final : Token} {head : Prelude} {ts rest : List Token}
  {what : Skippable}

private theorem readDeclared_ne_nestedType :
    readDeclared source final head ts ≠ .found (nestedType what) rest := by
  intro h
  obtain ⟨⟨decls, hdecls⟩, -⟩ := readDeclared_eq_found h
  cases hdecls

/-- Only what stands in front of a nested type is read. -/
theorem exists_prelude_of_nestedType (h : read source final ts = .found (nestedType what) rest) :
    ∃ head, Prelude.read source ts = .found head rest ∧ Skippable.at? true rest = some what := by
  unfold read at h
  split at h
  · cases h
  · split at h
    · cases h
    · obtain ⟨head, between, hprelude, hbehind⟩ := Reading.exists_of_andThen_eq_found h
      unfold readBehind at hbehind
      split at hbehind
      · cases hbehind
      · split at hbehind
        · cases hbehind
        · split at hbehind
          · rename_i what' hwhat
            obtain ⟨hitem, rfl⟩ := Reading.found.inj hbehind
            obtain rfl := MemberItem.nestedType.inj hitem
            exact ⟨head, hprelude, hwhat⟩
          · exact absurd hbehind readDeclared_ne_nestedType

end MemberItem

/-! ## The ways to end -/

/-- How the attempt at a member ends. -/
inductive MemberEnd
  | kept
  | leftOut
  | refused
deriving DecidableEq

namespace Rule

variable {p q : Parser}

/-- Where a member that starts at `p` is left behind when it is left out. -/
inductive PassesOver (p : Parser) : Parser → Prop
  | member : PassesOver p p.skipToMemberEnd
  | nestedType {head : Prelude} {rest : List Token} {what : Skippable}
    (front : reading Prelude.read p = (.present head, p.settle rest))
    (starts : Skippable.at? true rest = some what) :
    PassesOver p (p.settle rest).skipToMemberEnd

/-- The member was read, and nothing was reported. -/
structure KeepsMember (p : Parser) (result : Outcome (List Member) × Parser) : Prop where
  present : ∃ members, result.1 = .present members
  errors_eq : result.2.errors = p.errors
  warnings_eq : result.2.warnings = p.warnings
  moved : p.position < result.2.position

/-- The member was passed over with one warning. Nothing else has changed: the parser is the one
that passed over the member, with that warning. -/
structure LeavesOutMember (p : Parser) (result : Outcome (List Member) × Parser) : Prop where
  present : result.1 = .present []
  errors_eq : result.2.errors = p.errors
  landed : ∃ landing warning, PassesOver p landing ∧
    result.2 = { landing with warnings := p.warnings ++ [warning] }
  moved : p.position < result.2.position

/-- The member is the end of its class, with one error. -/
structure RefusesMember (p : Parser) (result : Outcome (List Member) × Parser) : Prop where
  absent : result.1 = .absent
  errors_eq : ∃ d, result.2.errors = p.errors ++ [d]
  warnings_eq : result.2.warnings = p.warnings

/-- The attempt that was started at `p` and came to `result` ended in a certain way. -/
def EndsAs (p : Parser) (result : Outcome (List Member) × Parser) : MemberEnd → Prop
  | .kept => KeepsMember p result
  | .leftOut => LeavesOutMember p result
  | .refused => RefusesMember p result

private theorem LeavesOutMember.warnings_ne {result : Outcome (List Member) × Parser}
    (h : LeavesOutMember p result) : result.2.warnings ≠ p.warnings := by
  obtain ⟨landing, warning, -, hresult⟩ := h.landed
  rw [hresult]
  intro hsame
  exact List.cons_ne_nil _ _ (List.append_right_eq_self.mp hsame)

/-- An attempt does not end in two ways. -/
theorem EndsAs.unique {result : Outcome (List Member) × Parser} {way other : MemberEnd}
    (h : EndsAs p result way) (h' : EndsAs p result other) : way = other := by
  have hkept : KeepsMember p result → ¬LeavesOutMember p result :=
    fun hkeep hleave ↦ hleave.warnings_ne hkeep.warnings_eq
  have hpresent {members : List Member} (hmembers : result.1 = .present members) :
      ¬RefusesMember p result :=
    fun hrefuse ↦ nomatch hmembers.symm.trans hrefuse.absent
  cases way <;> cases other
  case kept.kept | leftOut.leftOut | refused.refused => rfl
  case kept.leftOut => exact absurd h' (hkept h)
  case leftOut.kept => exact absurd h (hkept h')
  case kept.refused =>
    obtain ⟨_, hmembers⟩ := h.present
    exact absurd h' (hpresent hmembers)
  case refused.kept =>
    obtain ⟨_, hmembers⟩ := h'.present
    exact absurd h (hpresent hmembers)
  case leftOut.refused => exact absurd h' (hpresent h.present)
  case refused.leftOut => exact absurd h (hpresent h'.present)

/-! ## Every attempt ends -/

private theorem giveUp_leavesOut (why : Malformation) (hbody : endsBody p = false) :
    LeavesOutMember p (giveUp why p) where
  present := rfl
  errors_eq := rfl
  landed := ⟨p.skipToMemberEnd, why.message, .member, rfl⟩
  moved := by
    have hmoved := (giveUp_endsFrom why p).onward
    exact hmoved.position_lt (length_ahead_giveUp_lt why hbody)

private theorem reading_eq_present {α : Type} {read : Option (List Char) → List Token → Reading α}
    {value : α} {rest : List Token} (h : read p.source p.ahead = .found value rest) :
    reading read p = (.present value, p.settle rest) := by
  rw [reading, h]

private theorem exists_endsAs (herrors : p.errors = []) (hbody : endsBody p = false)
    (hshort : ∀ t ∈ p.ahead, t.kind = .number → ¬Numeral.IsLongInteger t.text) :
    ∃ way, EndsAs p (classMember p) way := by
  have hgrounded := MemberItem.read_grounded p.source p.final p.ahead
  cases hread : MemberItem.read p.source p.final p.ahead with
  | found item rest =>
    cases item with
    | members decls =>
      have hresult : classMember p = (.present decls, p.settle rest) := by
        rw [classMember, hread]
      rw [hresult]
      exact ⟨.kept, ⟨decls, rfl⟩, rfl, rfl, position_classMember_lt hbody hresult⟩
    | nestedType what =>
      obtain ⟨head, hfront, hwhat⟩ := MemberItem.exists_prelude_of_nestedType hread
      have hresult : classMember p = (.present [], ((p.settle rest).warn
          s!"Skipped nested {what.text} declaration").skipToMemberEnd) := by
        rw [classMember, hread, ← Parser.skipTypeDeclaration_eq]
      rw [hresult]
      exact ⟨.leftOut, rfl, rfl, ⟨_, _, .nestedType (reading_eq_present hfront) hwhat, rfl⟩,
        position_classMember_lt hbody hresult⟩
  | missed cause rest =>
    cases cause with
    | malformed why =>
      rw [classMember, hread]
      exact ⟨.leftOut, giveUp_leavesOut why hbody⟩
    | absent =>
      rw [classMember, hread]
      exact ⟨.leftOut, giveUp_leavesOut _ hbody⟩
    | longNumeral fault =>
      obtain ⟨t, ht, hkind, hlong⟩ := hgrounded.longNumeral hread
      exact absurd hlong (hshort t ht hkind)
    | unclosedArguments =>
      -- nothing was reported before, so the complaint is not taken for a repetition
      have hcomplaint := Parser.errors_complain (p := p.settle rest) herrors .unclosedArguments ""
      have hnew :
          p.errors.length < ((p.settle rest).complain .unclosedArguments).errors.length := by
        rw [hcomplaint, herrors]
        exact Nat.one_pos
      rw [classMember, hread]
      dsimp only
      rw [if_pos hnew]
      refine ⟨.refused, rfl,
        ⟨Complaint.unclosedArguments.diagnosticAt (p.settle rest).current, ?_⟩,
        Parser.warnings_complain _ _ _⟩
      rw [hcomplaint, herrors, List.nil_append]

/-- **A member is atomic.** Where no error has been reported, the parser stands inside of a class
body, and no integer ahead is too long to be read, an attempt at a member ends in just one of three
ways: it is kept and nothing is reported; it is left out with one warning and nothing else is left
of it; or its class is refused with one error. -/
theorem classMember_endsAs_unique (herrors : p.errors = []) (hbody : endsBody p = false)
    (hshort : ∀ t ∈ p.ahead, t.kind = .number → ¬Numeral.IsLongInteger t.text) :
    ∃! way, EndsAs p (classMember p) way := by
  obtain ⟨way, hway⟩ := exists_endsAs herrors hbody hshort
  exact ⟨way, hway, fun other hother ↦ hother.unique hway⟩

/-- The parameter of this method has an annotation that is left open. The member is left out all the
same, and the open annotation is no error. -/
theorem classMember_endsAs_leftOut_of_openParameter :
    let p := Parser.ofTokens (Token.tokenize "void f(@A( ; int b; \x7d")
    p.errors = [] ∧ endsBody p = false ∧ (∀ t ∈ p.ahead, t.kind ≠ .number) ∧
      (∃! way, EndsAs p (classMember p) way) ∧ EndsAs p (classMember p) .leftOut := by
  intro p
  have herrors : p.errors = [] := rfl
  have hbody : endsBody p = false := by decide +kernel
  have hshort : ∀ t ∈ p.ahead, t.kind ≠ .number := by decide +kernel
  have hunique := classMember_endsAs_unique herrors hbody fun t ht hkind ↦
    absurd hkind (hshort t ht)
  refine ⟨herrors, hbody, hshort, hunique, ?_⟩
  -- of the three ways only this one ends with a warning
  have hwarnings : (classMember p).2.warnings.length = 1 := by decide +kernel
  obtain ⟨way, hway, -⟩ := hunique
  cases way with
  | kept => exact absurd (hwarnings.symm.trans (congrArg List.length hway.warnings_eq)) (by decide)
  | leftOut => exact hway
  | refused =>
    exact absurd (hwarnings.symm.trans (congrArg List.length hway.warnings_eq)) (by decide)

end Rule

end ClassSchema
