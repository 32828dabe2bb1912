import ClassSchema.Proofs.Member.Lookahead

/-!
# What stands in front of the name of a field

A member that is read as a field has comments, annotations and modifiers, maybe type parameters, and
a type in front of the name of the field. These are found in the same way whatever comes behind the
name, as long as it does not make the member a method.
-/

namespace ClassSchema

/-! ## Types -/

/-- Stretches that end in front of a name, or earlier, are the same without the name. -/
def Stretch.EndsAtName (next : List Token → Stretch) : Prop :=
  ∀ ⦃front us : List Token⦄, Ahead.kind us = .identifier →
    (next (front ++ us)).complete = true → us <:+ (next (front ++ us)).rest →
      next (front ++ us) = (next front).append us

namespace Stretch.EndsAtName

variable {first next : List Token → Stretch}

private theorem andThen (hfirst : EndsAtName first) (hnext : EndsAtName next)
    (hground : ∀ ts, (next ts).rest <:+ ts) :
    EndsAtName fun ts ↦ (first ts).andThen next := by
  intro front us hus hcomplete hsuffix
  dsimp only at hcomplete hsuffix ⊢
  have hdone := TypeText.complete_of_complete_andThen hcomplete
  rw [complete_andThen hdone] at hcomplete
  rw [rest_andThen hdone] at hsuffix
  have happend := hfirst hus hdone (hsuffix.trans (hground _))
  rw [happend] at hcomplete hsuffix hdone ⊢
  exact andThen_append fun _ ↦ hnext hus hcomplete hsuffix

end Stretch.EndsAtName

namespace TypeText

variable {front us : List Token}

theorem not_suffix_of_suffix {ts : List Token} {t : Token} (h : ts <:+ us) :
    ¬t :: us <:+ ts := fun hsuffix ↦
  Nat.not_succ_le_self us.length (hsuffix.length_le.trans h.length_le)

private theorem head_endsAtName : Stretch.EndsAtName head := by
  intro front us hus hcomplete hsuffix
  cases front with
  | nil =>
    cases us with
    | nil => cases hus
    | cons u us =>
      rw [List.nil_append, head] at hcomplete hsuffix
      split at hsuffix
      · exact absurd hsuffix (not_suffix_of_suffix (List.suffix_refl us))
      · rename_i hstarts
        rw [if_neg hstarts] at hcomplete
        cases hcomplete
  | cons t front =>
    rw [List.cons_append, head, head]
    split <;> rfl

/-- In front of a name no dot is left alone, since it would have taken the name. -/
theorem isMark_dot_of_rest_dottedNames {name t : Token} {isName : Kind → Bool}
    (hname : isName name.kind = true)
    (hsuffix : name :: us <:+ (Ahead.dottedNames isName (front ++ name :: us)).2)
    (ht : (Ahead.dottedNames isName front).2 = [t]) : t.isMark .dot = false := by
  fun_induction Ahead.dottedNames isName front with
  | case1 dot name' rest hpair names behind heq ih =>
    rw [heq] at ih
    refine ih ?_ ht
    rwa [List.cons_append, List.cons_append, Ahead.dottedNames, if_pos hpair] at hsuffix
  | case2 => cases ht
  | case3 ts hshort =>
    subst ht
    rw [Bool.eq_false_iff]
    intro hdot
    have hpair : (t.isMark .dot && isName name.kind) = true :=
      Bool.and_eq_true_iff.mpr ⟨hdot, hname⟩
    rw [List.singleton_append, Ahead.dottedNames, if_pos hpair] at hsuffix
    exact not_suffix_of_suffix (Ahead.dottedNames_rest_suffix isName us) hsuffix

private theorem path_endsAtName : Stretch.EndsAtName path := by
  intro front us hus _ hsuffix
  cases us with
  | nil => cases hus
  | cons name us =>
    exact path_append (endsType_of_identifier hus) (.inl fun t ht ↦
      isMark_dot_of_rest_dottedNames (decide_eq_true hus) hsuffix ht)

private theorem angleGroup_endsAtName (depth : Nat) : Stretch.EndsAtName (angleGroup depth) := by
  intro front us hus hcomplete hsuffix
  refine angleGroup_append depth (.inl ?_)
  -- each token of `front` is taken in the same way, whatever comes behind `front`
  induction front generalizing depth with
  | nil =>
    cases us with
    | nil => cases hus
    | cons u us =>
      have hrest : (angleGroup depth (u :: us)).rest <:+ us := by
        have hmark := Token.isMark_eq_false_of_kind (t := u) hus fun _ ↦ Kind.noConfusion
        rw [angleGroup, hmark, hmark, if_neg Bool.false_ne_true, if_neg Bool.false_ne_true,
          show u.kind = .identifier from hus]
        exact ⟨_, divides_angleGroup depth us⟩
      exact absurd hsuffix (not_suffix_of_suffix hrest)
  | cons t front ih =>
    rw [List.cons_append, angleGroup] at hcomplete hsuffix
    rw [angleGroup]
    dsimp only at hcomplete hsuffix ⊢
    split
    · rename_i hopen
      rw [if_pos hopen] at hcomplete hsuffix
      exact ih _ hcomplete hsuffix
    · rename_i hopen
      rw [if_neg hopen] at hcomplete hsuffix
      split
      · rename_i hclose
        rw [if_pos hclose] at hcomplete hsuffix
        split
        · rfl
        · rename_i hdepth
          rw [if_neg hdepth] at hcomplete hsuffix
          exact ih _ hcomplete hsuffix
      · rename_i hclose
        rw [if_neg hclose] at hcomplete hsuffix
        split
        · rename_i hends
          rw [if_pos hends] at hcomplete
          cases hcomplete
        · rename_i hends
          rw [if_neg hends] at hcomplete hsuffix
          exact ih _ hcomplete hsuffix

private theorem arguments_endsAtName : Stretch.EndsAtName arguments := by
  intro front us hus hcomplete hsuffix
  cases front with
  | nil => exact arguments_append (endsType_of_identifier hus) (.inl rfl)
  | cons t front =>
    have hsame :
        Ahead.atMark .openAngle (t :: front ++ us) = Ahead.atMark .openAngle (t :: front) := rfl
    rw [arguments, hsame] at hcomplete hsuffix ⊢
    rw [arguments]
    split
    · rename_i hopen
      rw [if_pos hopen] at hcomplete hsuffix
      exact angleGroup_endsAtName 0 hus hcomplete hsuffix
    · rfl

private theorem dimensions_endsAtName : Stretch.EndsAtName dimensions := by
  intro front us hus hcomplete hsuffix
  clear hsuffix
  refine dimensions_append (endsType_of_identifier hus) (.inl ?_)
  fun_induction dimensions front with
  | case1 => rfl
  | case2 t hopen =>
    cases us with
    | nil => cases hus
    | cons u us =>
      have hclose : u.isMark .closeBracket = false :=
        Token.isMark_eq_false_of_kind hus (fun _ ↦ Kind.noConfusion) _
      rw [List.singleton_append, dimensions, if_pos hopen] at hcomplete
      dsimp only at hcomplete
      rw [if_neg (ne_true_of_eq_false hclose)] at hcomplete
      cases hcomplete
  | case3 t hopen u ts hclose s ih =>
    rw [List.cons_append, List.cons_append, dimensions, if_pos hopen] at hcomplete
    dsimp only at hcomplete
    rw [if_pos hclose] at hcomplete
    exact ih hcomplete
  | case4 t hopen u ts hclose =>
    rw [List.cons_append, List.cons_append, dimensions, if_pos hopen] at hcomplete
    dsimp only at hcomplete
    rw [if_neg hclose] at hcomplete
    cases hcomplete
  | case5 => rfl

private theorem ellipsis_endsAtName : Stretch.EndsAtName ellipsis := fun _ _ hus _ _ ↦
  ellipsis_append (endsType_of_identifier hus)

private theorem scan_endsAtName : Stretch.EndsAtName scan :=
  .andThen (.andThen (.andThen (.andThen head_endsAtName path_endsAtName
    fun ts ↦ ⟨_, divides_path ts⟩) arguments_endsAtName fun ts ↦ ⟨_, divides_arguments ts⟩)
    dimensions_endsAtName fun ts ↦ ⟨_, divides_dimensions ts⟩) ellipsis_endsAtName
    fun ts ↦ ⟨_, divides_ellipsis ts⟩

/-- **A type that ends in front of a name** is all that stands there. -/
theorem isType_of_read {type : String} (hus : Ahead.kind us = .identifier)
    (h : read (front ++ us) = .found type us) : IsType front ∧ type = join front := by
  have hscan : (scan (front ++ us)).complete = true ∧ (scan (front ++ us)).rest = us := by
    rw [read] at h
    split at h
    · rename_i hcomplete
      exact ⟨hcomplete, (Reading.found.inj h).2⟩
    · cases h
  have happend := scan_endsAtName hus hscan.1 (hscan.2.symm ▸ List.suffix_refl us)
  rw [happend] at hscan
  have htype : IsType front := ⟨hscan.1, List.append_left_eq_self.mp hscan.2⟩
  exact ⟨htype, (Reading.found.inj ((read_append htype hus).symm.trans h)).1.symm⟩

end TypeText

/-! ## Members -/

namespace MemberItem

variable {source : Option (List Char)} {final : Token} {head : Prelude} {ts rest : List Token}
  {f : FieldDecl}

/-- Some tokens with a name and others behind it are read as a field, and with any others behind the
name they are read as the fields that these declare, unless they open the parameters of a method. -/
def ReadsField (read : Option (List Char) → Token → List Token → Reading MemberItem)
    (source : Option (List Char)) (head : Prelude) (ts rest : List Token) (f : FieldDecl) : Prop :=
  ∃ front type name more, ts = front ++ name :: more ∧ front ≠ [] ∧
    FieldDecl.readRest source head type name more = .found [f] rest ∧
    ∀ source' final' more', SameText front source source' → Ahead.atMark .openParen more' = false →
      read source' final' (front ++ name :: more') =
        (FieldDecl.readRest source' head type name more').map fun fields ↦
          members (fields.map .field)

private theorem typed_readsField
    (h : readDeclared.typed source final head ts = .found (members [.field f]) rest) :
    ReadsField (readDeclared.typed · · head) source head ts rest f := by
  obtain ⟨type, between, htype, htyped⟩ := Reading.exists_of_andThen_eq_found h
  replace htype := Reading.eq_found_of_orMalformed htype
  obtain ⟨front, rfl⟩ := (TypeText.read_grounded ts).suffix_of_found htype
  change readTyped source head type between = _ at htyped
  unfold readTyped at htyped
  split at htyped
  · cases htyped
  · rename_i name more
    split at htyped
    · rename_i hname
      split at htyped
      · obtain ⟨m, hm, -⟩ := Reading.exists_of_map_eq_found htyped
        cases hm
      · obtain ⟨fields, hfields, hread⟩ := Reading.exists_of_map_eq_found htyped
        obtain ⟨g, rfl, hg⟩ := List.map_eq_singleton_iff.mp (members.inj hfields)
        obtain rfl : g = f := Member.field.inj hg
        -- the type ends at the name, so it is the same whatever comes behind the name
        have hkind : Ahead.kind (name :: more) = .identifier := of_decide_eq_true hname
        obtain ⟨hfront, rfl⟩ := TypeText.isType_of_read hkind htype
        refine ⟨front, TypeText.join front, name, more, rfl, ?_, hread,
          fun source' final' more' _ hmore ↦ ?_⟩
        · rintro rfl
          cases hfront.1
        · have hkind' : Ahead.kind (name :: more') = .identifier := hkind
          dsimp only
          rw [typed_eq, TypeText.read_append hfront hkind']
          exact (if_pos hname).trans (if_neg (ne_true_of_eq_false hmore))
    · cases htyped

/-- Another way to read that comes to the same behind some tokens, which it decides on these and
the next two. -/
theorem ReadsField.behind
    {read other : Option (List Char) → Token → List Token → Reading MemberItem}
    (skipped : List Token) (h : ReadsField read source head ts rest f)
    (heq : ∀ ⦃source' final' ts'⦄, SameText skipped source source' → SameAhead ts ts' →
      other source' final' (skipped ++ ts') = read source' final' ts') :
    ReadsField other source head (skipped ++ ts) rest f := by
  obtain ⟨front, type, name, more, rfl, hne, hread, hfront⟩ := h
  refine ⟨skipped ++ front, type, name, more, (List.append_assoc ..).symm,
    List.append_ne_nil_of_right_ne_nil _ hne, hread, fun source' final' more' htext hmore ↦ ?_⟩
  have hsame : SameAhead (front ++ name :: more) (front ++ name :: more') := by
    match front with
    | [] => exact absurd rfl hne
    | [t] => rfl
    | t :: u :: front => rfl
  rw [List.append_assoc, heq (htext.mono (List.prefix_append skipped front).isInfix) hsame]
  exact hfront source' final' more' (htext.mono (List.suffix_append skipped front).isInfix) hmore

private theorem readDeclared_readsField
    (h : readDeclared source final head ts = .found (members [.field f]) rest) :
    ReadsField (readDeclared · · head) source head ts rest f := by
  cases hconstructor : Ahead.atNameWith .openParen ts with
  | false =>
    rw [readDeclared_of_no_constructor source final head hconstructor] at h
    exact (typed_readsField h).behind [] fun source' final' ts' _ hsame ↦
      readDeclared_of_no_constructor source' final' head
        ((hsame.atNameWith_eq .openParen).trans hconstructor)
  | true =>
    obtain ⟨name, paren, ts, rfl, -, -⟩ := Ahead.exists_eq_cons_of_atNameWith hconstructor
    rw [readDeclared_of_constructor source final head hconstructor] at h
    obtain ⟨m, hm, -⟩ := Reading.exists_of_map_eq_found h
    cases hm

private theorem readGeneric_readsField
    (h : readGeneric source final head ts = .found (members [.field f]) rest) :
    ReadsField (readGeneric · · head) source head ts rest f := by
  unfold readGeneric at h
  split at h
  · rename_i hangle
    have hsplit : ts.take (Skip.balanced ts) ++ ts.drop (Skip.balanced ts) = ts :=
      List.take_append_drop _ ts
    generalize hskipped : ts.take (Skip.balanced ts) = skipped at hsplit
    generalize hbehind : ts.drop (Skip.balanced ts) = behind at h hsplit
    subst hsplit
    refine (readDeclared_readsField h).behind skipped fun source' final' ts' _ hsame ↦ ?_
    have hangle' := ((hsame.append skipped).atMark_eq .openAngle).trans hangle
    rw [readGeneric, if_pos hangle', Skip.balanced_append_of_sameAhead hsame hbehind,
      List.drop_left]
  · rename_i hangle
    refine (readDeclared_readsField h).behind [] fun source' final' ts' _ hsame ↦ ?_
    exact if_neg (fun hangle' ↦ hangle ((hsame.atMark_eq .openAngle).symm.trans hangle'))

private theorem readOpen_readsField
    (h : readOpen source final head ts = .found (members [.field f]) rest) :
    ReadsField (readOpen · · head) source head ts rest f := by
  unfold readOpen at h
  split at h
  · cases h
  · rename_i hnone
    refine (readGeneric_readsField h).behind [] fun source' final' ts' _ hsame ↦ ?_
    have hnone' : Skippable.at? true ts' = none := by
      rw [← hnone, Skippable.at?, Skippable.at?, hsame.kind_eq, hsame.kindAt_eq]
    rw [List.nil_append, readOpen, hnone']

private theorem readBehind_readsField
    (h : readBehind source final head ts = .found (members [.field f]) rest) :
    ReadsField (readBehind · · head) source head ts rest f := by
  rw [readBehind_eq] at h
  split at h
  · cases h
  · rename_i hover
    split at h
    · cases h
    · rename_i hopen
      refine (readOpen_readsField h).behind [] fun source' final' ts' _ hsame ↦ ?_
      rw [List.nil_append, readBehind_eq, hsame.atMark_eq, hsame.atMark_eq, hsame.isEmpty_eq,
        if_neg hover, if_neg hopen]

/-- **What stands in front of the name of a field** is found whatever comes behind the name. -/
theorem read_readsField (h : read source final ts = .found (members [.field f]) rest) :
    ∃ head, ReadsField read source head ts rest f := by
  unfold read at h
  split at h
  · cases h
  · rename_i hsemicolon
    split at h
    · cases h
    · rename_i hopen
      obtain ⟨head, between, hprelude, hbehind⟩ := Reading.exists_of_andThen_eq_found h
      obtain ⟨skipped, rfl⟩ := (Prelude.read_grounded source ts).suffix_of_found hprelude
      refine ⟨head, (readBehind_readsField hbehind).behind skipped
        fun source' final' ts' htext hsame ↦ ?_⟩
      have hall := hsame.append skipped
      rw [read, hall.atMark_eq, hall.atMark_eq, if_neg hsemicolon, if_neg hopen,
        (Prelude.read_looksTwoAhead skipped).found_append htext hsame hprelude]
      rfl

end MemberItem

end ClassSchema
