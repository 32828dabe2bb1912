import ClassSchema.Proofs.Member.Atomic
import ClassSchema.Proofs.Member.Row

/-!
# Malformed members

The attempt at a malformed member is given up, and the parser passes over the member up to its
semicolon, with one warning. Whether an attempt is given up does not depend on what stands behind
the semicolon if it ends in front of it, since the reading of a member is local. Nor does it depend
on the comments in front of the member: they change what a member carries, not whether it is one.
-/

namespace ClassSchema

namespace Reading

variable {α β : Type} {r : Reading α} {cause : Miss} {rest : List Token}

theorem map_eq_missed_iff {f : α → β} : r.map f = .missed cause rest ↔ r = .missed cause rest := by
  cases r with
  | found value rest => exact iff_of_false nofun nofun
  | missed cause rest => simp [map, andThen]

theorem andThen_eq_missed_iff {next : α → List Token → Reading β} :
    r.andThen next = .missed cause rest ↔ r = .missed cause rest ∨
      ∃ value between, r = .found value between ∧ next value between = .missed cause rest := by
  cases r with
  | found value between =>
    refine ⟨fun h ↦ .inr ⟨value, between, rfl, h⟩, ?_⟩
    rintro (h | ⟨_, _, h, hnext⟩)
    · cases h
    · obtain ⟨rfl, rfl⟩ := Reading.found.inj h
      exact hnext
  | missed cause rest => simp [andThen]

end Reading

/-! ## Whether a member is missed does not depend on what stands in front of it -/

variable {source : Option (List Char)} {final : Token} {head head' : Prelude} {cause : Miss}
  {ts rest : List Token}

theorem MethodDecl.readRest_eq_missed_iff {returnType : Option String} {name : Token} :
    readRest source head returnType name ts = .missed cause rest ↔
      readRest source head' returnType name ts = .missed cause rest := by
  simp only [readRest, Reading.andThen_eq_missed_iff, Reading.map_eq_missed_iff]

private theorem FieldDecl.readSemicolon_eq_missed_iff {fields : List FieldDecl}
    {why : Malformation} :
    readSemicolon fields why ts = .missed cause rest ↔
      Ahead.atMark .semicolon ts = false ∧ Miss.malformed why = cause ∧ ts = rest := by
  unfold readSemicolon
  split <;> simp_all

private theorem FieldDecl.readRest_eq_missed_iff {type : String} {name : Token} :
    readRest source head type name ts = .missed cause rest ↔
      readRest source head' type name ts = .missed cause rest := by
  obtain ⟨fields, why, heq⟩ := readRest_eq source type name
  simp only [heq, Reading.andThen_eq_missed_iff, readSemicolon_eq_missed_iff]

namespace MemberItem

private theorem readTyped_eq_missed_iff {type : String} :
    readTyped source head type ts = .missed cause rest ↔
      readTyped source head' type ts = .missed cause rest := by
  unfold readTyped
  split
  · exact Iff.rfl
  · split
    · split
      · rw [Reading.map_eq_missed_iff, Reading.map_eq_missed_iff,
          MethodDecl.readRest_eq_missed_iff]
      · rw [Reading.map_eq_missed_iff, Reading.map_eq_missed_iff,
          FieldDecl.readRest_eq_missed_iff]
    · exact Iff.rfl

private theorem readDeclared_eq_missed_iff :
    readDeclared source final head ts = .missed cause rest ↔
      readDeclared source final head' ts = .missed cause rest := by
  have htyped : readDeclared.typed source final head ts = .missed cause rest ↔
      readDeclared.typed source final head' ts = .missed cause rest := by
    rw [typed_eq, typed_eq, Reading.andThen_eq_missed_iff, Reading.andThen_eq_missed_iff]
    exact or_congr Iff.rfl (exists_congr fun type ↦ exists_congr fun between ↦
      and_congr Iff.rfl readTyped_eq_missed_iff)
  unfold readDeclared
  split
  · split
    · rw [Reading.map_eq_missed_iff, Reading.map_eq_missed_iff, MethodDecl.readRest_eq_missed_iff]
    · exact htyped
  · exact htyped

private theorem readBehind_eq_missed_iff (hempty : head.isEmpty = head'.isEmpty) :
    readBehind source final head ts = .missed cause rest ↔
      readBehind source final head' ts = .missed cause rest := by
  unfold readBehind
  rw [hempty]
  split
  · exact iff_of_false nofun nofun
  · split
    · exact iff_of_false nofun nofun
    · split
      · exact iff_of_false nofun nofun
      · exact readDeclared_eq_missed_iff

private theorem readBehind_of_at? {what : Skippable} (h : Skippable.at? true ts = some what) :
    readBehind source final head ts = .found (nestedType what) ts := by
  obtain ⟨t, us, rfl, hclose⟩ := Skippable.exists_cons_of_at? h
  have hopen : Ahead.atMark .openBrace (t :: us) = false := by
    refine decide_eq_false fun hkind ↦ ?_
    rw [Skippable.at?, hkind] at h
    cases h
  rw [readBehind, hopen, show Ahead.atMark .closeBrace (t :: us) = false from hclose,
    List.isEmpty_cons, Bool.or_false, Bool.and_false, if_neg Bool.false_ne_true,
    if_neg Bool.false_ne_true, h]

end MemberItem

/-! ## Comments in front of a member -/

theorem Skip.endsHeader_of_isComment {kind : Kind} (h : kind.isComment = true) :
    endsHeader kind = false := by
  rw [Bool.eq_false_iff]
  intro hbar
  rcases kind_of_endsHeader hbar with rfl | rfl | rfl <;> cases h

namespace Prelude

/-- The same with a comment for a declaration that has none of its own. -/
def withComment (head : Prelude) (comment : Option Token) : Prelude :=
  { head with comment := head.comment.or comment }

private theorem readFrom_withComment (sofar : Prelude) (comment : Option Token) (ts : List Token) :
    readFrom source (sofar.withComment comment) ts =
      (readFrom source sofar ts).map (·.withComment comment) := by
  fun_induction readFrom source sofar ts with
  | case1 sofar => rw [readFrom]; rfl
  | case2 sofar t rest hcomment ih =>
    rw [readFrom, if_pos hcomment]
    exact ih
  | case3 sofar t rest hcomment hstarts use more huse ih =>
    rw [readFrom_of_startsAnnotations source _ (Bool.eq_false_iff.mpr hcomment) hstarts, huse]
    exact ih
  | case4 sofar t rest hcomment hstarts cause more huse =>
    rw [readFrom_of_startsAnnotations source _ (Bool.eq_false_iff.mpr hcomment) hstarts, huse]
    rfl
  | case5 sofar t rest hcomment hstarts hmodifier ih =>
    rw [readFrom, if_neg hcomment, if_neg hstarts, if_pos hmodifier]
    exact ih
  | case6 sofar t rest hcomment hstarts hmodifier =>
    rw [readFrom, if_neg hcomment, if_neg hstarts, if_neg hmodifier]
    rfl

theorem read_comments (source : Option (List Char)) {comments : List Token}
    (hcomments : ∀ t ∈ comments, t.kind.isComment = true) (ts : List Token) :
    ∃ comment, read source (comments ++ ts) = (read source ts).map (·.withComment comment) := by
  have hread (first : Option Token) :
      ∃ comment, readFrom source { comment := first } (comments ++ ts) =
        readFrom source { comment := comment } ts := by
    induction comments generalizing first with
    | nil => exact ⟨first, rfl⟩
    | cons t comments ih =>
      rw [List.forall_mem_cons] at hcomments
      rw [List.cons_append, readFrom, if_pos hcomments.1]
      exact ih hcomments.2 (some t)
  obtain ⟨comment, h⟩ := hread none
  exact ⟨comment, h.trans (readFrom_withComment {} comment ts)⟩

end Prelude

namespace MemberItem

theorem read_of_not_barred (h : ¬Barred ts) :
    read source final ts = (Prelude.read source ts).andThen (readBehind source final) := by
  have hnot {m : Mark} (hm : Skip.endsHeader (.mark m) = true) : ¬Ahead.atMark m ts = true := by
    intro hat
    refine h ?_
    rw [Barred, of_decide_eq_true hat]
    exact hm
  rw [read, if_neg (hnot rfl), if_neg (hnot rfl)]

variable {comments : List Token}

theorem not_barred_comments (hcomments : ∀ t ∈ comments, t.kind.isComment = true)
    (h : ¬Barred ts) : ¬Barred (comments ++ ts) := by
  cases comments with
  | nil => exact h
  | cons t comments =>
    exact ne_true_of_eq_false (Skip.endsHeader_of_isComment (hcomments t List.mem_cons_self))

/-- **Comments do not change** whether a member is given up. -/
theorem read_comments_of_missed (hcomments : ∀ t ∈ comments, t.kind.isComment = true)
    (hts : ¬Barred ts) (h : read source final ts = .missed cause rest) :
    read source final (comments ++ ts) = .missed cause rest := by
  obtain ⟨comment, hprelude⟩ := Prelude.read_comments source hcomments ts
  rw [read_of_not_barred hts] at h
  rw [read_of_not_barred (not_barred_comments hcomments hts), hprelude]
  cases hread : Prelude.read source ts with
  | missed cause rest =>
    rw [hread] at h
    obtain ⟨rfl, rfl⟩ := Reading.missed.inj h
    rfl
  | found head between =>
    rw [hread] at h
    have hempty : head.isEmpty = (head.withComment comment).isEmpty := rfl
    exact (readBehind_eq_missed_iff hempty).mp h

private theorem read_comments_of_nestedType {what : Skippable}
    (hcomments : ∀ t ∈ comments, t.kind.isComment = true) (hts : ¬Barred ts)
    (h : read source final ts = .found (nestedType what) rest) :
    read source final (comments ++ ts) = .found (nestedType what) rest := by
  obtain ⟨comment, hprelude⟩ := Prelude.read_comments source hcomments ts
  obtain ⟨head, hhead, hwhat⟩ := exists_prelude_of_nestedType h
  rw [read_of_not_barred (not_barred_comments hcomments hts), hprelude, hhead]
  exact readBehind_of_at? hwhat

end MemberItem

/-! ## Passing over a malformed member -/

private theorem Skip.toMemberEnd_append_semicolon {ts : List Token} {semicolon : Token}
    (hts : ∀ t ∈ ts, endsHeader t.kind = false) (hsemicolon : semicolon.kind = .mark .semicolon)
    (us : List Token) : toMemberEnd (ts ++ semicolon :: us) = ts.length + 1 := by
  rw [toMemberEnd_append hts, toMemberEnd_of_semicolon (decide_eq_true hsemicolon)]

theorem subset_of_append_suffix {ts us rest : List Token} (h : rest ++ us <:+ ts ++ us) :
    rest ⊆ ts := by
  obtain ⟨taken, htaken⟩ := h
  rw [← List.append_assoc] at htaken
  exact List.append_cancel_right htaken ▸ List.subset_append_right taken rest

namespace MemberItem

/-- A member without a semicolon or a brace of its own that is left out where it stands in front of
`behind`, after an attempt that ended in front of its semicolon. -/
structure Malformed (source : Option (List Char)) (final : Token) (member : List Token)
    (semicolon : Token) (behind : List Token) : Prop where
  noBar : ∀ t ∈ member, Skip.endsHeader t.kind = false
  semicolon_kind : semicolon.kind = .mark .semicolon
  stays : semicolon :: behind <:+ (read source final (member ++ semicolon :: behind)).rest
  leftOut : ∀ {cause rest}, read source final (member ++ semicolon :: behind) =
    .missed cause rest → cause = .absent ∨ ∃ why, cause = .malformed why

namespace Malformed

variable {member behind behind' : List Token} {semicolon : Token} {decls : List Member}

/-- **A malformed member is malformed** in front of any tokens. -/
theorem move (h : Malformed source final member semicolon behind) (behind' : List Token) :
    Malformed source final member semicolon behind' := by
  have hbar : SameBar (semicolon :: behind) (semicolon :: behind') :=
    .intro behind behind' (by rw [h.semicolon_kind]; rfl)
  obtain ⟨r, hr, hr'⟩ := read_local source final member hbar h.stays
  refine ⟨h.noBar, h.semicolon_kind, ?_, fun hmissed ↦ ?_⟩
  · rw [hr', Reading.rest_append]
    exact List.suffix_append _ _
  · cases r with
    | found value rest => cases hr'.symm.trans hmissed
    | missed cause rest =>
      obtain ⟨rfl, -⟩ := Reading.missed.inj (hr'.symm.trans hmissed)
      exact h.leftOut hr

private theorem not_barred (h : Malformed source final member semicolon behind) :
    ¬Barred (member ++ semicolon :: behind) := by
  cases member with
  | nil =>
    -- the semicolon alone is passed over, so the reading did not end in front of it
    have hsemicolon : Ahead.atMark .semicolon (semicolon :: behind) = true :=
      decide_eq_true h.semicolon_kind
    have hstays := h.stays
    rw [List.nil_append, read, if_pos hsemicolon] at hstays
    exact absurd hstays.length_le (Nat.not_succ_le_self _)
  | cons t member => exact ne_true_of_eq_false (h.noBar t List.mem_cons_self)

private theorem ne_members (h : Malformed source final member semicolon behind) :
    read source final (member ++ semicolon :: behind) ≠ .found (members decls) rest := by
  intro hread
  have hstays := h.stays
  rw [hread] at hstays
  obtain ⟨rest, rfl⟩ := hstays
  have hne : rest ++ semicolon :: behind ≠ [] := by simp
  rcases read_endsMember hread with ⟨_, hprelude, -, -, hend⟩ | hends
  · -- in front of the end of the body there is no semicolon
    have hsuffix := (Prelude.read_grounded source _).suffix_of_found hprelude
    have hclose := hend.resolve_right hne
    cases rest with
    | nil =>
      have hkind : semicolon.kind = .mark .closeBrace := of_decide_eq_true hclose
      cases h.semicolon_kind.symm.trans hkind
    | cons t rest =>
      have ht := h.noBar t (subset_of_append_suffix hsuffix List.mem_cons_self)
      have hkind : t.kind = .mark .closeBrace := of_decide_eq_true hclose
      rw [hkind] at ht
      cases ht
  · -- a member that is found ends with a bar of its own
    obtain ⟨front, hfront, ⟨bar, hmem, hbar⟩, -⟩ := hends.exists_front hne hread
    rw [← List.append_assoc] at hfront
    have hbar' := h.noBar bar (List.append_cancel_right hfront ▸ List.mem_append_left rest hmem)
    rw [Skip.endsHeader_of_endsMember hbar] at hbar'
    cases hbar'

end Malformed

end MemberItem

namespace Rule

variable {p q : Parser} {member comments behind : List Token} {semicolon : Token}
  {decls : List Member}

/-- A member that did not end the parse, in an attempt that ended in front of its semicolon, is
malformed. -/
theorem malformed_of_classMember (hmember : ∀ t ∈ member, Skip.endsHeader t.kind = false)
    (hsemicolon : semicolon.kind = .mark .semicolon)
    (hp : p.ahead = member ++ semicolon :: behind) (herrors : p.errors = [])
    (hpresent : classMember p = (.present decls, q))
    (hstays : semicolon :: behind <:+ (MemberItem.read p.source p.final p.ahead).rest) :
    MemberItem.Malformed p.source p.final member semicolon behind := by
  refine ⟨hmember, hsemicolon, hp ▸ hstays, fun {cause rest} hread ↦ ?_⟩
  rw [← hp] at hread
  cases cause with
  | absent => exact .inl rfl
  | malformed why => exact .inr ⟨why, rfl⟩
  | unclosedArguments =>
    have hnew : p.errors.length < ((p.settle rest).complain .unclosedArguments).errors.length := by
      rw [Parser.errors_complain (p := p.settle rest) herrors, herrors]
      exact Nat.one_pos
    rw [classMember, hread] at hpresent
    dsimp only at hpresent
    rw [if_pos hnew] at hpresent
    cases hpresent
  | longNumeral fault =>
    rw [classMember, hread] at hpresent
    cases hpresent

/-- **A malformed member is passed over**, with the comments in front of it and no more. There is
one warning and nothing else is left of it. -/
theorem classMember_of_malformed (hcomments : ∀ t ∈ comments, t.kind.isComment = true)
    (hp : p.ahead = comments ++ (member ++ semicolon :: behind))
    (h : MemberItem.Malformed p.source p.final member semicolon behind) :
    ∃ q warning, classMember p = (.present [], q) ∧ (p.warn warning).MovesTo behind q := by
  have hend {front : List Token} (hfront : ∀ t ∈ front, Skip.endsHeader t.kind = false) :
      (front ++ semicolon :: behind).drop (Skip.toMemberEnd (front ++ semicolon :: behind)) =
        behind := by
    rw [Skip.toMemberEnd_append_semicolon hfront h.semicolon_kind, ← List.drop_drop,
      List.drop_left]
    rfl
  have hgiveUp (why : Malformation) : (p.warn why.message).MovesTo behind (giveUp why p).2 := by
    refine .advance ?_
    rw [show (p.warn why.message).ahead = p.ahead from rfl, hp, ← List.append_assoc, hend]
    intro t ht
    rcases List.mem_append.mp ht with ht | ht
    · exact Skip.endsHeader_of_isComment (hcomments t ht)
    · exact h.noBar t ht
  -- the attempt is judged without the comments, which the parser has in front of it
  cases hread : MemberItem.read p.source p.final (member ++ semicolon :: behind) with
  | found item rest =>
    cases item with
    | members decls => exact absurd hread h.ne_members
    | nestedType what =>
      have hstays := h.stays
      rw [hread] at hstays
      obtain ⟨front, rfl⟩ := hstays
      have hcontext := MemberItem.read_comments_of_nestedType hcomments h.not_barred hread
      rw [← hp] at hcontext
      have hahead :
          (p.settle (front ++ semicolon :: behind)).ahead = front ++ semicolon :: behind :=
        Parser.ahead_settle ((MemberItem.read_grounded _ _ _).suffix_of_found hcontext)
      have hfront : ∀ t ∈ front, Skip.endsHeader t.kind = false := fun t ht ↦
        h.noBar t (subset_of_append_suffix
          ((MemberItem.read_grounded _ _ _).suffix_of_found hread) ht)
      have hbehind := hend hfront
      rw [← hahead] at hbehind
      let warning := s!"Skipped nested {what.text} declaration"
      refine ⟨((p.settle (front ++ semicolon :: behind)).warn warning).skipToMemberEnd, warning,
        ?_, hbehind, rfl, rfl, rfl, rfl, rfl⟩
      rw [classMember, hcontext, ← Parser.skipTypeDeclaration_eq]
  | missed cause rest =>
    have hcontext := MemberItem.read_comments_of_missed hcomments h.not_barred hread
    rw [← hp] at hcontext
    rcases h.leftOut hread with rfl | ⟨why, rfl⟩
    · refine ⟨_, _, ?_, hgiveUp (.arguments p.current.line)⟩
      rw [classMember, hcontext]
      rfl
    · refine ⟨_, _, ?_, hgiveUp why⟩
      rw [classMember, hcontext]
      rfl

end Rule

end ClassSchema
