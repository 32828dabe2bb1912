import ClassSchema.Proofs.Member.Local
import ClassSchema.Proofs.Written.Field

/-!
# Where members end

A member that was found ends with a semicolon or a block, and the reading of it was over when it
came there. So the tokens it takes are the same member whatever comes behind them. The one exception
is a comment that stands in front of the end of the body, which is no member but is passed over like
one.

That does not follow from the members being local, since the last token of a member is the bar
itself. It is shown from the end: the reading of a body or of the semicolon of a field ends so, and
what is read in front of it is local.
-/

namespace ClassSchema

/-- The tokens that end a member: a semicolon, or the brace that opens a block. -/
def Skip.endsMember (t : Token) : Bool := t.isMark .semicolon || t.isMark .openBrace

theorem Skip.endsHeader_of_endsMember {t : Token} (h : endsMember t = true) :
    endsHeader t.kind = true := by
  rcases Bool.or_eq_true_iff.mp h with h | h <;> rw [of_decide_eq_true h] <;> rfl

namespace Skip

/-- A group that is closed is the same group whatever comes behind it. -/
theorem groupLength_take_append {opener closer : Mark} {depth : Nat} {ts : List Token}
    (h : groupLength opener closer depth ts < ts.length) (us : List Token) :
    groupLength opener closer depth (ts.take (groupLength opener closer depth ts) ++ us) =
      groupLength opener closer depth ts := by
  -- the count ends inside of the tokens, so it never comes to what stands behind them
  induction ts generalizing depth with
  | nil => cases h
  | cons t ts ih =>
    rw [groupLength] at h ⊢
    split
    · rename_i hopener
      rw [if_pos hopener, List.length_cons] at h
      rw [List.take_succ_cons, List.cons_append, groupLength, if_pos hopener,
        ih (Nat.lt_of_succ_lt_succ h)]
    · rename_i hopener
      rw [if_neg hopener] at h
      split
      · rename_i hcloser
        rw [if_pos hcloser] at h
        split
        · rename_i hdepth
          rw [List.take_succ_cons, List.cons_append, groupLength, if_neg hopener, if_pos hcloser,
            if_pos hdepth]
        · rename_i hdepth
          rw [if_neg hdepth, List.length_cons] at h
          rw [List.take_succ_cons, List.cons_append, groupLength, if_neg hopener, if_pos hcloser,
            if_neg hdepth, ih (Nat.lt_of_succ_lt_succ h)]
      · rename_i hcloser
        rw [if_neg hcloser, List.length_cons] at h
        rw [List.take_succ_cons, List.cons_append, groupLength, if_neg hopener, if_neg hcloser,
          ih (Nat.lt_of_succ_lt_succ h)]

/-- What ends no header belongs to the member. -/
theorem toMemberEnd_append {ts : List Token} (hts : ∀ t ∈ ts, endsHeader t.kind = false)
    (us : List Token) : toMemberEnd (ts ++ us) = ts.length + toMemberEnd us := by
  induction ts with
  | nil => exact (Nat.zero_add _).symm
  | cons t ts ih =>
    rw [List.forall_mem_cons] at hts
    have hmark {m : Mark} (hm : endsHeader (.mark m) = true) : t.isMark m = false := by
      refine decide_eq_false fun hkind ↦ ?_
      rw [hkind, hm] at hts
      cases hts.1
    rw [List.cons_append, toMemberEnd, hmark rfl, hmark rfl, hmark rfl, if_neg Bool.false_ne_true,
      if_neg Bool.false_ne_true, if_neg Bool.false_ne_true, ih hts.2, List.length_cons,
      Nat.add_right_comm]

theorem toMemberEnd_of_semicolon {t : Token} (ht : t.isMark .semicolon = true) (ts : List Token) :
    toMemberEnd (t :: ts) = 1 := if_pos ht

theorem toMemberEnd_of_closeBrace {t : Token} (ht : t.isMark .closeBrace = true)
    (ts : List Token) : toMemberEnd (t :: ts) = 0 := by
  have hkind : t.kind = .mark .closeBrace := of_decide_eq_true ht
  simp [toMemberEnd, Token.isMark, hkind]

theorem toMemberEnd_eq_balanced {t : Token} (ht : t.isMark .openBrace = true) (ts : List Token) :
    toMemberEnd (t :: ts) = balanced (t :: ts) := by
  have hkind : t.kind = .mark .openBrace := of_decide_eq_true ht
  simp [toMemberEnd, Token.isMark, hkind]

theorem toMemberEnd_of_openBrace {t : Token} (ht : t.isMark .openBrace = true) (ts : List Token) :
    toMemberEnd (t :: ts) = groupLength .openBrace .closeBrace 0 (t :: ts) := by
  have hkind : t.kind = .mark .openBrace := of_decide_eq_true ht
  rw [toMemberEnd_eq_balanced ht, balanced, hkind]
  rfl

private theorem toMemberEnd_pos_of_endsMember {bar : Token} (hbar : endsMember bar = true)
    (behind : List Token) : 0 < toMemberEnd (bar :: behind) := by
  rcases Bool.or_eq_true_iff.mp hbar with hsemicolon | hopen
  · rw [toMemberEnd_of_semicolon hsemicolon]
    exact Nat.one_pos
  · rw [toMemberEnd_of_openBrace hopen]
    exact groupLength_pos ..

theorem toMemberEnd_take_append {bar : Token} {behind : List Token} (hbar : endsMember bar = true)
    (h : toMemberEnd (bar :: behind) < (bar :: behind).length) (us : List Token) :
    toMemberEnd ((bar :: behind).take (toMemberEnd (bar :: behind)) ++ us) =
      toMemberEnd (bar :: behind) := by
  rcases Bool.or_eq_true_iff.mp hbar with hsemicolon | hopen
  · rw [toMemberEnd_of_semicolon hsemicolon, List.take_succ_cons, List.cons_append,
      toMemberEnd_of_semicolon hsemicolon]
  · rw [toMemberEnd_of_openBrace hopen] at h ⊢
    have hgroup := groupLength_take_append h us
    obtain ⟨count, hcount⟩ := Nat.exists_eq_succ_of_ne_zero
      (Nat.ne_of_gt (groupLength_pos .openBrace .closeBrace 0 bar behind))
    rw [hcount] at hgroup ⊢
    rw [List.take_succ_cons, List.cons_append] at hgroup ⊢
    rw [toMemberEnd_of_openBrace hopen, hgroup]

end Skip

namespace Reading

variable {α β : Type} {read : List Token → Reading α} {ts : List Token} {value : α}

/-- A reading of `ts` that finds a value ends with a semicolon or a block, behind which it has not
looked. -/
def EndsMember (read : List Token → Reading α) (ts : List Token) (value : α) : Prop :=
  ∃ front bar behind, ts = front ++ bar :: behind ∧ Skip.endsMember bar = true ∧
    ∀ behind', read (front ++ bar :: behind') =
      .found value ((bar :: behind').drop (Skip.toMemberEnd (bar :: behind')))

namespace EndsMember

theorem semicolon {t : Token} {us : List Token} (ht : t.isMark .semicolon = true)
    (h : ∀ us, read (t :: us) = .found value us) : EndsMember read (t :: us) value := by
  refine ⟨[], t, us, rfl, Bool.or_eq_true_iff.mpr (.inl ht), fun us ↦ ?_⟩
  rw [Skip.toMemberEnd, if_pos ht]
  exact h us

theorem block {t : Token} {us : List Token} (ht : t.isMark .openBrace = true)
    (h : ∀ us, read (t :: us) = .found value ((t :: us).drop (Skip.balanced (t :: us)))) :
    EndsMember read (t :: us) value := by
  refine ⟨[], t, us, rfl, Bool.or_eq_true_iff.mpr (.inr ht), fun us ↦ ?_⟩
  have hkind : t.kind = .mark .openBrace := of_decide_eq_true ht
  rw [Skip.toMemberEnd, Token.isMark_of_kind hkind, Token.isMark_of_kind hkind,
    Token.isMark_of_kind hkind, if_neg (by decide), if_neg (by decide), if_pos (by decide)]
  exact h us

/-- A reading that comes to the same as the one of an end of the tokens. -/
theorem of_append {other : List Token → Reading α} (skipped : List Token)
    (h : EndsMember other ts value)
    (heq : ∀ front us us', ts = front ++ us → SameBar us us' →
      read (skipped ++ front ++ us') = other (front ++ us')) :
    EndsMember read (skipped ++ ts) value := by
  obtain ⟨front, bar, behind, rfl, hbar, hend⟩ := h
  refine ⟨skipped ++ front, bar, behind, by rw [List.append_assoc], hbar, fun behind' ↦ ?_⟩
  rw [heq front _ _ rfl (.intro behind behind' (Skip.endsHeader_of_endsMember hbar)), hend]

/-- Passing over tokens in front of what is read, whose number does not depend on what comes behind
a bar. -/
theorem behind {count : List Token → Nat} (hcount : Skip.Local count) (hle : count ts ≤ ts.length)
    (h : EndsMember read (ts.drop (count ts)) value) :
    EndsMember (fun ts ↦ read (ts.drop (count ts))) ts value := by
  have hsplit := List.take_append_drop (count ts) ts
  have hlength : (ts.take (count ts)).length = count ts := List.length_take_of_le hle
  have hend : EndsMember (fun ts ↦ read (ts.drop (count ts)))
      (ts.take (count ts) ++ ts.drop (count ts)) value := by
    refine h.of_append (ts.take (count ts)) fun front us us' hfront hbar ↦ ?_
    have hts : ts.take (count ts) ++ front ++ us = ts := by
      rw [List.append_assoc, ← hfront, hsplit]
    have hsame : count (ts.take (count ts) ++ front ++ us') = count ts := by
      rw [hcount (ts.take (count ts) ++ front) hbar, hts]
      rw [hts, List.length_append, hlength]
      exact Nat.le_add_right _ _
    rw [hsame, List.append_assoc, List.drop_left' hlength]
  rwa [hsplit] at hend

theorem andThen {next : α → List Token → Reading β} {rest : List Token} {value' : β}
    (hlocal : Local read) (hground : (read ts).GroundedIn ts) (hread : read ts = .found value rest)
    (h : EndsMember (next value) rest value') :
    EndsMember (fun ts ↦ (read ts).andThen next) ts value' := by
  obtain ⟨front, bar, behind, rfl, hbar, hend⟩ := h
  obtain ⟨taken, rfl⟩ := hground.suffix_of_found hread
  refine ⟨taken ++ front, bar, behind, by rw [List.append_assoc], hbar, fun behind' ↦ ?_⟩
  have hsame : SameBar (bar :: behind) (bar :: behind') :=
    .intro _ _ (Skip.endsHeader_of_endsMember hbar)
  rw [← List.append_assoc] at hread
  obtain ⟨r, hr, hr'⟩ := hlocal (taken ++ front) hsame (by rw [hread]; exact List.suffix_append ..)
  dsimp only
  rw [hr']
  rw [hread] at hr
  cases r with
  | missed cause rest => cases hr
  | found first rest =>
    obtain ⟨rfl, hrest⟩ := Reading.found.inj hr
    rw [← List.append_cancel_right hrest]
    exact hend behind'

theorem map (f : α → β) (h : EndsMember read ts value) :
    EndsMember (fun ts ↦ (read ts).map f) ts (f value) := by
  obtain ⟨front, bar, behind, rfl, hbar, hend⟩ := h
  refine ⟨front, bar, behind, rfl, hbar, fun behind' ↦ ?_⟩
  dsimp only
  rw [hend]
  rfl

/-- What a member has taken, if there is more behind it, is the member whatever comes there. -/
theorem exists_front (h : EndsMember read ts value) {rest : List Token} (hrest : rest ≠ [])
    (hread : read ts = .found value rest) :
    ∃ front, ts = front ++ rest ∧ (∃ bar ∈ front, Skip.endsMember bar = true) ∧
      ∀ us, read (front ++ us) = .found value us := by
  obtain ⟨front, bar, behind, rfl, hbar, hend⟩ := h
  let count := Skip.toMemberEnd (bar :: behind)
  have hbehind : (bar :: behind).drop count = rest :=
    (Reading.found.inj ((hend behind).symm.trans hread)).2
  have htake : (bar :: behind).take count = bar :: behind.take (count - 1) :=
    List.take_cons (Skip.toMemberEnd_pos_of_endsMember hbar behind)
  refine ⟨front ++ (bar :: behind).take count, ?_, ⟨bar, ?_, hbar⟩, fun us ↦ ?_⟩
  · rw [List.append_assoc, ← hbehind, List.take_append_drop]
  · rw [htake]
    exact List.mem_append_right _ List.mem_cons_self
  · -- there is more behind the member, so its end was found and is no end of the input
    have hlt : count < (bar :: behind).length := by
      have hpos := List.length_pos_iff.mpr hrest
      rw [← hbehind, List.length_drop] at hpos
      omega
    have hsame := Skip.toMemberEnd_take_append hbar hlt us
    have hlength : ((bar :: behind).take count).length = count :=
      List.length_take_of_le (Nat.le_of_lt hlt)
    rw [show Skip.toMemberEnd (bar :: behind) = count from rfl, htake, List.cons_append] at hsame
    rw [htake] at hlength
    rw [List.append_assoc, htake, List.cons_append, hend, hsame, ← List.cons_append,
      List.drop_left' hlength]

end EndsMember

end Reading

/-! ## Methods and fields -/

private theorem MethodDecl.skipBlock_endsMember {name : String} {ts rest : List Token}
    (h : skipBlock name ts = .found () rest) : Reading.EndsMember (skipBlock name) ts () := by
  unfold skipBlock at h
  cases ts with
  | nil => cases h
  | cons t us =>
    split at h
    · rename_i hopen
      exact .block hopen fun us ↦ if_pos hopen
    · rename_i hopen
      split at h
      · rename_i hsemicolon
        refine .semicolon hsemicolon fun us ↦ ?_
        exact (if_neg hopen).trans (if_pos hsemicolon)
      · cases h

private theorem MethodDecl.skipBody_endsMember {name : String} {ts rest : List Token}
    (h : skipBody name ts = .found () rest) : Reading.EndsMember (skipBody name) ts () :=
  .behind (Skip.upTo_local fun _ ↦ id) (Skip.upTo_le Skip.endsHeader ts) (skipBlock_endsMember h)

variable {source : Option (List Char)} {final : Token} {head : Prelude}

theorem MethodDecl.readRest_endsMember {returnType : Option String} {name : Token}
    {ts rest : List Token} {m : MethodDecl}
    (h : readRest source head returnType name ts = .found m rest) :
    Reading.EndsMember (readRest source head returnType name) ts m := by
  obtain ⟨parameters, between, hparameters, hbody⟩ := Reading.exists_of_andThen_eq_found h
  obtain ⟨_, rfl, hskip⟩ := Reading.exists_of_map_eq_found hbody
  exact .andThen (readParameters_local source name.text)
    (readParameters_grounded source name.text ts) hparameters
    (.map _ (skipBody_endsMember hskip))

private theorem FieldDecl.readSemicolon_endsMember {fields fields' : List FieldDecl}
    {why : Malformation}
    {ts rest : List Token} (h : readSemicolon fields why ts = .found fields' rest) :
    Ahead.atMark .semicolon ts = true ∧ fields' = fields ∧
      Reading.EndsMember (readSemicolon fields why) ts fields := by
  unfold readSemicolon at h
  split at h
  · rename_i hsemicolon
    obtain ⟨rfl, -⟩ := Reading.found.inj h
    cases ts with
    | nil => cases hsemicolon
    | cons t us => exact ⟨hsemicolon, rfl, .semicolon hsemicolon fun us ↦ if_pos hsemicolon⟩
  · cases h

theorem FieldDecl.trailingComment?_of_atMark {ts : List Token}
    (h : Ahead.atMark .semicolon ts = true) : trailingComment? ts = (none, ts) := by
  cases ts with
  | nil => rfl
  | cons t us => exact Written.trailingComment?_of_semicolon (of_decide_eq_true h)

private theorem FieldDecl.readRest_endsMember {type : String} {name : Token} {ts rest : List Token}
    {decls : List FieldDecl} (h : readRest source head type name ts = .found decls rest) :
    Reading.EndsMember (readRest source head type name) ts decls := by
  obtain ⟨fields, why, heq⟩ := readRest_eq source type name
  rw [heq] at h
  rw [funext (heq head)]
  obtain ⟨declarators, between, hdeclarators, hend⟩ := Reading.exists_of_andThen_eq_found h
  refine .andThen (fun ts ↦ Declarator.readList_localAt source type name)
    (Declarator.readList_grounded source type name ts) hdeclarators ?_
  cases between with
  | nil => cases hend
  | cons t us =>
    cases hline : t.is (.comment .line) && Ahead.atMark .semicolon us with
    | true =>
      have htrailing : trailingComment? (t :: us) = (some t.text, us) := if_pos hline
      rw [htrailing] at hend
      obtain ⟨-, rfl, hsemicolon⟩ := readSemicolon_endsMember hend
      -- the comment is one of the declaration because a semicolon follows it, here and there
      refine .of_append [t] hsemicolon fun front us us' hfront hbar ↦ ?_
      have hline' : (t.is (.comment .line) && Ahead.atMark .semicolon (front ++ us')) = true := by
        rw [← hbar.atMark_append, ← hfront]
        exact hline
      have htrailing' : trailingComment? (t :: (front ++ us')) = (some t.text, front ++ us') :=
        if_pos hline'
      rw [List.append_assoc, List.singleton_append]
      dsimp only
      rw [htrailing']
    | false =>
      have htrailing : trailingComment? (t :: us) = (none, t :: us) :=
        if_neg (ne_true_of_eq_false hline)
      rw [htrailing] at hend
      obtain ⟨hat, rfl, hsemicolon⟩ := readSemicolon_endsMember hend
      refine .of_append [] hsemicolon fun front us us' hfront hbar ↦ ?_
      have hat' : Ahead.atMark .semicolon (front ++ us') = true := by
        rw [← hbar.atMark_append, ← hfront]
        exact hat
      rw [List.nil_append]
      dsimp only
      rw [trailingComment?_of_atMark hat']

/-! ## Members -/

namespace MemberItem

private theorem readTyped_endsMember {type : String} {ts rest : List Token} {item : MemberItem}
    (h : readTyped source head type ts = .found item rest) :
    Reading.EndsMember (readTyped source head type) ts item := by
  cases ts with
  | nil => cases h
  | cons name more =>
    rw [readTyped] at h
    split at h
    · rename_i hname
      split at h
      · rename_i hparen
        obtain ⟨m, rfl, hread⟩ := Reading.exists_of_map_eq_found h
        cases more with
        | nil => cases hparen
        | cons paren more =>
          have hend := (MethodDecl.readRest_endsMember hread).map fun m ↦ members [Member.method m]
          exact .of_append [name, paren] hend fun front us us' _ _ ↦
            (if_pos hname).trans (if_pos hparen)
      · rename_i hparen
        obtain ⟨fields, rfl, hread⟩ := Reading.exists_of_map_eq_found h
        have hend := (FieldDecl.readRest_endsMember hread).map fun fields ↦
          members (fields.map Member.field)
        refine .of_append [name] hend fun front us us' hfront hbar ↦ ?_
        have hparen' : ¬Ahead.atMark .openParen (front ++ us') = true := by
          rw [← hbar.atMark_append, ← hfront]
          exact hparen
        exact (if_pos hname).trans (if_neg hparen')
    · cases h

private theorem typed_endsMember {ts rest : List Token} {item : MemberItem}
    (h : readDeclared.typed source final head ts = .found item rest) :
    Reading.EndsMember (readDeclared.typed source final head) ts item := by
  obtain ⟨type, between, htype, hbehind⟩ := Reading.exists_of_andThen_eq_found h
  exact .andThen (readType_local final) ((TypeText.read_grounded ts).orMalformed _) htype
    (readTyped_endsMember hbehind)

private theorem readDeclared_endsMember {ts rest : List Token} {item : MemberItem}
    (h : readDeclared source final head ts = .found item rest) :
    Reading.EndsMember (readDeclared source final head) ts item := by
  cases hconstructor : Ahead.atNameWith .openParen ts with
  | false =>
    rw [readDeclared_of_no_constructor source final head hconstructor] at h
    refine .of_append [] (typed_endsMember h) fun front us us' hfront hbar ↦ ?_
    refine readDeclared_of_no_constructor source final head ?_
    rw [List.nil_append, Ahead.atNameWith_append rfl hbar.symm.barred,
      ← Ahead.atNameWith_append rfl hbar.barred, ← hfront]
    exact hconstructor
  | true =>
    obtain ⟨name, paren, ts, rfl, -, -⟩ := Ahead.exists_eq_cons_of_atNameWith hconstructor
    rw [readDeclared_of_constructor source final head hconstructor] at h
    obtain ⟨m, rfl, hread⟩ := Reading.exists_of_map_eq_found h
    have hend := (MethodDecl.readRest_endsMember hread).map fun m ↦ members [Member.method m]
    exact .of_append [name, paren] hend fun front us us' _ _ ↦
      readDeclared_of_constructor source final head hconstructor

private theorem readGeneric_endsMember {ts rest : List Token} {item : MemberItem}
    (h : readGeneric source final head ts = .found item rest) :
    Reading.EndsMember (readGeneric source final head) ts item := by
  unfold readGeneric at h
  split at h
  · rename_i hangle
    have hdeclared := readDeclared_endsMember h
    refine .of_append [] (hdeclared.behind Skip.balanced_local (Skip.balanced_le ts))
      fun front us us' hfront hbar ↦ ?_
    rw [hfront, hbar.atMark_append] at hangle
    exact if_pos hangle
  · rename_i hangle
    refine .of_append [] (readDeclared_endsMember h) fun front us us' hfront hbar ↦ ?_
    rw [hfront, hbar.atMark_append] at hangle
    exact if_neg hangle

private theorem readOpen_endsMember {ts rest : List Token} {decls : List Member}
    (h : readOpen source final head ts = .found (members decls) rest) :
    Reading.EndsMember (readOpen source final head) ts (members decls) := by
  unfold readOpen at h
  split at h
  · cases h
  · rename_i hnone
    refine .of_append [] (readGeneric_endsMember h) fun front us us' hfront hbar ↦ ?_
    rw [hfront, at?_append true hbar.barred, ← at?_append true hbar.symm.barred] at hnone
    rw [List.nil_append, readOpen, hnone]

/-- Behind what stands in front of it a member ends with its last token, or the body ends there. -/
theorem readBehind_endsMember {ts rest : List Token} {decls : List Member}
    (h : readBehind source final head ts = .found (members decls) rest) :
    head.isEmpty = true ∧ decls = [] ∧ rest = ts ∧ (Ahead.atMark .closeBrace ts = true ∨ ts = []) ∨
      Reading.EndsMember (readBehind source final head) ts (members decls) := by
  rw [readBehind_eq] at h
  split at h
  · rename_i hend
    obtain ⟨hitem, rfl⟩ := Reading.found.inj h
    rw [Bool.and_eq_true, Bool.or_eq_true, List.isEmpty_iff] at hend
    exact .inl ⟨hend.1, (members.inj hitem).symm, rfl, hend.2⟩
  · rename_i hend
    refine .inr ?_
    split at h
    · rename_i hopen
      obtain ⟨hitem, rfl⟩ := Reading.found.inj h
      rw [← hitem]
      cases ts with
      | nil => cases hopen
      | cons t us =>
        refine .block hopen fun us ↦ ?_
        have hclose : Ahead.atMark .closeBrace (t :: us) = false :=
          (Token.isMark_of_kind (of_decide_eq_true hopen) _).trans (by decide)
        rw [readBehind_eq, hclose, List.isEmpty_cons, Bool.or_false, Bool.and_false,
          if_neg Bool.false_ne_true]
        exact if_pos hopen
    · rename_i hopen
      -- that the branches before were not taken is seen in front of the bar
      refine .of_append [] (readOpen_endsMember h) fun front us us' hfront hbar ↦ ?_
      have hempty {us : List Token} (hus : us ≠ []) : (front ++ us).isEmpty = false := by
        simp [hus]
      rw [hfront, hempty hbar.ne_nil, hbar.atMark_append, ← hempty hbar.symm.ne_nil] at hend
      rw [hfront, hbar.atMark_append] at hopen
      rw [List.nil_append, readBehind_eq, if_neg hend, if_neg hopen]

/-- A member ends with its last token, or it is but comments in front of the end of the body. -/
theorem read_endsMember {ts rest : List Token} {decls : List Member}
    (h : read source final ts = .found (members decls) rest) :
    (∃ head, Prelude.read source ts = .found head rest ∧ head.isEmpty = true ∧ decls = [] ∧
      (Ahead.atMark .closeBrace rest = true ∨ rest = [])) ∨
      Reading.EndsMember (read source final) ts (members decls) := by
  unfold read at h
  split at h
  · rename_i hsemicolon
    obtain ⟨hitem, -⟩ := Reading.found.inj h
    rw [← hitem]
    cases ts with
    | nil => cases hsemicolon
    | cons t us => exact .inr (.semicolon hsemicolon fun us ↦ if_pos hsemicolon)
  · rename_i hsemicolon
    split at h
    · rename_i hopen
      obtain ⟨hitem, -⟩ := Reading.found.inj h
      rw [← hitem]
      cases ts with
      | nil => cases hopen
      | cons t us =>
        exact .inr (.block hopen fun us ↦ (if_neg hsemicolon).trans (if_pos hopen))
    · rename_i hopen
      obtain ⟨head, between, hprelude, hbehind⟩ := Reading.exists_of_andThen_eq_found h
      rcases readBehind_endsMember hbehind with ⟨hempty, hdecls, rfl, hend⟩ | hend
      · exact .inl ⟨head, hprelude, hempty, hdecls, hend⟩
      · refine .inr (.of_append [] (.andThen (Prelude.read_local source)
          (Prelude.read_grounded source ts) hprelude hend) fun front us us' hfront hbar ↦ ?_)
        have hsemicolon' : ¬Ahead.atMark .semicolon (front ++ us') = true := by
          rw [← hbar.atMark_append, ← hfront]
          exact hsemicolon
        have hopen' : ¬Ahead.atMark .openBrace (front ++ us') = true := by
          rw [← hbar.atMark_append, ← hfront]
          exact hopen
        exact (if_neg hsemicolon').trans (if_neg hopen')

end MemberItem

end ClassSchema
