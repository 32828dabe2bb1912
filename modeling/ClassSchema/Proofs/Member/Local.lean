import ClassSchema.Proofs.Member.Front

/-!
# Members are local

A member is read by parts that stand behind each other: its type and name, then either the
parameters and the body of a method or the declarators and the semicolon of a field. Each part is
local, and one that stands in front of another is local with it, so the reading of a member never
depends on what comes behind a bar in front of which it ends.

The parts that the parser has no name of its own for are named here: the name of a parameter, the
end of a method, the comma behind a declarator, the semicolon of a field, and what stands behind
the type of a member and behind its prelude. Lists are read by recursion on what is left, so they
are local in front of fewer tokens first.
-/

namespace ClassSchema

/-! ## Methods -/

theorem TypeText.read_local : Reading.Local TypeText.read :=
  .of_barred fun _ _ hus ↦ read_append_of_barred hus

namespace ParameterDecl

variable (source : Option (List Char)) {ts us : List Token}

/-- Reads the name of a parameter and `[]` pairs behind its type. -/
def readNamed (head : Prelude) (type : String) (ts : List Token) : Reading ParameterDecl :=
  match ts with
  | [] => .missed .absent []
  | name :: more =>
    if name.is .identifier then
      .found ⟨name.text, type ++ String.join (List.replicate (Ahead.bracketPairs more).1 "[]"),
        head.annotations⟩ (Ahead.bracketPairs more).2
    else .missed .absent (name :: more)

theorem read_eq (ts : List Token) :
    read source ts = (Prelude.read source ts).andThen fun head rest ↦
      (TypeText.read rest).andThen (readNamed head) := rfl

private theorem readNamed_grounded (head : Prelude) (type : String) (ts : List Token) :
    (readNamed head type ts).GroundedIn ts := by
  unfold readNamed
  split
  · exact .absent (List.suffix_refl _)
  · split
    · exact (Reading.GroundedIn.found _ (Ahead.bracketPairs_rest_suffix _)).cons
    · exact .absent (List.suffix_refl _)

private theorem readNamed_local (head : Prelude) (type : String) :
    Reading.Local (readNamed head type) := by
  refine .of_barred fun ts us hus ↦ ?_
  cases ts with
  | nil =>
    obtain ⟨t, us, rfl, ht⟩ := hus.exists_eq_cons
    exact if_neg (ne_true_of_eq_false (hus.is_eq_false rfl))
  | cons name more =>
    rw [List.cons_append, readNamed, readNamed, Ahead.bracketPairs_append hus]
    split <;> rfl

private theorem read_local : Reading.Local (read source) := by
  intro ts
  refine .of_eq (read_eq source) (.andThen (Prelude.read_local source ts)
    (fun head rest _ _ ↦ ?_) fun head rest ↦ ?_)
  · exact .andThen (TypeText.read_local rest) (fun type rest _ _ ↦ readNamed_local head type rest)
      fun type rest ↦ (readNamed_grounded head type rest).rest_suffix
  · exact ((TypeText.read_grounded rest).andThen fun type rest _ ↦
      readNamed_grounded head type rest).rest_suffix

/-- Behind a parameter a comma goes on with the next one. -/
theorem readList_eq (ts : List Token) :
    readList source ts = (read source ts).andThen fun parameter rest ↦
      if Ahead.atMark .comma rest then (readList source (rest.drop 1)).map (parameter :: ·)
      else .found [parameter] rest := by
  rw [readList]
  split
  · rename_i parameter comma rest h
    rw [h]
    rfl
  · rename_i parameter h
    rw [h]
    rfl
  · rename_i cause rest h
    rw [h]
    rfl

private theorem readList_localAt : Reading.LocalAt (readList source) ts := by
  induction hn : ts.length using Nat.strongRecOn generalizing ts with
  | ind n ih =>
    -- behind a parameter and its comma there are fewer tokens, so the induction covers the others
    refine .of_eq (readList_eq source) (.andThen (read_local source ts)
      (fun parameter rest us hrest ↦ ?_) fun parameter rest ↦ ?_)
    · have hle := ((read_grounded source _).suffix_of_found hrest).length_le
      rw [List.length_append, List.length_append] at hle
      refine .ite (fun hbar ↦ hbar.atMark_append .comma rest) (.drop_one (fun comma others hothers ↦
        .map _ (ih _ ?_ rfl)) fun ts ↦ ((readList_grounded source ts).map _).rest_suffix)
        (Reading.Local.found _ rest)
      rw [hothers, List.length_cons] at hle
      omega
    · split
      · exact ((readList_grounded source _).map _).drop.rest_suffix
      · exact List.suffix_refl _

end ParameterDecl

namespace MethodDecl

variable (source : Option (List Char)) {ts : List Token}

theorem readParameters_local (name : String) : Reading.Local (readParameters source name) := by
  intro ts
  refine .andThen (.ite (fun hbar ↦ hbar.atMark_append .closeParen ts) (Reading.Local.found [] ts)
      (.orMalformed (fun _ ↦ rfl) (ParameterDecl.readList_localAt source)))
    (fun parameters rest _ _ ↦ .ite (fun hbar ↦ hbar.atMark_append .closeParen rest)
      (.drop_one (fun _ us _ ↦ Reading.Local.found parameters us) fun _ ↦ List.suffix_refl _)
      (Reading.Local.missed _ rest)) fun parameters rest ↦ ?_
  split
  · exact List.drop_suffix _ _
  · exact List.suffix_refl _

/-- Passes over the body of a method or its semicolon, which come next. -/
def skipBlock (name : String) (ts : List Token) : Reading Unit :=
  if Ahead.atMark .openBrace ts then .found () (ts.drop (Skip.balanced ts))
  else if Ahead.atMark .semicolon ts then .found () (ts.drop 1)
  else .missed (.malformed (.body name)) ts

private theorem skipBlock_local (name : String) : Reading.Local (skipBlock name) := fun ts ↦
  .ite (fun hbar ↦ hbar.atMark_append .openBrace ts)
    (.drop (.found ()) (fun _ ↦ List.suffix_refl _) Skip.balanced_local)
    (.ite (fun hbar ↦ hbar.atMark_append .semicolon ts)
      (.drop_one (fun _ us _ ↦ Reading.Local.found () us) fun _ ↦ List.suffix_refl _)
      (Reading.Local.missed _ ts))

private theorem skipBody_local (name : String) : Reading.Local (skipBody name) := by
  intro ts
  refine .drop (skipBlock_local name) (fun rest ↦ ?_) (Skip.upTo_local fun _ ↦ id)
  unfold skipBlock
  split
  · exact List.drop_suffix _ _
  · split
    · exact List.drop_suffix _ _
    · exact List.suffix_refl _

theorem readRest_local (head : Prelude) (returnType : Option String) (name : Token) :
    Reading.Local (readRest source head returnType name) := fun ts ↦ by
  refine .andThen (readParameters_local source name.text ts)
    (fun parameters rest _ _ ↦ .map _ (skipBody_local name.text rest)) fun parameters rest ↦ ?_
  exact ((skipBody_grounded name.text rest).map _).rest_suffix

end MethodDecl

/-! ## Fields -/

namespace Declarator

variable (source : Option (List Char)) {ts : List Token}

private theorem readValue_local (name : Token) : Reading.Local (readValue source name) := by
  intro ts
  refine .ite (fun hbar ↦ hbar.atMark_append .equal ts) (.orMalformed (fun _ ↦ rfl)
    (.map some (.drop_one (fun _ us _ ↦ Initializer.read_local source us) fun ts ↦ ?_)))
    (Reading.Local.found none ts)
  exact (Initializer.read_grounded source ts).rest_suffix

/-- Goes on behind the declarator `d`, if a comma and a name follow it. -/
def readNext (type : String) (d : Declarator) (rest : List Token) : Reading (List Declarator) :=
  match rest with
  | comma :: next :: more =>
    if comma.isMark .comma && next.is .identifier then
      (readList source type next more).map (d :: ·)
    else .found [d] rest
  | _ => .found [d] rest

theorem readList_eq (type : String) (name : Token) :
    readList source type name ts =
      (readValue source name (Ahead.bracketPairs ts).2).andThen fun value rest ↦
        let pairs := String.join (List.replicate (Ahead.bracketPairs ts).1 "[]")
        readNext source type ⟨name, type ++ pairs, value⟩ rest := by
  rw [readList]
  split
  · rename_i value comma next more h
    rw [h]
    rfl
  · rename_i value rest hshort h
    rw [h, Reading.andThen, readNext]
    exact hshort
  · rename_i cause rest h
    rw [h]
    rfl

private theorem readNext_grounded (type : String) (d : Declarator) (rest : List Token) :
    (readNext source type d rest).GroundedIn rest := by
  unfold readNext
  split
  · split
    · exact ((readList_grounded source type _ _).map _).cons.cons
    · exact .found _ (List.suffix_refl _)
  · exact .found _ (List.suffix_refl _)

private theorem readNext_localAt {type : String} (d : Declarator) {rest : List Token}
    (hlist : ∀ next more, more.length < rest.length →
      Reading.LocalAt (readList source type next) more) :
    Reading.LocalAt (readNext source type d) rest := by
  have hstops {us : List Token} (hus : Barred us) : readNext source type d us = .found [d] us := by
    obtain ⟨t, us, rfl, ht⟩ := hus.exists_eq_cons
    cases us with
    | nil => rfl
    | cons u us => rw [readNext, hus.isMark_eq_false rfl, Bool.false_and, if_neg Bool.false_ne_true]
  -- two tokens are looked at, and a bar is neither a comma nor a name
  cases rest with
  | nil => exact .of_barred (r := .found [d] []) fun us hus ↦ hstops hus
  | cons comma rest =>
    cases rest with
    | nil =>
      refine .of_barred (r := .found [d] [comma]) fun us hus ↦ ?_
      obtain ⟨t, us, rfl, ht⟩ := hus.exists_eq_cons
      rw [List.singleton_append, readNext, hus.is_eq_false rfl, Bool.and_false,
        if_neg Bool.false_ne_true]
      rfl
    | cons next more =>
      cases hnext : comma.isMark .comma && next.is .identifier with
      | false =>
        refine .of_barred (r := .found [d] (comma :: next :: more)) fun us _ ↦ ?_
        exact if_neg (ne_true_of_eq_false hnext)
      | true =>
        have hlt : more.length < (comma :: next :: more).length :=
          Nat.lt_succ_of_lt (Nat.lt_succ_self _)
        refine .congr (fun us _ ↦ ?_) (.map (d :: ·) (hlist next more hlt))
        rw [List.cons_append, List.cons_append, readNext, if_pos hnext]

/-- The declarators behind a comma are local by induction, on the tokens that are left. -/
theorem readList_localAt (type : String) (name : Token) :
    Reading.LocalAt (readList source type name) ts := by
  induction hn : ts.length using Nat.strongRecOn generalizing ts name with
  | ind n ih =>
    let count := (Ahead.bracketPairs ts).1
    let behind := (Ahead.bracketPairs ts).2
    let declarator (value : Option String) : Declarator :=
      ⟨name, type ++ String.join (List.replicate count "[]"), value⟩
    have hbehind : behind.length ≤ ts.length := (Ahead.bracketPairs_rest_suffix ts).length_le
    have hvalues : Reading.LocalAt (fun ts ↦ (readValue source name ts).andThen fun value ↦
        readNext source type (declarator value)) behind := by
      refine .andThen (readValue_local source name behind) (fun value rest us hvalue ↦ ?_)
        fun value rest ↦ (readNext_grounded source type _ rest).rest_suffix
      have hle := ((readValue_grounded source name _).suffix_of_found hvalue).length_le
      rw [List.length_append, List.length_append] at hle
      exact readNext_localAt source _ fun next more hmore ↦ ih _ (by omega) next rfl
    refine .congr (fun us hus ↦ ?_) hvalues
    rw [readList_eq, Ahead.bracketPairs_append hus]

end Declarator

namespace FieldDecl

variable (source : Option (List Char)) {ts us us' : List Token}

/-- Reads the semicolon of a field declaration. -/
def readSemicolon (fields : List FieldDecl) (why : Malformation) (ts : List Token) :
    Reading (List FieldDecl) :=
  if Ahead.atMark .semicolon ts then .found fields (ts.drop 1) else .missed (.malformed why) ts

/-- Behind its declarators a field declaration has a semicolon, maybe with a comment in front of
it. -/
theorem readRest_eq (type : String) (name : Token) :
    ∃ (fields : Prelude → List Declarator → Option String → List FieldDecl)
      (why : List Declarator → Malformation),
      ∀ head ts, readRest source head type name ts =
        (Declarator.readList source type name ts).andThen fun declarators rest ↦
          readSemicolon (fields head declarators (trailingComment? rest).1) (why declarators)
            (trailingComment? rest).2 :=
  ⟨fun head declarators trailing ↦ declarators.map fun d ↦
      { name := d.name.text
        type := d.type
        modifiers := head.modifiers
        annotations := head.annotations
        comment := head.comment.map (·.text)
        trailingComment := trailing
        defaultValue := d.value
        line := d.name.line
        column := d.name.column },
    fun declarators ↦ .semicolon ((declarators.getLast?.map (·.name)).getD name).text,
    fun _ _ ↦ rfl⟩

private theorem readSemicolon_local (fields : List FieldDecl) (why : Malformation) :
    Reading.Local (readSemicolon fields why) := fun ts ↦
  .ite (fun hbar ↦ hbar.atMark_append .semicolon ts)
    (.drop_one (fun _ us _ ↦ Reading.Local.found _ us) fun _ ↦ List.suffix_refl _)
    (Reading.Local.missed _ ts)

private theorem readSemicolon_rest_suffix (fields : List FieldDecl) (why : Malformation)
    (ts : List Token) : (readSemicolon fields why ts).rest <:+ ts := by
  unfold readSemicolon
  split
  · exact List.drop_suffix _ _
  · exact List.suffix_refl _

private theorem trailingComment?_append (hbar : SameBar us us') (ts : List Token) :
    ∃ trailing rest, trailingComment? (ts ++ us) = (trailing, rest ++ us) ∧
      trailingComment? (ts ++ us') = (trailing, rest ++ us') := by
  cases ts with
  | nil =>
    cases hbar with
    | @intro t us us' ht =>
      have hbarred : Barred (t :: us) := ht
      have hline : t.is (.comment .line) = false := hbarred.is_eq_false rfl
      refine ⟨none, [], ?_, ?_⟩ <;>
        rw [List.nil_append, trailingComment?, hline, Bool.false_and, if_neg Bool.false_ne_true]
  | cons t ts =>
    rw [List.cons_append, List.cons_append, trailingComment?, trailingComment?, hbar.atMark_append]
    split
    · exact ⟨some t.text, ts, rfl, rfl⟩
    · exact ⟨none, t :: ts, rfl, rfl⟩

private theorem readRest_local (head : Prelude) (type : String) (name : Token) :
    Reading.Local (readRest source head type name) := by
  intro ts
  obtain ⟨fields, why, hrest⟩ := readRest_eq source type name
  refine .of_eq (hrest head)
    (.andThen (Declarator.readList_localAt source type name)
      (fun declarators rest _ _ ↦ ?_) fun declarators rest ↦ ?_)
  · intro us us' hbar hsuffix
    obtain ⟨trailing, behind, h, h'⟩ := trailingComment?_append hbar rest
    dsimp only at hsuffix ⊢
    rw [h] at hsuffix ⊢
    rw [h']
    exact readSemicolon_local (fields head declarators trailing) (why declarators) behind hbar
      hsuffix
  · exact (readSemicolon_rest_suffix _ _ _).trans (trailingComment?_rest_suffix rest)

end FieldDecl

/-! ## Members -/

namespace MemberItem

variable (source : Option (List Char)) (final : Token) (head : Prelude) {ts us us' : List Token}

/-- Reads a member behind its type. -/
def readTyped (type : String) (ts : List Token) : Reading MemberItem :=
  match ts with
  | [] => .missed (.malformed (.name type "end of input")) []
  | name :: more =>
    if name.is .identifier then
      if Ahead.atMark .openParen more then
        (MethodDecl.readRest source head (some type) name (more.drop 1)).map fun m ↦
          members [.method m]
      else (FieldDecl.readRest source head type name more).map fun fields ↦
        members (fields.map .field)
    else .missed (.malformed (.name type name.text)) (name :: more)

theorem typed_eq :
    readDeclared.typed source final head ts =
      ((TypeText.read ts).orMalformed
        (.type (ts.head?.getD final).line (ts.head?.getD final).column)).andThen
          (readTyped source head) := rfl

private theorem readTyped_grounded (type : String) (ts : List Token) :
    (readTyped source head type ts).GroundedIn ts := by
  unfold readTyped
  split
  · exact .malformed _ (List.suffix_refl _)
  · split
    · split
      · exact (((MethodDecl.readRest_grounded source head _ _ _).map _).drop).cons
      · exact ((FieldDecl.readRest_grounded source head type _ _).map _).cons
    · exact .malformed _ (List.suffix_refl _)

private theorem readTyped_local (type : String) : Reading.Local (readTyped source head type) := by
  intro ts
  cases ts with
  | nil =>
    intro us us' hbar _
    cases hbar with
    | @intro t us us' ht =>
      have hbarred : Barred (t :: us) := ht
      have hname : t.is .identifier = false := hbarred.is_eq_false rfl
      refine ⟨.missed (.malformed (.name type t.text)) [], ?_, ?_⟩ <;>
        exact if_neg (ne_true_of_eq_false hname)
  | cons name more =>
    cases hname : name.is .identifier with
    | false =>
      refine .of_barred (r := .missed (.malformed (.name type name.text)) (name :: more))
        fun us _ ↦ ?_
      exact if_neg (ne_true_of_eq_false hname)
    | true =>
      have hmethod := MethodDecl.readRest_local source head (some type) name
      have hground := MethodDecl.readRest_grounded source head (some type) name
      refine .congr (fun us _ ↦ ?_) (.ite (fun hbar ↦ hbar.atMark_append .openParen more)
        (.drop_one (fun _ us _ ↦ .map (fun m ↦ members [.method m]) (hmethod us))
          fun ts ↦ ((hground ts).map _).rest_suffix)
        (.map (fun fields ↦ members (fields.map .field))
          (FieldDecl.readRest_local source head type name more)))
      exact if_pos hname

theorem readType_local : Reading.Local fun ts ↦ (TypeText.read ts).orMalformed
    (.type (ts.head?.getD final).line (ts.head?.getD final).column) := by
  intro ts
  have hstart : ∀ {us us'}, SameBar us us' →
      (ts ++ us).head?.getD final = (ts ++ us').head?.getD final := by
    intro us us' hbar
    cases hbar
    cases ts <;> rfl
  refine .orMalformed (fun hbar ↦ ?_) (TypeText.read_local ts)
  rw [hstart hbar]

private theorem typed_local : Reading.Local (readDeclared.typed source final head) := fun ts ↦
  .andThen (readType_local final ts)
    (fun type rest _ _ ↦ readTyped_local source head type rest) fun type rest ↦
      (readTyped_grounded source head type rest).rest_suffix

theorem readDeclared_of_no_constructor (h : Ahead.atNameWith .openParen ts = false) :
    readDeclared source final head ts = readDeclared.typed source final head ts := by
  unfold readDeclared
  split
  · rw [if_neg]
    exact ne_true_of_eq_false h
  · rfl

theorem readDeclared_of_constructor {name paren : Token}
    (h : Ahead.atNameWith .openParen (name :: paren :: ts) = true) :
    readDeclared source final head (name :: paren :: ts) =
      (MethodDecl.readRest source head none name ts).map fun m ↦ members [.method m] := if_pos h

private theorem readDeclared_local : Reading.Local (readDeclared source final head) := by
  intro ts
  cases hconstructor : Ahead.atNameWith .openParen ts with
  | false =>
    refine .congr (fun us hus ↦ ?_) (typed_local source final head ts)
    exact readDeclared_of_no_constructor source final head
      ((Ahead.atNameWith_append rfl hus ts).trans hconstructor)
  | true =>
    obtain ⟨name, paren, ts, rfl, -, -⟩ := Ahead.exists_eq_cons_of_atNameWith hconstructor
    refine .congr (fun us _ ↦ ?_) (.map (fun m ↦ members [.method m])
      (MethodDecl.readRest_local source head none name ts))
    exact readDeclared_of_constructor source final head hconstructor

theorem at?_append (nested : Bool) (hus : Barred us) (ts : List Token) :
    Skippable.at? nested (ts ++ us) = Skippable.at? nested ts := by
  match ts with
  | [] =>
    obtain ⟨t, us, rfl, ht⟩ := hus.exists_eq_cons
    rcases Skip.kind_of_endsHeader ht with h | h | h <;>
      rw [List.nil_append, Skippable.at?, Ahead.kind, h] <;> rfl
  | [t] =>
    have hword : Ahead.kindAt 1 ([t] ++ us) ≠ .keyword .interfaceWord := hus.kind_ne rfl
    have hnil : Ahead.kindAt 1 [t] ≠ .keyword .interfaceWord := Kind.noConfusion
    rw [Skippable.at?, Skippable.at?, if_neg hword, if_neg hnil]
    rfl
  | _ :: _ :: _ => rfl

/-- Reads a declaration behind its type parameters, if there are any. -/
def readGeneric (ts : List Token) : Reading MemberItem :=
  if Ahead.atMark .openAngle ts then readDeclared source final head (ts.drop (Skip.balanced ts))
  else readDeclared source final head ts

/-- Finds another type, or reads a declaration. -/
def readOpen (ts : List Token) : Reading MemberItem :=
  match Skippable.at? true ts with
  | some what => .found (nestedType what) ts
  | none => readGeneric source final head ts

theorem readBehind_eq (ts : List Token) :
    readBehind source final head ts =
      if head.isEmpty && (Ahead.atMark .closeBrace ts || ts.isEmpty) then .found (members []) ts
      else if Ahead.atMark .openBrace ts then
        .found (members []) (ts.drop (Skip.balanced ts))
      else readOpen source final head ts := by
  have hgeneric : readGeneric source final head ts = readDeclared source final head
      (if Ahead.atMark .openAngle ts then ts.drop (Skip.balanced ts) else ts) :=
    (apply_ite (readDeclared source final head) _ _ _).symm
  rw [readOpen, hgeneric]
  rfl

private theorem readGeneric_local : Reading.Local (readGeneric source final head) := by
  intro ts
  refine .ite (fun hbar ↦ hbar.atMark_append .openAngle ts)
    (.drop (readDeclared_local source final head) (fun ts ↦ ?_) Skip.balanced_local)
    (readDeclared_local source final head ts)
  exact (readDeclared_grounded source final head ts).rest_suffix

private theorem readOpen_local : Reading.Local (readOpen source final head) := by
  intro ts
  cases hwhat : Skippable.at? true ts with
  | none =>
    refine .congr (fun us hus ↦ ?_) (readGeneric_local source final head ts)
    rw [readOpen, at?_append true hus, hwhat]
  | some what =>
    refine .of_barred (r := .found (nestedType what) ts) fun us hus ↦ ?_
    rw [readOpen, at?_append true hus, hwhat]
    rfl

private theorem readBehind_local : Reading.Local (readBehind source final head) := by
  intro ts
  let isOver (ts : List Token) : Bool :=
    head.isEmpty && (Ahead.atMark .closeBrace ts || ts.isEmpty)
  have hempty {us : List Token} (hus : us ≠ []) : (ts ++ us).isEmpty = false := by
    simp [hus]
  have hover {us us' : List Token} (hbar : SameBar us us') :
      isOver (ts ++ us) = isOver (ts ++ us') := by
    dsimp only [isOver]
    rw [hbar.atMark_append, hempty hbar.ne_nil, hempty hbar.symm.ne_nil]
  have hopen := Reading.LocalAt.ite (fun hbar ↦ hbar.atMark_append .openBrace ts)
    (.drop (.found (members [])) (fun _ ↦ List.suffix_refl _) Skip.balanced_local)
    (readOpen_local source final head ts)
  exact .of_eq (readBehind_eq source final head)
    (.ite hover (Reading.Local.found (members []) ts) hopen)

/-- **A member is local**: where its reading ends in front of a bar, it does not depend on what
comes behind the bar. -/
theorem read_local : Reading.Local (read source final) := by
  intro ts
  exact .ite (fun hbar ↦ hbar.atMark_append .semicolon ts)
    (.drop_one (fun _ us _ ↦ Reading.Local.found _ us) fun _ ↦ List.suffix_refl _)
    (.ite (fun hbar ↦ hbar.atMark_append .openBrace ts)
      (.drop (.found _) (fun _ ↦ List.suffix_refl _) Skip.balanced_local)
      (.andThen (Prelude.read_local source ts)
        (fun head rest _ _ ↦ readBehind_local source final head rest)
        fun head rest ↦ (readBehind_grounded source final head rest).rest_suffix))

end MemberItem

end ClassSchema
