import ClassSchema.Grammar.Member
import ClassSchema.Proofs.Written.Annotation
import ClassSchema.Proofs.Written.TypeTerm

/-!
# Fields as they are written

A field is a comment, annotations and modifiers, a type, a name and a semicolon. What stands in
front of the type is read in rounds of one comment, one annotation or one modifier, each of which
adds to what was read before; the rounds end at the type, because its first word is no modifier.
From there on the tokens decide by themselves that a field was written and no method or nested type.
-/

namespace ClassSchema

open Token (Spell spell_append_iff spell_cons_iff spell_singleton_iff)

namespace Written

variable {source : Option (List Char)} {sofar : Prelude} {ts rest : List Token}

/-! ## What stands in front -/

/-- A reserved modifier. -/
structure Modifier where
  word : Keyword
  isModifier : word.isModifier = true

/-- A modifier as it is written. -/
def Modifier.piece (m : Modifier) : Piece := keyword m.word

/-- The text of a modifier. -/
def Modifier.text (m : Modifier) : String := m.word.text

theorem text_keyword (word : Keyword) : (keyword word).text = word.text := by
  cases word <;> rfl

private theorem readFrom_of_comment {t : Token} (ht : t.kind.isComment = true) :
    Prelude.readFrom source sofar (t :: rest) =
      Prelude.readFrom source { sofar with comment := some t } rest := by
  rw [Prelude.readFrom, if_pos ht]

private theorem readFrom_of_modifier {t : Token} {word : Keyword} (ht : t.kind = .keyword word)
    (hword : word.isModifier = true) :
    Prelude.readFrom source sofar (t :: rest) =
      Prelude.readFrom source { sofar with modifiers := sofar.modifiers ++ [t.text] } rest := by
  have hcomment : t.kind.isComment = false := by
    rw [ht]
    rfl
  have hstarts : Prelude.startsAnnotations t rest = false := by
    rw [Prelude.startsAnnotations, Token.isMark_eq_false_of_kind ht nofun, Bool.false_and]
  have hmodifier : Prelude.isModifier t rest = true := by
    rw [Prelude.isModifier, ht, Kind.isModifier, hword, Bool.true_or]
  rw [Prelude.readFrom, if_neg (ne_true_of_eq_false hcomment), if_neg (ne_true_of_eq_false hstarts),
    if_pos hmodifier]

private theorem readFrom_of_annotation {sign : Token} {u : AnnotationUse} {more : List Token}
    (hsign : sign.kind = .mark .atSign) (hkind : Ahead.kind ts = .identifier)
    (huse : Arguments.use source (sign :: ts) = .found u more) :
    Prelude.readFrom source sofar (sign :: ts) =
      Prelude.readFrom source { sofar with annotations := sofar.annotations ++ [u] } more := by
  have hcomment : sign.kind.isComment = false := by
    rw [hsign]
    rfl
  have hmark : sign.isMark .atSign = true := Token.isMark_of_kind hsign _
  have hstarts : Prelude.startsAnnotations sign ts = true := by
    rw [Prelude.startsAnnotations, hmark, hkind]
    rfl
  rw [Prelude.readFrom, if_neg (ne_true_of_eq_false hcomment), if_pos hstarts]
  split
  · rename_i u' more' h
    obtain ⟨rfl, rfl⟩ := Reading.found.inj (huse.symm.trans h)
    rfl
  · rename_i cause more' h
    cases huse.symm.trans h

private theorem readFrom_modifiers (modifiers : List Modifier)
    (h : Spell ts (modifiers.map Modifier.piece)) :
    Prelude.readFrom source sofar (ts ++ rest) =
      Prelude.readFrom source
        { sofar with modifiers := sofar.modifiers ++ modifiers.map Modifier.text } rest := by
  induction modifiers generalizing sofar ts with
  | nil =>
    cases h
    rw [List.map_nil, List.append_nil, List.nil_append]
  | cons m modifiers ih =>
    obtain ⟨_, _, rfl, hkind, hstands, h⟩ := spell_cons_iff.mp h
    rw [List.cons_append, readFrom_of_modifier hkind m.isModifier, ih h, hstands.text_eq rfl,
      Modifier.piece, text_keyword, List.append_assoc]
    rfl

/-- What may come behind annotations: neither a dot nor a parenthesis. -/
def EndsAnnotations (rest : List Token) : Prop :=
  Ahead.atMark .dot rest = false ∧ Ahead.atMark .openParen rest = false

theorem endsAnnotations_of_kind {t : Token} (h : ∀ m, t.kind = .mark m → m = .atSign) :
    EndsAnnotations (t :: rest) :=
  ⟨decide_eq_false fun hdot ↦ (nomatch h _ hdot), decide_eq_false fun hparen ↦ (nomatch h _ hparen)⟩

/-- Annotations are read in their order. -/
theorem readFrom_annotations (annotations : List Annotation)
    (h : Spell ts (annotations.flatMap Annotation.pieces)) (hrest : EndsAnnotations rest) :
    ∃ uses, Prelude.readFrom source sofar (ts ++ rest) =
        Prelude.readFrom source { sofar with annotations := sofar.annotations ++ uses } rest ∧
      uses.map AnnotationUse.unplaced = annotations.map Annotation.decl := by
  induction annotations generalizing sofar ts with
  | nil =>
    cases h
    refine ⟨[], ?_, rfl⟩
    rw [List.append_nil, List.nil_append]
  | cons a annotations ih =>
    rw [List.flatMap_cons] at h
    obtain ⟨us, vs, rfl, ha, h⟩ := spell_append_iff.mp h
    -- what comes next is the sign of another annotation, or what comes behind all of them
    have hnext : EndsAnnotations (vs ++ rest) := by
      cases annotations with
      | nil =>
        cases h
        exact hrest
      | cons b annotations =>
        obtain ⟨_, _, rfl, hsign, -⟩ := spell_cons_iff.mp h
        exact endsAnnotations_of_kind fun m hm ↦ Kind.mark.inj (hm.symm.trans hsign)
    obtain ⟨u, huse, hu⟩ := a.use_append source ha hnext.1 hnext.2
    obtain ⟨uses, huses, hunplaced⟩ :=
      @ih { sofar with annotations := sofar.annotations ++ [u] } vs h
    refine ⟨u :: uses, ?_, by rw [List.map_cons, List.map_cons, hu, hunplaced]⟩
    obtain ⟨_, _, rfl, hsign, -, hname⟩ := spell_cons_iff.mp ha
    obtain ⟨name, us, rfl, hkind, -⟩ := spell_cons_iff.mp hname
    have hidentifier : Ahead.kind (name :: us ++ (vs ++ rest)) = .identifier := hkind
    rw [List.append_assoc, List.cons_append, readFrom_of_annotation hsign hidentifier huse,
      huses, List.append_assoc]
    rfl

/-- What stops the reading of what stands in front of a declaration: a word that is no modifier. -/
def StopsPrelude (rest : List Token) : Prop :=
  ∃ t us, rest = t :: us ∧ (∀ m, t.kind ≠ .mark m) ∧ t.kind.isComment = false ∧
    Prelude.isModifier t us = false

/-- **What stands in front of a declaration is read**, its comment apart. -/
theorem readFrom_append (source : Option (List Char)) (sofar : Prelude)
    (annotations : List Annotation) (modifiers : List Modifier)
    (h : Spell ts (annotations.flatMap Annotation.pieces ++ modifiers.map Modifier.piece))
    (hrest : StopsPrelude rest) :
    ∃ uses, Prelude.readFrom source sofar (ts ++ rest) =
        .found { sofar with
          annotations := sofar.annotations ++ uses
          modifiers := sofar.modifiers ++ modifiers.map Modifier.text } rest ∧
      uses.map AnnotationUse.unplaced = annotations.map Annotation.decl := by
  obtain ⟨us, vs, rfl, hannotations, hmodifiers⟩ := spell_append_iff.mp h
  obtain ⟨t, rs, rfl, hmark, hcomment, hmodifier⟩ := hrest
  have hends : EndsAnnotations (vs ++ t :: rs) := by
    cases modifiers with
    | nil =>
      cases hmodifiers
      exact endsAnnotations_of_kind fun m hm ↦ absurd hm (hmark m)
    | cons m modifiers =>
      obtain ⟨_, _, rfl, hkind, -⟩ := spell_cons_iff.mp hmodifiers
      exact endsAnnotations_of_kind fun m hm ↦ (nomatch hkind.symm.trans hm)
  have hstarts : Prelude.startsAnnotations t rs = false := by
    rw [Prelude.startsAnnotations, show t.isMark .atSign = false from decide_eq_false (hmark _),
      Bool.false_and]
  obtain ⟨uses, hread, hunplaced⟩ := readFrom_annotations annotations hannotations hends
  refine ⟨uses, ?_, hunplaced⟩
  rw [List.append_assoc, hread, readFrom_modifiers modifiers hmodifiers, Prelude.readFrom,
    if_neg (ne_true_of_eq_false hcomment), if_neg (ne_true_of_eq_false hstarts),
    if_neg (ne_true_of_eq_false hmodifier)]

/-! ## Fields -/

/-- A field. The first word of its type is no modifier, not even one that is no reserved word. -/
structure Field where
  comment : Option CommentText
  annotations : List Annotation
  modifiers : List Modifier
  type : TypeTerm
  name : Name
  isNoModifier : type.head.text ∉ Prelude.contextualModifiers

namespace Field

variable (f : Field)

/-- What stands in front of the type, as it is written. -/
def front : List Piece :=
  f.comment.toList.map CommentText.piece ++
    (f.annotations.flatMap Annotation.pieces ++ f.modifiers.map Modifier.piece)

/-- A field as it is written. -/
def pieces : List Piece := f.front ++ (f.type.pieces ++ [f.name.piece, mark .semicolon])

/-- The declaration of a field, apart from its place. -/
def decl : FieldDecl where
  name := f.name.text
  type := f.type.text
  modifiers := f.modifiers.map Modifier.text
  annotations := f.annotations.map Annotation.decl
  comment := f.comment.map CommentText.text

end Field

/-! ### The type of a field -/

theorem TypeTerm.startsType_head (type : TypeTerm) : type.head.kind.startsType = true := by
  cases type with
  | primitive word isPrimitive => exact isPrimitive
  | named name => rfl
  | applied name arguments => rfl
  | array element => exact element.startsType_head

/-- The first word of a type has a mark behind it, or nothing. -/
theorem TypeTerm.exists_pieces_eq (type : TypeTerm) :
    ∃ more, type.pieces = type.head :: more ∧
      ∀ p ∈ more.head?, ∃ m, p.kind = .mark m ∧ m ≠ .openParen := by
  -- behind the first word comes a dot, or what comes behind all parts
  have hdotted (q : QualifiedName) (others : List Piece)
      (hothers : ∀ p ∈ others.head?, ∃ m, p.kind = .mark m ∧ m ≠ .openParen) :
      ∀ p ∈ (dotted q.parts ++ others).head?, ∃ m, p.kind = .mark m ∧ m ≠ .openParen := by
    cases hparts : q.parts with
    | nil => exact hothers
    | cons part parts =>
      rintro p ⟨rfl⟩
      exact ⟨.dot, rfl, nofun⟩
  cases type with
  | primitive word isPrimitive => exact ⟨[], rfl, nofun⟩
  | named name =>
    refine ⟨dotted name.parts, rfl, ?_⟩
    have h := hdotted name [] nofun
    rwa [List.append_nil] at h
  | applied name arguments =>
    refine ⟨_, rfl, hdotted name _ ?_⟩
    rintro p ⟨rfl⟩
    exact ⟨.openAngle, rfl, nofun⟩
  | array element =>
    obtain ⟨more, hpieces, hmore⟩ := element.exists_pieces_eq
    refine ⟨more ++ [mark .openBracket, mark .closeBracket], ?_, ?_⟩
    · rw [TypeTerm.pieces, hpieces]
      rfl
    · cases more with
      | nil =>
        rintro p ⟨rfl⟩
        exact ⟨.openBracket, rfl, nofun⟩
      | cons q more => exact hmore

/-- The tokens of a type start with its first word, and no parenthesis comes next. -/
theorem TypeTerm.exists_eq_cons (type : TypeTerm) (h : Spell ts type.pieces) :
    ∃ t us, ts = t :: us ∧ t.kind = type.head.kind ∧ t.text = type.head.text ∧
      ∀ rest, Ahead.atMark .openParen rest = false →
        Ahead.atMark .openParen (us ++ rest) = false := by
  obtain ⟨more, hpieces, hmore⟩ := type.exists_pieces_eq
  rw [hpieces] at h
  obtain ⟨t, us, rfl, hkind, hstands, h⟩ := spell_cons_iff.mp h
  have hnumber : type.head.kind ≠ .number := by
    intro hnumber
    have hstarts := type.startsType_head
    rw [hnumber] at hstarts
    cases hstarts
  have htext : t.text = type.head.text := hstands.text_eq (decide_eq_false hnumber)
  refine ⟨t, us, rfl, hkind, htext, fun rest hrest ↦ ?_⟩
  cases h with
  | nil => exact hrest
  | @cons u us p _ hu _ _ =>
    obtain ⟨m, hm, hne⟩ := hmore p rfl
    exact (Token.isMark_of_kind (hu.trans hm) .openParen).trans (decide_eq_false hne)

/-- A kind that starts a type is a word, but none that means anything in front of a type. -/
theorem not_modifier_of_startsType {kind : Kind} (h : kind.startsType = true) :
    (∀ m, kind ≠ .mark m) ∧ kind.isComment = false ∧ kind.isModifier = false ∧
      kind ≠ .keyword .interfaceWord ∧ kind ≠ .keyword .enumWord ∧ kind ≠ .keyword .classWord := by
  cases kind with
  | identifier => exact ⟨nofun, rfl, rfl, nofun, nofun, nofun⟩
  | keyword word =>
    refine ⟨nofun, rfl, ?_⟩
    revert h
    cases word <;> decide
  | _ => cases h

theorem stopsPrelude_of_startsType {t : Token} (hstarts : t.kind.startsType = true)
    (hword : t.text ∉ Prelude.contextualModifiers) (rest : List Token) :
    StopsPrelude (t :: rest) := by
  obtain ⟨hmark, hcomment, hmodifier, -⟩ := not_modifier_of_startsType hstarts
  have hcontextual : Prelude.contextualModifiers.contains t.text = false := by
    rw [Bool.eq_false_iff]
    exact fun hcontains ↦ hword (List.contains_iff_mem.mp hcontains)
  refine ⟨t, rest, rfl, hmark, hcomment, ?_⟩
  rw [Prelude.isModifier, hmodifier, hcontextual, Bool.and_false, Bool.false_and, Bool.false_or]

end Written

/-- A field apart from its place. -/
def FieldDecl.unplaced (f : FieldDecl) : FieldDecl :=
  { f with annotations := f.annotations.map AnnotationUse.unplaced, line := 0, column := 0 }

namespace Written

/-- A name with a semicolon behind it is one declarator. -/
theorem readList_of_semicolon {type : String} {name semicolon : Token}
    (hsemicolon : semicolon.kind = .mark .semicolon) :
    Declarator.readList source type name (semicolon :: rest) =
      .found [⟨name, type, none⟩] (semicolon :: rest) := by
  have hmark (m : Mark) (hm : .semicolon ≠ m) : semicolon.isMark m = false :=
    (Token.isMark_of_kind hsemicolon m).trans (decide_eq_false hm)
  -- neither brackets nor a value stand at the semicolon
  have hpairs : Ahead.bracketPairs (semicolon :: rest) = (0, semicolon :: rest) := by
    cases rest with
    | nil => rfl
    | cons t rest =>
      rw [Ahead.bracketPairs, hmark .openBracket (by decide), Bool.false_and,
        if_neg Bool.false_ne_true]
  have hvalue : Declarator.readValue source name (semicolon :: rest) =
      .found none (semicolon :: rest) :=
    if_neg (ne_true_of_eq_false (hmark .equal (by decide)))
  have hown : type ++ String.join (List.replicate 0 "[]") = type := String.append_empty
  rw [Declarator.readList]
  split
  · rename_i value comma next more h
    rw [hpairs, hvalue] at h
    obtain ⟨rfl, hsame⟩ := Reading.found.inj h
    obtain ⟨rfl, rfl⟩ := List.cons.inj hsame
    rw [hmark .comma (by decide), Bool.false_and, if_neg Bool.false_ne_true, hpairs, hown]
  · rename_i value others _ h
    rw [hpairs, hvalue] at h
    obtain ⟨rfl, rfl⟩ := Reading.found.inj h
    rw [hpairs, hown]
  · rename_i cause others h
    rw [hpairs, hvalue] at h
    cases h

/-- The field of a name, without a value. -/
def fieldOf (head : Prelude) (type : String) (name : Token) : FieldDecl where
  name := name.text
  type := type
  modifiers := head.modifiers
  annotations := head.annotations
  comment := head.comment.map (·.text)
  line := name.line
  column := name.column

theorem trailingComment?_of_semicolon {semicolon : Token}
    (hsemicolon : semicolon.kind = .mark .semicolon) :
    FieldDecl.trailingComment? (semicolon :: rest) = (none, semicolon :: rest) := by
  have hline : semicolon.is (.comment .line) = false := decide_eq_false (hsemicolon ▸ nofun)
  rw [FieldDecl.trailingComment?, hline, Bool.false_and, if_neg Bool.false_ne_true]

theorem readRest_of_semicolon {head : Prelude} {type : String} {name semicolon : Token}
    (hsemicolon : semicolon.kind = .mark .semicolon) :
    FieldDecl.readRest source head type name (semicolon :: rest) =
      .found [fieldOf head type name] rest := by
  have hend : Ahead.atMark .semicolon (semicolon :: rest) = true := decide_eq_true hsemicolon
  rw [FieldDecl.readRest, readList_of_semicolon hsemicolon, Reading.andThen]
  dsimp only
  rw [trailingComment?_of_semicolon hsemicolon]
  dsimp only
  rw [if_pos hend]
  rfl

theorem typed_of_read {type : String} {final name semicolon : Token} {head : Prelude}
    (hread : TypeText.read ts = .found type (name :: semicolon :: rest))
    (hname : name.kind = .identifier) (hsemicolon : semicolon.kind = .mark .semicolon) :
    MemberItem.readDeclared.typed source final head ts =
      .found (.members [.field (fieldOf head type name)]) rest := by
  have hidentifier : name.is .identifier = true := decide_eq_true hname
  have hparen : Ahead.atMark .openParen (semicolon :: rest) = false :=
    (Token.isMark_of_kind hsemicolon _).trans (decide_eq_false (by decide))
  rw [MemberItem.readDeclared.typed, hread]
  dsimp only [Reading.orMalformed, Reading.andThen]
  rw [if_pos hidentifier, hparen, if_neg Bool.false_ne_true, readRest_of_semicolon hsemicolon]
  rfl

theorem at?_of_startsType {t : Token} {us : List Token} (h : t.kind.startsType = true) :
    Skippable.at? true (t :: us) = none := by
  obtain ⟨hmark, -, -, hinterface, henum, hclass⟩ := not_modifier_of_startsType h
  unfold Skippable.at?
  split
  · rename_i hkind
    exact absurd hkind hinterface
  · rename_i hkind
    exact absurd hkind henum
  · rename_i hkind
    exact absurd hkind hclass
  · rename_i hkind
    exact absurd hkind (hmark _)
  · rfl

/-- What starts like a type, with no parenthesis behind the first word, is read as a member with a
type: it is no constructor, and none of the other members starts like a type. -/
theorem readBehind_of_startsType {t final : Token} {us : List Token} {head : Prelude}
    (hstarts : t.kind.startsType = true) (hparen : Ahead.atMark .openParen us = false) :
    MemberItem.readBehind source final head (t :: us) =
      MemberItem.readDeclared.typed source final head (t :: us) := by
  obtain ⟨hmark, -⟩ := not_modifier_of_startsType hstarts
  have hat (m : Mark) : Ahead.atMark m (t :: us) = false := decide_eq_false (hmark m)
  have hskippable : Skippable.at? true (t :: us) = none := at?_of_startsType hstarts
  rw [MemberItem.readBehind, hat .closeBrace, hat .openBrace, hskippable]
  dsimp only
  rw [hat .openAngle, Bool.false_or, List.isEmpty_cons, Bool.and_false,
    if_neg Bool.false_ne_true, if_neg Bool.false_ne_true, if_neg Bool.false_ne_true]
  -- the two tokens that tell a constructor are looked at before the type is read
  unfold MemberItem.readDeclared
  split
  · rename_i second paren others h
    obtain ⟨rfl, htail⟩ := List.cons.inj h
    rw [htail] at hparen
    have hnoParen : paren.isMark .openParen = false := hparen
    rw [hnoParen, Bool.and_false, if_neg Bool.false_ne_true, htail]
  · rfl

/-- What stands in front of a type starts with no mark but the sign of an annotation. -/
theorem Field.mark_of_head?_front (f : Field) {p : Piece} (hp : p ∈ f.front.head?) {m : Mark}
    (hm : p.kind = .mark m) : m = .atSign := by
  rw [front] at hp
  cases hcomment : f.comment with
  | some c =>
    rw [hcomment] at hp
    cases hp
    cases hm
  | none =>
    rw [hcomment] at hp
    cases hannotations : f.annotations with
    | cons a annotations =>
      rw [hannotations] at hp
      cases hp
      exact (Kind.mark.inj hm).symm
    | nil =>
      rw [hannotations] at hp
      obtain ⟨modifier, -, rfl⟩ := List.mem_map.mp (List.mem_of_head? hp)
      cases hm

theorem Field.atMark_front (f : Field) {t : Token} (h : Spell ts f.front)
    (ht : t.kind.startsType = true) {m : Mark} (hm : m ≠ .atSign) :
    Ahead.atMark m (ts ++ t :: rest) = false := by
  cases hfront : f.front with
  | nil =>
    rw [hfront] at h
    cases h
    exact decide_eq_false ((not_modifier_of_startsType ht).1 m)
  | cons p front =>
    rw [hfront] at h
    obtain ⟨u, us, rfl, hkind, -⟩ := spell_cons_iff.mp h
    exact decide_eq_false fun hsame ↦
      hm (f.mark_of_head?_front (hfront ▸ rfl : p ∈ f.front.head?) (hkind.symm.trans hsame))

/-- What stands in front of the type of a field is read. -/
theorem Field.readPrelude_append (f : Field) (source : Option (List Char))
    (h : Spell ts f.front) (hrest : StopsPrelude rest) :
    ∃ head, Prelude.read source (ts ++ rest) = .found head rest ∧
      head.comment.map (·.text) = f.comment.map CommentText.text ∧
      head.annotations.map AnnotationUse.unplaced = f.annotations.map Annotation.decl ∧
      head.modifiers = f.modifiers.map Modifier.text := by
  rw [front] at h
  cases hcomment : f.comment with
  | none =>
    rw [hcomment] at h
    obtain ⟨uses, hread, hunplaced⟩ :=
      readFrom_append source {} f.annotations f.modifiers h hrest
    exact ⟨_, hread, rfl, hunplaced, rfl⟩
  | some c =>
    rw [hcomment] at h
    obtain ⟨t, ts, rfl, hkind, hstands, h⟩ := spell_cons_iff.mp h
    have hisComment : t.kind.isComment = true := by
      rw [hkind]
      rfl
    obtain ⟨uses, hread, hunplaced⟩ :=
      readFrom_append source { comment := some t } f.annotations f.modifiers h hrest
    have hfirst : Prelude.read source (t :: (ts ++ rest)) =
        Prelude.readFrom source { comment := some t } (ts ++ rest) :=
      readFrom_of_comment hisComment
    exact ⟨_, hfirst.trans hread, congrArg some (hstands.text_eq rfl), hunplaced, rfl⟩

/-- A field is read whose type is read as some text. -/
theorem Field.exists_read_eq (f : Field) (source : Option (List Char)) (final : Token)
    {type : String} {t name semicolon : Token} {us : List Token} (hfront : Spell ts f.front)
    (hstarts : t.kind.startsType = true) (hword : t.text ∉ Prelude.contextualModifiers)
    (hparen : Ahead.atMark .openParen us = false)
    (htype : TypeText.read (t :: us) = .found type (name :: semicolon :: rest))
    (hname : name.kind = .identifier) (hsemicolon : semicolon.kind = .mark .semicolon) :
    ∃ decl, MemberItem.read source final (ts ++ t :: us) = .found (.members [.field decl]) rest ∧
      decl.unplaced = { f.decl with name := name.text, type := type } := by
  obtain ⟨head, hread, hcomment, hannotations, hmodifiers⟩ :=
    f.readPrelude_append source hfront (stopsPrelude_of_startsType hstarts hword us)
  refine ⟨fieldOf head type name, ?_, ?_⟩
  · have hat (m : Mark) (hm : m ≠ .atSign) : Ahead.atMark m (ts ++ t :: us) = false :=
      f.atMark_front hfront hstarts hm
    rw [MemberItem.read, hat .semicolon nofun, hat .openBrace nofun, if_neg Bool.false_ne_true,
      if_neg Bool.false_ne_true, hread]
    exact (readBehind_of_startsType hstarts hparen).trans (typed_of_read htype hname hsemicolon)
  · rw [FieldDecl.unplaced, fieldOf, hcomment, hannotations, hmodifiers]
    rfl

/-- The first token in front of a type, or of the type, is no mark but the sign of an annotation. -/
theorem Field.exists_front_eq_cons (f : Field) {t : Token} (h : Spell ts f.front)
    (ht : t.kind.startsType = true) (rest : List Token) :
    ∃ u us, ts ++ t :: rest = u :: us ∧ ∀ m, u.kind = .mark m → m = .atSign := by
  obtain ⟨u, us, hcons⟩ : ∃ u us, ts ++ t :: rest = u :: us :=
    List.exists_cons_of_ne_nil (by simp)
  refine ⟨u, us, hcons, fun m hm ↦ ?_⟩
  by_contra hne
  have hat : Ahead.atMark m (ts ++ t :: rest) = false := f.atMark_front h ht hne
  rw [hcons] at hat
  exact of_decide_eq_false hat hm

theorem Field.exists_eq_cons (f : Field) (h : Spell ts f.pieces) :
    ∃ t us, ts = t :: us ∧ ∀ m, t.kind = .mark m → m = .atSign := by
  obtain ⟨us, vs, rfl, hfront, h⟩ := spell_append_iff.mp h
  obtain ⟨ts, ws, rfl, htype, -⟩ := spell_append_iff.mp h
  obtain ⟨t, ts, rfl, hkind, -⟩ := f.type.exists_eq_cons htype
  exact f.exists_front_eq_cons hfront (hkind ▸ f.type.startsType_head) (ts ++ ws)

/-- **A field is read.** -/
theorem Field.read_append (f : Field) (source : Option (List Char)) (final : Token)
    (h : Spell ts f.pieces) :
    ∃ decl, MemberItem.read source final (ts ++ rest) = .found (.members [.field decl]) rest ∧
      decl.unplaced = f.decl := by
  obtain ⟨us, vs, rfl, hfront, h⟩ := spell_append_iff.mp h
  obtain ⟨ts, ws, rfl, htype, h⟩ := spell_append_iff.mp h
  obtain ⟨name, ws, rfl, hname, hnameStands, h⟩ := spell_cons_iff.mp h
  obtain ⟨semicolon, rfl, hsemicolon, -⟩ := spell_singleton_iff.mp h
  have hread : TypeText.read (ts ++ name :: semicolon :: rest) =
      .found f.type.text (name :: semicolon :: rest) := f.type.read_append htype hname
  obtain ⟨t, ts, rfl, hkind, htext, hnext⟩ := f.type.exists_eq_cons htype
  have hstarts : t.kind.startsType = true := hkind ▸ f.type.startsType_head
  have hparen : Ahead.atMark .openParen (ts ++ name :: semicolon :: rest) = false :=
    hnext _ (Token.isMark_eq_false_of_kind hname nofun _)
  obtain ⟨decl, hdecl, hunplaced⟩ := f.exists_read_eq source final hfront hstarts
    (htext ▸ f.isNoModifier) hparen hread hname hsemicolon
  refine ⟨decl, ?_, ?_⟩
  · simpa using hdecl
  · rw [hunplaced, hnameStands.text_eq rfl]
    rfl

end Written

end ClassSchema
