import ClassSchema.Proofs.Parser.Whole
import ClassSchema.Proofs.Written.Laid

/-!
# Classes as they are written

A class is written as a comment, annotations, the word `public`, the word `class`, a name and fields
between braces. Parsing a text that consists of these tokens, with any white space between them,
gives back the class: one declaration with the comment, the annotations and the fields, nothing
reported and nothing passed over. Only the places of the tokens are not known beforehand, so the
declarations are compared apart from their lines and columns.

What stands between the braces need not be fields of one form. Any pieces will do whose tokens are
read as members in a row, and the declaration then has these members.
-/

namespace ClassSchema

open Token (Spell spell_append_iff spell_cons_iff spell_singleton_iff)

/-- A class apart from its place. -/
def ClassDecl.unplaced (c : ClassDecl) : ClassDecl :=
  { c with
    annotations := c.annotations.map AnnotationUse.unplaced
    fields := c.fields.map FieldDecl.unplaced
    line := 0
    column := 0 }

namespace Written

variable {ts rest : List Token}

/-! ## Fields in a row -/

/-- The members are the fields, in their order and apart from their places. -/
def AreFields (fields : List Field) (members : List Member) : Prop :=
  ∃ decls : List FieldDecl, members = decls.map .field ∧
    decls.map FieldDecl.unplaced = fields.map Field.decl

theorem AreFields.append {f : Field} {fields : List Field} {members more : List Member}
    (h : AreFields [f] members) (hmore : AreFields fields more) :
    AreFields (f :: fields) (members ++ more) := by
  obtain ⟨decls, rfl, hdecls⟩ := h
  obtain ⟨decls', rfl, hdecls'⟩ := hmore
  refine ⟨decls ++ decls', List.map_append.symm, ?_⟩
  rw [List.map_append, hdecls, hdecls']
  rfl

theorem AreFields.fields_eq {fields : List Field} {members : List Member}
    (h : AreFields fields members) :
    (Member.fields members).map FieldDecl.unplaced = fields.map Field.decl := by
  obtain ⟨decls, rfl, hdecls⟩ := h
  rw [← hdecls, Member.fields, List.filterMap_map]
  exact congrArg _ List.filterMap_some

private theorem AreFields.methods_eq {fields : List Field} {members : List Member}
    (h : AreFields fields members) : Member.methods members = [] := by
  obtain ⟨decls, rfl, -⟩ := h
  rw [Member.methods, List.filterMap_map, List.filterMap_eq_nil_iff]
  exact fun _ _ ↦ rfl

theorem row_of_read {t : Token} {final : Token} {text : Option (List Char)} {members : List Member}
    {us rest : List Token} (hts : ts = t :: us) (ht : ∀ m, t.kind = .mark m → m = .atSign)
    (hread : MemberItem.read text final (ts ++ rest) = .found (.members members) rest) :
    Row text final (ts ++ rest) members rest := by
  subst hts
  rw [← List.append_nil members]
  exact .cons (decide_eq_false fun hclose ↦ (nomatch ht .closeBrace hclose)) hread (.nil rest)

/-- Fields are members in a row. -/
theorem exists_row_of_fields (fields : List Field) (text : Option (List Char)) (final : Token)
    (rest : List Token) (h : Spell ts (fields.flatMap Field.pieces)) :
    ∃ members, Row text final (ts ++ rest) members rest ∧ AreFields fields members := by
  induction fields generalizing ts with
  | nil =>
    cases h
    exact ⟨[], .nil rest, [], rfl, rfl⟩
  | cons f fields ih =>
    rw [List.flatMap_cons] at h
    obtain ⟨us, vs, rfl, hf, hfields⟩ := spell_append_iff.mp h
    obtain ⟨members, hrow, hmembers⟩ := ih hfields
    obtain ⟨decl, hread, hdecl⟩ := @f.read_append us (vs ++ rest) text final hf
    obtain ⟨t, others, hcons, hmark⟩ := f.exists_eq_cons hf
    refine ⟨[.field decl] ++ members, ?_,
      AreFields.append ⟨[decl], rfl, congrArg (· :: []) hdecl⟩ hmembers⟩
    rw [List.append_assoc]
    exact (row_of_read hcons hmark hread).append hrow

/-! ## Classes -/

/-- A class. -/
structure Class where
  comment : Option CommentText
  annotations : List Annotation
  name : Name
  fields : List Field

namespace Class

variable (c : Class)

/-- The word `public`. -/
def publicModifier : Modifier := ⟨.publicWord, rfl⟩

/-- What stands in front of the word `class`, its comment apart, as it is written. -/
def front : List Piece :=
  c.annotations.flatMap Annotation.pieces ++ List.map Modifier.piece [publicModifier]

/-- A class as it is written, with any pieces between its braces. -/
def around (inside : List Piece) : List Piece :=
  c.comment.toList.map CommentText.piece ++ (c.front ++
    (keyword .classWord :: c.name.piece :: mark .openBrace :: (inside ++ [mark .closeBrace])))

/-- A class as it is written. -/
def pieces : List Piece := c.around (c.fields.flatMap Field.pieces)

/-- The declaration of a class, apart from its place. -/
def decl : ClassDecl where
  name := c.name.text
  modifiers := ["public"]
  annotations := c.annotations.map Annotation.decl
  fields := c.fields.map Field.decl
  methods := []
  comment := c.comment.map CommentText.text

end Class

theorem stopsPrelude_of_classWord {t : Token} (ht : t.kind = .keyword .classWord) :
    StopsPrelude (t :: rest) := by
  refine ⟨t, rest, rfl, ?_, ?_, ?_⟩
  · rw [ht]
    exact nofun
  · rw [ht]
    rfl
  · rw [Prelude.isModifier, Token.is, ht]
    rfl

theorem exists_front_eq_cons (c : Class) (h : Spell ts c.front) :
    ∃ t us, ts = t :: us ∧ t.kind.startsDeclaration = true := by
  rw [Class.front] at h
  cases hannotations : c.annotations with
  | nil =>
    rw [hannotations] at h
    obtain ⟨t, us, rfl, hkind, -⟩ := spell_cons_iff.mp h
    exact ⟨t, us, rfl, hkind ▸ rfl⟩
  | cons a annotations =>
    rw [hannotations] at h
    obtain ⟨t, us, rfl, hkind, -⟩ := spell_cons_iff.mp h
    exact ⟨t, us, rfl, hkind ▸ rfl⟩

/-- In front of a class there is its comment, at which no declaration starts. -/
theorem lastComment?_of_class (c : Class) {lead : List Token}
    (h : Spell lead (c.comment.toList.map CommentText.piece)) :
    (∀ t ∈ lead, t.kind.startsDeclaration = false) ∧
      (Token.lastComment? lead).map (·.text) = c.comment.map CommentText.text := by
  cases hcomment : c.comment with
  | none =>
    rw [hcomment] at h
    cases h
    exact ⟨List.forall_mem_nil _, rfl⟩
  | some comment =>
    rw [hcomment] at h
    obtain ⟨t, rfl, hkind, hstands⟩ := spell_singleton_iff.mp h
    have hcommentKind : t.kind = .comment comment.form := hkind
    have hstarts : t.kind.startsDeclaration = false := by rw [hcommentKind]; rfl
    have htrivia : t.kind.isTrivia = false := by rw [hcommentKind]; rfl
    have hisComment : t.kind.isComment = true := by rw [hcommentKind]; rfl
    refine ⟨List.forall_mem_singleton.mpr hstarts, ?_⟩
    rw [← List.nil_append [t], Token.lastComment?_concat htrivia, if_pos hisComment]
    exact congrArg some (hstands.text_eq rfl)

end Written

/-! ## Parsing a written class -/

/-- **A class is parsed with the members between its braces**, if the pieces there are read as
members in a row. -/
theorem ParsedUnit.ofText_around (c : Written.Class) {inside : List Piece} {source : String}
    {form : List Member → Prop}
    (hinside : ∀ ts final rest, Spell ts inside → ∃ members,
      Row (some source.toList) final (ts ++ rest) members rest ∧ form members)
    (h : Strewn (c.around inside) source.toList) :
    ∃ decl members, ofText source = ⟨some ⟨[decl]⟩, [], [], []⟩ ∧ form members ∧
      decl.unplaced = { c.decl with
        fields := (Member.fields members).map FieldDecl.unplaced
        methods := Member.methods members } := by
  obtain ⟨ts, last, htokens, hlast, hspell⟩ := Token.exists_tokenize_eq h
  have hnoEnd := hspell.kind_ne_endOfInput
  -- the tokens fall into the parts of the class
  obtain ⟨lead, ts, rfl, hlead, hspell⟩ := spell_append_iff.mp hspell
  obtain ⟨before, ts, rfl, hfront, hspell⟩ := spell_append_iff.mp hspell
  obtain ⟨keyword, ts, rfl, hkeyword, -, hspell⟩ := spell_cons_iff.mp hspell
  obtain ⟨name, ts, rfl, hname, hnameText, hspell⟩ := spell_cons_iff.mp hspell
  obtain ⟨opening, ts, rfl, hopening, -, hspell⟩ := spell_cons_iff.mp hspell
  obtain ⟨body, ts, rfl, hbody, hspell⟩ := spell_append_iff.mp hspell
  obtain ⟨closing, rfl, hclosing, -⟩ := spell_singleton_iff.mp hspell
  let f : ClassFrame := ⟨keyword, name, opening, closing, hkeyword, hname, hopening, hclosing⟩
  obtain ⟨hleadKinds, hcomment⟩ := Written.lastComment?_of_class c hlead
  have hstarts : (Ahead.kind (before ++ (f.front [] body ++ [f.closing]))).startsDeclaration =
      true := by
    obtain ⟨t, us, rfl, ht⟩ := Written.exists_front_eq_cons c hfront
    exact ht
  obtain ⟨uses, hread, huses⟩ :=
    Written.readFrom_append (some source.toList) {} c.annotations [Written.Class.publicModifier]
      hfront (@Written.stopsPrelude_of_classWord (name :: opening :: (body ++ [closing])) _
        hkeyword)
  obtain ⟨members, hrow, hmembers⟩ := hinside body last [closing] hbody
  have hunit := ParsedUnit.ofTokens_of_row (some source) f lead [] hnoEnd hlast hleadKinds hstarts
    hread (List.forall_mem_nil _) hrow
  refine ⟨_, members, by rw [ofText, htokens]; exact hunit, hmembers, ?_⟩
  rw [ClassDecl.unplaced, ClassFrame.declBehind, Option.or_none, hcomment]
  dsimp only
  rw [List.nil_append, List.nil_append, huses,
    show f.name.text = c.name.text from hnameText.text_eq rfl]
  rfl

/-- A class is parsed however it is laid out. -/
theorem ParsedUnit.ofText_of_laid (c : Written.Class) {source : String}
    (h : Laid c.pieces source.toList) :
    ∃ decl, ofText source = ⟨some ⟨[decl]⟩, [], [], []⟩ ∧ decl.unplaced = c.decl := by
  have hinside (ts : List Token) (final : Token) (rest : List Token)
      (hts : Spell ts (c.fields.flatMap Written.Field.pieces)) :
      ∃ members, Row (some source.toList) final (ts ++ rest) members rest ∧
        Written.AreFields c.fields members :=
    Written.exists_row_of_fields c.fields (some source.toList) final rest hts
  obtain ⟨decl, members, htext, hfields, hdecl⟩ := ofText_around c hinside h.strewn
  refine ⟨decl, htext, ?_⟩
  rw [hdecl, hfields.fields_eq, hfields.methods_eq]
  rfl

/-- **A class that was written is parsed.** However its tokens are spaced, the text gives the class
and nothing else: its comment, its annotations and its fields as they were written, without a
report. -/
theorem ParsedUnit.ofText_written (c : Written.Class) (source : String)
    (h : Spaced c.pieces source.toList) :
    ∃ decl, ofText source = ⟨some ⟨[decl]⟩, [], [], []⟩ ∧ decl.unplaced = c.decl :=
  ofText_of_laid c h.laid

/-- A class with a comment, annotations and a field. -/
def Written.user : Class where
  comment := some (.block " A user. ".toList (by decide +kernel))
  annotations :=
    [⟨⟨⟨'T', ['a', 'b', 'l', 'e'], by decide, by decide, by decide⟩, []⟩,
      .single (.text [.plain 'a' (by decide), .escaped '"'])⟩]
  name := ⟨'U', ['s', 'e', 'r'], by decide, by decide, by decide⟩
  fields :=
    [{ comment := some (.line " tags".toList (by decide))
       annotations := []
       modifiers := [⟨.privateWord, rfl⟩]
       type := .applied ⟨⟨'L', ['i', 's', 't'], by decide, by decide, by decide⟩, []⟩
         (.last (.array (.primitive .intWord rfl)))
       name := ⟨'t', ['a', 'g', 's'], by decide, by decide, by decide⟩
       isNoModifier := by decide }]

/-- The text of a class, one token on each line. -/
def Written.userText : String :=
  "/* A user. */\n@\nTable\n(\n\"a\\\"\"\n)\npublic\nclass\nUser\n\x7b\n" ++
    "// tags\nprivate\nList\n<\nint\n[\n]\n>\ntags\n;\n\x7d\n"

private theorem Written.spaced_userText : Spaced user.pieces userText.toList := by
  have htext : userText = String.ofList (printLines user.pieces) := by decide +kernel
  rw [htext, String.toList_ofList]
  exact spaced_printLines user.pieces

/-- The text of a class with a field is parsed. -/
theorem ParsedUnit.ofText_userText :
    Spaced Written.user.pieces Written.userText.toList ∧
      ∃ decl, ofText Written.userText = ⟨some ⟨[decl]⟩, [], [], []⟩ ∧
        decl.unplaced =
          { name := "User"
            modifiers := ["public"]
            annotations := [{ name := "Table", arguments := [("value", .text "a\"")] }]
            fields :=
              [{ name := "tags"
                 type := "List<int[]>"
                 modifiers := ["private"]
                 comment := some "// tags" }]
            comment := some "/* A user. */" } := by
  obtain ⟨decl, htext, hdecl⟩ :=
    ofText_written Written.user Written.userText Written.spaced_userText
  exact ⟨Written.spaced_userText, decl, htext, hdecl.trans (by decide +kernel)⟩

end ClassSchema
