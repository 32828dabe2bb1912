import ClassSchema.Proofs.Field.Declarators
import ClassSchema.Proofs.Grammar.TypeTokens
import ClassSchema.Proofs.Parser.Moves
import ClassSchema.Proofs.Token.Quoted
import ClassSchema.Proofs.Written.Field
import Mathlib.Data.List.Forall2

/-!
# Field declarations

A field declaration is modifiers, a type, a row of declarators and a semicolon. The modifiers end at
the first word of the type, the type at the first name, and the row at the semicolon, so the member
is always kept, and the parser goes on behind the semicolon. The fields are those that were declared
exactly if the row is separable: each with its name, the type of the declaration with its own `[]`
pairs, and its initializer as it stands in the source. A row that is not separable loses fields, and
nothing tells of it: they become part of the value of the field in front of them.
-/

namespace ClassSchema

/-- What a declarator has as its default value: the initializer as it stands in the source. -/
def DeclaratorForm.IsDefault (source : String) (d : DeclaratorForm) (value : Option String) :
    Prop :=
  match d.value with
  | none => value = none
  | some (_, init) => ∃ quoted plain, value = some quoted ∧ Quotation source init quoted plain

/-- A word that is a modifier in front of a declaration: a reserved one, or one of the names that
are modifiers where they can be. -/
def Prelude.IsModifierWord (t : Token) : Prop :=
  t.kind.isModifier = true ∨ t.kind = .identifier ∧ t.text ∈ contextualModifiers

instance : DecidablePred Prelude.IsModifierWord := fun _ ↦ inferInstanceAs (Decidable (_ ∨ _))

/-- A field declaration as it is written. The first word of its type is no modifier. -/
structure FieldForm where
  modifiers : List Token
  type : List Token
  first : DeclaratorForm
  others : List NextDeclarator
  semicolon : Token
  modifiers_words : ∀ m ∈ modifiers, Prelude.IsModifierWord m
  type_isType : TypeText.IsType type
  type_noModifier : ∀ t ∈ type.head?, t.kind = .identifier → t.text ∉ Prelude.contextualModifiers
  semicolon_kind : semicolon.kind = .mark .semicolon

namespace FieldForm

variable (f : FieldForm)

/-- The row of declarators with the semicolon behind it. -/
def row : List Token := f.first.tokens ++ (DeclaratorForm.tokensOf f.others ++ [f.semicolon])

/-- A field declaration as it is written. -/
def tokens : List Token := f.modifiers ++ (f.type ++ f.row)

/-- The declarators of a field declaration. -/
def declarators : List DeclaratorForm := f.first :: f.others.map (·.toDeclaratorForm)

/-- The fields that are declared behind `head`. -/
def fieldsBehind (head : Prelude) (source : Option (List Char)) : List FieldDecl :=
  f.declarators.map fun d ↦
    { name := d.name.text
      type := TypeText.join f.type ++ String.join (List.replicate d.pairs.length "[]")
      modifiers := head.modifiers
      annotations := head.annotations
      comment := head.comment.map (·.text)
      defaultValue := d.value.map fun (_, init) ↦ sourceText source init
      line := d.name.line
      column := d.name.column }

/-- The fields that are declared. -/
def fields (source : Option (List Char)) : List FieldDecl :=
  f.fieldsBehind { modifiers := f.modifiers.map (·.text) } source

/-- Whether no initializer is taken to go on behind its comma. -/
def isSeparable : Bool := f.first.isSeparable f.others

variable {f}

private theorem infix_of_mem_value {d : DeclaratorForm} {sign : Token} {init : List Token}
    (hd : d ∈ f.declarators) (hvalue : d.value = some (sign, init)) : init <:+: f.tokens := by
  have hinit : init <:+: d.tokens := by
    rw [DeclaratorForm.tokens, DeclaratorForm.behind, DeclaratorForm.valueTokens, hvalue]
    exact (((List.suffix_cons sign init).trans (List.suffix_append _ _)).trans
      (List.suffix_cons _ _)).isInfix
  have hrow : d.tokens <:+: f.row := by
    rcases List.mem_cons.mp hd with rfl | hd
    · exact (List.prefix_append _ _).isInfix
    · obtain ⟨e, he, rfl⟩ := List.mem_map.mp hd
      have hothers : e.tokens <:+: DeclaratorForm.tokensOf f.others := by
        obtain ⟨before, after, hsplit⟩ := List.append_of_mem he
        refine ⟨DeclaratorForm.tokensOf before ++ [e.comma], DeclaratorForm.tokensOf after, ?_⟩
        simp [DeclaratorForm.tokensOf, hsplit]
      exact (hothers.trans (List.prefix_append _ _).isInfix).trans (List.suffix_append _ _).isInfix
  refine (hinit.trans hrow).trans ?_
  exact ((List.suffix_append _ _).trans (List.suffix_append _ _)).isInfix

theorem forall₂_isDefault {source : String} (htokens : f.tokens <:+: Token.tokenize source) :
    List.Forall₂ (DeclaratorForm.IsDefault source) f.declarators
      ((f.fields (some source.toList)).map (·.defaultValue)) := by
  rw [fields, fieldsBehind, List.map_map, List.forall₂_map_right_iff, List.forall₂_same]
  intro d hd
  rw [DeclaratorForm.IsDefault, Function.comp_apply]
  cases hvalue : d.value with
  | none => rfl
  | some v =>
    obtain ⟨sign, init⟩ := v
    obtain ⟨-, hne, -⟩ := d.value_kind _ hvalue
    have hinit := (infix_of_mem_value hd hvalue).trans htokens
    exact ⟨_, _, rfl, quotation_sourceText hinit hne⟩

end FieldForm

namespace Prelude

variable {source : Option (List Char)} {sofar : Prelude} {rest : List Token}

theorem IsModifierWord.kind_cases {t : Token} (ht : IsModifierWord t) :
    (∃ word, t.kind = .keyword word) ∨ t.kind = .identifier := by
  rcases ht with ht | ⟨ht, -⟩
  · cases hkind : t.kind with
    | keyword word => exact .inl ⟨word, rfl⟩
    | _ =>
      rw [hkind] at ht
      cases ht
  · exact .inr ht

theorem IsModifierWord.atMark {t : Token} (ht : IsModifierWord t) (m : Mark) (ts : List Token) :
    Ahead.atMark m (t :: ts) = false := by
  rcases ht.kind_cases with ⟨word, hkind⟩ | hkind
  · exact Token.isMark_eq_false_of_kind hkind nofun m
  · exact Token.isMark_eq_false_of_kind hkind nofun m

/-- A modifier is read where no parenthesis comes next. -/
theorem readFrom_of_isModifierWord {t : Token} (ht : IsModifierWord t)
    (hrest : Ahead.atMark .openParen rest = false) :
    readFrom source sofar (t :: rest) =
      readFrom source { sofar with modifiers := sofar.modifiers ++ [t.text] } rest := by
  have hcomment : t.kind.isComment = false := by
    rcases ht.kind_cases with ⟨word, hkind⟩ | hkind <;> rw [hkind] <;> rfl
  have hstarts : startsAnnotations t rest = false := by
    rw [startsAnnotations, show t.isMark .atSign = false from ht.atMark .atSign rest,
      Bool.false_and]
  have hmodifier : isModifier t rest = true := by
    rw [isModifier, hrest]
    rcases ht with ht | ⟨ht, hword⟩
    · rw [ht, Bool.true_or]
    · rw [show t.is .identifier = true from decide_eq_true ht, List.contains_iff_mem.mpr hword,
        Bool.or_eq_true]
      exact .inr rfl
  rw [readFrom, if_neg (ne_true_of_eq_false hcomment), if_neg (ne_true_of_eq_false hstarts),
    if_pos hmodifier]

/-- Modifiers are read in their order. -/
theorem readFrom_modifierWords {ms : List Token} (hms : ∀ m ∈ ms, IsModifierWord m)
    (hrest : Ahead.atMark .openParen rest = false) :
    readFrom source sofar (ms ++ rest) =
      readFrom source { sofar with modifiers := sofar.modifiers ++ ms.map (·.text) } rest := by
  induction ms generalizing sofar with
  | nil => rw [List.map_nil, List.append_nil, List.nil_append]
  | cons m ms ih =>
    -- what comes next is another modifier, or what comes behind all of them
    have hnext : Ahead.atMark .openParen (ms ++ rest) = false := by
      cases ms with
      | nil => exact hrest
      | cons m' ms => exact (hms m' (by simp)).atMark .openParen (ms ++ rest)
    rw [List.cons_append, readFrom_of_isModifierWord (hms m List.mem_cons_self) hnext,
      ih fun m' hm' ↦ hms m' (List.mem_cons_of_mem m hm'), List.append_assoc]
    rfl

/-- What stands in front of a type ends at its first word, unless that is a modifier. -/
theorem readFrom_of_startsType {t : Token} (hstarts : t.kind.startsType = true)
    (hword : t.kind = .identifier → t.text ∉ contextualModifiers) :
    readFrom source sofar (t :: rest) = .found sofar (t :: rest) := by
  obtain ⟨hmark, hcomment, hkeyword, -⟩ := Written.not_modifier_of_startsType hstarts
  have hannotation : startsAnnotations t rest = false := by
    rw [startsAnnotations, show t.isMark .atSign = false from decide_eq_false (hmark _),
      Bool.false_and]
  have hmodifier : isModifier t rest = false := by
    rw [isModifier, hkeyword, Bool.false_or]
    cases hkind : t.is .identifier with
    | false => rw [Bool.false_and, Bool.false_and]
    | true =>
      have hnot : contextualModifiers.contains t.text = false := by
        rw [Bool.eq_false_iff]
        exact fun h ↦ hword (of_decide_eq_true hkind) (List.contains_iff_mem.mp h)
      rw [hnot, Bool.and_false, Bool.false_and]
  rw [readFrom, if_neg (ne_true_of_eq_false hcomment), if_neg (ne_true_of_eq_false hannotation),
    if_neg (ne_true_of_eq_false hmodifier)]

end Prelude

namespace FieldForm

variable (f : FieldForm) (source : Option (List Char)) (rest : List Token)

theorem row_append :
    f.row ++ rest = f.first.name ::
      (f.first.behind ++ (DeclaratorForm.tokensOf f.others ++ f.semicolon :: rest)) := by
  rw [row, DeclaratorForm.tokens, List.cons_append, List.cons_append, List.append_assoc,
    List.append_assoc]
  rfl

theorem kind_row_append : Ahead.kind (f.row ++ rest) = .identifier := by
  rw [row_append]
  exact f.first.name_kind

/-- No parenthesis follows a name of the row, so the member is no method. -/
theorem atMark_openParen_behind :
    Ahead.atMark .openParen
      (f.first.behind ++ (DeclaratorForm.tokensOf f.others ++ f.semicolon :: rest)) = false := by
  rw [DeclaratorForm.behind, DeclaratorForm.valueTokens]
  cases hpairs : f.first.pairs with
  | cons pair pairs =>
    exact Token.isMark_of_kind (f.first.pairs_kind pair (hpairs ▸ List.mem_cons_self)).1 _
  | nil =>
    cases hvalue : f.first.value with
    | some v => exact Token.isMark_of_kind (f.first.value_kind v hvalue).1 _
    | none =>
      obtain ⟨t, us, heq, ht⟩ :=
        DeclaratorForm.exists_eq_cons_tokensOf f.semicolon_kind f.others rest
      rw [List.flatMap_nil, List.nil_append, List.nil_append, heq]
      rcases ht with ht | ht <;> exact Token.isMark_of_kind ht _

/-- The type starts with a word that is no modifier, and no parenthesis comes next. -/
theorem exists_type_append_row :
    ∃ t us, f.type ++ (f.row ++ rest) = t :: us ∧ t ∈ f.type.head? ∧
      t.kind.startsType = true ∧ Ahead.atMark .openParen us = false := by
  have htype := f.type_isType
  cases hcases : f.type with
  | nil =>
    rw [hcases] at htype
    cases htype.1
  | cons t ts =>
    rw [hcases] at htype
    refine ⟨t, ts ++ (f.row ++ rest), rfl, rfl, TypeText.startsType_of_isType htype, ?_⟩
    cases ts with
    | nil =>
      rw [List.nil_append, Ahead.atMark, f.kind_row_append]
      rfl
    | cons u ts =>
      rw [Bool.eq_false_iff]
      intro hparen
      have hmark (m : Mark) (hm : .openParen ≠ m) : u.isMark m = false :=
        (Token.isMark_of_kind (of_decide_eq_true hparen) m).trans (decide_eq_false hm)
      exact TypeText.not_endsType_of_isType htype (List.cons_ne_nil u ts)
        ⟨hmark .dot (by decide), hmark .openAngle (by decide), hmark .openBracket (by decide)⟩

/-- The row of declarators is read up to its semicolon. -/
theorem readRest_append (head : Prelude) :
    ∃ fields, FieldDecl.readRest source head (TypeText.join f.type) f.first.name
        (f.first.behind ++ (DeclaratorForm.tokensOf f.others ++ f.semicolon :: rest)) =
          .found fields rest ∧
      (f.isSeparable = true → fields = f.fieldsBehind head source) ∧
      (f.isSeparable = false → fields.length < f.declarators.length) := by
  obtain ⟨declarators, hread, hdeclared, hle, hlength⟩ := DeclaratorForm.readList_append source
    (TypeText.join f.type) f.semicolon_kind rest f.first f.others
  have hsemicolon : Ahead.atMark .semicolon (f.semicolon :: rest) = true :=
    decide_eq_true f.semicolon_kind
  rw [FieldDecl.readRest, hread, Reading.andThen]
  dsimp only
  rw [Written.trailingComment?_of_semicolon f.semicolon_kind]
  dsimp only
  rw [if_pos hsemicolon]
  refine ⟨_, rfl, fun hseparable ↦ ?_, fun hnot ↦ ?_⟩
  · rw [hdeclared hseparable, fieldsBehind, List.map_map]
    rfl
  · rw [List.length_map, FieldForm.declarators, List.length_cons, List.length_map]
    refine Nat.lt_of_le_of_ne hle fun hsame ↦ ?_
    exact absurd ((hlength hsame).symm.trans hnot) (by decide)

/-- **A field declaration is read** from its type on. -/
theorem typed_append (final : Token) (head : Prelude) :
    ∃ fields, MemberItem.readDeclared.typed source final head (f.type ++ (f.row ++ rest)) =
        .found (.members (fields.map .field)) rest ∧
      (f.isSeparable = true → fields = f.fieldsBehind head source) ∧
      (f.isSeparable = false → fields.length < f.declarators.length) := by
  obtain ⟨fields, hread, hfields⟩ := f.readRest_append source rest head
  refine ⟨fields, ?_, hfields⟩
  have hname : f.first.name.is .identifier = true := decide_eq_true f.first.name_kind
  rw [MemberItem.readDeclared.typed,
    TypeText.read_append f.type_isType (f.kind_row_append rest), row_append]
  dsimp only [Reading.orMalformed, Reading.andThen]
  rw [if_pos hname, f.atMark_openParen_behind, if_neg Bool.false_ne_true, hread]
  rfl

/-- **A field declaration is read** with its modifiers. -/
theorem read_append (final : Token) :
    ∃ fields, MemberItem.read source final (f.tokens ++ rest) =
        .found (.members (fields.map .field)) rest ∧
      (f.isSeparable = true → fields = f.fields source) ∧
      (f.isSeparable = false → fields.length < f.declarators.length) := by
  obtain ⟨t, us, htype, ht, hstarts, hparen⟩ := f.exists_type_append_row rest
  obtain ⟨hmark, -⟩ := Written.not_modifier_of_startsType hstarts
  have hat (m : Mark) : Ahead.atMark m (t :: us) = false := decide_eq_false (hmark m)
  have htokens : f.tokens ++ rest = f.modifiers ++ (t :: us) := by
    rw [tokens, List.append_assoc, List.append_assoc, htype]
  have hfront (m : Mark) : Ahead.atMark m (f.modifiers ++ (t :: us)) = false := by
    cases hwords : f.modifiers with
    | nil => exact hat m
    | cons word words =>
      exact (f.modifiers_words word (hwords ▸ List.mem_cons_self)).atMark m _
  obtain ⟨fields, hread, hfields⟩ := f.typed_append source rest final
    { modifiers := f.modifiers.map (·.text) }
  refine ⟨fields, ?_, hfields⟩
  rw [htype] at hread
  rw [MemberItem.read, htokens, hfront, hfront, if_neg Bool.false_ne_true,
    if_neg Bool.false_ne_true, Prelude.read,
    Prelude.readFrom_modifierWords f.modifiers_words (hat .openParen),
    Prelude.readFrom_of_startsType hstarts (f.type_noModifier t ht), Reading.andThen,
    Written.readBehind_of_startsType hstarts hparen]
  exact hread

end FieldForm

namespace Rule

variable {p : Parser} {rest : List Token}

/-- **A field declaration declares its fields.** The member is kept, and the parser stands behind
the semicolon with nothing else done. Its fields are those that were declared if the row of
declarators is separable, each with its initializer as it stands in the source, and fewer
otherwise. -/
theorem classMember_declares (f : FieldForm) (hp : p.ahead = f.tokens ++ rest) :
    ∃ fields q, classMember p = (.present (fields.map .field), q) ∧ p.MovesTo rest q ∧
      (f.isSeparable = true → fields = f.fields p.source ∧
        ∀ source : String, p.source = some source.toList → f.tokens <:+: Token.tokenize source →
          List.Forall₂ (DeclaratorForm.IsDefault source) f.declarators
            (fields.map (·.defaultValue))) ∧
      (f.isSeparable = false → fields.length < f.declarators.length) := by
  obtain ⟨fields, hread, hdeclared, hfewer⟩ := f.read_append p.source rest p.final
  have hsuffix : rest <:+ p.ahead := hp ▸ List.suffix_append _ _
  refine ⟨fields, p.settle rest, ?_, .settle hsuffix, fun hseparable ↦ ?_, hfewer⟩
  · rw [classMember, hp, hread]
  · refine ⟨hdeclared hseparable, fun source hsource htokens ↦ ?_⟩
    rw [hdeclared hseparable, hsource]
    exact FieldForm.forall₂_isDefault htokens

end Rule

/-! ## A row that is read and one that is not -/

open Token (onFirstLine)

namespace FieldForm

/-- The tokens of `private int a[] = \x7b1, 2\x7d, b = f(c), d;`. -/
def separable : FieldForm where
  modifiers := [onFirstLine (.keyword .privateWord) "private" 0]
  type := [onFirstLine (.keyword .intWord) "int" 8]
  first := {
    name := onFirstLine .identifier "a" 12
    pairs := [(onFirstLine (.mark .openBracket) "[" 13, onFirstLine (.mark .closeBracket) "]" 14)]
    value := some (onFirstLine (.mark .equal) "=" 16,
      [onFirstLine (.mark .openBrace) "\x7b" 18, onFirstLine .number "1" 19,
        onFirstLine (.mark .comma) "," 20, onFirstLine .number "2" 22,
        onFirstLine (.mark .closeBrace) "\x7d" 23])
    name_kind := rfl
    pairs_kind := by decide
    value_kind := by
      rintro _ ⟨rfl⟩
      exact ⟨rfl, List.cons_ne_nil _ _, .opening rfl (.inner rfl rfl nofun (.inner rfl rfl nofun
        (.inner rfl rfl nofun (.closing rfl .nil))))⟩ }
  others := [
    { comma := onFirstLine (.mark .comma) "," 24
      name := onFirstLine .identifier "b" 26
      value := some (onFirstLine (.mark .equal) "=" 28,
        [onFirstLine .identifier "f" 30, onFirstLine (.mark .openParen) "(" 31,
          onFirstLine .identifier "c" 32, onFirstLine (.mark .closeParen) ")" 33])
      name_kind := rfl
      pairs_kind := by decide
      value_kind := by
        rintro _ ⟨rfl⟩
        exact ⟨rfl, List.cons_ne_nil _ _, .inner rfl rfl (fun _ ↦ rfl) (.opening rfl
          (.inner rfl rfl nofun (.closing rfl .nil)))⟩
      comma_kind := rfl },
    { comma := onFirstLine (.mark .comma) "," 34
      name := onFirstLine .identifier "d" 36
      name_kind := rfl
      pairs_kind := by decide
      value_kind := by simp
      comma_kind := rfl }]
  semicolon := onFirstLine (.mark .semicolon) ";" 37
  modifiers_words := by decide
  type_isType := by decide
  type_noModifier := by decide
  semicolon_kind := rfl

/-- The tokens of `int a = 1, b[] = \x7b2\x7d;`. -/
def merged : FieldForm where
  modifiers := []
  type := [onFirstLine (.keyword .intWord) "int" 0]
  first := {
    name := onFirstLine .identifier "a" 4
    value := some (onFirstLine (.mark .equal) "=" 6, [onFirstLine .number "1" 8])
    name_kind := rfl
    pairs_kind := by decide
    value_kind := by
      rintro _ ⟨rfl⟩
      exact ⟨rfl, List.cons_ne_nil _ _, .inner rfl rfl (fun _ ↦ rfl) .nil⟩ }
  others := [
    { comma := onFirstLine (.mark .comma) "," 9
      name := onFirstLine .identifier "b" 11
      pairs := [(onFirstLine (.mark .openBracket) "[" 12, onFirstLine (.mark .closeBracket) "]" 13)]
      value := some (onFirstLine (.mark .equal) "=" 15,
        [onFirstLine (.mark .openBrace) "\x7b" 17, onFirstLine .number "2" 18,
          onFirstLine (.mark .closeBrace) "\x7d" 19])
      name_kind := rfl
      pairs_kind := by decide
      value_kind := by
        rintro _ ⟨rfl⟩
        exact ⟨rfl, List.cons_ne_nil _ _,
          .opening rfl (.inner rfl rfl nofun (.closing rfl .nil))⟩
      comma_kind := rfl }]
  semicolon := onFirstLine (.mark .semicolon) ";" 20
  modifiers_words := nofun
  type_isType := by decide
  type_noModifier := by decide
  semicolon_kind := rfl

end FieldForm

namespace Rule

/-- Three declarators with two initializers: three fields with their initializers, and the parser
stands at the brace. -/
theorem classMember_declares_separable :
    let text := "private int a[] = \x7b1, 2\x7d, b = f(c), d; \x7d"
    let p := Parser.ofTokens (Token.tokenize text) (some text)
    p.ahead = FieldForm.separable.tokens ++ [onFirstLine (.mark .closeBrace) "\x7d" 39] ∧
      FieldForm.separable.isSeparable = true ∧
      (∃ q, classMember p = (.present ((FieldForm.separable.fields p.source).map .field), q) ∧
        p.MovesTo [onFirstLine (.mark .closeBrace) "\x7d" 39] q) ∧
      (FieldForm.separable.fields p.source).map (fun f ↦ (f.name, f.type, f.defaultValue)) =
        [("a", "int[]", some "\x7b1, 2\x7d"), ("b", "int", some "f(c)"), ("d", "int", none)] ∧
      List.Forall₂ (DeclaratorForm.IsDefault text) FieldForm.separable.declarators
        [some "\x7b1, 2\x7d", some "f(c)", none] := by
  intro text p
  have hp : p.ahead =
      FieldForm.separable.tokens ++ [onFirstLine (.mark .closeBrace) "\x7d" 39] := by
    decide +kernel
  obtain ⟨fields, q, hmember, hmoved, hfields, -⟩ := classMember_declares FieldForm.separable hp
  have hseparable : FieldForm.separable.isSeparable = true := by decide
  obtain ⟨hdeclared, hquoted⟩ := hfields hseparable
  have htokens : FieldForm.separable.tokens <:+: Token.tokenize text :=
    ⟨[], (Token.tokenize text).drop FieldForm.separable.tokens.length, by decide +kernel⟩
  have hdefaults : (FieldForm.separable.fields p.source).map (·.defaultValue) =
      [some "\x7b1, 2\x7d", some "f(c)", none] := by
    decide +kernel
  rw [hdeclared] at hmember
  refine ⟨hp, hseparable, ⟨q, hmember, hmoved⟩, by decide +kernel, ?_⟩
  rw [← hdefaults, ← hdeclared]
  exact hquoted text rfl htokens

/-- Two declarators, but fewer fields: the first initializer takes the array behind its comma. -/
theorem classMember_ne_merged :
    let text := "int a = 1, b[] = \x7b2\x7d; \x7d"
    let p := Parser.ofTokens (Token.tokenize text) (some text)
    p.ahead = FieldForm.merged.tokens ++ [onFirstLine (.mark .closeBrace) "\x7d" 22] ∧
      ∀ q, classMember p ≠ (.present ((FieldForm.merged.fields p.source).map .field), q) := by
  intro text p
  have hp : p.ahead = FieldForm.merged.tokens ++ [onFirstLine (.mark .closeBrace) "\x7d" 22] := by
    decide +kernel
  obtain ⟨fields, hread, -, hfewer⟩ := FieldForm.merged.read_append p.source
    [onFirstLine (.mark .closeBrace) "\x7d" 22] p.final
  refine ⟨hp, fun q hq ↦ ?_⟩
  rw [classMember, hp, hread] at hq
  have hmembers := Outcome.present.inj (Prod.mk.inj hq).1
  have hlength := congrArg List.length hmembers
  rw [List.length_map, List.length_map, FieldForm.fields, FieldForm.fieldsBehind,
    List.length_map] at hlength
  have hlt := hfewer (by decide)
  rw [hlength] at hlt
  exact Nat.lt_irrefl _ hlt

end Rule

end ClassSchema
