import ClassSchema.Proofs.Member.Row
import ClassSchema.Proofs.Schema.TypeArguments

/-!
# Fields of map types as they are written

A field of a map type has a key and a value, each of which may be a wildcard. The question mark of a
wildcard is no token, so that its bound is what is left of it, with the word `extends` or `super` in
front. Of a key that is just a question mark nothing is left, and the type arguments start with a
comma then. In the text of the type all this is kept as it is.

What is taken from the text is the bound of the value, unless nothing is left of the key: then the
value is the only argument there is.
-/

namespace ClassSchema

open Token (Spell spell_append_iff spell_cons_iff spell_singleton_iff)

/-! ## Words in the text of a type -/

private theorem Kind.isWord_of_startsType {kind : Kind} (h : kind.startsType = true) :
    kind.isWord = true := by
  cases kind with
  | identifier => rfl
  | keyword word =>
    revert h
    cases word <;> decide
  | _ => cases h

namespace TypeText

variable {us : List Token} {text : String}

private theorem join_cons_of_word {t u : Token} (ht : t.kind.isWord = true)
    (hu : u.kind.isWord = true)
    (us : List Token) : join (t :: u :: us) = t.text ++ " " ++ join (u :: us) := by
  have hgap : gap t u = " " := by
    rw [gap, ht, hu, Bool.and_true, Bool.or_true, if_pos rfl]
  rw [join, joinAfter, hgap, join, String.append_assoc, String.append_assoc]

private theorem IsJoined.cons_word {t u : Token} (ht : t.kind.isWord = true)
    (hu : u.kind.isWord = true)
    (h : IsJoined (u :: us) text) : IsJoined (t :: u :: us) (t.text ++ " " ++ text) where
  join_eq := by rw [join_cons_of_word ht hu, h.join_eq]
  exists_last := by
    obtain ⟨l, hl, hcomma⟩ := h.exists_last
    exact ⟨l, by rw [List.getLast?_cons_cons, hl], hcomma⟩

private theorem IsJoined.cons_comma {t : Token} (ht : t.kind = .mark .comma)
    (h : IsJoined us text) :
    IsJoined (t :: us) (t.text ++ " " ++ text) where
  join_eq := by rw [join_cons_of_comma ht h.ne_nil, h.join_eq]
  exists_last := by
    obtain ⟨l, hl, hcomma⟩ := h.exists_last
    exact ⟨l, by rw [List.getLast?_cons, hl]; rfl, hcomma⟩

end TypeText

namespace Written

open TypeText (Nested IsJoined)
open DeclaredType (IsArgument Unsplit)

variable {ts rest : List Token}

/-! ## Type arguments with wildcards -/

/-- A type argument: a type, or a wildcard with a bound. A type named `super` could not be told from
what is left of a wildcard, and is no type in the first place. -/
inductive MapArgument
  | exact (type : TypeTerm) (isNoWildcard : type.text ≠ "super")
  | upper (bound : TypeTerm)
  | lower (bound : TypeTerm)

namespace MapArgument

/-- The type, or the bound of the wildcard. -/
def bound : MapArgument → TypeTerm
  | exact type _ | upper type | lower type => type

/-- The word `super`, which is a name like any other. -/
def superName : Name := .of "super" (by decide)

/-- A type argument as it is written, its question mark apart. -/
def pieces : MapArgument → List Piece
  | exact type _ => type.pieces
  | upper bound => keyword .extendsWord :: bound.pieces
  | lower bound => superName.piece :: bound.pieces

/-- The text of a type argument. -/
def text : MapArgument → String
  | exact type _ => type.text
  | upper bound => "extends " ++ bound.text
  | lower bound => "super " ++ bound.text

variable (a : MapArgument)

private theorem nested (h : Spell ts a.pieces) : Nested ts := by
  have hword {t : Token} {us : List Token} {bound : TypeTerm} (ht : TypeText.IsInner t.kind)
      (hus : Spell us bound.pieces) : Nested (t :: us) := by
    rw [← List.singleton_append]
    exact (Nested.single ht).append (bound.nested hus)
  cases a with
  | exact type _ => exact type.nested h
  | upper bound | lower bound =>
    obtain ⟨t, us, rfl, hkind, -, hbound⟩ := spell_cons_iff.mp h
    exact hword (hkind ▸ ⟨nofun, nofun, rfl⟩) hbound

private theorem isJoined (h : Spell ts a.pieces) : IsJoined ts a.text := by
  have hword {t : Token} {us : List Token} {bound : TypeTerm} (ht : t.kind.isWord = true)
      (hus : Spell us bound.pieces) : IsJoined (t :: us) (t.text ++ " " ++ bound.text) := by
    have hjoined := bound.isJoined hus
    obtain ⟨u, us, rfl, hkind, -⟩ := bound.exists_eq_cons hus
    exact .cons_word ht (Kind.isWord_of_startsType (hkind ▸ bound.startsType_head)) hjoined
  cases a with
  | exact type _ => exact type.isJoined h
  | upper bound | lower bound =>
    obtain ⟨t, us, rfl, hkind, hstands, hbound⟩ := spell_cons_iff.mp h
    have hjoined := hword (by rw [hkind]; rfl) hbound
    rw [hstands.text_eq rfl] at hjoined
    exact hjoined

/-- What is taken of a type argument is its type, or the bound of the wildcard. -/
theorem isArgument : IsArgument a.bound.parts a.text.toList := by
  cases a with
  | exact type isNoWildcard => exact TypeTerm.isArgument isNoWildcard
  | upper bound =>
    rw [text, String.toList_append, TypeTerm.toList_text]
    exact .bound (.inl rfl)
  | lower bound =>
    rw [text, String.toList_append, TypeTerm.toList_text]
    exact .bound (.inr rfl)

theorem unsplit : Unsplit 0 a.text.toList := a.isArgument.unsplit a.bound.unsplit

end MapArgument

/-! ## Fields -/

/-- A field of a map type. A key without a description is a question mark alone. -/
structure MapField where
  comment : Option CommentText
  annotations : List Annotation
  modifiers : List Modifier
  map : QualifiedName
  key : Option MapArgument
  value : MapArgument
  name : Name
  isNoModifier : map.head.text ∉ Prelude.contextualModifiers

namespace MapField

variable (f : MapField)

/-- The field without type arguments. -/
def bare : Field where
  comment := f.comment
  annotations := f.annotations
  modifiers := f.modifiers
  type := .named f.map
  name := f.name
  isNoModifier := f.isNoModifier

/-- The type arguments as they are written, question marks apart. -/
def argumentPieces : List Piece :=
  (f.key.elim [] MapArgument.pieces) ++ (mark .comma :: f.value.pieces)

/-- A field as it is written, question marks apart. -/
def pieces : List Piece :=
  f.bare.front ++ (f.map.pieces ++ (mark .openAngle :: (f.argumentPieces ++
    [mark .closeAngle, f.name.piece, mark .semicolon])))

/-- The text of the type arguments. -/
def argumentText : String := f.key.elim "" MapArgument.text ++ ("," ++ " " ++ f.value.text)

/-- The text of the type. -/
def type : String := f.map.text ++ "<" ++ f.argumentText ++ ">"

/-- The declaration of a field, apart from its place. -/
def decl : FieldDecl := { f.bare.decl with type := f.type }

private theorem nested_arguments (h : Spell ts f.argumentPieces) : Nested ts := by
  obtain ⟨us, vs, rfl, hkey, hvalue⟩ := spell_append_iff.mp h
  obtain ⟨comma, vs, rfl, hcomma, -, hvalue⟩ := spell_cons_iff.mp hvalue
  have hinner : TypeText.IsInner comma.kind := hcomma ▸ ⟨by decide, by decide, rfl⟩
  have hus : Nested us := by
    cases hf : f.key with
    | none =>
      rw [hf] at hkey
      cases hkey
      exact .nil
    | some key =>
      rw [hf] at hkey
      exact key.nested hkey
  rw [← List.singleton_append]
  exact hus.append ((Nested.single hinner).append (f.value.nested hvalue))

private theorem isJoined_arguments (h : Spell ts f.argumentPieces) :
    IsJoined ts f.argumentText := by
  obtain ⟨us, vs, rfl, hkey, hvalue⟩ := spell_append_iff.mp h
  obtain ⟨comma, vs, rfl, hcomma, hstands, hvalue⟩ := spell_cons_iff.mp hvalue
  have htext : comma.text = "," := hstands.text_eq rfl
  have hjoined := f.value.isJoined hvalue
  rw [argumentText, ← htext]
  cases hf : f.key with
  | none =>
    rw [hf] at hkey
    cases hkey
    rw [Option.elim_none, String.empty_append]
    exact hjoined.cons_comma hcomma
  | some key =>
    rw [hf] at hkey
    exact (key.isJoined hkey).append_comma hcomma hjoined

/-- The type of a field is read as its text. -/
theorem read_type {us as : List Token} {left right : Token} (hmap : Spell us f.map.pieces)
    (hleft : left.kind = .mark .openAngle) (hleftText : left.text = "<")
    (has : Spell as f.argumentPieces) (hright : right.kind = .mark .closeAngle)
    (hrightText : right.text = ">") (hrest : Ahead.kind rest = .identifier) :
    TypeText.read (us ++ left :: (as ++ right :: rest)) = .found f.type rest := by
  have hcore := isCore_applied hmap hleft (f.nested_arguments has) hright
  have hscan := scan_of_isCore hcore .nil hrest
  have hjoined := ((QualifiedName.isJoined hmap).append hleft (by decide)
    (f.isJoined_arguments has)).concat hright (by decide)
  rw [hleftText, hrightText] at hjoined
  have hsplit : us ++ left :: (as ++ right :: rest) =
      us ++ left :: (as ++ [right]) ++ [] ++ rest := by simp
  rw [TypeText.read, hsplit, hscan]
  dsimp only
  rw [if_pos rfl, List.append_nil, type, ← hjoined.join_eq, List.append_assoc]
  rfl

theorem exists_eq_cons (h : Spell ts f.pieces) :
    ∃ t us, ts = t :: us ∧ ∀ m, t.kind = .mark m → m = .atSign := by
  obtain ⟨us, vs, rfl, hfront, h⟩ := spell_append_iff.mp h
  obtain ⟨t, vs, rfl, hkind, -⟩ := spell_cons_iff.mp h
  exact f.bare.exists_front_eq_cons hfront (by rw [hkind]; rfl) vs

/-- **A field of a map type is read.** -/
theorem read_append (source : Option (List Char)) (final : Token) (h : Spell ts f.pieces) :
    ∃ decl, MemberItem.read source final (ts ++ rest) = .found (.members [.field decl]) rest ∧
      decl.unplaced = f.decl := by
  obtain ⟨us, vs, rfl, hfront, h⟩ := spell_append_iff.mp h
  obtain ⟨ms, vs, rfl, hmap, h⟩ := spell_append_iff.mp h
  obtain ⟨left, vs, rfl, hleft, hleftStands, h⟩ := spell_cons_iff.mp h
  obtain ⟨as, vs, rfl, has, h⟩ := spell_append_iff.mp h
  obtain ⟨right, vs, rfl, hright, hrightStands, h⟩ := spell_cons_iff.mp h
  obtain ⟨name, vs, rfl, hname, hnameStands, h⟩ := spell_cons_iff.mp h
  obtain ⟨semicolon, rfl, hsemicolon, -⟩ := spell_singleton_iff.mp h
  have hread : TypeText.read (ms ++ left :: (as ++ right :: name :: semicolon :: rest)) =
      .found f.type (name :: semicolon :: rest) :=
    f.read_type hmap hleft (hleftStands.text_eq rfl) has hright (hrightStands.text_eq rfl) hname
  obtain ⟨t, ms, rfl, hkind, htext, hnext⟩ := (TypeTerm.named f.map).exists_eq_cons hmap
  have hparen : Ahead.atMark .openParen
      (ms ++ left :: (as ++ right :: name :: semicolon :: rest)) = false :=
    hnext _ (Token.isMark_of_kind hleft _)
  obtain ⟨decl, hdecl, hunplaced⟩ := f.bare.exists_read_eq source final hfront
    (hkind ▸ rfl) (htext ▸ f.isNoModifier) hparen hread hname hsemicolon
  refine ⟨decl, ?_, ?_⟩
  · simpa using hdecl
  · rw [hunplaced, hnameStands.text_eq rfl]
    rfl

end MapField

end Written

end ClassSchema
