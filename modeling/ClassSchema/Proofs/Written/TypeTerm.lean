import ClassSchema.Grammar.TypeText
import ClassSchema.Proofs.Written.QualifiedName

/-!
# Types as they are written

A type is a primitive, a name with dots, such a name with type arguments, or an array of another
type. The reader takes a type off the front as text and does not know its structure: it takes a head
and `. name` pairs, counts angle brackets until the first one is closed, and takes `[]` pairs. Three
facts make that the type that was written. Inside of angle brackets the tokens of a type leave the
depth as it was, so that only the last bracket ends the count. A type is a core, which has no
brackets outside of angle brackets, with `[]` pairs behind it. And the text of its tokens can be put
together in the same way as the type.
-/

namespace ClassSchema

open Token (Spell spell_append_iff spell_cons_iff spell_singleton_iff)

namespace Written

mutual

/-- A type. -/
inductive TypeTerm
  | primitive (word : Keyword) (isPrimitive : word.isPrimitiveType = true)
  | named (name : QualifiedName)
  | applied (name : QualifiedName) (arguments : TypeArguments)
  | array (element : TypeTerm)

/-- The arguments of a type, at least one. -/
inductive TypeArguments
  | last (type : TypeTerm)
  | more (type : TypeTerm) (others : TypeArguments)

end

mutual

/-- A type as it is written. -/
def TypeTerm.pieces : TypeTerm → List Piece
  | .primitive word _ => [keyword word]
  | .named name => name.pieces
  | .applied name arguments =>
    name.pieces ++ (mark .openAngle :: (arguments.pieces ++ [mark .closeAngle]))
  | .array element => element.pieces ++ [mark .openBracket, mark .closeBracket]

/-- Type arguments as they are written. -/
def TypeArguments.pieces : TypeArguments → List Piece
  | .last type => type.pieces
  | .more type others => type.pieces ++ (mark .comma :: others.pieces)

end

mutual

/-- The text of a type: a space behind every comma, and no other. -/
def TypeTerm.text : TypeTerm → String
  | .primitive word _ => word.text
  | .named name => name.text
  | .applied name arguments => name.text ++ "<" ++ arguments.text ++ ">"
  | .array element => element.text ++ "[]"

/-- The text of type arguments. -/
def TypeArguments.text : TypeArguments → String
  | .last type => type.text
  | .more type others => type.text ++ ", " ++ others.text

end

/-- The first word of a type. -/
def TypeTerm.head : TypeTerm → Piece
  | .primitive word _ => keyword word
  | .named name | .applied name _ => name.head.piece
  | .array element => element.head

end Written

/-! ## Depth of angle brackets -/

namespace TypeText

/-- A stretch that takes some more tokens in front. -/
def prepend (us : List Token) (s : Stretch) : Stretch := ⟨us ++ s.taken, s.rest, s.complete⟩

theorem andThen_of_complete (us rest : List Token) (next : List Token → Stretch) :
    Stretch.andThen ⟨us, rest, true⟩ next = prepend us (next rest) := rfl

/-- Inside of angle brackets, the tokens `us` are passed over without a change of the depth. -/
def Nested (us : List Token) : Prop :=
  ∀ depth rest, angleGroup (depth + 1) (us ++ rest) = prepend us (angleGroup (depth + 1) rest)

/-- A token that the count of angle brackets takes and that is none of them. -/
def IsInner (kind : Kind) : Prop :=
  kind ≠ .mark .openAngle ∧ kind ≠ .mark .closeAngle ∧ Skip.endsHeader kind = false

theorem angleGroup_cons_open {t : Token} (h : t.kind = .mark .openAngle) (depth : Nat)
    (ts : List Token) : angleGroup depth (t :: ts) = prepend [t] (angleGroup (depth + 1) ts) := by
  have hopen : t.isMark .openAngle = true := Token.isMark_of_kind h _
  rw [angleGroup, if_pos hopen]
  rfl

private theorem angleGroup_one_close {t : Token} (h : t.kind = .mark .closeAngle)
    (ts : List Token) :
    angleGroup 1 (t :: ts) = ⟨[t], ts, true⟩ := by
  have hopen : t.isMark .openAngle = false := Token.isMark_of_kind h _
  have hclose : t.isMark .closeAngle = true := Token.isMark_of_kind h _
  rw [angleGroup, if_neg (ne_true_of_eq_false hopen), if_pos hclose, if_pos (Nat.le_refl 1)]

private theorem angleGroup_cons_close {t : Token} (h : t.kind = .mark .closeAngle) (depth : Nat)
    (ts : List Token) :
    angleGroup (depth + 2) (t :: ts) = prepend [t] (angleGroup (depth + 1) ts) := by
  have hopen : t.isMark .openAngle = false := Token.isMark_of_kind h _
  have hclose : t.isMark .closeAngle = true := Token.isMark_of_kind h _
  rw [angleGroup, if_neg (ne_true_of_eq_false hopen), if_pos hclose, if_neg (by omega)]
  rfl

namespace Nested

variable {us vs : List Token}

theorem nil : Nested [] := fun _ _ ↦ rfl

theorem append (hus : Nested us) (hvs : Nested vs) : Nested (us ++ vs) := by
  intro depth rest
  rw [List.append_assoc, hus, hvs, prepend, prepend, prepend, List.append_assoc]

theorem single {t : Token} (h : IsInner t.kind) : Nested [t] := by
  intro depth rest
  have hopen : t.isMark .openAngle = false := decide_eq_false h.1
  have hclose : t.isMark .closeAngle = false := decide_eq_false h.2.1
  rw [List.singleton_append, angleGroup, if_neg (ne_true_of_eq_false hopen),
    if_neg (ne_true_of_eq_false hclose), if_neg (ne_true_of_eq_false h.2.2)]
  rfl

private theorem of_spell {ps : List Piece} (h : Token.Spell us ps)
    (hps : ∀ p ∈ ps, IsInner p.kind) :
    Nested us := by
  induction h with
  | nil => exact .nil
  | @cons t us p ps kind text rest ih =>
    rw [← List.singleton_append]
    have ht : IsInner t.kind := kind ▸ hps p List.mem_cons_self
    exact (single ht).append (ih fun q hq ↦ hps q (List.mem_cons_of_mem _ hq))

private theorem group {left right : Token} (hleft : left.kind = .mark .openAngle)
    (hright : right.kind = .mark .closeAngle) (hus : Nested us) :
    Nested (left :: (us ++ [right])) := by
  intro depth rest
  rw [List.cons_append, List.append_assoc, List.singleton_append, angleGroup_cons_open hleft, hus,
    angleGroup_cons_close hright]
  simp only [prepend, List.append_assoc, List.cons_append, List.nil_append]

end Nested

end TypeText

namespace Written

open TypeText (Nested)

private theorem isInner_of_mem_pieces {q : QualifiedName} {p : Piece} (h : p ∈ q.pieces) :
    TypeText.IsInner p.kind := by
  have hkind : p.kind = .identifier ∨ p.kind = .mark .dot := by
    rcases List.mem_cons.mp h with rfl | h
    · exact .inl rfl
    · obtain ⟨part, hpart, hp⟩ := List.mem_flatMap.mp h
      rcases List.mem_cons.mp hp with rfl | hp
      · exact .inr rfl
      · rw [List.mem_singleton.mp hp]
        exact .inl (q.kind_of_mem_parts hpart)
  rcases hkind with hkind | hkind <;> rw [hkind] <;> exact ⟨by decide, by decide, by decide⟩

mutual

/-- The tokens of a type inside of angle brackets leave the depth as it was. -/
theorem TypeTerm.nested {ts : List Token} (type : TypeTerm) (h : Spell ts type.pieces) :
    Nested ts := by
  cases type with
  | primitive word isPrimitive =>
    refine .of_spell h fun p hp ↦ ?_
    rw [List.mem_singleton.mp hp]
    exact ⟨nofun, nofun, rfl⟩
  | named name => exact .of_spell h fun p ↦ isInner_of_mem_pieces
  | applied name arguments =>
    obtain ⟨us, vs, rfl, hname, hgroup⟩ := spell_append_iff.mp h
    obtain ⟨_, _, rfl, hleft, -, hgroup⟩ := spell_cons_iff.mp hgroup
    obtain ⟨as, rs, rfl, harguments, hright⟩ := spell_append_iff.mp hgroup
    obtain ⟨_, rfl, hright, -⟩ := spell_singleton_iff.mp hright
    have hus : Nested us := .of_spell hname fun p ↦ isInner_of_mem_pieces
    exact hus.append (.group hleft hright (arguments.nested harguments))
  | array element =>
    obtain ⟨us, vs, rfl, helement, hpair⟩ := spell_append_iff.mp h
    refine (element.nested helement).append (.of_spell hpair fun p hp ↦ ?_)
    rcases List.mem_cons.mp hp with rfl | hp
    · exact ⟨by decide, by decide, rfl⟩
    · rw [List.mem_singleton.mp hp]
      exact ⟨by decide, by decide, rfl⟩

theorem TypeArguments.nested {ts : List Token} (arguments : TypeArguments)
    (h : Spell ts arguments.pieces) : Nested ts := by
  cases arguments with
  | last type => exact type.nested h
  | more type others =>
    obtain ⟨us, vs, rfl, htype, hothers⟩ := spell_append_iff.mp h
    obtain ⟨comma, vs, rfl, hcomma, -, hothers⟩ := spell_cons_iff.mp hothers
    have hinner : TypeText.IsInner comma.kind := hcomma ▸ ⟨by decide, by decide, rfl⟩
    rw [← List.singleton_append]
    exact (type.nested htype).append ((Nested.single hinner).append (others.nested hothers))

end

end Written

/-! ## Cores and dimensions -/

namespace TypeText

/-- The head, the path and the type arguments are found to be the tokens `us`, whatever comes behind
them that can be neither a dot nor an opening angle bracket. -/
def IsCore (us : List Token) : Prop :=
  ∀ rest, Ahead.atMark .dot rest = false → Ahead.atMark .openAngle rest = false →
    ((head (us ++ rest)).andThen path).andThen arguments = ⟨us, rest, true⟩

/-- Pairs of square brackets. -/
inductive AreDimensions : List Token → Prop
  | nil : AreDimensions []
  | cons {left right : Token} {vs : List Token} (hleft : left.kind = .mark .openBracket)
    (hright : right.kind = .mark .closeBracket) (rest : AreDimensions vs) :
    AreDimensions (left :: right :: vs)

namespace AreDimensions

variable {vs rest : List Token}

private theorem concat {left right : Token} (h : AreDimensions vs)
    (hleft : left.kind = .mark .openBracket)
    (hright : right.kind = .mark .closeBracket) : AreDimensions (vs ++ [left, right]) := by
  induction h with
  | nil => exact .cons hleft hright .nil
  | cons hl hr _ ih => exact .cons hl hr ih

private theorem atMark_append (h : AreDimensions vs) {m : Mark} (hm : m ≠ .openBracket)
    (hrest : Ahead.atMark m rest = false) : Ahead.atMark m (vs ++ rest) = false := by
  cases h with
  | nil => exact hrest
  | cons hleft hright _ => exact (Token.isMark_of_kind hleft m).trans (decide_eq_false hm.symm)

private theorem dimensions_append (h : AreDimensions vs)
    (hrest : Ahead.atMark .openBracket rest = false) :
    dimensions (vs ++ rest) = ⟨vs, rest, true⟩ := by
  induction h with
  | nil =>
    cases rest with
    | nil => rfl
    | cons t rest =>
      have ht : t.isMark .openBracket = false := hrest
      rw [List.nil_append, dimensions.eq_def]
      exact if_neg (ne_true_of_eq_false ht)
  | @cons left right _ hleft hright _ ih =>
    have hl : left.isMark .openBracket = true := Token.isMark_of_kind hleft _
    have hr : right.isMark .closeBracket = true := Token.isMark_of_kind hright _
    rw [List.cons_append, List.cons_append, dimensions, if_pos hl]
    dsimp only
    rw [if_pos hr, ih]

end AreDimensions

end TypeText

namespace Written

open TypeText (IsCore AreDimensions)

theorem path_append {parts : List Piece} {ts rest : List Token}
    (hparts : ∀ p ∈ parts, p.kind = .identifier) (h : Spell ts (dotted parts))
    (hrest : Ahead.atMark .dot rest = false) : TypeText.path (ts ++ rest) = ⟨ts, rest, true⟩ := by
  have hnames : ∀ p ∈ parts, decide (p.kind = .identifier) = true :=
    fun p hp ↦ decide_eq_true (hparts p hp)
  obtain ⟨names, hread, -⟩ : ∃ names, Ahead.dottedNames (· = .identifier) (ts ++ rest) =
      (names, rest) ∧ names.map (·.2.text) = parts.map Piece.text :=
    dottedNames_append rfl hnames h hrest
  have hdivides := TypeText.divides_path (ts ++ rest)
  rw [TypeText.path, hread] at hdivides ⊢
  dsimp only [TypeText.Divides] at hdivides ⊢
  rw [List.append_cancel_right hdivides]

theorem QualifiedName.head_andThen_path {q : QualifiedName} {ts rest : List Token}
    (h : Spell ts q.pieces) (hrest : Ahead.atMark .dot rest = false) :
    (TypeText.head (ts ++ rest)).andThen TypeText.path = ⟨ts, rest, true⟩ := by
  obtain ⟨t, ts, rfl, hkind, -, htail⟩ := spell_cons_iff.mp h
  have hstarts : t.kind.startsType = true := by
    rw [hkind]
    rfl
  rw [List.cons_append, TypeText.head, if_pos hstarts, TypeText.andThen_of_complete,
    path_append (fun p ↦ q.kind_of_mem_parts) htail hrest]
  rfl

private theorem arguments_of_atMark {rest : List Token}
    (hrest : Ahead.atMark .openAngle rest = false) :
    TypeText.arguments rest = ⟨[], rest, true⟩ := if_neg (ne_true_of_eq_false hrest)

theorem arguments_append {left right : Token} {us rest : List Token}
    (hleft : left.kind = .mark .openAngle) (hus : TypeText.Nested us)
    (hright : right.kind = .mark .closeAngle) :
    TypeText.arguments (left :: (us ++ right :: rest)) = ⟨left :: (us ++ [right]), rest, true⟩ := by
  have hl : Ahead.atMark .openAngle (left :: (us ++ right :: rest)) = true :=
    Token.isMark_of_kind hleft _
  rw [TypeText.arguments, if_pos hl, TypeText.angleGroup_cons_open hleft, hus,
    TypeText.angleGroup_one_close hright]
  rfl

/-- A name with type arguments is a core. -/
theorem isCore_applied {q : QualifiedName} {us as : List Token} {left right : Token}
    (hname : Spell us q.pieces) (hleft : left.kind = .mark .openAngle) (has : TypeText.Nested as)
    (hright : right.kind = .mark .closeAngle) : IsCore (us ++ left :: (as ++ [right])) := by
  intro rest _ _
  -- the name ends in front of the angle bracket, where no dot is
  have hnext : Ahead.atMark .dot (left :: (as ++ [right]) ++ rest) = false :=
    Token.isMark_of_kind hleft _
  rw [List.append_assoc, QualifiedName.head_andThen_path hname hnext,
    TypeText.andThen_of_complete, List.cons_append, List.append_assoc, List.singleton_append,
    arguments_append hleft has hright]
  rfl

/-- A type is a core with dimensions behind it. -/
theorem TypeTerm.exists_core {ts : List Token} (type : TypeTerm) (h : Spell ts type.pieces) :
    ∃ us vs, ts = us ++ vs ∧ IsCore us ∧ AreDimensions vs := by
  cases type with
  | primitive word isPrimitive =>
    refine ⟨ts, [], (List.append_nil ts).symm, fun rest hdot hopen ↦ ?_, .nil⟩
    obtain ⟨t, rfl, hkind, -⟩ := spell_singleton_iff.mp h
    have hstarts : t.kind.startsType = true := by
      rw [hkind]
      exact isPrimitive
    have hnone : ∀ p ∈ ([] : List Piece), p.kind = .identifier := nofun
    have hpath : TypeText.path rest = ⟨[], rest, true⟩ := path_append hnone .nil hdot
    rw [List.singleton_append, TypeText.head, if_pos hstarts, TypeText.andThen_of_complete, hpath,
      TypeText.prepend, TypeText.andThen_of_complete, arguments_of_atMark hopen]
    rfl
  | named name =>
    refine ⟨ts, [], (List.append_nil ts).symm, fun rest hdot hopen ↦ ?_, .nil⟩
    rw [QualifiedName.head_andThen_path h hdot, TypeText.andThen_of_complete,
      arguments_of_atMark hopen, TypeText.prepend, List.append_nil]
  | applied name arguments =>
    obtain ⟨us, vs, rfl, hname, hgroup⟩ := spell_append_iff.mp h
    obtain ⟨left, vs, rfl, hleft, -, hgroup⟩ := spell_cons_iff.mp hgroup
    obtain ⟨as, rs, rfl, harguments, hright⟩ := spell_append_iff.mp hgroup
    obtain ⟨right, rfl, hright, -⟩ := spell_singleton_iff.mp hright
    exact ⟨_, [], (List.append_nil _).symm,
      isCore_applied hname hleft (arguments.nested harguments) hright, .nil⟩
  | array element =>
    obtain ⟨es, ps, rfl, helement, hpair⟩ := spell_append_iff.mp h
    -- the dimensions of the element come first, and its core is the core of the array
    obtain ⟨us, vs, rfl, hcore, hdimensions⟩ := element.exists_core helement
    obtain ⟨_, _, rfl, hleft, -, hpair⟩ := spell_cons_iff.mp hpair
    obtain ⟨_, rfl, hright, -⟩ := spell_singleton_iff.mp hpair
    exact ⟨us, _, List.append_assoc .., hcore, hdimensions.concat hleft hright⟩

/-- A core and its dimensions are found in front of a name. -/
theorem scan_of_isCore {us vs rest : List Token} (hcore : IsCore us)
    (hdimensions : AreDimensions vs) (hrest : Ahead.kind rest = .identifier) :
    TypeText.scan (us ++ vs ++ rest) = ⟨us ++ vs, rest, true⟩ := by
  have hmark (m : Mark) : Ahead.atMark m rest = false := by
    rw [Ahead.atMark, hrest]
    exact decide_eq_false nofun
  have hellipsis : TypeText.ellipsis rest = ⟨[], rest, true⟩ := by
    unfold TypeText.ellipsis
    split
    · rename_i a b c rest
      have ha : a.isMark .dot = false := hmark .dot
      rw [ha, Bool.false_and, Bool.false_and, if_neg Bool.false_ne_true]
      rfl
    · rfl
  rw [TypeText.scan, List.append_assoc,
    hcore _ (hdimensions.atMark_append nofun (hmark _)) (hdimensions.atMark_append nofun (hmark _)),
    TypeText.andThen_of_complete, hdimensions.dimensions_append (hmark _), TypeText.prepend,
    TypeText.andThen_of_complete, hellipsis, TypeText.prepend, List.append_nil]

/-- **The tokens of a type are found.** What comes behind it is the name that has the type. -/
theorem TypeTerm.scan_append {ts rest : List Token} (type : TypeTerm) (h : Spell ts type.pieces)
    (hrest : Ahead.kind rest = .identifier) : TypeText.scan (ts ++ rest) = ⟨ts, rest, true⟩ := by
  obtain ⟨us, vs, rfl, hcore, hdimensions⟩ := type.exists_core h
  exact scan_of_isCore hcore hdimensions hrest

end Written

/-! ## Texts -/

namespace TypeText

variable {us vs : List Token}

private theorem gap_of_mark {left right : Token} {m : Mark} (hleft : left.kind ≠ .mark .comma)
    (hright : right.kind = .mark m) : gap left right = "" := by
  have hcomma : left.isMark .comma = false := decide_eq_false hleft
  have hword : right.kind.isWord = false := by
    rw [hright]
    rfl
  rw [gap, hcomma, hword, Bool.and_false, Bool.or_false, if_neg Bool.false_ne_true]

private theorem gap_of_mark_left {left right : Token} {m : Mark} (hleft : left.kind = .mark m)
    (hm : m ≠ .comma) : gap left right = "" := by
  have hcomma : left.isMark .comma = false :=
    (Token.isMark_of_kind hleft .comma).trans (decide_eq_false hm)
  have hword : left.kind.isWord = false := by
    rw [hleft]
    rfl
  rw [gap, hcomma, hword, Bool.false_and, Bool.or_false, if_neg Bool.false_ne_true]

private theorem gap_of_comma {left right : Token} (hleft : left.kind = .mark .comma) :
    gap left right = " " := by
  have hcomma : left.isMark .comma = true := Token.isMark_of_kind hleft _
  rw [gap, hcomma, Bool.true_or, if_pos rfl]

private theorem joinAfter_append (previous v : Token) (us vs : List Token) :
    joinAfter previous (us ++ v :: vs) =
      joinAfter previous us ++ gap (us.getLast?.getD previous) v ++ join (v :: vs) := by
  induction us generalizing previous with
  | nil =>
    rw [List.nil_append, joinAfter, joinAfter, join, String.empty_append, String.append_assoc]
    rfl
  | cons u us ih =>
    rw [List.cons_append, joinAfter, joinAfter, ih, List.getLast?_cons, Option.getD_some]
    simp only [String.append_assoc]

private theorem join_append {l v : Token} (hus : us.getLast? = some l) (vs : List Token) :
    join (us ++ v :: vs) = join us ++ gap l v ++ join (v :: vs) := by
  cases us with
  | nil => cases hus
  | cons u us =>
    rw [List.getLast?_cons, Option.some_inj] at hus
    rw [List.cons_append, join, join, joinAfter_append, hus]
    simp only [String.append_assoc]

/-- Tokens whose text is `text` and that end in no comma. -/
structure IsJoined (us : List Token) (text : String) : Prop where
  join_eq : join us = text
  exists_last : ∃ l, us.getLast? = some l ∧ l.kind ≠ .mark .comma

/-- A mark behind a type, other than a comma, stands there without a gap; so does all that comes
behind it. -/
theorem join_cons_of_mark {t : Token} {m : Mark} (ht : t.kind = .mark m) (hm : m ≠ .comma)
    (us : List Token) : join (t :: us) = t.text ++ join us := by
  cases us with
  | nil => rfl
  | cons u us =>
    rw [join, joinAfter, gap_of_mark_left ht hm, String.empty_append]
    rfl

theorem join_cons_of_comma {t : Token} (ht : t.kind = .mark .comma) (hus : us ≠ []) :
    join (t :: us) = t.text ++ " " ++ join us := by
  cases us with
  | nil => exact absurd rfl hus
  | cons u us =>
    rw [join, joinAfter, gap_of_comma ht, join]
    simp only [String.append_assoc]

namespace IsJoined

variable {text : String}

theorem join_append_mark {t : Token} {m : Mark} (h : IsJoined us text) (ht : t.kind = .mark m)
    (vs : List Token) : join (us ++ t :: vs) = text ++ join (t :: vs) := by
  obtain ⟨l, hl, hcomma⟩ := h.exists_last
  rw [join_append hl, gap_of_mark hcomma ht, h.join_eq, String.append_empty]

theorem ne_nil (h : IsJoined us text) : us ≠ [] := by
  obtain ⟨l, hl, -⟩ := h.exists_last
  rintro rfl
  cases hl

theorem single {t : Token} (ht : t.kind ≠ .mark .comma) : IsJoined [t] t.text :=
  ⟨String.append_empty, t, rfl, ht⟩

/-- Behind a text comes a mark that is no comma, and behind that another text. -/
theorem append {t : Token} {m : Mark} {other : String} (h : IsJoined us text)
    (ht : t.kind = .mark m) (hm : m ≠ .comma) (hvs : IsJoined vs other) :
    IsJoined (us ++ t :: vs) (text ++ t.text ++ other) where
  join_eq := by
    rw [h.join_append_mark ht, join_cons_of_mark ht hm, hvs.join_eq, String.append_assoc]
  exists_last := by
    obtain ⟨l, hl, hcomma⟩ := hvs.exists_last
    refine ⟨l, ?_, hcomma⟩
    rw [List.getLast?_append, List.getLast?_cons, hl]
    rfl

/-- Behind a text comes a comma, and behind that another text with a space in front of it. -/
theorem append_comma {t : Token} {other : String} (h : IsJoined us text)
    (ht : t.kind = .mark .comma) (hvs : IsJoined vs other) :
    IsJoined (us ++ t :: vs) (text ++ (t.text ++ " " ++ other)) where
  join_eq := by
    rw [h.join_append_mark ht, join_cons_of_comma ht hvs.ne_nil, hvs.join_eq]
  exists_last := by
    obtain ⟨l, hl, hcomma⟩ := hvs.exists_last
    refine ⟨l, ?_, hcomma⟩
    rw [List.getLast?_append, List.getLast?_cons, hl]
    rfl

/-- A mark at the end that is no comma. -/
theorem concat {t : Token} {m : Mark} (h : IsJoined us text) (ht : t.kind = .mark m)
    (hm : m ≠ .comma) : IsJoined (us ++ [t]) (text ++ t.text) where
  join_eq := by
    rw [h.join_append_mark ht, join_cons_of_mark ht hm]
    exact congrArg (text ++ ·) String.append_empty
  exists_last := by
    refine ⟨t, List.getLast?_concat, ?_⟩
    rw [ht]
    exact fun hsame ↦ hm (Kind.mark.inj hsame)

end IsJoined

end TypeText

namespace Written

open TypeText (IsJoined)

/-- The text of a name with dots, whatever its first token is. -/
theorem isJoined_dotted {parts : List Piece} {t : Token} {ts : List Token}
    (hparts : ∀ p ∈ parts, p.kind = .identifier) (ht : t.kind = .identifier)
    (h : Spell ts (dotted parts)) : IsJoined (t :: ts) (dottedText t.text parts) := by
  have hsingle : IsJoined [t] t.text := .single (by rw [ht]; decide)
  induction parts generalizing t ts with
  | nil =>
    cases h
    rw [dottedText_nil]
    exact hsingle
  | cons p parts ih =>
    rw [dotted, List.flatMap_cons, ← dotted] at h
    obtain ⟨us, vs, rfl, hpair, htail⟩ := spell_append_iff.mp h
    obtain ⟨dot, us, rfl, hdot, hdotStands, hname⟩ := spell_cons_iff.mp hpair
    obtain ⟨name, rfl, hkind, hstands⟩ := spell_singleton_iff.mp hname
    have hpart : p.kind = .identifier := hparts p List.mem_cons_self
    have hname : name.kind = .identifier := hkind.trans hpart
    have hrest := ih (fun q hq ↦ hparts q (List.mem_cons_of_mem _ hq)) hname htail
      (.single (by rw [hname]; decide))
    have happend := hsingle.append hdot (by decide) hrest
    rw [dottedText_cons, ← hstands.text_eq (hpart ▸ rfl)]
    rw [hdotStands.text_eq rfl] at happend
    exact happend

theorem QualifiedName.isJoined {q : QualifiedName} {ts : List Token} (h : Spell ts q.pieces) :
    IsJoined ts q.text := by
  obtain ⟨_, _, rfl, hkind, hstands, htail⟩ := spell_cons_iff.mp h
  rw [QualifiedName.text, ← show _ = q.head.text from hstands.text_eq rfl]
  exact isJoined_dotted (fun p ↦ q.kind_of_mem_parts) hkind htail

mutual

theorem TypeTerm.isJoined {ts : List Token} (type : TypeTerm) (h : Spell ts type.pieces) :
    IsJoined ts type.text := by
  cases type with
  | primitive word isPrimitive =>
    obtain ⟨t, rfl, hkind, hstands⟩ := spell_singleton_iff.mp h
    have hword : t.text = word.text := by
      rw [hstands.text_eq rfl]
      cases word <;> rfl
    rw [TypeTerm.text, ← hword]
    exact .single (hkind ▸ nofun)
  | named name => exact name.isJoined h
  | applied name arguments =>
    obtain ⟨us, vs, rfl, hname, hgroup⟩ := spell_append_iff.mp h
    obtain ⟨left, vs, rfl, hleft, hleftStands, hgroup⟩ := spell_cons_iff.mp hgroup
    obtain ⟨as, rs, rfl, harguments, hright⟩ := spell_append_iff.mp hgroup
    obtain ⟨right, rfl, hright, hrightStands⟩ := spell_singleton_iff.mp hright
    have hgroup := ((QualifiedName.isJoined hname).append hleft nofun
      (arguments.isJoined harguments)).concat hright nofun
    rw [hleftStands.text_eq rfl, hrightStands.text_eq rfl, List.append_assoc] at hgroup
    exact hgroup
  | array element =>
    obtain ⟨es, ps, rfl, helement, hpair⟩ := spell_append_iff.mp h
    obtain ⟨left, ps, rfl, hleft, hleftStands, hpair⟩ := spell_cons_iff.mp hpair
    obtain ⟨right, rfl, hright, hrightStands⟩ := spell_singleton_iff.mp hpair
    have hpair := ((element.isJoined helement).concat hleft nofun).concat hright nofun
    rw [hleftStands.text_eq rfl, hrightStands.text_eq rfl, List.append_assoc,
      String.append_assoc] at hpair
    exact hpair

theorem TypeArguments.isJoined {ts : List Token} (arguments : TypeArguments)
    (h : Spell ts arguments.pieces) : IsJoined ts arguments.text := by
  cases arguments with
  | last type => exact type.isJoined h
  | more type others =>
    obtain ⟨us, vs, rfl, htype, hothers⟩ := spell_append_iff.mp h
    obtain ⟨comma, vs, rfl, hcomma, hstands, hothers⟩ := spell_cons_iff.mp hothers
    have happend := (type.isJoined htype).append_comma hcomma (others.isJoined hothers)
    rw [hstands.text_eq rfl, ← String.append_assoc] at happend
    exact happend

end

/-- **A type is read as its text.** What comes behind it is the name that has the type. -/
theorem TypeTerm.read_append {ts rest : List Token} (type : TypeTerm) (h : Spell ts type.pieces)
    (hrest : Ahead.kind rest = .identifier) :
    TypeText.read (ts ++ rest) = .found type.text rest := by
  rw [TypeText.read, type.scan_append h hrest]
  dsimp only
  rw [if_pos rfl, (type.isJoined h).join_eq]

end Written

end ClassSchema
