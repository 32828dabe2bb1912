import ClassSchema.Grammar.Arguments
import ClassSchema.Proofs.Written.QualifiedName

/-!
# Annotations as they are written

An annotation is a name with dots and, in parentheses, one value, pairs of a key and a value, or
nothing at all. The readers go from left to right and are shown to take what was written, with one
condition on what comes behind: a value ends in front of a comma or the closing parenthesis, so that
no further string and no further part of a path belongs to it, and an annotation without parentheses
ends in front of anything but a dot or an opening parenthesis.
-/

namespace ClassSchema

open Token (Spell spell_append_iff spell_cons_iff spell_singleton_iff)

theorem Assoc.put_of_not_mem_keys {α : Type} {table : Assoc α} {key : String} (value : α)
    (h : key ∉ table.keys) : table.put key value = table ++ [(key, value)] := by
  induction table with
  | nil => rfl
  | cons entry rest ih =>
    obtain ⟨k, v⟩ := entry
    rw [keys, List.map_cons, List.mem_cons, not_or] at h
    rw [put, if_neg (Ne.symm h.1), ih h.2]
    rfl

namespace Written

/-! ## Values -/

/-- The value of an argument. A path may end in the word `class`. -/
inductive Value
  | text (units : List StringUnit)
  | flag (value : Bool)
  | integer (value : Integer)
  | path (name : QualifiedName) (isClass : Bool)

namespace Value

/-- The word for a truth value. -/
def flagWord (value : Bool) : Keyword := if value then .trueWord else .falseWord

/-- The parts of a path behind the first one. -/
def pathParts (name : QualifiedName) (isClass : Bool) : List Piece :=
  name.parts ++ if isClass then [keyword .classWord] else []

/-- A value as it is written. -/
def pieces : Value → List Piece
  | text units => [string units]
  | flag value => [keyword (flagWord value)]
  | integer value => [value.piece]
  | path name isClass => name.head.piece :: dotted (pathParts name isClass)

/-- The argument that a value stands for. -/
def argument : Value → Argument
  | text units => .text (stringValue units)
  | flag value => .flag value
  | integer value => .number (.int value.value)
  | path name isClass => .path (name.text ++ if isClass then ".class" else "")

private theorem dottedText_pathParts (name : QualifiedName) (isClass : Bool) :
    dottedText name.head.text (pathParts name isClass) =
      name.text ++ if isClass then ".class" else "" := by
  rw [QualifiedName.text, ← foldl_eq_dottedText, ← foldl_eq_dottedText, pathParts,
    List.foldl_append]
  cases isClass with
  | false => exact String.append_empty.symm
  | true =>
    rw [if_pos rfl, if_pos rfl, List.foldl_cons, List.foldl_nil, String.append_assoc]
    rfl

private theorem isPathName_of_mem_pathParts {name : QualifiedName} {isClass : Bool} {p : Piece}
    (h : p ∈ pathParts name isClass) : Arguments.isPathName p.kind = true := by
  rcases List.mem_append.mp h with h | h
  · rw [name.kind_of_mem_parts h]
    rfl
  · cases isClass with
    | false => cases h
    | true => rw [List.mem_singleton.mp h]; rfl

end Value

/-- What can come behind a value. -/
def EndsValue (rest : List Token) : Prop :=
  Ahead.kind rest = .mark .comma ∨ Ahead.kind rest = .mark .closeParen

private theorem EndsValue.kind_ne {rest : List Token} (h : EndsValue rest) {kind : Kind}
    (hcomma : kind ≠ .mark .comma) (hclose : kind ≠ .mark .closeParen) :
    Ahead.kind rest ≠ kind := by
  rintro rfl
  rcases h with h | h
  · exact hcomma h
  · exact hclose h

variable {source : Option (List Char)} {ts rest : List Token}

/-- **A value is read.** -/
theorem Value.read_append (v : Value) (h : Spell ts v.pieces) (hrest : EndsValue rest) :
    Arguments.value source (ts ++ rest) = .found v.argument rest := by
  cases v with
  | text units =>
    obtain ⟨t, rfl, hkind, hstands⟩ := spell_singleton_iff.mp h
    -- strings one behind the other are one value, so no string may come next
    have hothers : rest.takeWhile (·.is .string) = [] := by
      cases rest with
      | nil => rfl
      | cons u us =>
        exact List.takeWhile_cons_of_neg
          (ne_true_of_eq_false (decide_eq_false (hrest.kind_ne (by decide) (by decide))))
    rw [List.singleton_append, Arguments.value, hkind]
    dsimp only
    rw [hothers, List.foldl_nil, hstands.text_eq rfl, unquote_text_string]
    rfl
  | flag value =>
    obtain ⟨t, rfl, hkind, -⟩ := spell_singleton_iff.mp h
    rw [List.singleton_append, Arguments.value, hkind]
    cases value <;> rfl
  | integer value =>
    obtain ⟨t, rfl, hkind, hstands⟩ := spell_singleton_iff.mp h
    have hread : Numeral.read t.text = .ok (some (.int value.value)) :=
      hstands.read_text.trans value.read_text_piece
    rw [List.singleton_append, Arguments.value, hkind]
    dsimp only
    rw [hread]
    rfl
  | path name isClass =>
    obtain ⟨t, ts, rfl, hkind, hstands, htail⟩ := spell_cons_iff.mp h
    have hdot : Ahead.atMark .dot rest = false :=
      decide_eq_false (hrest.kind_ne (by decide) (by decide))
    obtain ⟨names, hnames, htexts⟩ :=
      dottedNames_append rfl (fun p ↦ isPathName_of_mem_pathParts) htail hdot
    have hpath : Arguments.pathText t names = name.text ++ if isClass then ".class" else "" := by
      rw [Arguments.pathText, ← List.foldl_map (f := fun n : Token × Token ↦ n.2.text)
        (g := fun text part ↦ text ++ "." ++ part), htexts, List.foldl_map,
        foldl_eq_dottedText, ← dottedText_pathParts, hstands.text_eq rfl]
      rfl
    have hidentifier : t.kind = .identifier := hkind
    rw [List.cons_append, Arguments.value, hidentifier]
    dsimp only
    rw [if_pos (show Kind.identifier.startsType = true from rfl), hnames, hpath]
    rfl

/-! ## Arguments -/

/-- The pairs of a key and a value as they are written. -/
def pairPieces : List (Name × Value) → List Piece
  | [] => []
  | [(key, v)] => key.piece :: mark .equal :: v.pieces
  | (key, v) :: pair :: pairs =>
    key.piece :: mark .equal :: (v.pieces ++ (mark .comma :: pairPieces (pair :: pairs)))

/-- The table of some pairs. -/
def pairTable (pairs : List (Name × Value)) : Assoc Argument :=
  pairs.map fun (key, v) ↦ (key.text, v.argument)

/-- A pair is put into the table, and a comma behind it goes on with the next pair. -/
theorem pairs_cons {sofar : Assoc Argument} {key sign : Token} {argument : Argument}
    {more : List Token} (hkey : key.kind = .identifier) (hsign : sign.kind = .mark .equal)
    (hvalue : Arguments.value source rest = .found argument more) :
    Arguments.pairs source sofar (key :: sign :: rest) =
      if Ahead.atMark .comma more then
        Arguments.pairs source (sofar.put key.text argument) (more.drop 1)
      else .found (sofar.put key.text argument) more := by
  have hk : key.is .identifier = true := decide_eq_true hkey
  have hs : sign.isMark .equal = true := Token.isMark_of_kind hsign _
  rw [Arguments.pairs, hk, hs, Bool.and_self, if_pos rfl]
  split
  · rename_i argument' more' h
    obtain ⟨rfl, rfl⟩ := Reading.found.inj (hvalue.symm.trans h)
    cases more with
    | nil => rfl
    | cons comma others => rfl
  · rename_i more' h
    cases hvalue.symm.trans h
  · rename_i cause more' _ h
    cases hvalue.symm.trans h

/-- Pairs with different keys are read in their order. -/
theorem pairs_append {sofar : Assoc Argument} (pairs : List (Name × Value)) (hpairs : pairs ≠ [])
    (hnew : ∀ pair ∈ pairs, pair.1.text ∉ sofar.keys)
    (hdistinct : (pairs.map (·.1.text)).Nodup) (h : Spell ts (pairPieces pairs))
    (hrest : Ahead.kind rest = .mark .closeParen) :
    Arguments.pairs source sofar (ts ++ rest) = .found (sofar ++ pairTable pairs) rest := by
  induction pairs generalizing sofar ts with
  | nil => exact absurd rfl hpairs
  | cons pair pairs ih =>
    obtain ⟨key, v⟩ := pair
    have hput := Assoc.put_of_not_mem_keys v.argument (hnew _ List.mem_cons_self)
    cases pairs with
    | nil =>
      obtain ⟨_, _, rfl, hkind, hstands, h⟩ := spell_cons_iff.mp h
      obtain ⟨_, _, rfl, hsign, -, hv⟩ := spell_cons_iff.mp h
      have hcomma : Ahead.atMark .comma rest = false :=
        decide_eq_false (hrest ▸ nofun)
      rw [List.cons_append, List.cons_append,
        pairs_cons hkind hsign (v.read_append hv (.inr hrest)), hcomma,
        if_neg Bool.false_ne_true, hstands.text_eq rfl]
      exact congrArg (Reading.found · rest) hput
    | cons next pairs =>
      obtain ⟨_, _, rfl, hkind, hstands, h⟩ := spell_cons_iff.mp h
      obtain ⟨_, _, rfl, hsign, -, h⟩ := spell_cons_iff.mp h
      obtain ⟨us, vs, rfl, hv, h⟩ := spell_append_iff.mp h
      obtain ⟨comma, vs, rfl, hcomma, -, hnext⟩ := spell_cons_iff.mp h
      have hends : EndsValue (comma :: (vs ++ rest)) := .inl hcomma
      have hatComma : Ahead.atMark .comma (comma :: (vs ++ rest)) = true :=
        decide_eq_true hcomma
      rw [List.map_cons, List.nodup_cons] at hdistinct
      -- the keys that are still to come are none of those in the table
      have hnext' : ∀ pair ∈ next :: pairs,
          pair.1.text ∉ Assoc.keys (sofar ++ [(key.text, v.argument)]) := by
        intro pair hpair hmem
        rw [Assoc.keys, List.map_append, List.mem_append] at hmem
        rcases hmem with hmem | hmem
        · exact hnew pair (List.mem_cons_of_mem _ hpair) hmem
        · rw [List.map_singleton, List.mem_singleton] at hmem
          refine hdistinct.1 ?_
          rw [← show pair.1.text = key.text from hmem]
          exact List.mem_map_of_mem hpair
      rw [List.cons_append, List.cons_append, List.append_assoc, List.cons_append,
        pairs_cons hkind hsign (v.read_append hv hends), hatComma, if_pos rfl,
        hstands.text_eq rfl]
      rw [show sofar.put key.piece.text v.argument = _ from hput]
      rw [List.drop_one, List.tail_cons,
        ih (List.cons_ne_nil _ _) hnext' hdistinct.2 hnext, List.append_assoc]
      rfl

/-- The arguments of an annotation. -/
inductive ArgumentList
  | absent
  | single (value : Value)
  | keyed (pairs : List (Name × Value)) (isDistinct : (pairs.map (·.1.text)).Nodup)

namespace ArgumentList

/-- Arguments as they are written. -/
def pieces : ArgumentList → List Piece
  | absent => []
  | single value => mark .openParen :: (value.pieces ++ [mark .closeParen])
  | keyed pairs _ => mark .openParen :: (pairPieces pairs ++ [mark .closeParen])

/-- The table of arguments. -/
def table : ArgumentList → Assoc Argument
  | absent => []
  | single value => [("value", value.argument)]
  | keyed pairs _ => pairTable pairs

end ArgumentList

theorem atMark_closeParen_of_kind {us : List Token} {kind : Kind} (h : Ahead.kind us = kind)
    (hclose : kind ≠ .mark .closeParen) (hname : kind ≠ .identifier) :
    Ahead.atMark .closeParen us = false ∧
      (Ahead.kind us = .identifier && Ahead.kindAt 1 us = .mark .equal) = false := by
  rw [Ahead.atMark, h, decide_eq_false hclose, decide_eq_false hname]
  exact ⟨rfl, rfl⟩

/-- A value is not taken for the closing parenthesis or for the key of a pair. -/
theorem Value.atMark_closeParen_append (v : Value) (h : Spell ts v.pieces)
    (hrest : Ahead.kind rest = .mark .closeParen) :
    Ahead.atMark .closeParen (ts ++ rest) = false ∧
      (Ahead.kind (ts ++ rest) = .identifier && Ahead.kindAt 1 (ts ++ rest) = .mark .equal) =
        false := by
  cases v with
  | text units =>
    obtain ⟨t, ts, rfl, hkind, -⟩ := spell_cons_iff.mp h
    exact atMark_closeParen_of_kind hkind nofun nofun
  | flag value =>
    obtain ⟨t, ts, rfl, hkind, -⟩ := spell_cons_iff.mp h
    exact atMark_closeParen_of_kind hkind nofun nofun
  | integer value =>
    obtain ⟨t, ts, rfl, hkind, -⟩ := spell_cons_iff.mp h
    exact atMark_closeParen_of_kind hkind nofun nofun
  | path name isClass =>
    obtain ⟨t, ts, rfl, hkind, -, htail⟩ := spell_cons_iff.mp h
    have hidentifier : Ahead.kind (t :: ts ++ rest) = .identifier := hkind
    rw [Ahead.atMark, hidentifier, Bool.and_eq_false_iff]
    refine ⟨rfl, ?_⟩
    refine .inr (decide_eq_false ?_)
    rw [List.cons_append, Ahead.kindAt, List.drop_one, List.tail_cons]
    cases hparts : pathParts name isClass with
    | nil =>
      rw [hparts] at htail
      cases htail
      rw [List.nil_append, hrest]
      exact nofun
    | cons p parts =>
      rw [hparts] at htail
      obtain ⟨dot, ts, rfl, hdot, -⟩ := spell_cons_iff.mp htail
      have hdot : Ahead.kind (dot :: ts ++ rest) = .mark .dot := hdot
      rw [hdot]
      exact nofun

theorem kind_pairPieces_append {pair : Name × Value} {pairs : List (Name × Value)}
    (h : Spell ts (pairPieces (pair :: pairs))) (rest : List Token) :
    Ahead.kind (ts ++ rest) = .identifier ∧ Ahead.kindAt 1 (ts ++ rest) = .mark .equal := by
  cases pairs with
  | nil =>
    obtain ⟨_, _, rfl, hkind, -, h⟩ := spell_cons_iff.mp h
    obtain ⟨_, _, rfl, hsign, -⟩ := spell_cons_iff.mp h
    exact ⟨hkind, hsign⟩
  | cons next pairs =>
    obtain ⟨_, _, rfl, hkind, -, h⟩ := spell_cons_iff.mp h
    obtain ⟨_, _, rfl, hsign, -⟩ := spell_cons_iff.mp h
    exact ⟨hkind, hsign⟩

private theorem close_of_kind {right : Token} (hright : right.kind = .mark .closeParen) :
    Arguments.close (right :: rest) = .found () rest := by
  have hat : Ahead.atMark .closeParen (right :: rest) = true := decide_eq_true hright
  rw [Arguments.close, if_pos hat, List.drop_one, List.tail_cons]

theorem parenthesized_cons {left : Token} (hleft : left.kind = .mark .openParen) :
    Arguments.parenthesized source (left :: rest) =
      (Arguments.read source rest).andThen fun table rest ↦
        (Arguments.close rest).map fun _ ↦ table := by
  have hat : Ahead.atMark .openParen (left :: rest) = true := decide_eq_true hleft
  rw [Arguments.parenthesized, if_pos hat, List.drop_one, List.tail_cons]

theorem parenthesized_of_read {left right : Token} {us : List Token} {table : Assoc Argument}
    (hleft : left.kind = .mark .openParen) (hright : right.kind = .mark .closeParen)
    (hread : Arguments.read source (us ++ right :: rest) = .found table (right :: rest)) :
    Arguments.parenthesized source (left :: (us ++ [right]) ++ rest) = .found table rest := by
  rw [List.cons_append, List.append_assoc, List.singleton_append, parenthesized_cons hleft, hread]
  dsimp only [Reading.andThen]
  rw [close_of_kind hright]
  rfl

/-- **The arguments of an annotation are read.** -/
theorem ArgumentList.parenthesized_append (arguments : ArgumentList)
    (h : Spell ts arguments.pieces) (hrest : Ahead.atMark .openParen rest = false) :
    Arguments.parenthesized source (ts ++ rest) = .found arguments.table rest := by
  cases arguments with
  | absent =>
    cases h
    exact if_neg (ne_true_of_eq_false hrest)
  | single value =>
    obtain ⟨left, ts, rfl, hleft, -, h⟩ := spell_cons_iff.mp h
    obtain ⟨vs, rs, rfl, hv, hright⟩ := spell_append_iff.mp h
    obtain ⟨right, rfl, hright, -⟩ := spell_singleton_iff.mp hright
    have hkind : Ahead.kind (right :: rest) = .mark .closeParen := hright
    obtain ⟨hclose, hkey⟩ := value.atMark_closeParen_append hv hkind
    refine parenthesized_of_read hleft hright ?_
    rw [Arguments.read, hclose, if_neg Bool.false_ne_true, hkey, if_neg Bool.false_ne_true,
      value.read_append hv (.inr hkind)]
    rfl
  | keyed pairs isDistinct =>
    obtain ⟨left, ts, rfl, hleft, -, h⟩ := spell_cons_iff.mp h
    obtain ⟨ps, rs, rfl, hpairs, hright⟩ := spell_append_iff.mp h
    obtain ⟨right, rfl, hright, -⟩ := spell_singleton_iff.mp hright
    have hkind : Ahead.kind (right :: rest) = .mark .closeParen := hright
    refine parenthesized_of_read hleft hright ?_
    cases pairs with
    | nil =>
      cases hpairs
      have hclose : Ahead.atMark .closeParen (right :: rest) = true := decide_eq_true hright
      rw [List.nil_append, Arguments.read, if_pos hclose]
      rfl
    | cons pair pairs =>
      obtain ⟨hkey, hsign⟩ := kind_pairPieces_append hpairs (right :: rest)
      have hclose : Ahead.atMark .closeParen (ps ++ right :: rest) = false := by
        rw [Ahead.atMark, hkey]
        rfl
      rw [Arguments.read, hclose, if_neg Bool.false_ne_true, hkey, hsign, if_pos (by decide)]
      exact pairs_append (pair :: pairs) (List.cons_ne_nil _ _) (fun _ _ ↦ List.not_mem_nil)
        isDistinct hpairs hkind

/-! ## Annotations -/

/-- An annotation. -/
structure Annotation where
  name : QualifiedName
  arguments : ArgumentList

namespace Annotation

/-- An annotation as it is written. -/
def pieces (a : Annotation) : List Piece := mark .atSign :: (a.name.pieces ++ a.arguments.pieces)

/-- The declaration of an annotation, apart from its place. -/
def decl (a : Annotation) : AnnotationUse := ⟨a.name.last.text, a.arguments.table, 0, 0⟩

end Annotation

end Written

/-- An annotation apart from its place. -/
def AnnotationUse.unplaced (u : AnnotationUse) : AnnotationUse := { u with line := 0, column := 0 }

namespace Written

variable {source : Option (List Char)} {ts rest : List Token}

private theorem ArgumentList.atMark_dot_append (arguments : ArgumentList)
    (h : Spell ts arguments.pieces)
    (hrest : Ahead.atMark .dot rest = false) : Ahead.atMark .dot (ts ++ rest) = false := by
  cases arguments with
  | absent =>
    cases h
    exact hrest
  | single value =>
    obtain ⟨_, _, rfl, hleft, -⟩ := spell_cons_iff.mp h
    exact Token.isMark_of_kind hleft .dot
  | keyed pairs isDistinct =>
    obtain ⟨_, _, rfl, hleft, -⟩ := spell_cons_iff.mp h
    exact Token.isMark_of_kind hleft .dot

/-- The last part of the name of an annotation is found by its text. -/
theorem QualifiedName.text_last {q : QualifiedName} {t : Token} {names : Ahead.Names}
    (ht : t.text = q.head.text) (hnames : names.map (·.2.text) = q.parts.map Piece.text) :
    ((names.getLast?.map (·.2)).getD t).text = q.last.text := by
  have hlast := congrArg List.getLast? hnames
  rw [List.getLast?_map, QualifiedName.parts, List.map_map, List.getLast?_map] at hlast
  rw [QualifiedName.last]
  cases hq : q.tail.getLast? with
  | none =>
    rw [hq] at hlast
    rw [Option.map_eq_none_iff.mp hlast]
    exact ht
  | some n =>
    rw [hq] at hlast
    obtain ⟨pair, hpair, htext⟩ := Option.map_eq_some_iff.mp hlast
    rw [hpair]
    exact htext

/-- **An annotation is read.** -/
theorem Annotation.use_append (a : Annotation) (source : Option (List Char))
    (h : Spell ts a.pieces) (hdot : Ahead.atMark .dot rest = false)
    (hparen : Ahead.atMark .openParen rest = false) :
    ∃ u, Arguments.use source (ts ++ rest) = .found u rest ∧ u.unplaced = a.decl := by
  obtain ⟨sign, ts, rfl, hsign, -, h⟩ := spell_cons_iff.mp h
  obtain ⟨us, vs, rfl, hname, harguments⟩ := spell_append_iff.mp h
  obtain ⟨name, us, rfl, hkind, hstands, htail⟩ := spell_cons_iff.mp hname
  have hidentifier : name.is .identifier = true := decide_eq_true hkind
  obtain ⟨names, hread, htexts⟩ : ∃ names,
      Ahead.dottedNames (· = .identifier) (us ++ (vs ++ rest)) = (names, vs ++ rest) ∧
        names.map (·.2.text) = a.name.parts.map Piece.text :=
    dottedNames_append rfl (fun p hp ↦ decide_eq_true (a.name.kind_of_mem_parts hp)) htail
      (a.arguments.atMark_dot_append harguments hdot)
  refine ⟨⟨((names.getLast?.map (·.2)).getD name).text, a.arguments.table, sign.line,
    sign.column⟩, ?_, ?_⟩
  · rw [List.cons_append, List.append_assoc, List.cons_append, Arguments.use,
      if_pos hidentifier, hread]
    dsimp only
    rw [a.arguments.parenthesized_append harguments hparen]
    rfl
  · rw [AnnotationUse.unplaced, QualifiedName.text_last (hstands.text_eq rfl) htexts]
    rfl

end Written

end ClassSchema
