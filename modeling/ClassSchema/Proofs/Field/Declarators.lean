import ClassSchema.Grammar.Member
import ClassSchema.Proofs.Written.QualifiedName
import Mathlib.Data.List.TakeWhile

/-!
# Rows of declarators

A field declaration declares its names in a row: each with `[]` pairs and an initializer of its own,
and commas between them. A comma inside of an initializer is told from one that ends it by the
tokens behind it: they have to be bare names with commas between them, up to an equal sign or the
semicolon. So a name with `[]` pairs is not seen to start a declarator. Behind an initializer it
hides its own comma, and the commas of the bare names in front of it.

The row is followed from initializer to initializer. An initializer has its groups closed, so the
count of its tokens comes to its end outside of all groups. There it either ends, or it takes the
comma and the next declarator whole and is outside of all groups again; `resume` says from which
declarator on it ends. What is read is the row that was written just when no initializer takes a
declarator, and is shorter otherwise.
-/

namespace ClassSchema

/-! ## Initializers -/

namespace Initializer

variable {source : Option (List Char)} {depth : Nat} {us vs init rest : List Token}

/-- A token that may stand outside of all groups: no comment, semicolon or comma. -/
def isPlain (t : Token) : Bool :=
  !(t.kind.isComment || t.isMark .semicolon || t.isMark .comma)

/-- The tokens, from inside `depth` groups, close these and all groups that they open, and only
plain tokens stand outside of groups. -/
inductive IsClosed : Nat → List Token → Prop
  | nil : IsClosed 0 []
  | opening {depth : Nat} {t : Token} {ts : List Token} (opens : opens t = true)
    (rest : IsClosed (depth + 1) ts) : IsClosed depth (t :: ts)
  | closing {depth : Nat} {t : Token} {ts : List Token} (closes : closes t = true)
    (rest : IsClosed depth ts) : IsClosed (depth + 1) (t :: ts)
  | inner {depth : Nat} {t : Token} {ts : List Token} (opens : opens t = false)
    (closes : closes t = false) (plain : depth = 0 → isPlain t = true)
    (rest : IsClosed depth ts) : IsClosed depth (t :: ts)

private theorem endsAt_of_isPlain {t : Token} (h : isPlain t = true) (ts : List Token) :
    endsAt t ts = false := by
  rw [isPlain, Bool.not_eq_true', Bool.or_eq_false_iff, Bool.or_eq_false_iff] at h
  obtain ⟨⟨hcomment, hsemicolon⟩, hcomma⟩ := h
  have hline : t.is (.comment .line) = false := by
    refine decide_eq_false fun hkind ↦ ?_
    rw [hkind] at hcomment
    cases hcomment
  rw [endsAt, hsemicolon, hline, hcomma, Bool.false_and, Bool.false_and]
  rfl

theorem isComment_of_isMark {t : Token} {m : Mark} (h : t.isMark m = true) :
    t.kind.isComment = false := by
  rw [of_decide_eq_true h]
  rfl

namespace IsClosed

/-- Counting goes through tokens that are closed and stands outside of all groups behind them. -/
theorem length_append (h : IsClosed depth us) (rest : List Token) :
    length depth (us ++ rest) = us.length + length 0 rest := by
  induction h with
  | nil => rw [List.nil_append, List.length_nil, Nat.zero_add]
  | opening hopens _ ih =>
    rw [List.cons_append, length_of_opens hopens, ih, List.length_cons]
    omega
  | closing hcloses _ ih =>
    rw [List.cons_append, length_of_closes hcloses, ih, List.length_cons]
    omega
  | @inner depth t ts hopens hcloses hplain _ ih =>
    have hstays : (decide (depth = 0) && endsAt t (ts ++ rest)) = false := by
      by_cases hdepth : depth = 0
      · rw [endsAt_of_isPlain (hplain hdepth), Bool.and_false]
      · rw [decide_eq_false hdepth, Bool.false_and]
    rw [List.cons_append, length_of_inner hopens hcloses, hstays, if_neg Bool.false_ne_true, ih,
      List.length_cons]
    omega

theorem append (hus : IsClosed depth us) (hvs : IsClosed 0 vs) : IsClosed depth (us ++ vs) := by
  induction hus with
  | nil => exact hvs
  | opening hopens _ ih => exact .opening hopens ih
  | closing hcloses _ ih => exact .closing hcloses ih
  | inner hopens hcloses hplain _ ih => exact .inner hopens hcloses hplain ih

/-- What is closed does not end in a comment: the last token closes a group or is outside of all. -/
theorem isComment_getLast (h : IsClosed depth us) {t : Token} (ht : us.getLast? = some t) :
    t.kind.isComment = false := by
  induction h with
  | nil => cases ht
  | @opening depth u ts hopens hrest ih =>
    cases ts with
    | cons v vs => exact ih (by rwa [List.getLast?_cons_cons] at ht)
    | nil => cases hrest
  | @closing depth u ts hcloses _ ih =>
    cases ts with
    | cons v vs => exact ih (by rwa [List.getLast?_cons_cons] at ht)
    | nil =>
      obtain rfl := Option.some_inj.mp ht
      rw [closes, Bool.or_eq_true, Bool.or_eq_true] at hcloses
      rcases hcloses with (h | h) | h <;> exact isComment_of_isMark h
  | @inner depth u ts _ _ hplain hrest ih =>
    cases ts with
    | cons v vs => exact ih (by rwa [List.getLast?_cons_cons] at ht)
    | nil =>
      obtain rfl := Option.some_inj.mp ht
      cases hrest
      have hnone := hplain rfl
      rw [isPlain, Bool.not_eq_true', Bool.or_eq_false_iff, Bool.or_eq_false_iff] at hnone
      exact hnone.1.1

private theorem dropComments_eq (h : IsClosed 0 us) : dropComments us = us := by
  rcases List.eq_nil_or_concat us with rfl | ⟨us, t, rfl⟩
  · rfl
  · rw [List.concat_eq_append] at h ⊢
    have ht : ¬t.kind.isComment = true :=
      ne_true_of_eq_false (h.isComment_getLast List.getLast?_concat)
    rw [dropComments, List.reverse_append, List.reverse_singleton, List.singleton_append,
      List.dropWhile_cons, if_neg ht, List.reverse_cons, List.reverse_reverse]

/-- Whatever comes behind closed tokens, something is left when the comments at the end are
dropped. -/
theorem dropComments_append_ne_nil (h : IsClosed 0 us) (hne : us ≠ []) (vs : List Token) :
    dropComments (us ++ vs) ≠ [] := by
  intro hnil
  have hlast := h.isComment_getLast (List.getLast?_eq_some_getLast hne)
  have hall := List.dropWhile_eq_nil_iff.mp (List.reverse_eq_nil_iff.mp hnil)
  have hcomment := hall (us.getLast hne)
    (List.mem_reverse.mpr (List.mem_append_left vs (List.getLast_mem hne)))
  rw [hlast] at hcomment
  cases hcomment

end IsClosed

/-- An initializer ends where the count of the tokens behind it ends. What it takes there becomes
part of its text. -/
theorem read_append (source : Option (List Char)) (h : IsClosed 0 init) (hne : init ≠ [])
    (hcount : length 0 (us ++ rest) = us.length) :
    ∃ text, read source (init ++ (us ++ rest)) = .found text rest ∧
      (us = [] → text = sourceText source init) := by
  have hlength : length 0 (init ++ (us ++ rest)) = (init ++ us).length := by
    rw [h.length_append, hcount, List.length_append]
  unfold read
  dsimp only
  rw [hlength, ← List.append_assoc, List.drop_left, List.take_left]
  split
  · rename_i hnil
    exact absurd hnil (h.dropComments_append_ne_nil hne us)
  · refine ⟨_, rfl, ?_⟩
    rintro rfl
    rw [List.append_nil, h.dropComments_eq]

end Initializer

theorem Ahead.bracketPairs_of_atMark {ts : List Token} (h : atMark .openBracket ts = false) :
    bracketPairs ts = (0, ts) := by
  unfold bracketPairs
  split
  · rename_i left right ts
    have hleft : left.isMark .openBracket = false := h
    rw [hleft, Bool.false_and, if_neg Bool.false_ne_true]
  · rfl

/-! ## Declarators as they are written -/

/-- A declarator as it is written: a name, `[]` pairs and, behind an equal sign, an initializer. -/
structure DeclaratorForm where
  name : Token
  pairs : List (Token × Token) := []
  value : Option (Token × List Token) := none
  name_kind : name.kind = .identifier
  pairs_kind : ∀ pair ∈ pairs,
    pair.1.kind = .mark .openBracket ∧ pair.2.kind = .mark .closeBracket
  value_kind : ∀ v ∈ value,
    v.1.kind = .mark .equal ∧ v.2 ≠ [] ∧ Initializer.IsClosed 0 v.2

/-- A declarator with the comma in front of it. -/
structure NextDeclarator extends DeclaratorForm where
  comma : Token
  comma_kind : comma.kind = .mark .comma

namespace DeclaratorForm

variable {source : Option (List Char)} {type : String} {d : DeclaratorForm}
  {ds : List NextDeclarator} {semicolon : Token} {rest : List Token}

/-- The equal sign and the initializer, as they are written. -/
def valueTokens (d : DeclaratorForm) : List Token :=
  match d.value with
  | none => []
  | some (sign, init) => sign :: init

/-- What is written behind the name. -/
def behind (d : DeclaratorForm) : List Token :=
  (d.pairs.flatMap fun (left, right) ↦ [left, right]) ++ d.valueTokens

/-- The tokens of a declarator. -/
def tokens (d : DeclaratorForm) : List Token := d.name :: d.behind

/-- What a declarator of a declaration with a given type declares. -/
def declared (source : Option (List Char)) (type : String) (d : DeclaratorForm) : Declarator where
  name := d.name
  type := type ++ String.join (List.replicate d.pairs.length "[]")
  value := d.value.map fun (_, init) ↦ sourceText source init

/-- The tokens of declarators with their commas. -/
def tokensOf (ds : List NextDeclarator) : List Token := ds.flatMap fun d ↦ d.comma :: d.tokens

/-- Whether bare names lead to an equal sign or to the end of the row. -/
def startsPlainly : List NextDeclarator → Bool
  | [] => true
  | d :: ds => d.pairs.isEmpty && (d.value.isSome || startsPlainly ds)

/-- Whether behind each initializer of a row only bare names stand in front of the next equal sign
or the end of the row. -/
def isSeparable : DeclaratorForm → List NextDeclarator → Bool
  | _, [] => true
  | d, e :: es =>
    (d.value.isNone || startsPlainly (e :: es)) && isSeparable e.toDeclaratorForm es

/-- The declarators that are left where an initializer in front of them ends. -/
def resume : List NextDeclarator → List NextDeclarator
  | [] => []
  | d :: ds => if startsPlainly (d :: ds) then d :: ds else resume ds

/-- The declarators that are left behind the value of the first one. -/
def left (d : DeclaratorForm) (ds : List NextDeclarator) : List NextDeclarator :=
  if d.value.isSome then resume ds else ds

theorem tokensOf_cons (e : NextDeclarator) (es : List NextDeclarator) :
    tokensOf (e :: es) = e.comma :: (e.tokens ++ tokensOf es) := rfl

theorem resume_suffix (ds : List NextDeclarator) : resume ds <:+ ds := by
  fun_induction resume ds with
  | case1 => exact List.suffix_refl _
  | case2 => exact List.suffix_refl _
  | case3 d ds _ ih => exact ih.trans (List.suffix_cons d ds)

private theorem resume_eq_self_iff : resume ds = ds ↔ startsPlainly ds = true := by
  cases ds with
  | nil => exact iff_of_true rfl rfl
  | cons d ds =>
    rw [resume]
    split
    · rename_i hplainly
      exact iff_of_true rfl hplainly
    · rename_i hplainly
      refine iff_of_false (fun hsame ↦ ?_) hplainly
      have hle := (resume_suffix ds).length_le
      rw [hsame, List.length_cons] at hle
      omega

private theorem left_suffix (d : DeclaratorForm) (ds : List NextDeclarator) : left d ds <:+ ds := by
  unfold left
  split
  · exact resume_suffix ds
  · exact List.suffix_refl ds

theorem left_eq_self_iff : left d ds = ds ↔ d.value = none ∨ startsPlainly ds = true := by
  unfold left
  cases hvalue : d.value with
  | none => exact iff_of_true rfl (.inl rfl)
  | some v =>
    rw [Option.isSome_some, if_pos rfl, resume_eq_self_iff]
    exact ⟨.inr, fun h ↦ h.resolve_left nofun⟩

private theorem left_eq_self_of_isSeparable (h : isSeparable d ds = true) : left d ds = ds := by
  rw [left_eq_self_iff]
  cases ds with
  | nil => exact .inr rfl
  | cons e es =>
    rw [isSeparable, Bool.and_eq_true, Bool.or_eq_true, Option.isNone_iff_eq_none] at h
    exact h.1

private theorem isSeparable_cons_iff {e : NextDeclarator} {es : List NextDeclarator} :
    isSeparable d (e :: es) = true ↔
      left d (e :: es) = e :: es ∧ isSeparable e.toDeclaratorForm es = true := by
  rw [isSeparable, Bool.and_eq_true, left_eq_self_iff, Bool.or_eq_true, Option.isNone_iff_eq_none]

/-! ### Initializers in a row -/

private theorem isClosed_valueTokens (d : DeclaratorForm) :
    Initializer.IsClosed 0 d.valueTokens := by
  unfold valueTokens
  split
  · exact .nil
  · rename_i sign init hvalue
    obtain ⟨hsign, -, hclosed⟩ := d.value_kind _ hvalue
    dsimp only at hsign
    refine .inner ?_ ?_ (fun _ ↦ ?_) hclosed
    · simp [Initializer.opens, Token.isMark, hsign]
    · simp [Initializer.closes, Token.isMark, hsign]
    · simp [Initializer.isPlain, Token.isMark, hsign, Kind.isComment]

/-- A declarator is closed as a whole, so an initializer in front of it can take it. -/
theorem isClosed_tokens (d : DeclaratorForm) : Initializer.IsClosed 0 d.tokens := by
  have hpairs (pairs : List (Token × Token)) (h : ∀ pair ∈ pairs,
      pair.1.kind = .mark .openBracket ∧ pair.2.kind = .mark .closeBracket) :
      Initializer.IsClosed 0 (pairs.flatMap fun (left, right) ↦ [left, right]) := by
    induction pairs with
    | nil => exact .nil
    | cons pair pairs ih =>
      obtain ⟨hleft, hright⟩ := h pair List.mem_cons_self
      refine .opening ?_ (.closing ?_ (ih fun pair hpair ↦ h pair (List.mem_cons_of_mem _ hpair)))
      · rw [Initializer.opens, Token.isMark_of_kind hleft .openBracket]
        exact Bool.or_true _
      · rw [Initializer.closes, Token.isMark_of_kind hright .closeBracket]
        exact Bool.or_true _
  refine .inner ?_ ?_ (fun _ ↦ ?_) ((hpairs d.pairs d.pairs_kind).append d.isClosed_valueTokens)
  · simp [Initializer.opens, Token.isMark, d.name_kind]
  · simp [Initializer.closes, Token.isMark, d.name_kind]
  · simp [Initializer.isPlain, Token.isMark, d.name_kind, Kind.isComment]

theorem exists_eq_cons_tokensOf (hsemicolon : semicolon.kind = .mark .semicolon)
    (ds : List NextDeclarator) (rest : List Token) :
    ∃ t us, tokensOf ds ++ semicolon :: rest = t :: us ∧
      (t.kind = .mark .semicolon ∨ t.kind = .mark .comma) := by
  cases ds with
  | nil => exact ⟨semicolon, rest, rfl, .inl hsemicolon⟩
  | cons e es => exact ⟨e.comma, _, rfl, .inr e.comma_kind⟩

/-- What is behind a comma starts a declarator by its first name and what comes next to it. -/
theorem startsDeclarator_append (d : DeclaratorForm) {t : Token}
    (ht : t.kind = .mark .semicolon ∨ t.kind = .mark .comma) (us : List Token) :
    Initializer.startsDeclarator (d.tokens ++ t :: us) =
      (d.pairs.isEmpty &&
        (d.value.isSome || (t.isMark .semicolon || Initializer.startsDeclarator us))) := by
  have hname : d.name.is .identifier = true := decide_eq_true d.name_kind
  rw [tokens, behind, valueTokens]
  cases hpairs : d.pairs with
  | cons pair pairs =>
    -- a bracket is none of the marks that a name is followed by
    have hleft := (d.pairs_kind pair (hpairs ▸ List.mem_cons_self)).1
    have hmark (m : Mark) (hm : .openBracket ≠ m) : pair.1.isMark m = false :=
      (Token.isMark_of_kind hleft m).trans (decide_eq_false hm)
    rw [List.flatMap_cons, List.cons_append, List.cons_append, List.cons_append, List.cons_append,
      Initializer.startsDeclarator, if_pos hname, hmark .equal nofun, hmark .semicolon nofun,
      hmark .comma nofun]
    rfl
  | nil =>
    rw [List.flatMap_nil, List.nil_append, List.cons_append]
    cases hvalue : d.value with
    | some v =>
      have hsign : v.1.isMark .equal = true :=
        Token.isMark_of_kind (d.value_kind v hvalue).1 .equal
      rw [List.cons_append, Initializer.startsDeclarator, if_pos hname, hsign]
      rfl
    | none =>
      rw [List.nil_append, Initializer.startsDeclarator, if_pos hname]
      rcases ht with ht | ht
      · rw [Token.isMark_of_kind ht .semicolon, Token.isMark_of_kind ht .equal]
        rfl
      · rw [Token.isMark_of_kind ht .semicolon, Token.isMark_of_kind ht .equal,
          Token.isMark_of_kind ht .comma]
        rfl

theorem startsDeclarator_tokens (hsemicolon : semicolon.kind = .mark .semicolon)
    (d : NextDeclarator) (ds : List NextDeclarator) :
    Initializer.startsDeclarator (d.tokens ++ (tokensOf ds ++ semicolon :: rest)) =
      startsPlainly (d :: ds) := by
  induction ds generalizing d with
  | nil =>
    rw [tokensOf, List.flatMap_nil, List.nil_append, startsDeclarator_append _ (.inl hsemicolon),
      Token.isMark_of_kind hsemicolon .semicolon]
    rfl
  | cons e es ih =>
    rw [tokensOf_cons, List.cons_append, List.append_assoc,
      startsDeclarator_append _ (.inr e.comma_kind), Token.isMark_of_kind e.comma_kind .semicolon,
      ih, startsPlainly]
    rfl

/-- From behind an initializer, the count of its tokens takes the declarators up to the one from
which the row is resumed. -/
theorem exists_length_tokensOf (hsemicolon : semicolon.kind = .mark .semicolon)
    (ds : List NextDeclarator) (rest : List Token) :
    ∃ us, tokensOf ds = us ++ tokensOf (resume ds) ∧
      Initializer.length 0 (tokensOf ds ++ semicolon :: rest) = us.length := by
  induction ds with
  | nil =>
    have hends : Initializer.endsAt semicolon rest = true := by
      rw [Initializer.endsAt, Token.isMark_of_kind hsemicolon .semicolon]
      rfl
    have hopens : Initializer.opens semicolon = false := by
      simp [Initializer.opens, Token.isMark, hsemicolon]
    have hcloses : Initializer.closes semicolon = false := by
      simp [Initializer.closes, Token.isMark, hsemicolon]
    refine ⟨[], rfl, ?_⟩
    rw [tokensOf, List.flatMap_nil, List.nil_append, Initializer.length_of_inner hopens hcloses,
      hends]
    rfl
  | cons e es ih =>
    have hopens : Initializer.opens e.comma = false := by
      simp [Initializer.opens, Token.isMark, e.comma_kind]
    have hcloses : Initializer.closes e.comma = false := by
      simp [Initializer.closes, Token.isMark, e.comma_kind]
    have hends : Initializer.endsAt e.comma (e.tokens ++ (tokensOf es ++ semicolon :: rest)) =
        startsPlainly (e :: es) := by
      rw [Initializer.endsAt, startsDeclarator_tokens hsemicolon]
      simp [Token.isMark, Token.is, e.comma_kind]
    rw [resume, tokensOf_cons, List.cons_append, List.append_assoc,
      Initializer.length_of_inner hopens hcloses, hends]
    cases hplainly : startsPlainly (e :: es) with
    | true => exact ⟨[], rfl, rfl⟩
    | false =>
      -- the comma is taken, and the declarator behind it is closed
      obtain ⟨us, hus, hcount⟩ := ih
      refine ⟨e.comma :: (e.tokens ++ us), ?_, ?_⟩
      · rw [if_neg Bool.false_ne_true, hus, List.cons_append, List.append_assoc]
      · rw [Bool.and_false, if_neg Bool.false_ne_true,
          e.isClosed_tokens.length_append, hcount, List.length_cons, List.length_append]

/-! ### Reading a row -/

/-- All pairs behind a name are counted. -/
theorem bracketPairs_behind (hrest : Ahead.atMark .openBracket rest = false) (d : DeclaratorForm) :
    Ahead.bracketPairs (d.behind ++ rest) = (d.pairs.length, d.valueTokens ++ rest) := by
  have hvalue : Ahead.atMark .openBracket (d.valueTokens ++ rest) = false := by
    unfold valueTokens
    split
    · exact hrest
    · rename_i sign init hvalue
      exact Token.isMark_of_kind (d.value_kind _ hvalue).1 .openBracket
  have hpairs := d.pairs_kind
  rw [behind, List.append_assoc]
  generalize d.pairs = pairs at hpairs ⊢
  induction pairs with
  | nil => exact Ahead.bracketPairs_of_atMark hvalue
  | cons pair pairs ih =>
    obtain ⟨hleft, hright⟩ := hpairs pair List.mem_cons_self
    rw [List.flatMap_cons, List.cons_append, List.cons_append, List.singleton_append,
      List.cons_append, Ahead.bracketPairs, Token.isMark_of_kind hleft, Token.isMark_of_kind hright,
      ih fun pair hpair ↦ hpairs pair (List.mem_cons_of_mem _ hpair)]
    rfl

/-- The value of the first declarator of a row. It is the one that was written where the row goes on
with the declarator that is written next. -/
theorem readValue_append (source : Option (List Char))
    (hsemicolon : semicolon.kind = .mark .semicolon) (d : DeclaratorForm)
    (ds : List NextDeclarator) (rest : List Token) :
    ∃ value, Declarator.readValue source d.name
        (d.valueTokens ++ (tokensOf ds ++ semicolon :: rest)) =
          .found value (tokensOf (left d ds) ++ semicolon :: rest) ∧
      (left d ds = ds → value = d.value.map fun (_, init) ↦ sourceText source init) := by
  rw [left, valueTokens]
  cases hvalue : d.value with
  | none =>
    refine ⟨none, ?_, fun _ ↦ rfl⟩
    have hequal : Ahead.atMark .equal (tokensOf ds ++ semicolon :: rest) = false := by
      obtain ⟨t, us, heq, ht⟩ := exists_eq_cons_tokensOf hsemicolon ds rest
      rw [heq]
      rcases ht with ht | ht <;> exact Token.isMark_of_kind ht .equal
    exact if_neg (ne_true_of_eq_false hequal)
  | some v =>
    obtain ⟨hsign, hne, hclosed⟩ := d.value_kind v hvalue
    -- the initializer goes on over the declarators that are left out
    obtain ⟨us, hus, hcount⟩ := exists_length_tokensOf hsemicolon ds rest
    rw [hus, List.append_assoc] at hcount
    obtain ⟨text, hread, htext⟩ := Initializer.read_append source hclosed hne hcount
    have hequal : Ahead.atMark .equal (v.1 :: (v.2 ++ (tokensOf ds ++ semicolon :: rest))) = true :=
      Token.isMark_of_kind hsign .equal
    refine ⟨some text, ?_, fun hresume ↦ ?_⟩
    · dsimp only
      rw [Declarator.readValue, List.cons_append, if_pos hequal, List.drop_succ_cons,
        List.drop_zero, hus, List.append_assoc, hread]
      rfl
    · -- nothing was taken where nothing is left out
      rw [Option.isSome_some, if_pos rfl] at hresume
      rw [hresume, List.self_eq_append_left] at hus
      rw [htext hus]
      rfl

/-- Where a value is read and no comma comes behind it, there is one declarator. -/
theorem readList_of_last {name : Token} {ts : List Token} {value : Option String}
    (hlast : Ahead.atMark .comma rest = false)
    (hvalue : Declarator.readValue source name (Ahead.bracketPairs ts).2 = .found value rest) :
    Declarator.readList source type name ts =
      .found [⟨name, type ++ String.join (List.replicate (Ahead.bracketPairs ts).1 "[]"), value⟩]
        rest := by
  rw [Declarator.readList]
  split
  · rename_i value' comma next more h
    obtain ⟨rfl, rfl⟩ := Reading.found.inj (hvalue.symm.trans h)
    rw [show comma.isMark .comma = false from hlast]
    rfl
  · rename_i value' others _ h
    obtain ⟨rfl, rfl⟩ := Reading.found.inj (hvalue.symm.trans h)
    rfl
  · rename_i cause others h
    cases hvalue.symm.trans h

/-- Where a value is read and a comma and a name come behind it, the row goes on. -/
theorem readList_of_next (type : String) {name comma next : Token} {ts more : List Token}
    {value : Option String}
    (hcomma : comma.kind = .mark .comma) (hnext : next.kind = .identifier)
    (hvalue : Declarator.readValue source name (Ahead.bracketPairs ts).2 =
      .found value (comma :: next :: more)) :
    Declarator.readList source type name ts =
      let pairs := String.join (List.replicate (Ahead.bracketPairs ts).1 "[]")
      (Declarator.readList source type next more).map (⟨name, type ++ pairs, value⟩ :: ·) := by
  have hgoes : (comma.isMark .comma && next.is .identifier) = true := by
    rw [Token.isMark_of_kind hcomma, Token.is, hnext]
    rfl
  rw [Declarator.readList]
  split
  · rename_i value' comma' next' more' h
    obtain ⟨rfl, hsame⟩ := Reading.found.inj (hvalue.symm.trans h)
    obtain ⟨rfl, htail⟩ := List.cons.inj hsame
    obtain ⟨rfl, rfl⟩ := List.cons.inj htail
    rw [if_pos hgoes]
  · rename_i value' others hshort h
    obtain ⟨-, rfl⟩ := Reading.found.inj (hvalue.symm.trans h)
    exact absurd rfl (hshort _ _ _)
  · rename_i cause others h
    cases hvalue.symm.trans h

/-- **A row is read.** It is the row that was written where that is separable, and has fewer
declarators otherwise. -/
theorem readList_append (source : Option (List Char)) (type : String)
    (hsemicolon : semicolon.kind = .mark .semicolon) (rest : List Token) (d : DeclaratorForm)
    (ds : List NextDeclarator) :
    ∃ declarators, Declarator.readList source type d.name
        (d.behind ++ (tokensOf ds ++ semicolon :: rest)) =
          .found declarators (semicolon :: rest) ∧
      (isSeparable d ds = true →
        declarators = (d :: ds.map (·.toDeclaratorForm)).map (declared source type)) ∧
      declarators.length ≤ ds.length + 1 ∧
      (declarators.length = ds.length + 1 → isSeparable d ds = true) := by
  -- an initializer takes declarators out of the middle of the row: induction is on its length
  induction hn : ds.length using Nat.strongRecOn generalizing d ds with
  | ind n ih =>
    have hbracket : Ahead.atMark .openBracket (tokensOf ds ++ semicolon :: rest) = false := by
      obtain ⟨t, us, heq, ht⟩ := exists_eq_cons_tokensOf hsemicolon ds rest
      rw [heq]
      rcases ht with ht | ht <;> exact Token.isMark_of_kind ht .openBracket
    have hpairs := bracketPairs_behind hbracket d
    obtain ⟨value, hvalue, hdeclared⟩ := readValue_append source hsemicolon d ds rest
    have hbehind : (Ahead.bracketPairs (d.behind ++ (tokensOf ds ++ semicolon :: rest))).2 =
        d.valueTokens ++ (tokensOf ds ++ semicolon :: rest) := by rw [hpairs]
    rw [← hbehind] at hvalue
    have hfirst (h : left d ds = ds) : declared source type d = ⟨d.name, type ++ String.join
        (List.replicate (Ahead.bracketPairs (d.behind ++ (tokensOf ds ++ semicolon :: rest))).1
          "[]"), value⟩ := by
      rw [hpairs, hdeclared h]
      rfl
    have hle := (left_suffix d ds).length_le
    cases hleft : left d ds with
    | nil =>
      rw [hleft] at hvalue
      have hlast : Ahead.atMark .comma (semicolon :: rest) = false :=
        Token.isMark_of_kind hsemicolon .comma
      refine ⟨_, readList_of_last hlast hvalue, fun hseparable ↦ ?_, by simp, fun hlength ↦ ?_⟩
      · have hsame := left_eq_self_of_isSeparable hseparable
        rw [List.map_cons, hfirst hsame, ← hsame, hleft]
        rfl
      · rw [← hn, List.length_singleton, eq_comm, Nat.add_eq_right] at hlength
        rw [List.length_eq_zero_iff.mp hlength]
        rfl
    | cons e es =>
      rw [hleft] at hvalue hle
      rw [tokensOf_cons, tokens, List.cons_append, List.cons_append, List.cons_append,
        List.append_assoc] at hvalue
      rw [List.length_cons] at hle
      obtain ⟨more, hmore, hseparated, hmoreLe, hmoreEq⟩ := ih es.length (by omega) e.1 es rfl
      have hread := readList_of_next type e.comma_kind e.name_kind hvalue
      rw [hmore] at hread
      refine ⟨_, hread, fun hseparable ↦ ?_, ?_, fun hlength ↦ ?_⟩
      · have hsame := left_eq_self_of_isSeparable hseparable
        have heq : ds = e :: es := hsame.symm.trans hleft
        rw [heq] at hseparable
        rw [hseparated (isSeparable_cons_iff.mp hseparable).2, ← hfirst hsame, heq]
        rfl
      · rw [List.length_cons]
        omega
      · rw [List.length_cons] at hlength
        have hsame : left d ds = ds :=
          (left_suffix d ds).eq_of_length (by rw [hleft, List.length_cons]; omega)
        have heq : ds = e :: es := hsame.symm.trans hleft
        rw [heq, isSeparable_cons_iff, ← heq]
        exact ⟨hsame, hmoreEq (by omega)⟩

end DeclaratorForm

end ClassSchema
