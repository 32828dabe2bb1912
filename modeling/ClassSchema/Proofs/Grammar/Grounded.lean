import ClassSchema.Grammar.Member
import ClassSchema.Proofs.Number.Numeral

/-!
# Readings stay within their tokens

Every reading of the grammar is *grounded* in the tokens it is given: what it leaves is an end of
them, and if it fails on a number that cannot be read, that number is one of them. One lemma for
each way of combining readings and one for each construct; whatever a construct looks ahead at, it
neither invents tokens nor goes back.

A reading takes tokens off the front only, and each round of a construct that repeats takes at least
one. Together with groundedness this bounds every loop by the number of tokens.
-/

namespace ClassSchema

/-- What is left is an end of `ts`, and a number that could not be read is among `ts`. -/
structure Reading.GroundedIn {α : Type} (r : Reading α) (ts : List Token) : Prop where
  /-- The tokens that are left are the last ones of `ts`. -/
  rest_suffix : r.rest <:+ ts
  /-- A number that is too long to be read was written in `ts`. -/
  longNumeral : ∀ {fault rest}, r = .missed (.longNumeral fault) rest →
    ∃ t ∈ ts, t.kind = .number ∧ Numeral.IsLongInteger t.text

namespace Reading.GroundedIn

variable {α β : Type} {r : Reading α} {ts us : List Token}

theorem suffix_of_found {value : α} (hr : r.GroundedIn ts) (h : r = .found value us) :
    us <:+ ts := by
  rw [← Reading.rest_found value us, ← h]
  exact hr.rest_suffix

theorem suffix_of_missed {cause : Miss} (hr : r.GroundedIn ts) (h : r = .missed cause us) :
    us <:+ ts := by
  rw [← @Reading.rest_missed α cause us, ← h]
  exact hr.rest_suffix

theorem found (value : α) (h : us <:+ ts) : (Reading.found value us).GroundedIn ts :=
  ⟨h, fun h ↦ by cases h⟩

theorem absent (h : us <:+ ts) : (Reading.missed .absent us : Reading α).GroundedIn ts :=
  ⟨h, fun h ↦ by cases h⟩

private theorem unclosedArguments (h : us <:+ ts) :
    (Reading.missed .unclosedArguments us : Reading α).GroundedIn ts :=
  ⟨h, fun h ↦ by cases h⟩

theorem malformed (why : Malformation) (h : us <:+ ts) :
    (Reading.missed (.malformed why) us : Reading α).GroundedIn ts :=
  ⟨h, fun h ↦ by cases h⟩

/-- A reading of an end of the tokens is one of the tokens. -/
theorem mono (hr : r.GroundedIn us) (h : us <:+ ts) : r.GroundedIn ts where
  rest_suffix := hr.rest_suffix.trans h
  longNumeral hmiss := by
    obtain ⟨t, ht, hlong⟩ := hr.longNumeral hmiss
    exact ⟨t, h.subset ht, hlong⟩

theorem cons {t : Token} (hr : r.GroundedIn ts) : r.GroundedIn (t :: ts) :=
  hr.mono (List.suffix_cons t ts)

theorem drop {n : Nat} (hr : r.GroundedIn (ts.drop n)) : r.GroundedIn ts :=
  hr.mono (List.drop_suffix n ts)

/-- The same miss, whatever was to be read. -/
theorem missed {cause : Miss} (hr : r.GroundedIn ts) (h : r = .missed cause us) :
    (Reading.missed cause us : Reading β).GroundedIn ts where
  rest_suffix := hr.suffix_of_missed h
  longNumeral hmiss := by
    obtain ⟨rfl, rfl⟩ := Reading.missed.inj hmiss
    exact hr.longNumeral h

theorem andThen {next : α → List Token → Reading β} (hr : r.GroundedIn ts)
    (hnext : ∀ value rest, r = .found value rest → (next value rest).GroundedIn rest) :
    (r.andThen next).GroundedIn ts := by
  cases h : r with
  | found value rest => exact (hnext value rest h).mono (hr.suffix_of_found h)
  | missed cause rest => exact hr.missed h

theorem map (f : α → β) (hr : r.GroundedIn ts) : (r.map f).GroundedIn ts :=
  hr.andThen fun value rest _ ↦ .found (f value) (List.suffix_refl rest)

theorem orMalformed (why : Malformation) (hr : r.GroundedIn ts) :
    (r.orMalformed why).GroundedIn ts where
  rest_suffix := by
    rw [Reading.rest_orMalformed]
    exact hr.rest_suffix
  longNumeral hmiss := by
    unfold Reading.orMalformed at hmiss
    split at hmiss
    · cases hmiss
    · cases hmiss
    · exact hr.longNumeral hmiss

end Reading.GroundedIn

/-! ## Looking ahead -/

namespace Ahead

theorem dottedNames_rest_suffix (isName : Kind → Bool) (ts : List Token) :
    (dottedNames isName ts).2 <:+ ts := by
  fun_induction dottedNames isName ts with
  | case1 dot name rest hpair names more heq ih =>
    rw [heq] at ih
    exact ih.trans ⟨[dot, name], rfl⟩
  | case2 => exact List.suffix_refl _
  | case3 => exact List.suffix_refl _

theorem bracketPairs_rest_suffix (ts : List Token) : (bracketPairs ts).2 <:+ ts := by
  fun_induction bracketPairs ts with
  | case1 left right rest hpair count more heq ih =>
    rw [heq] at ih
    exact ih.trans ⟨[left, right], rfl⟩
  | case2 => exact List.suffix_refl _
  | case3 => exact List.suffix_refl _

end Ahead

/-! ## Types, initializers and arguments -/

theorem TypeText.read_grounded (ts : List Token) : (TypeText.read ts).GroundedIn ts := by
  have h : (TypeText.scan ts).rest <:+ ts := ⟨_, TypeText.divides_scan ts⟩
  unfold TypeText.read
  dsimp only
  split
  · exact .found _ h
  · exact .absent h

theorem Initializer.read_grounded (source : Option (List Char)) (ts : List Token) :
    (Initializer.read source ts).GroundedIn ts := by
  unfold Initializer.read
  dsimp only
  split
  · exact .absent (List.drop_suffix _ ts)
  · exact .found _ (List.drop_suffix _ ts)

namespace Arguments

variable (source : Option (List Char))

/-- The only reading that can meet a number it cannot read. -/
theorem value_grounded (ts : List Token) : (value source ts).GroundedIn ts := by
  cases ts with
  | nil => exact .absent (List.suffix_refl _)
  | cons t ts =>
    simp only [value]
    split
    · exact .found _ ((List.drop_suffix _ ts).trans (List.suffix_cons t ts))
    · rename_i hkind
      split
      · rename_i fault hread
        refine ⟨List.suffix_cons t ts, fun h ↦ ?_⟩
        obtain ⟨-, rfl⟩ := Reading.missed.inj h
        exact ⟨t, List.mem_cons_self, hkind, Numeral.isLongInteger_of_read hread⟩
      · exact .absent (List.suffix_cons t ts)
      · exact .found _ (List.suffix_cons t ts)
    · exact .found _ (List.suffix_cons t ts)
    · exact .found _ (List.suffix_cons t ts)
    · exact .found _ (List.drop_suffix _ _)
    · split
      · exact .found _ ((Ahead.dottedNames_rest_suffix _ ts).trans (List.suffix_cons t ts))
      · exact .absent (List.suffix_refl _)

theorem pairs_grounded (sofar : Assoc Argument) (ts : List Token) :
    (pairs source sofar ts).GroundedIn ts := by
  fun_induction pairs source sofar ts with
  | case1 sofar key sign rest _ argument _ comma others hvalue _ _ ih =>
    exact (ih.cons.mono ((value_grounded source rest).suffix_of_found hvalue)).cons.cons
  | case2 sofar key sign rest _ argument _ comma others hvalue =>
    have hsuffix := (value_grounded source rest).suffix_of_found hvalue
    exact (Reading.GroundedIn.found _ hsuffix).cons.cons
  | case3 sofar key sign rest _ argument _ hvalue =>
    exact .found _ (List.nil_suffix)
  | case4 sofar key sign rest _ more hvalue =>
    have hsuffix := (value_grounded source rest).suffix_of_missed hvalue
    exact (Reading.GroundedIn.found _ hsuffix).cons.cons
  | case5 sofar key sign rest _ cause more _ hvalue =>
    exact ((value_grounded source rest).missed hvalue).cons.cons
  | case6 => exact .found _ (List.suffix_refl _)
  | case7 => exact .found _ (List.suffix_refl _)

theorem read_grounded (ts : List Token) : (read source ts).GroundedIn ts := by
  unfold read
  split
  · exact .found _ (List.suffix_refl _)
  · split
    · exact pairs_grounded source [] ts
    · have hvalue := value_grounded source ts
      split
      · rename_i argument rest h
        exact .found _ (hvalue.suffix_of_found h)
      · rename_i rest h
        exact .found _ (hvalue.suffix_of_missed h)
      · rename_i cause rest _ h
        exact hvalue.missed h

theorem close_grounded (ts : List Token) : (close ts).GroundedIn ts := by
  unfold close
  split
  · exact .found _ (List.drop_suffix _ _)
  · dsimp only
    split
    · exact .found _ (List.drop_suffix _ _)
    · exact .unclosedArguments (List.drop_suffix _ _)

theorem parenthesized_grounded (ts : List Token) : (parenthesized source ts).GroundedIn ts := by
  unfold parenthesized
  split
  · exact ((read_grounded source _).andThen fun table rest _ ↦ (close_grounded rest).map _).drop
  · exact .found _ (List.suffix_refl _)

theorem use_grounded (ts : List Token) : (use source ts).GroundedIn ts := by
  unfold use
  split
  · exact .absent (List.suffix_refl _)
  · exact .absent (List.nil_suffix)
  · rename_i sign name rest
    split
    · have hnames := Ahead.dottedNames_rest_suffix (· = .identifier) rest
      exact (((parenthesized_grounded source _).map _).mono hnames).cons.cons
    · exact .absent (List.suffix_cons _ _)

end Arguments

/-! ## Declarations -/

theorem Prelude.readFrom_grounded (source : Option (List Char)) (sofar : Prelude)
    (ts : List Token) : (readFrom source sofar ts).GroundedIn ts := by
  fun_induction readFrom source sofar ts with
  | case1 => exact .found _ (List.suffix_refl _)
  | case2 sofar t rest _ ih => exact ih.cons
  | case3 sofar t rest _ _ use more h ih =>
    exact ih.mono ((Arguments.use_grounded source (t :: rest)).suffix_of_found h)
  | case4 sofar t rest _ _ cause more h =>
    exact (Arguments.use_grounded source (t :: rest)).missed h
  | case5 sofar t rest _ _ _ ih => exact ih.cons
  | case6 => exact .found _ (List.suffix_refl _)

theorem Prelude.read_grounded (source : Option (List Char)) (ts : List Token) :
    (read source ts).GroundedIn ts := readFrom_grounded source {} ts

namespace ParameterDecl

theorem read_grounded (source : Option (List Char)) (ts : List Token) :
    (read source ts).GroundedIn ts := by
  refine (Prelude.read_grounded source ts).andThen fun head rest _ ↦ ?_
  refine (TypeText.read_grounded rest).andThen fun type rest _ ↦ ?_
  split
  · exact .absent (List.suffix_refl _)
  · split
    · exact (Reading.GroundedIn.found _ (Ahead.bracketPairs_rest_suffix _)).cons
    · exact .absent (List.suffix_refl _)

theorem readList_grounded (source : Option (List Char)) (ts : List Token) :
    (readList source ts).GroundedIn ts := by
  fun_induction readList source ts with
  | case1 ts parameter comma rest h _ ih =>
    exact (ih.map _).cons.mono ((read_grounded source ts).suffix_of_found h)
  | case2 ts parameter comma rest h =>
    exact .found _ ((read_grounded source ts).suffix_of_found h)
  | case3 ts parameter h => exact .found _ List.nil_suffix
  | case4 ts cause rest h => exact (read_grounded source ts).missed h

end ParameterDecl

namespace MethodDecl

theorem skipBody_grounded (name : String) (ts : List Token) : (skipBody name ts).GroundedIn ts := by
  unfold skipBody
  dsimp only
  split
  · exact (Reading.GroundedIn.found () (List.drop_suffix _ _)).drop
  · split
    · exact (Reading.GroundedIn.found () (List.drop_suffix _ _)).drop
    · exact .malformed _ (List.drop_suffix _ _)

theorem readParameters_grounded (source : Option (List Char)) (name : String) (ts : List Token) :
    (readParameters source name ts).GroundedIn ts := by
  refine Reading.GroundedIn.andThen ?_ fun parameters rest _ ↦ ?_
  · split
    · exact .found _ (List.suffix_refl _)
    · exact (ParameterDecl.readList_grounded source ts).orMalformed _
  · split
    · exact .found _ (List.drop_suffix _ _)
    · exact .malformed _ (List.suffix_refl _)

theorem readRest_grounded (source : Option (List Char)) (head : Prelude)
    (returnType : Option String) (name : Token) (ts : List Token) :
    (readRest source head returnType name ts).GroundedIn ts :=
  (readParameters_grounded source name.text ts).andThen fun _ rest _ ↦
    (skipBody_grounded name.text rest).map _

end MethodDecl

namespace Declarator

theorem readValue_grounded (source : Option (List Char)) (name : Token) (ts : List Token) :
    (readValue source name ts).GroundedIn ts := by
  unfold readValue
  split
  · exact (((Initializer.read_grounded source _).map _).orMalformed _).drop
  · exact .found _ (List.suffix_refl _)

theorem readList_grounded (source : Option (List Char)) (type : String) (name : Token)
    (ts : List Token) : (readList source type name ts).GroundedIn ts := by
  have hvalue (name : Token) (ts : List Token) :
      (readValue source name (Ahead.bracketPairs ts).2).GroundedIn ts :=
    (readValue_grounded source name _).mono (Ahead.bracketPairs_rest_suffix ts)
  fun_induction readList source type name ts with
  | case1 name ts own value comma next more h _ ih =>
    exact (ih.map _).cons.cons.mono ((hvalue name ts).suffix_of_found h)
  | case2 name ts own value comma next more h =>
    exact .found _ ((hvalue name ts).suffix_of_found h)
  | case3 name ts own value rest _ h =>
    exact .found _ ((hvalue name ts).suffix_of_found h)
  | case4 name ts cause rest h => exact (hvalue name ts).missed h

end Declarator

namespace FieldDecl

theorem trailingComment?_rest_suffix (ts : List Token) : (trailingComment? ts).2 <:+ ts := by
  unfold trailingComment?
  split
  · split
    · exact List.suffix_cons _ _
    · exact List.suffix_refl _
  · exact List.suffix_refl _

theorem readRest_grounded (source : Option (List Char)) (head : Prelude) (type : String)
    (name : Token) (ts : List Token) : (readRest source head type name ts).GroundedIn ts := by
  refine (Declarator.readList_grounded source type name ts).andThen fun declarators rest _ ↦ ?_
  have hrest := trailingComment?_rest_suffix rest
  dsimp only
  split
  · exact .found _ ((List.drop_suffix _ _).trans hrest)
  · exact .malformed _ hrest

end FieldDecl

/-! ## Members -/

namespace MemberItem

variable (source : Option (List Char)) (final : Token) (head : Prelude)

private theorem typed_grounded (ts : List Token) :
    (readDeclared.typed source final head ts).GroundedIn ts := by
  refine ((TypeText.read_grounded ts).orMalformed _).andThen fun type rest _ ↦ ?_
  split
  · exact .malformed _ (List.suffix_refl _)
  · split
    · split
      · exact (((MethodDecl.readRest_grounded source head _ _ _).map _).drop).cons
      · exact ((FieldDecl.readRest_grounded source head type _ _).map _).cons
    · exact .malformed _ (List.suffix_refl _)

theorem readDeclared_grounded (ts : List Token) :
    (readDeclared source final head ts).GroundedIn ts := by
  unfold readDeclared
  split
  · split
    · exact ((MethodDecl.readRest_grounded source head none _ _).map _).cons.cons
    · exact typed_grounded source final head _
  · exact typed_grounded source final head _

theorem readBehind_grounded (ts : List Token) :
    (readBehind source final head ts).GroundedIn ts := by
  unfold readBehind
  split
  · exact .found _ (List.suffix_refl _)
  · split
    · exact .found _ (List.drop_suffix _ _)
    · split
      · exact .found _ (List.suffix_refl _)
      · split
        · exact (readDeclared_grounded source final head _).drop
        · exact readDeclared_grounded source final head ts

theorem read_grounded (ts : List Token) : (read source final ts).GroundedIn ts := by
  unfold read
  split
  · exact .found _ (List.drop_suffix _ _)
  · split
    · exact .found _ (List.drop_suffix _ _)
    · exact (Prelude.read_grounded source ts).andThen fun head rest _ ↦
        readBehind_grounded source final head rest

end MemberItem

end ClassSchema
