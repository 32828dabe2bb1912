import ClassSchema.Proofs.Grammar.Moved
import ClassSchema.Proofs.Member.Row
import ClassSchema.Proofs.Member.Source

/-!
# Members at another place

Tokens that were moved are read like before: a construct is found in them that is the same but for
its place, or it is missed, and the tokens that are left were moved as well. `Reading.Moved` says so
of two readings and passes through the ways of combining them. What is said of the values is left
open there; for the constructs with a place it is that they are the same without it.

Why a construct is missed may be told with a place. It is all the same to whoever reads on, who asks
only whether the construct is absent.
-/

namespace ClassSchema

/-! ## Declarations without their places -/

/-- A parameter apart from the places of its annotations. -/
def ParameterDecl.unplaced (p : ParameterDecl) : ParameterDecl :=
  { p with annotations := p.annotations.map AnnotationUse.unplaced }

/-- A method apart from its place and those of its parts. -/
def MethodDecl.unplaced (m : MethodDecl) : MethodDecl :=
  { m with
    annotations := m.annotations.map AnnotationUse.unplaced
    parameters := m.parameters.map ParameterDecl.unplaced
    line := 0
    column := 0 }

/-- A member apart from its place. -/
def Member.unplaced : Member → Member
  | field f => field f.unplaced
  | method m => method m.unplaced

theorem Member.fields_unplaced (members : List Member) :
    fields (members.map unplaced) = (fields members).map FieldDecl.unplaced := by
  induction members with
  | nil => rfl
  | cons member members ih =>
    cases member with
    | field f => exact congrArg (f.unplaced :: ·) ih
    | method => exact ih

theorem Member.methods_unplaced (members : List Member) :
    methods (members.map unplaced) = (methods members).map MethodDecl.unplaced := by
  induction members with
  | nil => rfl
  | cons member members ih =>
    cases member with
    | field => exact ih
    | method m => exact congrArg (m.unplaced :: ·) ih

/-- What stands at the place of a member, apart from that place. -/
def MemberItem.unplaced : MemberItem → MemberItem
  | members decls => members (decls.map Member.unplaced)
  | nestedType what => nestedType what

/-- What stands in front of two declarations is the same apart from its place. -/
structure Prelude.Alike (a b : Prelude) : Prop where
  comment : b.comment.map (·.text) = a.comment.map (·.text)
  annotations : b.annotations.map AnnotationUse.unplaced = a.annotations.map AnnotationUse.unplaced
  modifiers : b.modifiers = a.modifiers

private theorem Prelude.Alike.isEmpty_eq {a b : Prelude} (h : a.Alike b) :
    b.isEmpty = a.isEmpty := by
  have hempty := congrArg List.isEmpty h.annotations
  rw [List.isEmpty_map, List.isEmpty_map] at hempty
  rw [isEmpty, isEmpty, hempty, h.modifiers]

/-! ## Readings of tokens that were moved -/

variable {source source' : Option (List Char)} {M : Relocation source source'}

/-- Two readings find what is related by `R`, or both miss it; what they leave was moved. -/
inductive Reading.Moved {α β : Type} (M : Relocation source source') (R : α → β → Prop) :
    Reading α → Reading β → Prop
  | found {a : α} {b : β} {rest rest' : List Token} (related : R a b) (moved : M.All rest rest') :
    Moved M R (.found a rest) (.found b rest')
  | missed {cause cause' : Miss} {rest rest' : List Token}
    (absent_iff : cause = .absent ↔ cause' = .absent) (moved : M.All rest rest') :
    Moved M R (.missed cause rest) (.missed cause' rest')

private theorem Reading.exists_orMalformed_missed {α : Type} (cause : Miss) (rest : List Token)
    (why : Malformation) : ∃ other, (missed cause rest : Reading α).orMalformed why =
      missed other rest ∧ other ≠ .absent := by
  cases cause <;> exact ⟨_, rfl, nofun⟩

namespace Reading.Moved

/-- Two readings that find something malformed. -/
theorem malformed {α β : Type} {R : α → β → Prop} {why why' : Malformation}
    {rest rest' : List Token} (moved : M.All rest rest') :
    Moved M R (.missed (.malformed why) rest) (.missed (.malformed why') rest') :=
  .missed (iff_of_false Miss.noConfusion Miss.noConfusion) moved

variable {α β γ δ : Type} {R : α → β → Prop} {S : γ → δ → Prop} {r : Reading α} {r' : Reading β}

theorem elim {onFound : α → List Token → Reading γ} {onFound' : β → List Token → Reading δ}
    {onMissed : Miss → List Token → Reading γ} {onMissed' : Miss → List Token → Reading δ}
    (h : Moved M R r r')
    (hfound : ∀ {a b rest rest'}, r = .found a rest → R a b → M.All rest rest' →
      Moved M S (onFound a rest) (onFound' b rest'))
    (hmissed : ∀ {cause cause' rest rest'}, (cause = .absent ↔ cause' = .absent) →
      M.All rest rest' → Moved M S (onMissed cause rest) (onMissed' cause' rest')) :
    Moved M S (r.elim onFound onMissed) (r'.elim onFound' onMissed') := by
  cases h with
  | found related moved => exact hfound rfl related moved
  | missed absent_iff moved => exact hmissed absent_iff moved

theorem andThen {next : α → List Token → Reading γ} {next' : β → List Token → Reading δ}
    (h : Moved M R r r')
    (hnext : ∀ {a b rest rest'}, r = .found a rest → R a b → M.All rest rest' →
      Moved M S (next a rest) (next' b rest')) :
    Moved M S (r.andThen next) (r'.andThen next') := by
  rw [Reading.andThen_eq_elim, Reading.andThen_eq_elim]
  exact h.elim hnext .missed

theorem map {f : α → γ} {g : β → δ} (h : Moved M R r r') (hmap : ∀ {a b}, R a b → S (f a) (g b)) :
    Moved M S (r.map f) (r'.map g) :=
  h.andThen fun _ related moved ↦ .found (hmap related) moved

theorem orMalformed (h : Moved M R r r') (why why' : Malformation) :
    Moved M R (r.orMalformed why) (r'.orMalformed why') := by
  cases h with
  | found related moved => exact .found related moved
  | @missed cause cause' rest rest' _ moved =>
    obtain ⟨other, hother, hne⟩ := exists_orMalformed_missed cause rest why
    obtain ⟨other', hother', hne'⟩ := exists_orMalformed_missed cause' rest' why'
    rw [hother, hother']
    exact .missed (iff_of_false hne hne') moved

end Reading.Moved

variable {ts ts' : List Token}

/-! ## Types and initializers -/

theorem TypeText.read_moved (h : M.All ts ts') : Reading.Moved M Eq (read ts) (read ts') := by
  have hscan := scan_moved h
  rw [read, read, hscan.complete]
  split
  · exact .found (join_moved hscan.taken).symm hscan.rest
  · exact .missed Iff.rfl hscan.rest

private theorem Initializer.read_moved (h : M.All ts ts') :
    Reading.Moved M Eq (read source ts) (read source' ts') := by
  have hrest := Relocation.drop h (length 0 ts)
  have htokens : M.All (tokens ts) (tokens ts') := by
    rw [tokens, tokens, length_moved h]
    exact dropComments_moved (Relocation.take h _)
  have hnil : tokens ts' = [] ↔ tokens ts = [] := by
    rw [← List.length_eq_zero_iff, ← List.length_eq_zero_iff, Relocation.length_eq htokens]
  rw [read_eq, read_eq, length_moved h]
  by_cases hts : tokens ts = []
  · rw [if_pos hts, if_pos (hnil.mpr hts)]
    exact .missed Iff.rfl hrest
  · rw [if_neg hts, if_neg (mt hnil.mp hts)]
    exact .found (M.sourceText_eq htokens).symm hrest

/-! ## Annotations -/

private theorem Relocation.map_text_eq (h : M.All ts ts') : ts'.map (·.text) = ts.map (·.text) := by
  induction h with
  | nil => rfl
  | cons ht _ ih => rw [List.map_cons, List.map_cons, M.text_eq ht, ih]

namespace Arguments

private theorem pathText_moved {first first' : Token} {names names' : Ahead.Names}
    (hfirst : M.Moved first first')
    (hnames : List.Forall₂ (fun a a' ↦ M.Moved a.1 a'.1 ∧ M.Moved a.2 a'.2) names names') :
    pathText first' names' = pathText first names := by
  rw [pathText, pathText, M.text_eq hfirst]
  generalize first.text = text
  induction hnames generalizing text with
  | nil => rfl
  | cons ha _ ih => rw [List.foldl_cons, List.foldl_cons, M.text_eq ha.2, ih]

theorem value_moved (h : M.All ts ts') :
    Reading.Moved M Eq (value source ts) (value source' ts') := by
  cases h with
  | nil => exact .missed Iff.rfl .nil
  | @cons t t' us us' ht hus =>
    have hall : M.All (t :: us) (t' :: us') := .cons ht hus
    have hstrings : M.All (us.takeWhile (·.is .string)) (us'.takeWhile (·.is .string)) :=
      Relocation.takeWhile hus fun hu ↦ M.is_eq hu _
    obtain ⟨hnames, hrest⟩ := Ahead.dottedNames_moved hus isPathName
    rw [value, value, M.kind_eq ht, M.text_eq ht]
    split
    · refine .found ?_ (Relocation.length_eq hstrings ▸ Relocation.drop hus _)
      have htexts := Relocation.map_text_eq hstrings
      have hfold (ts : List Token) : (ts.map (·.text)).foldl
          (fun text literal ↦ text ++ Text.unquote literal) (Text.unquote t.text) =
            ts.foldl (fun text u ↦ text ++ Text.unquote u.text) (Text.unquote t.text) :=
        List.foldl_map
      rw [← hfold, ← hfold, htexts]
    · split
      · exact .missed (iff_of_false Miss.noConfusion Miss.noConfusion) hus
      · exact .missed Iff.rfl hus
      · exact .found rfl hus
    · exact .found rfl hus
    · exact .found rfl hus
    · dsimp only
      rw [Skip.balanced_moved hall]
      exact .found (congrArg _ (M.sourceText_eq (Relocation.take hall _)).symm)
        (Relocation.drop hall _)
    · split
      · exact .found (congrArg _ (pathText_moved ht hnames).symm) hrest
      · exact .missed Iff.rfl hall

theorem atNameWith_moved (h : M.All ts ts') (m : Mark) :
    Ahead.atNameWith m ts' = Ahead.atNameWith m ts := by
  rw [Ahead.atNameWith, Ahead.atNameWith, Ahead.kind_moved h, Ahead.kindAt_moved h]

/-- Where no value stands, what was read before is kept. -/
private theorem ifAbsent_moved {cause cause' : Miss}
    (habsent : cause = .absent ↔ cause' = .absent) (h : M.All ts ts') (value : α) :
    Reading.Moved M Eq (if cause = .absent then .found value ts else .missed cause ts)
      (if cause' = .absent then .found value ts' else .missed cause' ts') := by
  by_cases hcause : cause = .absent
  · rw [if_pos hcause, if_pos (habsent.mp hcause)]
    exact .found rfl h
  · rw [if_neg hcause, if_neg (mt habsent.mpr hcause)]
    exact .missed habsent h

private theorem pairs_moved (h : M.All ts ts') (sofar : Assoc Argument) :
    Reading.Moved M Eq (pairs source sofar ts) (pairs source' sofar ts') := by
  -- on the number of tokens, since the value of a pair takes any number of them
  induction hn : ts.length using Nat.strongRecOn generalizing ts ts' sofar with
  | ind n ih =>
    have hpair := atNameWith_moved h .equal
    cases hts : Ahead.atNameWith .equal ts with
    | false =>
      rw [pairs_of_no_pair source hts, pairs_of_no_pair source' (hpair.trans hts)]
      exact .found rfl h
    | true =>
      obtain ⟨key, sign, us, rfl, -, -⟩ := Ahead.exists_eq_cons_of_atNameWith hts
      obtain _ | @⟨_, key', _, _, hkey, _ | ⟨hsign, hus⟩⟩ := h
      rw [pairs_of_pair source us hts, pairs_of_pair source' _ (hpair.trans hts),
        M.text_eq hkey]
      refine (value_moved hus).elim (fun {a b rest rest'} hvalue hab hrest ↦ ?_)
        fun {cause cause' rest rest'} habsent hrest ↦ ?_
      · rw [hab, Ahead.atMark_moved hrest]
        split
        · have hle := length_value_rest_le source us
          rw [hvalue, Reading.rest_found] at hle
          have hlt : (rest.drop 1).length < n := by
            simp only [List.length_cons] at hn
            simp only [List.length_drop]
            omega
          exact ih _ hlt (Relocation.drop hrest 1) _ rfl
        · exact .found rfl hrest
      · exact ifAbsent_moved habsent hrest _

private theorem read_moved (h : M.All ts ts') :
    Reading.Moved M Eq (read source ts) (read source' ts') := by
  rw [read_eq, read_eq, Ahead.atMark_moved h, atNameWith_moved h]
  split
  · exact .found rfl h
  · split
    · exact pairs_moved h []
    · exact (value_moved h).elim (fun _ hab hrest ↦ .found (by rw [hab]) hrest)
        fun habsent hrest ↦ ifAbsent_moved habsent hrest _

private theorem close_moved (h : M.All ts ts') : Reading.Moved M Eq (close ts) (close ts') := by
  rw [close, close, Ahead.atMark_moved h, Skip.search_moved h]
  split
  · exact .found rfl (Relocation.drop h 1)
  · dsimp only
    split
    · exact .found rfl (Relocation.drop h _)
    · exact .missed Iff.rfl (Relocation.drop h _)

private theorem parenthesized_moved (h : M.All ts ts') :
    Reading.Moved M Eq (parenthesized source ts) (parenthesized source' ts') := by
  rw [parenthesized, parenthesized, Ahead.atMark_moved h]
  split
  · refine (read_moved (Relocation.drop h 1)).andThen fun _ hab hrest ↦ ?_
    exact (close_moved hrest).map fun _ ↦ hab
  · exact .found rfl h

private theorem lastName_moved {name name' : Token} {names names' : Ahead.Names}
    (hname : M.Moved name name')
    (hnames : List.Forall₂ (fun a a' ↦ M.Moved a.1 a'.1 ∧ M.Moved a.2 a'.2) names names') :
    ((names'.getLast?.map (·.2)).getD name').text =
      ((names.getLast?.map (·.2)).getD name).text := by
  have hreverse := List.rel_reverse hnames
  rw [← List.head?_reverse, ← List.head?_reverse]
  generalize names.reverse = reversed at hreverse
  generalize names'.reverse = reversed' at hreverse
  cases hreverse with
  | nil => exact M.text_eq hname
  | cons ha _ => exact M.text_eq ha.2

private theorem use_moved (h : M.All ts ts') : Reading.Moved M
    (fun a b ↦ b.unplaced = a.unplaced) (use source ts) (use source' ts') := by
  match h with
  | .nil => exact .missed Iff.rfl .nil
  | .cons _ .nil => exact .missed Iff.rfl .nil
  | .cons _ (.cons (a := name) (b := name') hname hus) =>
    obtain ⟨hnames, hrest⟩ := Ahead.dottedNames_moved hus (· = .identifier)
    have hlast := lastName_moved hname hnames
    rw [use, use, M.is_eq hname]
    split
    · refine (parenthesized_moved hrest).map fun hab ↦ ?_
      rw [AnnotationUse.unplaced, AnnotationUse.unplaced, hlast, hab]
    · exact .missed Iff.rfl (.cons hname hus)

end Arguments

/-! ## Preludes -/

namespace Prelude

variable {head head' : Prelude}

private theorem startsAnnotations_moved {t t' : Token} (ht : M.Moved t t') (h : M.All ts ts') :
    startsAnnotations t' ts' = startsAnnotations t ts := by
  rw [startsAnnotations, startsAnnotations, M.isMark_eq ht, Ahead.kind_moved h]

private theorem isModifier_moved {t t' : Token} (ht : M.Moved t t') (h : M.All ts ts') :
    isModifier t' ts' = isModifier t ts := by
  rw [isModifier, isModifier, M.kind_eq ht, M.is_eq ht, M.text_eq ht, Ahead.atMark_moved h]

private theorem readFrom_moved (h : M.All ts ts') (hhead : head.Alike head') :
    Reading.Moved M Alike (readFrom source head ts) (readFrom source' head' ts') := by
  -- on the number of tokens, since an annotation takes any number of them
  induction hn : ts.length using Nat.strongRecOn generalizing ts ts' head head' with
  | ind n ih =>
    cases h with
    | nil =>
      rw [readFrom, readFrom]
      exact .found hhead .nil
    | @cons t t' us us' ht hus =>
      have hlt : us.length < n := hn ▸ Nat.lt_succ_self us.length
      have hstarts := startsAnnotations_moved ht hus
      have hmodifier := isModifier_moved ht hus
      by_cases hcomment : t.kind.isComment = true
      · rw [readFrom, readFrom, M.kind_eq ht, if_pos hcomment, if_pos hcomment]
        refine ih _ hlt hus ⟨?_, hhead.annotations, hhead.modifiers⟩ rfl
        rw [Option.map_some, Option.map_some, M.text_eq ht]
      · by_cases hts : startsAnnotations t us = true
        · have hcomment' : t'.kind.isComment = false := by
            rw [M.kind_eq ht, Bool.eq_false_iff]
            exact hcomment
          rw [readFrom_of_startsAnnotations source us (Bool.eq_false_iff.mpr hcomment) hts,
            readFrom_of_startsAnnotations source' us' hcomment' (hstarts.trans hts)]
          refine (Arguments.use_moved (.cons ht hus)).andThen
            fun {a b rest rest'} huse hab hrest ↦ ?_
          have hlt' := Arguments.length_use_rest_lt source t us
          rw [huse, Reading.rest_found, hn] at hlt'
          refine ih _ hlt' hrest ⟨hhead.comment, ?_, hhead.modifiers⟩ rfl
          rw [List.map_append, List.map_append, hhead.annotations, List.map_singleton,
            List.map_singleton, hab]
        · rw [readFrom, readFrom, M.kind_eq ht, hstarts, hmodifier, if_neg hcomment,
            if_neg hcomment, if_neg hts, if_neg hts]
          split
          · refine ih _ hlt hus ⟨hhead.comment, hhead.annotations, ?_⟩ rfl
            rw [hhead.modifiers, M.text_eq ht]
          · exact .found hhead (.cons ht hus)

theorem read_moved (h : M.All ts ts') :
    Reading.Moved M Alike (read source ts) (read source' ts') :=
  readFrom_moved h ⟨rfl, rfl, rfl⟩

end Prelude

/-! ## Methods -/

variable {head head' : Prelude}

namespace ParameterDecl

private theorem readNamed_moved (h : M.All ts ts') (hhead : head.Alike head') (type : String) :
    Reading.Moved M (fun a b ↦ b.unplaced = a.unplaced) (readNamed head type ts)
      (readNamed head' type ts') := by
  cases h with
  | nil => exact .missed Iff.rfl .nil
  | cons hname hmore =>
    obtain ⟨hcount, hrest⟩ := Ahead.bracketPairs_moved hmore
    rw [readNamed, readNamed, M.is_eq hname, M.text_eq hname, hcount]
    split
    · refine .found ?_ hrest
      rw [unplaced, unplaced, hhead.annotations]
    · exact .missed Iff.rfl (.cons hname hmore)

private theorem read_moved (h : M.All ts ts') : Reading.Moved M (fun a b ↦ b.unplaced = a.unplaced)
    (read source ts) (read source' ts') := by
  rw [read_eq, read_eq]
  refine (Prelude.read_moved h).andThen fun _ hhead hrest ↦ ?_
  refine (TypeText.read_moved hrest).andThen fun _ htype hrest ↦ ?_
  exact htype ▸ readNamed_moved hrest hhead _

private theorem readList_moved (h : M.All ts ts') :
    Reading.Moved M (fun a b ↦ b.map unplaced = a.map unplaced) (readList source ts)
      (readList source' ts') := by
  induction hn : ts.length using Nat.strongRecOn generalizing ts ts' with
  | ind n ih =>
    rw [readList_eq, readList_eq]
    refine (read_moved h).andThen fun {a b rest rest'} hread hab hrest ↦ ?_
    rw [Ahead.atMark_moved hrest]
    split
    · rename_i hcomma
      have hle := length_read_rest_le source ts
      rw [hread, Reading.rest_found, hn] at hle
      have hlt : (rest.drop 1).length < n := by
        cases rest with
        | nil => cases hcomma
        | cons comma others => exact Nat.lt_of_succ_le hle
      refine (ih _ hlt (Relocation.drop hrest 1) rfl).map fun hlist ↦ ?_
      rw [List.map_cons, List.map_cons, hab, hlist]
    · refine .found ?_ hrest
      rw [List.map_singleton, List.map_singleton, hab]

end ParameterDecl

namespace MethodDecl

private theorem skipBody_moved (h : M.All ts ts') (name : String) :
    Reading.Moved M Eq (skipBody name ts) (skipBody name ts') := by
  have hdrop := Relocation.drop h (Skip.upTo Skip.endsHeader ts)
  unfold skipBody
  dsimp only
  rw [Skip.upTo_moved h, Ahead.atMark_moved hdrop, Ahead.atMark_moved hdrop,
    Skip.balanced_moved hdrop]
  split
  · exact .found rfl (Relocation.drop hdrop _)
  · split
    · exact .found rfl (Relocation.drop hdrop 1)
    · exact .malformed hdrop

private theorem readParameters_moved (h : M.All ts ts') (name : String) :
    Reading.Moved M (fun a b ↦ b.map ParameterDecl.unplaced = a.map ParameterDecl.unplaced)
      (readParameters source name ts) (readParameters source' name ts') := by
  unfold readParameters
  rw [Ahead.atMark_moved h]
  refine Reading.Moved.andThen
    (R := fun a b ↦ b.map ParameterDecl.unplaced = a.map ParameterDecl.unplaced) ?_
    fun _ hab hrest ↦ ?_
  · split
    · exact .found rfl h
    · exact (ParameterDecl.readList_moved h).orMalformed _ _
  · rw [Ahead.atMark_moved hrest]
    split
    · exact .found hab (Relocation.drop hrest 1)
    · exact .malformed hrest

theorem readRest_moved (h : M.All ts ts') (hhead : head.Alike head') (returnType : Option String)
    {name name' : Token} (hname : M.Moved name name') :
    Reading.Moved M (fun a b ↦ b.unplaced = a.unplaced) (readRest source head returnType name ts)
      (readRest source' head' returnType name' ts') := by
  rw [readRest, readRest, M.text_eq hname]
  refine (readParameters_moved h name.text).andThen fun _ hab hrest ↦ ?_
  refine (skipBody_moved hrest name.text).map fun _ ↦ ?_
  rw [unplaced, unplaced, hhead.comment, hhead.annotations, hhead.modifiers, hab]

end MethodDecl

/-! ## Fields -/

namespace Declarator

/-- The declarators are the same apart from the places of their names. -/
def Alike (a b : Declarator) : Prop :=
  b.name.text = a.name.text ∧ b.type = a.type ∧ b.value = a.value

private theorem readValue_moved (h : M.All ts ts') (name name' : Token) :
    Reading.Moved M Eq (readValue source name ts) (readValue source' name' ts') := by
  rw [readValue, readValue, Ahead.atMark_moved h]
  split
  · exact (Initializer.read_moved (Relocation.drop h 1)).map (fun hab ↦ congrArg some hab)
      |>.orMalformed _ _
  · exact .found rfl h

private theorem readNext_moved (h : M.All ts ts') (type : String) {d d' : Declarator}
    (hd : d.Alike d') (hlist : ∀ {next next' more more'}, M.Moved next next' → M.All more more' →
      more.length < ts.length → Reading.Moved M (List.Forall₂ Alike)
        (readList source type next more) (readList source' type next' more')) :
    Reading.Moved M (List.Forall₂ Alike) (readNext source type d ts)
      (readNext source' type d' ts') := by
  match h with
  | .nil => exact .found (.cons hd .nil) .nil
  | .cons hcomma .nil => exact .found (.cons hd .nil) (.cons hcomma .nil)
  | .cons hcomma (.cons hnext hmore) =>
    rw [readNext, readNext, M.isMark_eq hcomma, M.is_eq hnext]
    split
    · exact (hlist hnext hmore (Nat.lt_succ_of_lt (Nat.lt_succ_self _))).map fun hds ↦ .cons hd hds
    · exact .found (.cons hd .nil) (.cons hcomma (.cons hnext hmore))

private theorem readList_moved (h : M.All ts ts') (type : String) {name name' : Token}
    (hname : M.Moved name name') :
    Reading.Moved M (List.Forall₂ Alike) (readList source type name ts)
      (readList source' type name' ts') := by
  induction hn : ts.length using Nat.strongRecOn generalizing ts ts' name name' with
  | ind n ih =>
    obtain ⟨hcount, hbehind⟩ := Ahead.bracketPairs_moved h
    rw [readList_eq, readList_eq, hcount]
    refine (readValue_moved hbehind name name').andThen fun {a b rest rest'} hvalue hab hrest ↦ ?_
    refine readNext_moved hrest type ⟨M.text_eq hname, rfl, hab.symm⟩
      fun hnext hmore hlt ↦ ih _ ?_ hmore hnext rfl
    have hle := length_readValue_rest_le source name (Ahead.bracketPairs ts).2
    have hle' := Ahead.length_bracketPairs_rest_le ts
    rw [hvalue, Reading.rest_found] at hle
    omega

end Declarator

namespace FieldDecl

private theorem trailingComment?_moved (h : M.All ts ts') :
    (trailingComment? ts').1 = (trailingComment? ts).1 ∧
      M.All (trailingComment? ts).2 (trailingComment? ts').2 := by
  cases h with
  | nil => exact ⟨rfl, .nil⟩
  | cons ht hts =>
    rw [trailingComment?, trailingComment?, M.is_eq ht, Ahead.atMark_moved hts, M.text_eq ht]
    split
    · exact ⟨rfl, hts⟩
    · exact ⟨rfl, .cons ht hts⟩

private theorem readRest_moved (h : M.All ts ts') (hhead : head.Alike head') (type : String)
    {name name' : Token} (hname : M.Moved name name') :
    Reading.Moved M (fun a b ↦ b.map unplaced = a.map unplaced)
      (readRest source head type name ts) (readRest source' head' type name' ts') := by
  refine (Declarator.readList_moved h type hname).andThen
    fun {ds ds' rest rest'} hread hds hrest ↦ ?_
  clear hread
  obtain ⟨htrailing, hbehind⟩ := trailingComment?_moved hrest
  dsimp only
  rw [Ahead.atMark_moved hbehind, htrailing]
  split
  · refine .found ?_ (Relocation.drop hbehind 1)
    rw [List.map_map, List.map_map]
    induction hds with
    | nil => rfl
    | cons hd _ ih =>
      obtain ⟨hname, htype, hvalue⟩ := hd
      rw [List.map_cons, List.map_cons, ih]
      simp only [Function.comp_apply, unplaced, hname, htype, hvalue, hhead.comment,
        hhead.annotations, hhead.modifiers]
  · exact .malformed hbehind

end FieldDecl

/-! ## Members -/

namespace MemberItem

private theorem readTyped_moved (h : M.All ts ts') (hhead : head.Alike head') (type : String) :
    Reading.Moved M (fun a b ↦ b.unplaced = a.unplaced) (readTyped source head type ts)
      (readTyped source' head' type ts') := by
  cases h with
  | nil => exact .malformed .nil
  | cons hname hmore =>
    rw [readTyped, readTyped, M.is_eq hname, Ahead.atMark_moved hmore]
    split
    · split
      · refine (MethodDecl.readRest_moved (Relocation.drop hmore 1) hhead _ hname).map fun hab ↦ ?_
        exact congrArg (fun m ↦ members [Member.method m]) hab
      · refine (FieldDecl.readRest_moved hmore hhead type hname).map fun {a b} hab ↦ ?_
        have hfields (fields : List FieldDecl) : (fields.map Member.field).map Member.unplaced =
            (fields.map FieldDecl.unplaced).map Member.field := by
          rw [List.map_map, List.map_map]
          rfl
        rw [unplaced, unplaced, hfields, hfields, hab]
    · exact .malformed (.cons hname hmore)

private theorem typed_moved (h : M.All ts ts') (final final' : Token) (hhead : head.Alike head') :
    Reading.Moved M (fun a b ↦ b.unplaced = a.unplaced) (readDeclared.typed source final head ts)
      (readDeclared.typed source' final' head' ts') := by
  rw [typed_eq, typed_eq]
  refine ((TypeText.read_moved h).orMalformed _ _).andThen fun _ htype hrest ↦ ?_
  exact htype ▸ readTyped_moved hrest hhead _

private theorem readDeclared_moved (h : M.All ts ts') (final final' : Token)
    (hhead : head.Alike head') :
    Reading.Moved M (fun a b ↦ b.unplaced = a.unplaced) (readDeclared source final head ts)
      (readDeclared source' final' head' ts') := by
  have hconstructor := Arguments.atNameWith_moved h .openParen
  cases hts : Ahead.atNameWith .openParen ts with
  | false =>
    rw [readDeclared_of_no_constructor source final head hts,
      readDeclared_of_no_constructor source' final' head' (hconstructor.trans hts)]
    exact typed_moved h final final' hhead
  | true =>
    obtain ⟨name, paren, us, rfl, -, -⟩ := Ahead.exists_eq_cons_of_atNameWith hts
    obtain _ | ⟨hname, _ | ⟨-, hrest⟩⟩ := h
    rw [readDeclared_of_constructor source final head hts,
      readDeclared_of_constructor source' final' head' (hconstructor.trans hts)]
    refine (MethodDecl.readRest_moved hrest hhead none hname).map fun hab ↦ ?_
    exact congrArg (fun m ↦ members [Member.method m]) hab

private theorem at?_moved (h : M.All ts ts') (nested : Bool) :
    Skippable.at? nested ts' = Skippable.at? nested ts := by
  rw [Skippable.at?, Skippable.at?, Ahead.kind_moved h, Ahead.kindAt_moved h]

private theorem readBehind_moved (h : M.All ts ts') (final final' : Token)
    (hhead : head.Alike head') :
    Reading.Moved M (fun a b ↦ b.unplaced = a.unplaced) (readBehind source final head ts)
      (readBehind source' final' head' ts') := by
  have hempty : ts'.isEmpty = ts.isEmpty := by cases h <;> rfl
  have hdrop := Relocation.drop h (Skip.balanced ts)
  rw [readBehind_eq, readBehind_eq, hhead.isEmpty_eq, Ahead.atMark_moved h, Ahead.atMark_moved h,
    hempty, Skip.balanced_moved h, readOpen, readOpen, at?_moved h]
  split
  · exact .found rfl h
  · split
    · exact .found rfl hdrop
    · split
      · exact .found rfl h
      · rw [readGeneric, readGeneric, Ahead.atMark_moved h, Skip.balanced_moved h]
        split
        · exact readDeclared_moved hdrop final final' hhead
        · exact readDeclared_moved h final final' hhead

/-- **A member is read alike wherever it stands.** -/
theorem read_moved (h : M.All ts ts') (final final' : Token) :
    Reading.Moved M (fun a b ↦ b.unplaced = a.unplaced) (read source final ts)
      (read source' final' ts') := by
  rw [read, read, Ahead.atMark_moved h, Ahead.atMark_moved h, Skip.balanced_moved h]
  split
  · exact .found rfl (Relocation.drop h 1)
  · split
    · exact .found rfl (Relocation.drop h _)
    · exact (Prelude.read_moved h).andThen fun _ hhead hrest ↦
        readBehind_moved hrest final final' hhead

end MemberItem

/-- **A row of members can be moved to another place**, where it is the same but for that. -/
theorem Row.exists_moved {final : Token} {decls : List Member} {rest : List Token}
    (h : Row source final ts decls rest) (hts : M.All ts ts') (final' : Token) :
    ∃ decls' rest', Row source' final' ts' decls' rest' ∧ M.All rest rest' ∧
      decls'.map Member.unplaced = decls.map Member.unplaced := by
  induction h generalizing ts' with
  | nil => exact ⟨[], ts', .nil ts', hts, rfl⟩
  | @cons t ts between rest decls more inside found row ih =>
    have hread := MemberItem.read_moved hts final final'
    rw [found] at hread
    cases hts with
    | @cons _ t' _ us' ht hus =>
      generalize hitem : MemberItem.read source' final' (t' :: us') = reading at hread
      cases hread with
      | @found _ item _ between' related moved =>
        cases item with
        | nestedType what => cases related
        | members decls' =>
          obtain ⟨more', rest', hrow, hrest, hmore⟩ := ih moved
          refine ⟨decls' ++ more', rest', .cons ((M.isMark_eq ht _).trans inside) hitem hrow, hrest,
            ?_⟩
          rw [List.map_append, List.map_append, hmore, MemberItem.members.inj related]

end ClassSchema
