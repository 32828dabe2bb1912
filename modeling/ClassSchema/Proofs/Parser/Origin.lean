import ClassSchema.Proofs.Member.Origin
import ClassSchema.Proofs.Parser.Frame
import ClassSchema.Proofs.Parser.Termination
import ClassSchema.Proofs.Token.Tiling
import Mathlib.Data.Fintype.Basic

/-!
# Where members come from

No member is invented, none comes twice and none is moved. Each member of a file has a token of its
own, an identifier, with its name and its place; the tokens of the fields of a class come in the
order of the fields, so do those of its methods, and the tokens of a class come behind the keyword
of the class and in front of all tokens of the classes behind it.

What a class is read off is its keyword with the names of its members behind, and a file is read off
classes, one behind the other. That alone gives the order of all these tokens. The members have been
sorted into fields and methods, so the names of a class are two lists that have been shuffled
together, and each of the two keeps its order.
-/

namespace ClassSchema

/-! ## Classes -/

/-- A class has the place of its keyword, and its members are named by tokens in their order. -/
structure ClassDecl.ReadAt (decl : ClassDecl) (keyword : Token) (names : List Token) : Prop where
  kind_eq : keyword.kind = .keyword .classWord
  line_eq : decl.line = keyword.line
  column_eq : decl.column = keyword.column
  members : ∃ members, decl.fields = Member.fields members ∧ decl.methods = Member.methods members ∧
    List.Forall₂ Member.NamedBy members names

/-- A class is read off its keyword and the names of its members. -/
def ClassDecl.Off (decl : ClassDecl) (ts : List Token) : Prop :=
  ∃ keyword names, ts = keyword :: names ∧ decl.ReadAt keyword names

private theorem Member.forall₂_namedBy {members : List Member} {parts : List (List Token)}
    (h : List.Forall₂ Off members parts) : List.Forall₂ NamedBy members parts.flatten := by
  induction h with
  | nil => exact .nil
  | cons hoff _ ih =>
    obtain ⟨t, rfl, ht⟩ := hoff
    exact .cons ht ih

namespace Rule

variable {p q : Parser}

private theorem classRest_readOff {comment : Option Token} {head : Prelude} {decl : ClassDecl}
    (hfinal : p.final.kind = .endOfInput) (h : classRest comment head p = (.present decl, q)) :
    ReadOff ClassDecl.Off p.ahead [decl] q.ahead := by
  obtain ⟨f, header, members, r, s, hp, -, -, hbody, hs, -, rfl⟩ := exists_of_classRest hfinal h
  -- the members are read behind the keyword, and the closing brace stands behind them
  have hmembers : ReadOff Member.Off (f.name :: (header ++ f.opening :: r.ahead)) members q.ahead :=
    ((classBody_readOff hbody).behind
      ⟨f.name :: (header ++ [f.opening]), by simp⟩).onward (hs ▸ List.suffix_cons _ _)
  obtain ⟨front, parts, hfront, hparts, hoff⟩ := hmembers
  rw [hp, hfront]
  have hoff' : (f.declBehind comment head members).Off (f.keyword :: parts.flatten) :=
    ⟨f.keyword, _, rfl, f.keyword_kind, rfl, rfl, members, rfl, rfl, Member.forall₂_namedBy hoff⟩
  exact .single (hparts.cons_cons f.keyword) hoff' q.ahead

private theorem typeDeclaration_readOff {decl : Option ClassDecl}
    (hfinal : p.final.kind = .endOfInput) (h : typeDeclaration p = (.present decl, q)) :
    ReadOff ClassDecl.Off p.ahead decl.toList q.ahead := by
  cases decl with
  | none =>
    have hmoved := (typeDeclaration_endsFrom p).onward
    rw [h] at hmoved
    exact .none hmoved.ahead_suffix
  | some decl =>
    obtain ⟨head, rest, -, hrest, hclass⟩ := exists_of_typeDeclaration h
    have hclass := classRest_readOff (p := p.settle rest) hfinal hclass
    rw [Parser.ahead_settle hrest] at hclass
    exact hclass.behind hrest

private theorem gathers_readOff :
    Gathers fun p classes q ↦ ReadOff ClassDecl.Off p.ahead classes q.ahead where
  advance p n := .none (p.onward_advance n).ahead_suffix
  typeDeclaration := typeDeclaration_readOff
  append _ hfirst hlater := hfirst.append hlater

end Rule

/-! ## Members of a class and their tokens -/

/-- A member of a class, told by its place among the fields or among the methods. -/
inductive ClassDecl.Site (decl : ClassDecl)
  | field (i : Fin decl.fields.length)
  | method (i : Fin decl.methods.length)

/-- The member at a place. -/
def ClassDecl.Site.member {decl : ClassDecl} : decl.Site → Member
  | field i => .field decl.fields[i]
  | method i => .method decl.methods[i]

/-- The members of a class have tokens among `ts`: each its own, with its name and place. -/
structure ClassDecl.Traced (decl : ClassDecl) (ts : List Token) (keyword : Token)
    (name : decl.Site → Token) : Prop where
  keyword_mem : keyword ∈ ts
  keyword_kind : keyword.kind = .keyword .classWord
  /-- The class has the place of its keyword. -/
  keyword_place : decl.line = keyword.line ∧ decl.column = keyword.column
  name_mem : ∀ s, name s ∈ ts
  name_injective : Function.Injective name
  named : ∀ s : decl.Site, s.member.NamedBy (name s)
  /-- The fields come in the order of their tokens. -/
  fields_ascend : ∀ i j, i < j → (name (.field i)).span.start < (name (.field j)).span.start
  /-- The methods come in the order of their tokens. -/
  methods_ascend : ∀ i j, i < j → (name (.method i)).span.start < (name (.method j)).span.start
  /-- All members come behind the keyword. -/
  keyword_before : ∀ s, keyword.span.start < (name s).span.start

namespace Member

/-- Names of members are the names of fields and the names of methods, shuffled together. -/
theorem exists_names {members : List Member} {names : List Token}
    (h : List.Forall₂ NamedBy members names) :
    ∃ fieldNames methodNames, (fieldNames ++ methodNames).Perm names ∧
      fieldNames.Sublist names ∧ methodNames.Sublist names ∧
      List.Forall₂ (fun f ↦ NamedBy (.field f)) (fields members) fieldNames ∧
      List.Forall₂ (fun m ↦ NamedBy (.method m)) (methods members) methodNames := by
  induction h with
  | nil => exact ⟨[], [], .refl _, .slnil, .slnil, .nil, .nil⟩
  | @cons member t members names hnamed _ ih =>
    obtain ⟨fieldNames, methodNames, hperm, hfields, hmethods, hfieldsNamed, hmethodsNamed⟩ := ih
    cases member with
    | field f =>
      exact ⟨t :: fieldNames, methodNames, hperm.cons t, hfields.cons_cons t, hmethods.cons t,
        .cons hnamed hfieldsNamed, hmethodsNamed⟩
    | method m =>
      exact ⟨fieldNames, t :: methodNames, List.perm_middle.trans (hperm.cons t), hfields.cons t,
        hmethods.cons_cons t, hfieldsNamed, .cons hnamed hmethodsNamed⟩

end Member

private theorem exists_ascending {α : Type} {R : α → Token → Prop} {xs : List α} {ts : List Token}
    (h : List.Forall₂ R xs ts) (hts : ts.Pairwise fun a b ↦ a.span.start < b.span.start) :
    ∃ f : Fin xs.length → Token, (∀ i, f i ∈ ts) ∧ (∀ i, R xs[i] (f i)) ∧
      ∀ i j, i < j → (f i).span.start < (f j).span.start := by
  refine ⟨fun i ↦ ts.get (i.cast h.length_eq), fun i ↦ List.get_mem .., fun i ↦ ?_,
    fun i j hij ↦ ?_⟩
  · exact h.get i.isLt (h.length_eq ▸ i.isLt)
  · exact List.pairwise_iff_get.mp hts _ _ hij

private theorem injective_of_ascending {n : Nat} {f : Fin n → Token}
    (hf : ∀ i j, i < j → (f i).span.start < (f j).span.start) : Function.Injective f := by
  intro i j hij
  have hmono : StrictMono fun i ↦ (f i).span.start := fun i j h ↦ hf i j h
  exact hmono.injective (congrArg (·.span.start) hij)

/-- **The members of a class have tokens of their own.** -/
theorem ClassDecl.exists_traced {decl : ClassDecl} {ts : List Token} (h : decl.Off ts)
    (hts : ts.Pairwise fun a b ↦ a.span.start < b.span.start) :
    ∃ keyword name, decl.Traced ts keyword name := by
  obtain ⟨keyword, names, rfl, hkind, hline, hcolumn, members, hfields, hmethods, hnamed⟩ := h
  obtain ⟨fieldNames, methodNames, hperm, hfieldNames, hmethodNames, hfieldsNamed, hmethodsNamed⟩ :=
    Member.exists_names hnamed
  rw [← hfields] at hfieldsNamed
  rw [← hmethods] at hmethodsNamed
  obtain ⟨hbefore, hnames⟩ := List.pairwise_cons.mp hts
  obtain ⟨field, hfieldMem, hfield, hfieldLt⟩ :=
    exists_ascending hfieldsNamed (hnames.sublist hfieldNames)
  obtain ⟨method, hmethodMem, hmethod, hmethodLt⟩ :=
    exists_ascending hmethodsNamed (hnames.sublist hmethodNames)
  let name : decl.Site → Token
    | .field i => field i
    | .method i => method i
  have hmem (s : decl.Site) : name s ∈ names := by
    cases s with
    | field i => exact hfieldNames.subset (hfieldMem i)
    | method i => exact hmethodNames.subset (hmethodMem i)
  -- the names are all different, so no field has the name of a method
  have hdistinct (i : Fin decl.fields.length) (j : Fin decl.methods.length) :
      field i ≠ method j := by
    have hnodup : names.Nodup := hnames.imp fun hlt heq ↦ by rw [heq] at hlt; exact hlt.false
    exact (List.nodup_append.mp (hperm.nodup_iff.mpr hnodup)).2.2 _ (hfieldMem i) _ (hmethodMem j)
  refine ⟨keyword, name, List.mem_cons_self, hkind, ⟨hline, hcolumn⟩,
    fun s ↦ List.mem_cons_of_mem keyword (hmem s), fun s t hst ↦ ?_, fun s ↦ ?_, hfieldLt,
    hmethodLt, fun s ↦ hbefore _ (hmem s)⟩
  · cases s with
    | field i =>
      cases t with
      | field j => rw [injective_of_ascending hfieldLt hst]
      | method j => exact absurd hst (hdistinct i j)
    | method i =>
      cases t with
      | field j => exact absurd hst.symm (hdistinct j i)
      | method j => rw [injective_of_ascending hmethodLt hst]
  · cases s with
    | field i => exact hfield i
    | method i => exact hmethod i

/-! ## Members of a file and their tokens -/

/-- A member of a file, told by the place of its class and its place there. -/
structure CompilationUnit.Site (tree : CompilationUnit) where
  classIndex : Fin tree.classes.length
  site : tree.classes[classIndex].Site

/-- The classes and members of a file have tokens among `ts`. -/
structure CompilationUnit.Traced (tree : CompilationUnit) (ts : List Token)
    (keyword : Fin tree.classes.length → Token) (name : tree.Site → Token) : Prop where
  /-- No two members of the file have the same token. -/
  name_injective : Function.Injective name
  /-- Each class has its keyword, and its members their names, in order and behind the keyword. -/
  classes (c : Fin tree.classes.length) :
    ClassDecl.Traced tree.classes[c] ts (keyword c) fun s ↦ name ⟨c, s⟩
  /-- The keywords come in the order of the classes. -/
  keywords_ascend : ∀ c d : Fin tree.classes.length, c < d →
    (keyword c).span.start < (keyword d).span.start
  /-- The members of a class come in front of those of a later class. -/
  ascend : ∀ s t : tree.Site, s.classIndex < t.classIndex →
    (name s).span.start < (name t).span.start
  /-- They come in front of its keyword already. -/
  keyword_ascend : ∀ (s : tree.Site) (c : Fin tree.classes.length), s.classIndex < c →
    (name s).span.start < (keyword c).span.start

private theorem CompilationUnit.exists_traced {tree : CompilationUnit} {ts us rest : List Token}
    (h : ReadOff ClassDecl.Off us tree.classes rest) (hus : us.Sublist ts)
    (hts : ts.Pairwise fun a b ↦ a.span.start < b.span.start) :
    ∃ keyword name, tree.Traced ts keyword name := by
  obtain ⟨front, parts, rfl, hparts, hoff⟩ := h
  have hsub : parts.flatten.Sublist ts :=
    (hparts.trans (List.sublist_append_left front rest)).trans hus
  obtain ⟨hinner, houter⟩ := List.pairwise_flatten.mp (hts.sublist hsub)
  let part (c : Fin tree.classes.length) : List Token := parts.get (c.cast hoff.length_eq)
  have hpart (c : Fin tree.classes.length) : part c ∈ parts := List.get_mem ..
  have hmem (c : Fin tree.classes.length) {t : Token} (ht : t ∈ part c) : t ∈ ts :=
    hsub.subset (List.mem_flatten.mpr ⟨part c, hpart c, ht⟩)
  -- the tokens of the classes are in order, and so are any two tokens of two of them
  have hlt {c d : Fin tree.classes.length} (hcd : c < d) {t u : Token} (ht : t ∈ part c)
      (hu : u ∈ part d) : t.span.start < u.span.start :=
    List.pairwise_iff_get.mp houter (c.cast hoff.length_eq) (d.cast hoff.length_eq) hcd t ht u hu
  have htraced (c : Fin tree.classes.length) :
      ∃ (keyword : Token) (name : ClassDecl.Site tree.classes[c] → Token),
        ClassDecl.Traced tree.classes[c] (part c) keyword name :=
    ClassDecl.exists_traced (hoff.get c.isLt (hoff.length_eq ▸ c.isLt)) (hinner _ (hpart c))
  choose keyword name htraced using htraced
  have hascend (s t : tree.Site) (hst : s.classIndex < t.classIndex) :
      (name s.classIndex s.site).span.start < (name t.classIndex t.site).span.start :=
    hlt hst ((htraced _).name_mem _) ((htraced _).name_mem _)
  refine ⟨keyword, fun s ↦ name s.classIndex s.site, fun s t hst ↦ ?_, fun c ↦ ?_,
    fun c d hcd ↦ hlt hcd (htraced c).keyword_mem (htraced d).keyword_mem, hascend,
    fun s c hsc ↦ hlt hsc ((htraced _).name_mem _) (htraced c).keyword_mem⟩
  · -- two places with one token are in one class, and there the tokens tell them apart
    rcases lt_trichotomy s.classIndex t.classIndex with hlt | heq | hlt
    · exact absurd (hst ▸ hascend s t hlt) (Nat.lt_irrefl _)
    · obtain ⟨c, s⟩ := s
      obtain ⟨d, t⟩ := t
      obtain rfl : c = d := heq
      exact congrArg (CompilationUnit.Site.mk c) ((htraced c).name_injective hst)
    · exact absurd (hst ▸ hascend t s hlt) (Nat.lt_irrefl _)
  · exact { htraced c with
      keyword_mem := hmem c (htraced c).keyword_mem
      name_mem := fun s ↦ hmem c ((htraced c).name_mem s) }

/-! ## Texts -/

/-- **Every member of a parsed text has a token of its own.** -/
theorem ParsedUnit.ofText_traced {source : String} {tree : CompilationUnit}
    (h : (ofText source).tree = some tree) :
    ∃ keyword name, tree.Traced (Token.tokenize source) keyword name := by
  have hfinal := Parser.final_ofTokens (Token.tokenize source) (some source)
  have hascend := (Token.cut_lex source).pairwise_start.sublist
    (List.filter_sublist (p := fun t : Token ↦ !t.kind.isTrivia))
  unfold ofText ofTokens at h
  split at h
  · rename_i unit q hunit
    have hread := Rule.gathers_readOff.compilationUnit hfinal hunit
    dsimp only at h
    split at h
    · cases h
    · obtain rfl := Option.some.inj h
      exact CompilationUnit.exists_traced hread (Parser.ahead_ofTokens_sublist _ _) hascend
  · cases h
  · cases h

/-- Members with the same name have different tokens, in one class and in two. -/
theorem ParsedUnit.ofText_traced_sameNames :
    let source := "class A \x7b int a, b; void a(); A() \x7b \x7d \x7d class B \x7b int a; \x7d"
    ∃ tree : CompilationUnit, (ofText source).tree = some tree ∧
      tree.classes.map (fun decl ↦ (decl.fields.map (·.name), decl.methods.map (·.name))) =
        [(["a", "b"], ["a", "A"]), (["a"], [])] ∧
      ∃ keyword name, tree.Traced (Token.tokenize source) keyword name := by
  intro source
  have hnames : (ofText source).tree.map (fun tree ↦ tree.classes.map fun decl ↦
      (decl.fields.map (·.name), decl.methods.map (·.name))) =
        some [(["a", "b"], ["a", "A"]), (["a"], [])] := by
    decide +kernel
  obtain ⟨tree, htree, hnames⟩ := Option.map_eq_some_iff.mp hnames
  exact ⟨tree, htree, hnames, ofText_traced htree⟩

end ClassSchema
