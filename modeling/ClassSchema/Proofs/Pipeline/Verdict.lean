import ClassSchema.Pipeline
import ClassSchema.Proofs.Declaration.Walk
import ClassSchema.Proofs.Parser.Frame
import ClassSchema.Proofs.Parser.Termination
import ClassSchema.Proofs.Schema.Bounds

/-!
# The three ways a parse can end

A text is faulty, holds no class, or holds one. In the first case there is one error and no record,
in the second no error, no record and the warning that says so, and in the third no error and the
record of the first class of the tree. Which of the three it is can be told from the reports and the
record, so a parse ends in only one of them, and a text is valid in the third.

The parser either finds a tree or reports one error. What is left to see is what it does with a
tree. One without a class has no other warning than the one for that: warnings come from members,
and there are members only inside of a class. And the first class has a name, because its name is
the text of an identifier, and the lexer makes no token but the end of the input out of nothing.
-/

namespace ClassSchema

/-! ## Tokens have a text -/

/-- Only the end of the input is a token without a text. -/
theorem Lexer.kind_of_mem_tokens {l : Lexer} {t : Token} (ht : t ∈ l.tokens) (htext : t.text = "") :
    t.kind = .endOfInput := by
  fun_induction Lexer.tokens l with
  | case1 l _ =>
    rw [List.mem_singleton.mp ht]
    rfl
  | case2 l hrest step ih =>
    rcases List.mem_append.mp ht with hstep | hlater
    · obtain ⟨rest, place⟩ := l
      cases rest with
      | nil => exact absurd rfl hrest
      | cons c cs =>
        -- the token of a step has the character that the step looked at
        obtain ⟨kind, -, rfl⟩ := Option.map_eq_some_iff.mp (Option.mem_toList.mp hstep)
        exact absurd (String.ofList_eq_empty_iff.mp htext) (List.cons_ne_nil c _)
    · exact ih hlater

private theorem Token.kind_of_mem_tokenize {source : String} {t : Token} (ht : t ∈ tokenize source)
    (htext : t.text = "") : t.kind = .endOfInput :=
  Lexer.kind_of_mem_tokens (List.mem_filter.mp ht).1 htext

/-! ## Classes that are found -/

/-- The name of the class is the text of an identifier among `ts`. -/
def ClassDecl.NamedIn (decl : ClassDecl) (ts : List Token) : Prop :=
  ∃ t ∈ ts, t.kind = .identifier ∧ t.text = decl.name

namespace Rule

variable {p q r : Parser}

/-- On the way from `p` to `q` some classes were found: each is named by a token that was ahead, and
without a class there was nothing to warn of. -/
structure Collects (p : Parser) (classes : List ClassDecl) (q : Parser) : Prop where
  named : ∀ decl ∈ classes, decl.NamedIn p.ahead
  warnings_eq : classes = [] → q.warnings = p.warnings

namespace Collects

variable {classes more : List ClassDecl}

theorem advance (p : Parser) (n : Nat) : Collects p [] (p.advance n) :=
  ⟨fun _ h ↦ absurd h List.not_mem_nil, fun _ ↦ rfl⟩

theorem append (h : Collects p classes q) (hmoved : q.ahead <:+ p.ahead)
    (h' : Collects q more r) : Collects p (classes ++ more) r where
  named decl hdecl := by
    rcases List.mem_append.mp hdecl with hmem | hmem
    · exact h.named decl hmem
    · obtain ⟨t, ht, hname⟩ := h'.named decl hmem
      exact ⟨t, hmoved.subset ht, hname⟩
  warnings_eq hnil := by
    obtain ⟨hclasses, hmore⟩ := List.append_eq_nil_iff.mp hnil
    rw [h'.warnings_eq hmore, h.warnings_eq hclasses]

end Collects

/-- A class is named by the identifier behind its keyword. -/
private theorem namedIn_of_classRest {comment : Option Token} {head : Prelude} {decl : ClassDecl}
    (hfinal : p.final.kind = .endOfInput) (h : classRest comment head p = (.present decl, q)) :
    decl.NamedIn p.ahead := by
  obtain ⟨f, header, members, r, s, hp, -, -, -, -, -, rfl⟩ := exists_of_classRest hfinal h
  exact ⟨f.name, hp ▸ List.mem_cons_of_mem f.keyword List.mem_cons_self, f.name_kind, rfl⟩

private theorem typeDeclaration_collects {decl : Option ClassDecl}
    (hfinal : p.final.kind = .endOfInput) (h : typeDeclaration p = (.present decl, q)) :
    Collects p decl.toList q := by
  obtain ⟨head, rest, -, hrest, h⟩ := exists_declarationRest h
  unfold declarationRest at h
  split at h
  · obtain ⟨hdecl, rfl⟩ := Prod.mk.inj h
    obtain rfl := Outcome.present.inj hdecl
    exact ⟨fun _ hmem ↦ absurd hmem List.not_mem_nil, fun _ ↦ rfl⟩
  · obtain ⟨found, r, hclass, hr⟩ := exists_of_bind_eq_present h
    obtain rfl := Outcome.present.inj (Prod.mk.inj hr).1
    obtain ⟨t, ht, hname⟩ := namedIn_of_classRest (p := p.settle rest) hfinal hclass
    refine ⟨fun decl hmem ↦ ?_, fun hnil ↦ absurd hnil (List.cons_ne_nil _ _)⟩
    rw [List.mem_singleton.mp hmem]
    exact ⟨t, hrest.subset (Parser.ahead_settle hrest ▸ ht), hname⟩

private theorem gathers_collects : Gathers Collects where
  advance := .advance
  typeDeclaration := typeDeclaration_collects
  append hmoved hfirst hlater := hfirst.append hmoved hlater

end Rule

/-! ## Trees of a text -/

namespace ParsedUnit

/-- Every class of a text is named by one of its tokens. -/
theorem namedIn_of_mem_classes {source : String} {tree : CompilationUnit} {decl : ClassDecl}
    (htree : (ofText source).tree = some tree) (hdecl : decl ∈ tree.classes) :
    decl.NamedIn (Token.tokenize source) := by
  unfold ofText ofTokens at htree
  split at htree
  · rename_i unit q hresult
    obtain rfl := Option.some.inj (Option.ite_none_left_eq_some.mp htree).2
    have hfinal := Parser.final_ofTokens (Token.tokenize source) (some source)
    obtain ⟨t, ht, hname⟩ := (Rule.gathers_collects.compilationUnit hfinal hresult).named decl hdecl
    exact ⟨t, (Parser.ahead_ofTokens_sublist _ _).subset ht, hname⟩
  · cases htree
  · cases htree

private theorem name_ne_empty_of_mem_classes {source : String} {tree : CompilationUnit}
    {decl : ClassDecl}
    (htree : (ofText source).tree = some tree) (hdecl : decl ∈ tree.classes) : decl.name ≠ "" := by
  intro hempty
  obtain ⟨t, ht, hkind, hname⟩ := namedIn_of_mem_classes htree hdecl
  have hend := Token.kind_of_mem_tokenize ht (hname.trans hempty)
  rw [hkind] at hend
  cases hend

/-- A parse that reports no error has a tree, and one without a tree reports one error. -/
theorem ofText_cases (source : String) :
    (∃ tree, (ofText source).tree = some tree ∧ (ofText source).errors = [] ∧
        (tree.classes = [] → (ofText source).warnings = [])) ∨
      (ofText source).tree = none ∧ ∃ d, (ofText source).errors = [d] := by
  have hfinal := Parser.final_ofTokens (Token.tokenize source) (some source)
  have hends := Rule.compilationUnit_endsFrom (.ofTokens (Token.tokenize source) (some source))
    hfinal
  have hnil : (Parser.ofTokens (Token.tokenize source) (some source)).errors = [] := rfl
  unfold ofText ofTokens
  cases hresult : Rule.compilationUnit (.ofTokens (Token.tokenize source) (some source)) with
  | mk outcome q =>
    rw [hresult] at hends
    cases hends with
    | present tree moved errors =>
      have herrors : q.errors = [] := errors.trans hnil
      have hcollects := Rule.gathers_collects.compilationUnit hfinal hresult
      refine .inl ⟨tree, ?_, herrors, hcollects.warnings_eq⟩
      simp [Rule.hasErrors_of_errors_eq_nil herrors]
    | absent moved errors =>
      obtain ⟨c, t, -, herrors⟩ := errors hnil
      exact .inr ⟨rfl, _, herrors⟩
    | fault cause moved errors blame =>
      exact .inr ⟨rfl, _, Parser.errors_complain (errors.trans hnil) .internal _⟩

end ParsedUnit

/-! ## Verdicts -/

namespace ParsedClass

/-- What can be said of a text. -/
inductive Verdict
  | faulty
  | classless
  | found
deriving DecidableEq

variable {source : String} {options : Options} {p : ParsedClass}

/-- There is one error and no record. -/
structure IsFaulty (p : ParsedClass) : Prop where
  record_eq : p.record = none
  errors_eq : ∃ d, p.errors = [d]

/-- There is no error, and the one warning says that there is no class. -/
structure IsClassless (p : ParsedClass) : Prop where
  record_eq : p.record = none
  errors_eq : p.errors = []
  warnings_eq : p.warnings = ["No class declaration found in the code"]

/-- There is no error, and the record is that of the first class of the tree: its name, which is not
empty, and its fields in order, private ones only where the options take them. -/
structure IsFound (source : String) (options : Options) (p : ParsedClass) : Prop where
  errors_eq : p.errors = []
  record_eq : ∃ tree decl record, (ParsedUnit.ofText source).tree = some tree ∧
    tree.classes.head? = some decl ∧ p.record = some record ∧
    record.className = decl.name ∧ record.className ≠ "" ∧
    record.fields =
      (decl.fields.filter fun f ↦ options.includePrivate || !f.isPrivate).map (.ofDecl options)

/-- What a verdict says of the parse of a text. -/
def Verdict.Describes (source : String) (options : Options) (p : ParsedClass) : Verdict → Prop
  | faulty => IsFaulty p
  | classless => IsClassless p
  | found => IsFound source options p

private theorem IsFaulty.errors_ne (h : IsFaulty p) : p.errors ≠ [] := by
  obtain ⟨d, hd⟩ := h.errors_eq
  rw [hd]
  exact List.cons_ne_nil d []

theorem IsFound.isSome_record (h : IsFound source options p) : p.record.isSome = true := by
  obtain ⟨_, _, record, -, -, hrecord, -⟩ := h.record_eq
  rw [hrecord]
  rfl

/-- Two verdicts do not describe the same parse. -/
theorem Verdict.Describes.unique {v w : Verdict} (hv : v.Describes source options p)
    (hw : w.Describes source options p) : v = w := by
  have hnone (hrecord : p.record = none) : ¬IsFound source options p := by
    intro hfound
    have hsome := hfound.isSome_record
    rw [hrecord] at hsome
    cases hsome
  cases v <;> cases w
  case faulty.faulty | classless.classless | found.found => rfl
  case faulty.classless => exact absurd hw.errors_eq hv.errors_ne
  case classless.faulty => exact absurd hv.errors_eq hw.errors_ne
  case faulty.found => exact absurd hw (hnone hv.record_eq)
  case found.faulty => exact absurd hv (hnone hw.record_eq)
  case classless.found => exact absurd hw (hnone hv.record_eq)
  case found.classless => exact absurd hv (hnone hw.record_eq)

private theorem errors_ofSource (source : String) (options : Options) :
    (ofSource source options).errors = (ParsedUnit.ofText source).errors := by
  unfold ofSource ParsedUnit.ofText
  dsimp only
  split
  · rfl
  · split <;> rfl

private theorem record_ofSource_of_tree_eq_none (options : Options)
    (htree : (ParsedUnit.ofText source).tree = none) : (ofSource source options).record = none := by
  unfold ParsedUnit.ofText at htree
  unfold ofSource
  dsimp only
  rw [htree, ite_self]

section

variable {tree : CompilationUnit}

theorem record_ofSource (options : Options) (htree : (ParsedUnit.ofText source).tree = some tree)
    (herrors : (ParsedUnit.ofText source).errors = []) :
    (ofSource source options).record = tree.classes.head?.map (.ofDecl options) := by
  unfold ParsedUnit.ofText at htree herrors
  unfold ofSource ParsedUnit.hasErrors
  dsimp only
  rw [herrors, htree, List.any_nil, if_neg Bool.false_ne_true]
  dsimp only
  rw [ClassRecord.extract?, Node.firstClass?_unit]
  cases tree.classes.head? <;> rfl

private theorem warnings_ofSource_of_classes_eq_nil (options : Options)
    (htree : (ParsedUnit.ofText source).tree = some tree)
    (herrors : (ParsedUnit.ofText source).errors = []) (hclasses : tree.classes = []) :
    (ofSource source options).warnings =
      (ParsedUnit.ofText source).warnings ++ [ClassRecord.noClassWarning] := by
  unfold ParsedUnit.ofText at htree herrors ⊢
  unfold ofSource ParsedUnit.hasErrors
  dsimp only
  rw [herrors, htree, List.any_nil, if_neg Bool.false_ne_true]
  dsimp only
  rw [ClassRecord.extract?, Node.firstClass?_unit, hclasses]
  rfl

end

theorem exists_describes (source : String) (options : Options) :
    ∃ v : Verdict, v.Describes source options (ofSource source options) := by
  rcases ParsedUnit.ofText_cases source with ⟨tree, htree, herrors, hwarnings⟩ | ⟨htree, hone⟩
  · have hclean : (ofSource source options).errors = [] :=
      (errors_ofSource source options).trans herrors
    have hrecord := record_ofSource options htree herrors
    cases hfirst : tree.classes.head? with
    | none =>
      rw [hfirst] at hrecord
      have hclasses := List.head?_eq_none_iff.mp hfirst
      refine ⟨.classless, hrecord, hclean, ?_⟩
      rw [warnings_ofSource_of_classes_eq_nil options htree herrors hclasses, hwarnings hclasses]
      rfl
    | some decl =>
      rw [hfirst] at hrecord
      have hname := ParsedUnit.name_ne_empty_of_mem_classes htree (List.mem_of_head? hfirst)
      exact ⟨.found, hclean, tree, decl, _, htree, hfirst, hrecord, rfl, hname, rfl⟩
  · refine ⟨.faulty, record_ofSource_of_tree_eq_none options htree, ?_⟩
    rw [errors_ofSource]
    exact hone

theorem isFound_of_isSome_record (h : (ofSource source options).record.isSome = true) :
    IsFound source options (ofSource source options) := by
  obtain ⟨v, hv⟩ := exists_describes source options
  cases v with
  | found => exact hv
  | faulty | classless =>
    rw [hv.record_eq] at h
    cases h

/-- **A parse ends in one of three ways.** Whatever the text and the options, just one verdict
describes the parse: the text is faulty, holds no class, or holds one. Checking the text calls it
valid exactly in the last case. -/
theorem ofSource_describes_unique (source : String) (options : Options) :
    (∃! v : Verdict, v.Describes source options (ofSource source options)) ∧
      ((ValidationReport.ofSource source options).valid = true ↔
        Verdict.found.Describes source options (ofSource source options)) := by
  obtain ⟨v, hv⟩ := exists_describes source options
  refine ⟨⟨v, hv, fun w hw ↦ hw.unique hv⟩, ?_⟩
  rw [ValidationReport.valid_ofSource]
  exact ⟨isFound_of_isSome_record, IsFound.isSome_record⟩

end ParsedClass

end ClassSchema
