import ClassSchema.Proofs.Grammar.Grounded
import ClassSchema.Proofs.Grammar.Groups

/-!
# Outlines of declarations

What is read of a class file keeps the text of the source at two kinds of places: for the value of a
field, and for an array among the arguments of an annotation. An outline is a declaration that has
the tokens themselves there, the *runs* of the outline. `spell` makes the declaration of it once
each run has a text, so two spellings of one outline differ in the texts of its runs and in nothing
else.

An outline `Stands` between two points of the tokens if its runs are the tokens of their own places.
An array is the group of the brace behind the key of its argument and an equal sign, or, without a
key, behind a parenthesis, and no other argument starts with a brace. The run of a field is the
initializer behind the equal sign that follows its name and the `[]` pairs behind that, and there is
none without the sign. The parts of a declaration stand between the same points as the whole.
-/

namespace ClassSchema

/-! ## Points of the tokens -/

/-- Somewhere between `ts` and the tokens `rest` at their end there are two points that `P` holds
of. -/
def Within (P : List Token → List Token → Prop) (ts rest : List Token) : Prop :=
  ∃ us vs, P us vs ∧ us <:+ ts ∧ vs <:+ us ∧ rest <:+ vs

/-- Some tokens, and not none, that stand behind each other among `ts`. -/
structure IsRunOf (ts run : List Token) : Prop where
  ne_nil : run ≠ []
  isInfix : run <:+: ts

theorem IsRunOf.mono {ts us run : List Token} (h : IsRunOf us run) (hus : us <:+ ts) :
    IsRunOf ts run := ⟨h.ne_nil, h.isInfix.trans hus.isInfix⟩

namespace Within

variable {P : List Token → List Token → Prop} {ts us vs rest run : List Token}

theorem of (h : P us vs) (hus : us <:+ ts) (hvs : vs <:+ us) (hrest : rest <:+ vs) :
    Within P ts rest := ⟨us, vs, h, hus, hvs, hrest⟩

theorem mono (h : Within P us vs) (hus : us <:+ ts) (hvs : rest <:+ vs) : Within P ts rest := by
  obtain ⟨xs, ys, hP, hxs, hys, hsuffix⟩ := h
  exact ⟨xs, ys, hP, hxs.trans hus, hys, hvs.trans hsuffix⟩

theorem isRunOf (h : Within P ts rest) (hP : ∀ us vs, P us vs → IsRunOf us run) :
    IsRunOf ts run := by
  obtain ⟨us, vs, hus, hsuffix, -, -⟩ := h
  exact (hP us vs hus).mono hsuffix

end Within

/-! ## Annotations -/

/-- An argument of an annotation, in which an array is its tokens. -/
inductive ArgumentOutline
  | plain (value : Argument)
  | array (tokens : List Token)

namespace ArgumentOutline

/-- The argument, with the text of an array. -/
def spell (text : List Token → String) : ArgumentOutline → Argument
  | plain value => value
  | array tokens => .path (text tokens)

/-- The arguments, with their keys. -/
def spellAll (text : List Token → String) (table : Assoc ArgumentOutline) : Assoc Argument :=
  table.map fun entry ↦ (entry.1, entry.2.spell text)

/-- The tokens of an array. -/
def runs : ArgumentOutline → List (List Token)
  | plain _ => []
  | array tokens => [tokens]

/-- The argument stands at the front of `ts`, with `rest` behind it: an array is the group of the
brace at the front, or all tokens if that is not closed; nothing else starts with a brace. -/
inductive Stands : ArgumentOutline → List Token → List Token → Prop
  | plain (value : Argument) {ts : List Token} (rest : List Token)
    (h : Ahead.atMark .openBrace ts = false) : Stands (plain value) ts rest
  | array {group : List Token} (rest : List Token)
    (h : Skip.IsGroup .openBrace .closeBrace group) : Stands (array group) (group ++ rest) rest
  | unclosed {ts : List Token} (opens : Ahead.atMark .openBrace ts = true)
    (h : ∀ n, 0 < n → n ≤ ts.length → ¬Skip.EquallyOften .openBrace .closeBrace (ts.take n)) :
    Stands (array ts) ts []

/-- The argument stands at the front of `ts` together with its key. -/
inductive StandsUnder (a : ArgumentOutline) : String → List Token → List Token → Prop
  | key {name sign : Token} {ts rest : List Token} (hname : name.is .identifier = true)
    (hsign : sign.isMark .equal = true) (h : a.Stands ts rest) :
    StandsUnder a name.text (name :: sign :: ts) rest
  | alone {paren : Token} {ts rest : List Token} (hparen : paren.isMark .openParen = true)
    (h : a.Stands ts rest) : StandsUnder a "value" (paren :: ts) rest

variable {a : ArgumentOutline} {ts rest run : List Token}

private theorem spell_congr {text text' : List Token → String}
    (h : ∀ run ∈ a.runs, text run = text' run) :
    a.spell text = a.spell text' := by
  cases a with
  | plain => rfl
  | array tokens => exact congrArg Argument.path (h tokens List.mem_cons_self)

private theorem Stands.isRunOf (h : a.Stands ts rest) (hrun : run ∈ a.runs) : IsRunOf ts run := by
  have hopen {us : List Token} (hus : Ahead.atMark .openBrace us = true) : us ≠ [] := by
    rintro rfl
    cases hus
  cases h with
  | plain => cases hrun
  | array rest hgroup =>
    obtain rfl := List.mem_singleton.mp hrun
    exact ⟨hopen hgroup.opens, (List.prefix_append run rest).isInfix⟩
  | unclosed opens =>
    obtain rfl := List.mem_singleton.mp hrun
    exact ⟨hopen opens, List.infix_refl run⟩

private theorem StandsUnder.isRunOf {key : String} (h : a.StandsUnder key ts rest)
    (hrun : run ∈ a.runs) :
    IsRunOf ts run := by
  cases h with
  | key _ _ hstands => exact (hstands.isRunOf hrun).mono ⟨[_, _], rfl⟩
  | alone _ hstands => exact (hstands.isRunOf hrun).mono (List.suffix_cons _ _)

end ArgumentOutline

/-- An annotation, of which `frame` is all but the arguments. -/
structure AnnotationOutline where
  frame : AnnotationUse
  arguments : Assoc ArgumentOutline

namespace AnnotationOutline

/-- The annotation, with the texts of its arrays. -/
def spell (text : List Token → String) (a : AnnotationOutline) : AnnotationUse :=
  { a.frame with arguments := ArgumentOutline.spellAll text a.arguments }

/-- The runs of the arguments. -/
def runs (a : AnnotationOutline) : List (List Token) := a.arguments.flatMap fun entry ↦ entry.2.runs

/-- The annotation stands at the front of `ts`, and its arguments stand behind its sign. -/
def Stands (a : AnnotationOutline) (ts rest : List Token) : Prop :=
  ∃ sign others, ts = sign :: others ∧ sign.isMark .atSign = true ∧ a.frame.line = sign.line ∧
    a.frame.column = sign.column ∧
    ∀ entry ∈ a.arguments, Within (entry.2.StandsUnder entry.1) others rest

variable {a : AnnotationOutline} {ts rest run : List Token}

theorem spell_congr {text text' : List Token → String} (h : ∀ run ∈ a.runs, text run = text' run) :
    a.spell text = a.spell text' := by
  have harguments : ∀ entry ∈ a.arguments, entry.2.spell text = entry.2.spell text' :=
    fun entry hentry ↦ ArgumentOutline.spell_congr fun run hrun ↦
      h run (List.mem_flatMap_of_mem hentry hrun)
  rw [spell, spell, ArgumentOutline.spellAll, List.map_congr_left fun entry hentry ↦
    congrArg (Prod.mk entry.1) (harguments entry hentry)]
  rfl

theorem Stands.isRunOf (h : a.Stands ts rest) (hrun : run ∈ a.runs) : IsRunOf ts run := by
  obtain ⟨sign, others, rfl, -, -, -, harguments⟩ := h
  obtain ⟨entry, hentry, hrun⟩ := List.mem_flatMap.mp hrun
  have hwithin := (harguments entry hentry).isRunOf fun us vs hstands ↦ hstands.isRunOf hrun
  exact hwithin.mono (List.suffix_cons sign others)

end AnnotationOutline

/-! ## Parameters and methods -/

/-- A parameter, of which `frame` is all but the annotations. -/
structure ParameterOutline where
  frame : ParameterDecl
  annotations : List AnnotationOutline

namespace ParameterOutline

/-- The parameter, with the texts of its runs. -/
def spell (text : List Token → String) (p : ParameterOutline) : ParameterDecl :=
  { p.frame with annotations := p.annotations.map (·.spell text) }

/-- The runs of the annotations. -/
def runs (p : ParameterOutline) : List (List Token) := p.annotations.flatMap (·.runs)

/-- The annotations of the parameter and its name stand between two points. -/
structure Stands (p : ParameterOutline) (ts rest : List Token) : Prop where
  annotations : ∀ a ∈ p.annotations, Within a.Stands ts rest
  name : Within (fun us _ ↦ ∃ name ∈ us.head?, p.frame.name = name.text) ts rest

end ParameterOutline

/-- A method, of which `frame` is all but the annotations and the parameters. -/
structure MethodOutline where
  frame : MethodDecl
  annotations : List AnnotationOutline
  parameters : List ParameterOutline

namespace MethodOutline

/-- The method, with the texts of its runs. -/
def spell (text : List Token → String) (m : MethodOutline) : MethodDecl :=
  { m.frame with
    annotations := m.annotations.map (·.spell text)
    parameters := m.parameters.map (·.spell text) }

/-- The runs of the annotations and of the parameters. -/
def runs (m : MethodOutline) : List (List Token) :=
  m.annotations.flatMap (·.runs) ++ m.parameters.flatMap (·.runs)

/-- The annotations, the name and the parameters of the method stand between two points. -/
structure Stands (m : MethodOutline) (ts rest : List Token) : Prop where
  annotations : ∀ a ∈ m.annotations, Within a.Stands ts rest
  name : Within (fun us _ ↦ ∃ name ∈ us.head?, m.frame.name = name.text ∧
    m.frame.line = name.line ∧ m.frame.column = name.column) ts rest
  parameters : ∀ p ∈ m.parameters, Within p.Stands ts rest

end MethodOutline

/-! ## Fields -/

namespace Initializer

/-- The tokens of an initializer at the front of `ts`. -/
def tokens (ts : List Token) : List Token := dropComments (ts.take (length 0 ts))

theorem dropComments_isPrefix (ts : List Token) : dropComments ts <+: ts := by
  rw [dropComments, ← List.reverse_suffix, List.reverse_reverse]
  exact List.dropWhile_suffix _

private theorem tokens_isPrefix (ts : List Token) : tokens ts <+: ts :=
  (dropComments_isPrefix _).trans (List.take_prefix _ ts)

/-- The value of a declarator stands at the front of `ts`: an equal sign and an initializer, or
there is no value where there is no equal sign. -/
inductive Stands : Option (List Token) → List Token → List Token → Prop
  | none {ts : List Token} (h : Ahead.atMark .equal ts = false) : Stands none ts ts
  | some {sign : Token} {ts : List Token} (hsign : sign.isMark .equal = true)
    (h : tokens ts ≠ []) : Stands (some (tokens ts)) (sign :: ts) (ts.drop (length 0 ts))

private theorem Stands.isRunOf {value : Option (List Token)} {ts rest run : List Token}
    (h : Stands value ts rest) (hrun : run ∈ value.toList) : IsRunOf ts run := by
  cases h with
  | none => cases hrun
  | some hsign hne =>
    obtain rfl := List.mem_singleton.mp hrun
    exact IsRunOf.mono ⟨hne, (tokens_isPrefix _).isInfix⟩ (List.suffix_cons _ _)

end Initializer

/-- A field, of which `frame` is all but the annotations and the value. -/
structure FieldOutline where
  frame : FieldDecl
  annotations : List AnnotationOutline
  initializer : Option (List Token)

namespace FieldOutline

/-- The field, with the texts of its runs. -/
def spell (text : List Token → String) (f : FieldOutline) : FieldDecl :=
  { f.frame with
    annotations := f.annotations.map (·.spell text)
    defaultValue := f.initializer.map text }

/-- The runs of the annotations and the initializer. -/
def runs (f : FieldOutline) : List (List Token) :=
  f.annotations.flatMap (·.runs) ++ f.initializer.toList

/-- The declarator of the field stands at the front of `ts`: its name, `[]` pairs and its value. -/
def DeclaredAt (f : FieldOutline) (ts rest : List Token) : Prop :=
  ∃ name others, ts = name :: others ∧ f.frame.name = name.text ∧ f.frame.line = name.line ∧
    f.frame.column = name.column ∧
    Initializer.Stands f.initializer (Ahead.bracketPairs others).2 rest

/-- The annotations of the field and its declarator stand between two points. -/
structure Stands (f : FieldOutline) (ts rest : List Token) : Prop where
  annotations : ∀ a ∈ f.annotations, Within a.Stands ts rest
  declarator : Within f.DeclaredAt ts rest

end FieldOutline

/-! ## Classes -/

/-- A member of a class. -/
inductive MemberOutline
  | field (outline : FieldOutline)
  | method (outline : MethodOutline)

namespace MemberOutline

/-- The member, with the texts of its runs. -/
def spell (text : List Token → String) : MemberOutline → Member
  | field f => .field (f.spell text)
  | method m => .method (m.spell text)

/-- The runs of the field or method. -/
def runs : MemberOutline → List (List Token)
  | field f => f.runs
  | method m => m.runs

/-- The field or method stands between two points. -/
def Stands : MemberOutline → List Token → List Token → Prop
  | field f => f.Stands
  | method m => m.Stands

/-- The fields among some members, in order. -/
def fields (members : List MemberOutline) : List FieldOutline :=
  members.filterMap fun
    | field f => some f
    | method _ => none

/-- The methods among some members, in order. -/
def methods (members : List MemberOutline) : List MethodOutline :=
  members.filterMap fun
    | field _ => none
    | method m => some m

end MemberOutline

/-- A class, of which `frame` is all but the annotations, the fields and the methods. -/
structure ClassOutline where
  frame : ClassDecl
  annotations : List AnnotationOutline
  fields : List FieldOutline
  methods : List MethodOutline

namespace ClassOutline

/-- The class, with the texts of its runs. -/
def spell (text : List Token → String) (c : ClassOutline) : ClassDecl :=
  { c.frame with
    annotations := c.annotations.map (·.spell text)
    fields := c.fields.map (·.spell text)
    methods := c.methods.map (·.spell text) }

/-- The runs of the annotations and of the members. -/
def runs (c : ClassOutline) : List (List Token) :=
  c.annotations.flatMap (·.runs) ++ c.fields.flatMap (·.runs) ++ c.methods.flatMap (·.runs)

/-- The annotations, the name and the members of the class stand between two points. -/
structure Stands (c : ClassOutline) (ts rest : List Token) : Prop where
  annotations : ∀ a ∈ c.annotations, Within a.Stands ts rest
  name : Within (fun us _ ↦ ∃ keyword name others, us = keyword :: name :: others ∧
    c.frame.line = keyword.line ∧ c.frame.column = keyword.column ∧
    c.frame.name = name.text) ts rest
  fields : ∀ f ∈ c.fields, Within f.Stands ts rest
  methods : ∀ m ∈ c.methods, Within m.Stands ts rest

end ClassOutline

/-- The classes of a file. -/
structure UnitOutline where
  classes : List ClassOutline

namespace UnitOutline

/-- The classes, with the texts of their runs. -/
def spell (text : List Token → String) (u : UnitOutline) : CompilationUnit :=
  ⟨u.classes.map (·.spell text)⟩

/-- The runs of the classes. -/
def runs (u : UnitOutline) : List (List Token) := u.classes.flatMap (·.runs)

/-- The classes stand in the tokens in front of the end. -/
def StandsIn (u : UnitOutline) (ts : List Token) : Prop :=
  ∀ c ∈ u.classes, Within c.Stands (ts.takeWhile (!·.is .endOfInput)) []

end UnitOutline

/-! ## Runs and their texts -/

section Runs

variable {ts rest run : List Token} {annotations : List AnnotationOutline}

/-- The runs of parts that stand between two points are runs of the tokens there. -/
theorem isRunOf_of_within {α : Type} {parts : List α} {Stands : α → List Token → List Token → Prop}
    {runs : α → List (List Token)} (h : ∀ part ∈ parts, Within (Stands part) ts rest)
    (hparts : ∀ {part us vs}, Stands part us vs → run ∈ runs part → IsRunOf us run)
    (hrun : run ∈ parts.flatMap runs) : IsRunOf ts run := by
  obtain ⟨part, hpart, hrun⟩ := List.mem_flatMap.mp hrun
  exact (h part hpart).isRunOf fun us vs hstands ↦ hparts hstands hrun

private theorem ParameterOutline.Stands.isRunOf {p : ParameterOutline} (h : p.Stands ts rest)
    (hrun : run ∈ p.runs) : IsRunOf ts run :=
  isRunOf_of_within h.annotations AnnotationOutline.Stands.isRunOf hrun

theorem MethodOutline.Stands.isRunOf {m : MethodOutline} (h : m.Stands ts rest)
    (hrun : run ∈ m.runs) : IsRunOf ts run := by
  rcases List.mem_append.mp hrun with hrun | hrun
  · exact isRunOf_of_within h.annotations AnnotationOutline.Stands.isRunOf hrun
  · exact isRunOf_of_within h.parameters ParameterOutline.Stands.isRunOf hrun

theorem FieldOutline.Stands.isRunOf {f : FieldOutline} (h : f.Stands ts rest)
    (hrun : run ∈ f.runs) : IsRunOf ts run := by
  rcases List.mem_append.mp hrun with hrun | hrun
  · exact isRunOf_of_within h.annotations AnnotationOutline.Stands.isRunOf hrun
  · refine h.declarator.isRunOf ?_
    rintro us vs ⟨name, others, rfl, -, -, -, hvalue⟩
    have hbehind := (Ahead.bracketPairs_rest_suffix others).trans (List.suffix_cons name others)
    exact (hvalue.isRunOf hrun).mono hbehind

private theorem ClassOutline.Stands.isRunOf {c : ClassOutline} (h : c.Stands ts rest)
    (hrun : run ∈ c.runs) : IsRunOf ts run := by
  rcases List.mem_append.mp hrun with hrun | hrun
  · rcases List.mem_append.mp hrun with hrun | hrun
    · exact isRunOf_of_within h.annotations AnnotationOutline.Stands.isRunOf hrun
    · exact isRunOf_of_within h.fields FieldOutline.Stands.isRunOf hrun
  · exact isRunOf_of_within h.methods MethodOutline.Stands.isRunOf hrun

/-- **The runs of an outline are runs of its tokens.** -/
theorem UnitOutline.StandsIn.isRunOf {u : UnitOutline} (h : u.StandsIn ts) (hrun : run ∈ u.runs) :
    IsRunOf ts run := by
  have hfront := isRunOf_of_within h ClassOutline.Stands.isRunOf hrun
  exact ⟨hfront.ne_nil, hfront.isInfix.trans (List.takeWhile_prefix _).isInfix⟩

theorem MemberOutline.Stands.isRunOf {m : MemberOutline} (h : m.Stands ts rest)
    (hrun : run ∈ m.runs) : IsRunOf ts run := by
  cases m with
  | field f => exact FieldOutline.Stands.isRunOf h hrun
  | method m => exact MethodOutline.Stands.isRunOf h hrun

end Runs

section Congr

variable {text text' : List Token → String}

theorem map_spell_congr {α β : Type} {parts : List α} {spell : (List Token → String) → α → β}
    {runs : α → List (List Token)}
    (hparts : ∀ {part}, (∀ run ∈ runs part, text run = text' run) →
      spell text part = spell text' part)
    (h : ∀ run ∈ parts.flatMap runs, text run = text' run) :
    parts.map (spell text) = parts.map (spell text') :=
  List.map_congr_left fun _ hpart ↦ hparts fun run hrun ↦
    h run (List.mem_flatMap_of_mem hpart hrun)

private theorem ParameterOutline.spell_congr {p : ParameterOutline}
    (h : ∀ run ∈ p.runs, text run = text' run) : p.spell text = p.spell text' := by
  rw [spell, spell, map_spell_congr AnnotationOutline.spell_congr h]

private theorem MethodOutline.spell_congr {m : MethodOutline}
    (h : ∀ run ∈ m.runs, text run = text' run) : m.spell text = m.spell text' := by
  obtain ⟨hannotations, hparameters⟩ := List.forall_mem_append.mp h
  rw [spell, spell, map_spell_congr AnnotationOutline.spell_congr hannotations,
    map_spell_congr ParameterOutline.spell_congr hparameters]

private theorem FieldOutline.spell_congr {f : FieldOutline}
    (h : ∀ run ∈ f.runs, text run = text' run) : f.spell text = f.spell text' := by
  obtain ⟨hannotations, hvalue⟩ := List.forall_mem_append.mp h
  have hmap : f.initializer.map text = f.initializer.map text' :=
    Option.map_congr fun run hrun ↦ hvalue run (Option.mem_toList.mpr hrun)
  rw [spell, spell, map_spell_congr AnnotationOutline.spell_congr hannotations, hmap]

/-- **The texts of its runs tell how a member is spelled.** -/
theorem MemberOutline.spell_congr {m : MemberOutline}
    (h : ∀ run ∈ m.runs, text run = text' run) : m.spell text = m.spell text' := by
  cases m with
  | field f => exact congrArg Member.field (FieldOutline.spell_congr h)
  | method m => exact congrArg Member.method (MethodOutline.spell_congr h)

end Congr

end ClassSchema
