import ClassSchema.Proofs.Pipeline.Verdict
import ClassSchema.Proofs.Schema.LastBound
import ClassSchema.Proofs.Schema.Properties
import ClassSchema.Proofs.Token.NumberValue
import ClassSchema.Proofs.Written.Class

/-!
# Bounds as they are written

The bounds of a length or of a value are integers in the arguments of annotations. Each of them can
be written as a number or in a string, with the letter of a type behind its digits or without one,
and every integer that has no more digits than can be read is one of them. Both ways meet in the
function that reads numerals: the parser calls it for a number, the conversion for a string. A class
whose fields carry such bounds is always converted, and the properties of its fields have these
integers as their bounds.

That puts three results together. The class is parsed as it was written, the annotation that comes
last is the one that counts, and the schema lists the properties of the fields that take part.
-/

namespace ClassSchema

namespace Written

/-! ## Single bounds -/

/-- An integer as the value of an argument: a number, or a string that holds one. The letter behind
a number is not part of what is described, since it is a matter of layout. -/
inductive Bound
  | number (integer : Integer)
  | quoted (literal : Literal)

namespace Bound

/-- The integer that is meant. -/
def value : Bound → Int
  | number integer => integer.value
  | quoted literal => literal.value

/-- A bound as it is written. -/
def toValue : Bound → Value
  | number integer => .integer integer
  | quoted literal => .text (literal.piece.chars.map StringUnit.ofChar)

theorem asNumber_argument (b : Bound) :
    b.toValue.argument.asNumber = .ok (some (.int b.value)) := by
  cases b with
  | number integer => rfl
  | quoted literal =>
    have htext : stringValue (literal.piece.chars.map StringUnit.ofChar) = literal.piece.text := by
      have h := stringValue_map_ofChar literal.piece.text
      rwa [Piece.text, String.toList_ofList] at h
    change Numeral.read (stringValue (literal.piece.chars.map StringUnit.ofChar)) = _
    rw [htext, literal.read_text_piece, literal.integer.read_text_piece]
    rfl

end Bound

/-! ## The annotations of bounds -/

namespace Name

/-! ### The names of the annotations and of their keys -/

def size : Name := ⟨'S', ['i', 'z', 'e'], by decide, by decide, by decide⟩

def lowKey : Name := ⟨'m', ['i', 'n'], by decide, by decide, by decide⟩

def highKey : Name := ⟨'m', ['a', 'x'], by decide, by decide, by decide⟩

def min : Name := ⟨'M', ['i', 'n'], by decide, by decide, by decide⟩

def max : Name := ⟨'M', ['a', 'x'], by decide, by decide, by decide⟩

def decimalMin : Name :=
  ⟨'D', ['e', 'c', 'i', 'm', 'a', 'l', 'M', 'i', 'n'], by decide, by decide, by decide⟩

def decimalMax : Name :=
  ⟨'D', ['e', 'c', 'i', 'm', 'a', 'l', 'M', 'a', 'x'], by decide, by decide, by decide⟩

end Name

/-- An annotation with one bound. -/
def Bound.annotation (bound : Bound) (name : Name) : Annotation :=
  ⟨⟨name, []⟩, .single bound.toValue⟩

/-- The bounds of a field: those of the length of a string, or those of a value. -/
inductive Bounds
  | size (low high : Bound)
  | range (low high : Bound)
  | decimalRange (low high : Bound)

namespace Bounds

/-- The annotations that bounds are written in. -/
def annotations : Bounds → List Annotation
  | size low high =>
    [⟨⟨.size, []⟩, .keyed [(.lowKey, low.toValue), (.highKey, high.toValue)]
      (show [Name.lowKey.text, Name.highKey.text].Nodup by decide)⟩]
  | range low high => [low.annotation .min, high.annotation .max]
  | decimalRange low high => [low.annotation .decimalMin, high.annotation .decimalMax]

/-- Only a string has a length. -/
def Suits : Bounds → TypeTerm → Prop
  | size .., type => type.text = "String"
  | range .., _ | decimalRange .., _ => True

/-- The property has these bounds. -/
def Hold : Bounds → Property → Prop
  | size low high, p => p.minLength = some low.value ∧ p.maxLength = some high.value
  | range low high, p | decimalRange low high, p =>
    p.minimum = some (.int low.value) ∧ p.maximum = some (.int high.value)

end Bounds

/-- The record of an annotation. -/
def Annotation.record (a : Annotation) : AnnotationRecord := .ofUse a.decl

/-- The record of a field. -/
def Field.record (f : Field) (options : Options) : FieldRecord := .ofDecl options f.decl

/-- The field has these bounds, and no other annotation of it is about bounds. -/
structure Field.Carries (f : Field) (b : Bounds) : Prop where
  suits : b.Suits f.type
  annotations_eq : ∃ before after, f.annotations = before ++ (b.annotations ++ after) ∧
    ∀ a ∈ before ++ after, a.record.SetsNoBound

private theorem Bound.constrains (bound : Bound) (name : Name) (type : String) :
    (bound.annotation name).record.Constrains type :=
  AnnotationRecord.constrains_of_asNumber type <|
    List.forall_mem_singleton.mpr ⟨_, bound.asNumber_argument⟩

theorem Bounds.constrains (b : Bounds) (type : String) :
    ∀ a ∈ b.annotations, a.record.Constrains type := by
  cases b with
  | size low high =>
    refine List.forall_mem_singleton.mpr (AnnotationRecord.constrains_of_asNumber type ?_)
    exact List.forall_mem_cons.mpr ⟨⟨_, low.asNumber_argument⟩,
      List.forall_mem_singleton.mpr ⟨_, high.asNumber_argument⟩⟩
  | range low high | decimalRange low high =>
    exact List.forall_mem_cons.mpr
      ⟨low.constrains _ type, List.forall_mem_singleton.mpr (high.constrains _ type)⟩

namespace Field

variable {f : Field} {b : Bounds} {options : Options} {p : Property}

theorem annotations_record (f : Field) (options : Options) :
    (f.record options).annotations = f.annotations.map Annotation.record := List.map_map

private theorem converts_of_setsNoBound (h : ∀ a ∈ f.annotations, a.record.SetsNoBound) :
    (f.record options).Converts := by
  rw [FieldRecord.Converts, annotations_record, List.forall_mem_map]
  exact fun a ha ↦ (h a ha).constrains _

private theorem Carries.converts (h : f.Carries b) : (f.record options).Converts := by
  obtain ⟨before, after, hannotations, hothers⟩ := h.annotations_eq
  rw [List.forall_mem_append] at hothers
  rw [FieldRecord.Converts, annotations_record, List.forall_mem_map, hannotations,
    List.forall_mem_append, List.forall_mem_append]
  exact ⟨fun a ha ↦ (hothers.1 a ha).constrains _, b.constrains _,
    fun a ha ↦ (hothers.2 a ha).constrains _⟩

theorem type_ofType_of_string (h : f.type.text = "String") :
    (Property.ofType (f.record options)).type = "string" := by
  have htype : (f.record options).type = "String" := h
  have hbase : DeclaredType.base "String" = "String" := by decide +kernel
  have harray : ¬DeclaredType.isArray "String" = true := by decide +kernel
  have hmap : ¬DeclaredType.isMap "String" = true := by decide +kernel
  have hknown : ¬(!BaseType.isKnown "String") = true := by decide +kernel
  rw [Property.ofType, htype, hbase]
  dsimp only
  rw [if_neg harray, if_neg hmap, if_neg hknown]
  exact (show BaseType.schemaType "String" = "string" by decide +kernel)

/-- The property of a field has the bounds that are written. -/
theorem Carries.hold (h : f.Carries b) (hp : Property.ofField (f.record options) = .ok p) :
    b.Hold p := by
  obtain ⟨before, after, hannotations, hothers⟩ := h.annotations_eq
  have hafter : ∀ a ∈ after.map Annotation.record, a.SetsNoBound :=
    List.forall_mem_map.mpr (List.forall_mem_append.mp hothers).2
  have hsplit := f.annotations_record options
  rw [hannotations, List.map_append, List.map_append] at hsplit
  cases b with
  | size low high =>
    exact Property.length_ofField_of_last hsplit
      (show Name.size.text ∈ ["Size", "Length"] by decide) (type_ofType_of_string h.suits)
      low.asNumber_argument high.asNumber_argument (fun a ha ↦ (hafter a ha).1) hp
  | range low high =>
    exact Property.range_ofField_of_last hsplit
      (show Name.min.text ∈ ["Min", "DecimalMin"] by decide)
      (show Name.max.text ∈ ["Max", "DecimalMax"] by decide)
      low.asNumber_argument high.asNumber_argument hafter hp
  | decimalRange low high =>
    exact Property.range_ofField_of_last hsplit
      (show Name.decimalMin.text ∈ ["Min", "DecimalMin"] by decide)
      (show Name.decimalMax.text ∈ ["Max", "DecimalMax"] by decide)
      low.asNumber_argument high.asNumber_argument hafter hp

end Field

/-- The field takes part in the schema of the class, and no later one has its name. -/
def Class.Keeps (c : Class) (options : Options) (f : Field) : Prop :=
  ∃ before after, c.fields = before ++ f :: after ∧
    Schema.TakesPart options (f.record options) ∧
    ∀ g ∈ after, Schema.TakesPart options (g.record options) →
      (g.record options).propertyName ≠ (f.record options).propertyName

end Written

/-! ## Records of written classes -/

variable {source : String} {settings : Option (List (String × Json))} {options : Options}

private theorem FieldRecord.ofDecl_unplaced (f : FieldDecl) :
    ofDecl options f.unplaced = ofDecl options f := by
  have hannotations : f.unplaced.annotations.map AnnotationRecord.ofUse =
      f.annotations.map AnnotationRecord.ofUse := List.map_map
  rw [ofDecl, hannotations]
  rfl

theorem FieldRecord.map_ofDecl {decls decls' : List FieldDecl}
    (h : decls.map FieldDecl.unplaced = decls') :
    decls.map (ofDecl options) = decls'.map (ofDecl options) := by
  rw [← h, List.map_map]
  exact List.map_congr_left fun f _ ↦ (ofDecl_unplaced f).symm

theorem ParsedClass.record_ofSource_of_ofText {decl : ClassDecl}
    (h : ParsedUnit.ofText source = ⟨some ⟨[decl]⟩, [], [], []⟩) (options : Options) :
    (ofSource source options).record = some (.ofDecl options decl) := by
  have htree : (ParsedUnit.ofText source).tree = some ⟨[decl]⟩ := by rw [h]
  have herrors : (ParsedUnit.ofText source).errors = [] := by rw [h]
  rw [record_ofSource options htree herrors]
  rfl

namespace Schema

theorem participants_fields_ofDecl (c : ClassDecl) :
    participants options (ClassRecord.ofDecl options c).fields =
      participants options (c.fields.map (.ofDecl options)) := by
  rw [participants, participants, ClassRecord.ofDecl, List.filter_map, List.filter_map,
    List.filter_filter]
  congr 1
  refine List.filter_congr fun f _ ↦ ?_
  rw [Bool.and_eq_left_iff_imp, Function.comp_apply, decide_eq_true_iff]
  intro htakes
  have hprivate : options.includePrivate = false → f.isPrivate = false := htakes.2
  rw [ClassRecord.takes]
  cases hinclude : options.includePrivate with
  | true => rfl
  | false => rw [hprivate hinclude]; rfl

theorem participants_append_cons {f : FieldRecord} (h : TakesPart options f)
    (before after : List FieldRecord) :
    participants options (before ++ f :: after) =
      participants options before ++ f :: participants options after := by
  rw [participants, List.filter_append]
  exact congrArg _ (List.filter_cons_of_pos (decide_eq_true h))

theorem Lists.exists_of_keeps {schema : Schema} {c : Written.Class} {f : Written.Field}
    (h : schema.Lists (participants options (c.fields.map (·.record options))))
    (hf : c.Keeps options f) :
    ∃ p, Property.ofField (f.record options) = .ok p ∧
      schema.properties.get? (f.record options).propertyName = some p := by
  obtain ⟨before, after, hsplit, htakes, hlast⟩ := hf
  rw [hsplit, List.map_append, List.map_cons, participants_append_cons htakes] at h
  refine h.get?_of_last _ _ _ rfl fun g hg ↦ ?_
  obtain ⟨hmem, hgtakes⟩ := List.mem_filter.mp hg
  obtain ⟨g, hafter, rfl⟩ := List.mem_map.mp hmem
  exact hlast g hafter (of_decide_eq_true hgtakes)

end Schema

namespace Conversion

/-- A text that holds one class, whose fields can be converted, is converted, and the schema lists
the fields. -/
theorem exists_run_eq_ok_of_ofText {decl : ClassDecl}
    (h : ParsedUnit.ofText source = ⟨some ⟨[decl]⟩, [], [], []⟩)
    (hoptions : Options.resolve settings = .ok options)
    (hconverts : ∀ f ∈ decl.fields, (FieldRecord.ofDecl options f).Converts) :
    ∃ result schema, run source settings none = .ok result ∧ result.schema = some schema ∧
      schema.Lists (Schema.participants options (decl.fields.map (.ofDecl options))) := by
  have hall : ∀ g ∈ (ClassRecord.ofDecl options decl).fields,
      Schema.includes options g = true → g.Converts := by
    rw [ClassRecord.ofDecl, List.forall_mem_map]
    exact fun f hf _ ↦ hconverts f (List.mem_filter.mp hf).1
  obtain ⟨schema, hschema⟩ := Schema.exists_ofRecord_eq_ok_iff.mpr hall
  have hlists := Schema.lists_of_ofRecord hschema
  rw [Schema.participants_fields_ofDecl] at hlists
  have hconverted : ∃ result, ofParsed (.ofSource source options) = .ok result ∧
      result.schema = some schema := by
    unfold ofParsed
    rw [ParsedClass.record_ofSource_of_ofText h, ParsedClass.options_ofSource]
    dsimp only
    rw [hschema]
    exact ⟨_, rfl, rfl⟩
  obtain ⟨result, hresult, hsome⟩ := hconverted
  exact ⟨result, schema, (run_eq_ok_iff hoptions).mpr hresult, hsome, hlists⟩

theorem exists_ofText_eq_of_laid (c : Written.Class) (h : Laid c.pieces source.toList)
    (options : Options) :
    ∃ decl, ParsedUnit.ofText source = ⟨some ⟨[decl]⟩, [], [], []⟩ ∧
      decl.fields.map (FieldRecord.ofDecl options) = c.fields.map (·.record options) := by
  obtain ⟨decl, htext, hdecl⟩ := ParsedUnit.ofText_of_laid c h
  have hfields : decl.fields.map FieldDecl.unplaced = c.fields.map Written.Field.decl :=
    congrArg ClassDecl.fields hdecl
  refine ⟨decl, htext, ?_⟩
  rw [FieldRecord.map_ofDecl hfields, List.map_map]
  rfl

/-- A class whose fields can be converted is converted however it is laid out, and its schema lists
its fields. -/
theorem exists_run_eq_ok_of_laid (c : Written.Class) (h : Laid c.pieces source.toList)
    (hoptions : Options.resolve settings = .ok options)
    (hconverts : ∀ f ∈ c.fields, (f.record options).Converts) :
    ∃ result schema, run source settings none = .ok result ∧ result.schema = some schema ∧
      schema.Lists (Schema.participants options (c.fields.map (·.record options))) := by
  obtain ⟨decl, htext, hrecords⟩ := exists_ofText_eq_of_laid c h options
  have hall : ∀ f ∈ decl.fields, (FieldRecord.ofDecl options f).Converts := by
    rw [← List.forall_mem_map (f := FieldRecord.ofDecl options), hrecords, List.forall_mem_map]
    exact hconverts
  have hrun := exists_run_eq_ok_of_ofText htext hoptions hall
  rwa [hrecords] at hrun

/-- **Bounds are kept.** A class with integers as bounds is converted however it is laid out, and
the property of a field has the integers that were written. -/
theorem run_keeps_bounds (c : Written.Class) (h : Laid c.pieces source.toList)
    (hoptions : Options.resolve settings = .ok options)
    (hfields : ∀ f ∈ c.fields,
      (∃ b, f.Carries b) ∨ ∀ a ∈ f.annotations, a.record.SetsNoBound) :
    ∃ result schema, run source settings none = .ok result ∧ result.schema = some schema ∧
      ∀ f b, c.Keeps options f → f.Carries b →
        ∃ p, schema.properties.get? (f.record options).propertyName = some p ∧ b.Hold p := by
  have hconverts : ∀ f ∈ c.fields, (f.record options).Converts := by
    intro f hf
    rcases hfields f hf with ⟨b, hcarries⟩ | hfree
    · exact hcarries.converts
    · exact Written.Field.converts_of_setsNoBound hfree
  obtain ⟨result, schema, hresult, hschema, hlists⟩ :=
    exists_run_eq_ok_of_laid c h hoptions hconverts
  refine ⟨result, schema, hresult, hschema, fun f b hkeeps hcarries ↦ ?_⟩
  obtain ⟨p, hp, hget⟩ := hlists.exists_of_keeps hkeeps
  exact ⟨p, hget, hcarries.hold hp⟩

end Conversion

namespace Written

/-- A field with bounds and nothing else in front of it. -/
def Bounds.field (b : Bounds) (type name : Name)
    (h : type.text ∉ Prelude.contextualModifiers) : Field where
  comment := none
  annotations := b.annotations
  modifiers := []
  type := .named ⟨type, []⟩
  name := name
  isNoModifier := h

/-- The lower bound of a length. -/
def five : Literal := ⟨⟨false, '5', [], by decide, by decide, by decide⟩, some 'L', by decide⟩

/-- The length of a code. -/
def codeBounds : Bounds :=
  .size (.number five.integer) (.number ⟨false, '1', ['0'], by decide, by decide, by decide⟩)

/-- The range of an amount. -/
def amountBounds : Bounds :=
  .decimalRange (.quoted ⟨⟨true, '7', [], by decide, by decide, by decide⟩, none, by decide⟩)
    (.quoted ⟨⟨false, '9', "007199254740993".toList, by decide, by decide, by decide⟩, some 'l',
      by decide⟩)

/-- A class with two bounded fields. -/
def order : Class where
  comment := none
  annotations := []
  name := ⟨'O', ['r', 'd', 'e', 'r'], by decide, by decide, by decide⟩
  fields :=
    [codeBounds.field ⟨'S', ['t', 'r', 'i', 'n', 'g'], by decide, by decide, by decide⟩
      ⟨'c', ['o', 'd', 'e'], by decide, by decide, by decide⟩ (by decide),
    amountBounds.field ⟨'I', ['n', 't', 'e', 'g', 'e', 'r'], by decide, by decide, by decide⟩
      ⟨'a', ['m', 'o', 'u', 'n', 't'], by decide, by decide, by decide⟩ (by decide)]

/-- The text of the class; the lower bound of the length has a letter. -/
def orderText : String :=
  "public class Order\x7b@Size(min=5L,max=10)String code;" ++
    "@DecimalMin(\"-7\")@DecimalMax(\"9007199254740993l\")Integer amount;\x7d"

theorem laid_orderText : Laid order.pieces orderText.toList := by
  have hsame (pieces : List Piece) : List.Forall₂ Piece.Writes pieces pieces :=
    List.forall₂_same.mpr fun p _ ↦ .plain p
  have hpieces : order.pieces =
      order.pieces.take 9 ++ five.integer.piece :: order.pieces.drop 10 := rfl
  have htext : orderText = String.ofList
      (printTight (order.pieces.take 9 ++ five.piece :: order.pieces.drop 10)) := by
    decide +kernel
  rw [htext, String.toList_ofList, hpieces]
  exact laid_printTight (List.rel_append (hsame _) (.cons (.literal five) (hsame _)))

end Written

open Written in
/-- The bounds of a class are kept, one of which is no double. -/
theorem Conversion.run_keeps_bounds_of_order :
    ∃ result schema, run Written.orderText none none = .ok result ∧
      result.schema = some schema ∧
      (∃ p, schema.properties.get? "code" = some p ∧
        p.minLength = some 5 ∧ p.maxLength = some 10) ∧
      ∃ p, schema.properties.get? "amount" = some p ∧
        p.minimum = some (.int (-7)) ∧ p.maximum = some (.int 9007199254740993) := by
  have hstring : order.fields[0].type.text = "String" := by decide
  have hcode : order.fields[0].Carries codeBounds := ⟨hstring, [], [], rfl, nofun⟩
  have hamount : order.fields[1].Carries amountBounds := ⟨trivial, [], [], rfl, nofun⟩
  have hfields : ∀ f ∈ order.fields,
      (∃ b, f.Carries b) ∨ ∀ a ∈ f.annotations, a.record.SetsNoBound := by
    refine List.forall_mem_cons.mpr ⟨.inl ⟨_, hcode⟩, List.forall_mem_singleton.mpr ?_⟩
    exact .inl ⟨_, hamount⟩
  obtain ⟨result, schema, hresult, hschema, hbounds⟩ :=
    @run_keeps_bounds _ none {} order laid_orderText rfl hfields
  refine ⟨result, schema, hresult, hschema, ?_, ?_⟩
  · exact hbounds _ _ ⟨[], [order.fields[1]], rfl, by decide +kernel, by decide +kernel⟩ hcode
  · exact hbounds _ _ ⟨[order.fields[0]], [], rfl, by decide +kernel, by decide +kernel⟩ hamount

/-! ## Bounds that are no integers -/

/-- A class with a field that takes part and cannot be converted is valid, but a run has no
result. -/
theorem Conversion.run_ne_ok_of_not_converts (c : Written.Class) (h : Laid c.pieces source.toList)
    (hoptions : Options.resolve settings = .ok options) {f : Written.Field} (hf : f ∈ c.fields)
    (htakes : Schema.TakesPart options (f.record options)) (hnot : ¬(f.record options).Converts) :
    (∀ result, run source settings none ≠ .ok result) ∧
      (ValidationReport.ofSource source options).valid = true := by
  obtain ⟨decl, htext, hrecords⟩ := exists_ofText_eq_of_laid c h options
  have hrecord := ParsedClass.record_ofSource_of_ofText htext options
  constructor
  · intro result hresult
    have hparsed := (run_eq_ok_iff hoptions).mp hresult
    have hconverts := exists_ofParsed_eq_ok_iff.mp ⟨result, hparsed⟩ _ hrecord
    have hmem : f.record options ∈
        Schema.participants options (ClassRecord.ofDecl options decl).fields := by
      rw [Schema.participants_fields_ofDecl, hrecords, Schema.participants, List.mem_filter]
      exact ⟨List.mem_map_of_mem hf, decide_eq_true htakes⟩
    refine hnot (hconverts _ (List.mem_filter.mp hmem).1 ?_)
    rw [ParsedClass.options_ofSource, Schema.includes_iff]
    exact htakes
  · rw [ValidationReport.valid_ofSource, hrecord]
    rfl

namespace Written

theorem Field.not_converts_of_infinite {f : Field} {a : Annotation} {key : String}
    {argument : Argument} {negative : Bool} (ha : a ∈ f.annotations)
    (hname : a.record.name ∈ ["Size", "Length"]) (htype : f.type.text = "String")
    (hkey : key ∈ ["min", "max"]) (hargument : a.record.arguments.get? key = some argument)
    (hnumber : argument.asNumber = .ok (some (.double (.infinite negative)))) :
    ¬(f.record options).Converts := by
  intro hconverts
  have hmem : a.record ∈ (f.record options).annotations := by
    rw [annotations_record]
    exact List.mem_map_of_mem ha
  have hlength := (hconverts _ hmem).length hname (type_ofType_of_string htype) key hkey argument
    hargument
  exact hlength.2 _ hnumber

/-- The annotation of a length with a text as its upper bound. -/
def sizeUse (bound : List Char) : Annotation :=
  ⟨⟨.size, []⟩, .keyed [(.highKey, .text (bound.map StringUnit.ofChar))] (List.nodup_singleton _)⟩

/-- A class with a string whose length has a text as its upper bound. -/
def sized (bound : List Char) : Class where
  comment := none
  annotations := []
  name := .of "A" (by decide)
  fields :=
    [{ comment := none
       annotations := [sizeUse bound]
       modifiers := []
       type := .named ⟨.of "String" (by decide), []⟩
       name := .of "s" (by decide)
       isNoModifier := by decide }]

theorem not_converts_sized {bound : List Char} {negative : Bool}
    (h : Numeral.read (String.ofList bound) = .ok (some (.double (.infinite negative)))) {f : Field}
    (hf : f ∈ (sized bound).fields) : ¬(f.record options).Converts := by
  obtain rfl := List.mem_singleton.mp hf
  have hname : Name.size.text ∈ ["Size", "Length"] := by decide
  have htype : TypeTerm.text (.named ⟨.of "String" (by decide), []⟩) = "String" := by decide
  have hvalue : stringValue (bound.map StringUnit.ofChar) = String.ofList bound := by
    have hvalue := stringValue_map_ofChar (String.ofList bound)
    rwa [String.toList_ofList] at hvalue
  have hnumber : (Argument.text (stringValue (bound.map StringUnit.ofChar))).asNumber =
      .ok (some (.double (.infinite negative))) := by
    rw [hvalue, Argument.asNumber, h]
  exact Field.not_converts_of_infinite (List.mem_singleton_self (sizeUse bound)) hname htype
    (show "max" ∈ ["min", "max"] by decide) rfl hnumber

/-- A number beyond all finite doubles. -/
def endless : NumberForm where
  isNegative := false
  whole := '1' :: List.replicate 309 '0'
  fraction := some ['0']
  suffix := none

private theorem eq_of_mem_digits_endless {c : Char} (hc : c ∈ endless.digits) :
    c = '1' ∨ c = '0' := by
  rcases List.mem_append.mp hc with hwhole | hfraction
  · exact (List.mem_cons.mp hwhole).imp_right List.eq_of_mem_replicate
  · exact .inr (List.mem_singleton.mp hfraction)

private theorem isWritten_endless : endless.IsWritten := by
  have hdigit : ∀ c ∈ endless.digits, Text.isDigit c = true := by
    intro c hc
    rcases eq_of_mem_digits_endless hc with rfl | rfl <;> decide
  refine ⟨⟨List.cons_ne_nil _ _, fun c hc ↦ hdigit c (List.mem_append_left _ hc)⟩, ?_, nofun⟩
  rintro digits ⟨rfl⟩
  exact ⟨List.cons_ne_nil _ _, fun c hc ↦ hdigit c (List.mem_append_right _ hc)⟩

private theorem ofDecimal_endless :
    Double.ofDecimal false (Numeral.digitsValue (endless.whole ++ ['0'])) (-1) =
      .infinite false := by
  decide +kernel

private theorem read_endless :
    Numeral.read (String.ofList endless.text) = .ok (some (.double (.infinite false))) := by
  have hdecimal : ∀ c ∈ endless.digits, Text.isDecimal c = true := by
    intro c hc
    rcases eq_of_mem_digits_endless hc with rfl | rfl <;> decide
  have hfraction : endless.fraction = some ['0'] := by simp only [endless]
  have hread := NumberForm.read_of_fraction_eq_some isWritten_endless hdecimal hfraction
  exact hread.trans (congrArg (fun d ↦ Except.ok (some (Number.double d))) ofDecimal_endless)

/-- The text of a class with this number as a bound. -/
def endlessText : String :=
  "public class A\x7b@Size(max=\"" ++ String.ofList endless.text ++ "\")String s;\x7d"

private theorem laid_endlessText : Laid (sized endless.text).pieces endlessText.toList := by
  have hbetween (front behind : String) (cs : List Char) :
      (front ++ String.ofList cs ++ behind).toList = front.toList ++ cs ++ behind.toList := by
    rw [String.toList_append, String.toList_append, String.toList_ofList]
  have hprint : "public class A\x7b@Size(max=\"".toList ++ endless.text ++
      "\")String s;\x7d".toList = printTight (sized endless.text).pieces := by
    decide +kernel
  exact (hbetween _ _ _).trans hprint ▸ laid_printTight (List.forall₂_same.mpr fun p _ ↦ .plain p)

end Written

/-- A valid class with an infinite bound, for which a run has no result. -/
theorem Conversion.run_ne_ok_of_endlessText :
    (∀ result, run Written.endlessText none none ≠ .ok result) ∧
      (ValidationReport.ofSource Written.endlessText {}).valid = true :=
  run_ne_ok_of_not_converts _ Written.laid_endlessText rfl List.mem_cons_self (by decide)
    (Written.not_converts_sized Written.read_endless List.mem_cons_self)

end ClassSchema
