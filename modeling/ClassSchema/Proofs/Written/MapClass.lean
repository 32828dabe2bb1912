import ClassSchema.Proofs.Written.Bounds
import ClassSchema.Proofs.Written.MapField

/-!
# The values of maps

A class with a field of a map type among other fields is converted, and the property of the field
describes the values of the map. It does so by the text of the value alone: whatever the key and the
value are, the text of the type falls apart at the one comma between them.

There is one exception. A key that is a bare question mark leaves nothing in the text of the type,
and what is empty is left out of the type arguments. The value is then taken for the only argument,
a map with one argument has no values, and they are described as if nothing was known of them.
-/

namespace ClassSchema

open Token (Spell spell_append_iff spell_cons_iff spell_singleton_iff)

variable {source : String} {settings : Option (List (String × Json))} {options : Options}

namespace Written

variable {ts rest : List Token}

/-! ## Classes with a field of a map type -/

/-- A class with a field of a map type: the fields of the class, this one, and more fields. -/
structure MapClass extends Class where
  field : MapField
  later : List Field

namespace MapClass

variable (c : MapClass)

/-- The fields as they are written, question marks apart. -/
def bodyPieces : List Piece :=
  c.fields.flatMap Field.pieces ++ (c.field.pieces ++ c.later.flatMap Field.pieces)

/-- A class as it is written, question marks apart. -/
def pieces : List Piece := c.around c.bodyPieces

/-- The declarations of the fields, apart from their places. -/
def decls : List FieldDecl :=
  c.fields.map Field.decl ++ c.field.decl :: c.later.map Field.decl

end MapClass

/-- The fields of the class are members in a row. -/
theorem MapClass.exists_row (c : MapClass) (text : Option (List Char)) (final : Token)
    (rest : List Token) (h : Spell ts c.bodyPieces) :
    ∃ members, Row text final (ts ++ rest) members rest ∧
      (Member.fields members).map FieldDecl.unplaced = c.decls := by
  obtain ⟨us, vs, rfl, hbefore, h⟩ := spell_append_iff.mp h
  obtain ⟨vs, ws, rfl, hfield, hlater⟩ := spell_append_iff.mp h
  obtain ⟨first, hfirst, hfirstFields⟩ :=
    exists_row_of_fields c.fields text final (vs ++ (ws ++ rest)) hbefore
  obtain ⟨decl, hread, hdecl⟩ := @c.field.read_append vs (ws ++ rest) text final hfield
  obtain ⟨last, hlast, hlastFields⟩ := exists_row_of_fields c.later text final rest hlater
  obtain ⟨t, others, hcons, hmark⟩ := c.field.exists_eq_cons hfield
  refine ⟨first ++ ([.field decl] ++ last), ?_, ?_⟩
  · rw [List.append_assoc, List.append_assoc]
    exact hfirst.append ((row_of_read hcons hmark hread).append hlast)
  · have hfields : Member.fields (first ++ ([.field decl] ++ last)) =
        Member.fields first ++ decl :: Member.fields last := by
      rw [Member.fields, List.filterMap_append, List.filterMap_append]
      rfl
    rw [hfields, List.map_append, List.map_cons, hfirstFields.fields_eq, hlastFields.fields_eq,
      hdecl, MapClass.decls]

end Written

theorem ParsedUnit.ofText_of_strewn (c : Written.MapClass) (h : Strewn c.pieces source.toList) :
    ∃ decl, ofText source = ⟨some ⟨[decl]⟩, [], [], []⟩ ∧
      decl.fields.map FieldDecl.unplaced = c.decls := by
  have hinside (ts : List Token) (final : Token) (rest : List Token)
      (hts : Spell ts c.bodyPieces) :
      ∃ members, Row (some source.toList) final (ts ++ rest) members rest ∧
        (Member.fields members).map FieldDecl.unplaced = c.decls :=
    c.exists_row (some source.toList) final rest hts
  obtain ⟨decl, members, htext, hmembers, hdecl⟩ := ofText_around c.toClass hinside h
  exact ⟨decl, htext, (congrArg ClassDecl.fields hdecl).trans hmembers⟩

/-! ## The property of the field -/

namespace Written.MapField

variable (f : MapField)

/-- The record of a field of a map type. -/
def record (options : Options) : FieldRecord := .ofDecl options f.decl

/-- The text of the value, if anything is left of the key. -/
def valueText? : Option String := f.key.map fun _ ↦ f.value.bound.text

/-- The parts of the text of the type. -/
def parts : DeclaredType.Parts :=
  ⟨f.map.text.toList, some f.argumentText.toList, 0, f.map.isPath⟩

theorem ofList_chars_parts : String.ofList f.parts.chars = f.type := by
  refine String.toList_injective ?_
  simp [parts, type, DeclaredType.Parts.chars, DeclaredType.Parts.group, DeclaredType.squares]

private theorem base_type : DeclaredType.base f.type = f.map.last.text := by
  rw [← ofList_chars_parts, DeclaredType.Parts.base_chars, parts, f.map.afterLast_text,
    String.ofList_toList]

private theorem endsInBrackets_type : DeclaredType.endsInBrackets f.type = false := by
  rw [← ofList_chars_parts, DeclaredType.endsInBrackets, String.toList_ofList,
    f.parts.unpadded_chars.trimEnd_eq, f.parts.dropBrackets?_chars rfl]
  rfl

theorem splitArguments_argumentText :
    DeclaredType.splitArguments 0 f.argumentText.toList =
      [(f.key.elim "" MapArgument.text).toList, ' ' :: f.value.text.toList] := by
  have hkey : DeclaredType.Unsplit 0 (f.key.elim "" MapArgument.text).toList := by
    cases f.key with
    | none => exact .of_forall nofun
    | some key => exact key.unsplit
  have hspace : DeclaredType.Unsplit 0 [' '] := .of_forall (by simp)
  have htext : f.argumentText.toList = (f.key.elim "" MapArgument.text).toList ++
      ',' :: ([' '] ++ f.value.text.toList) := by
    rw [argumentText, String.toList_append, String.toList_append, String.toList_append]
    rfl
  rw [htext, hkey.splitArguments_comma_eq (hspace.append f.value.unsplit)]
  rfl

/-- **What is taken for the value** of the map is the bound of its value, unless nothing is left of
its key. -/
theorem mapValue?_type : DeclaredType.mapValue? f.type = f.valueText? := by
  have hvalue : Text.trim (' ' :: f.value.text.toList) = f.value.text.toList :=
    f.value.isArgument.unpadded.trim_eq
  have harguments : f.parts.arguments = some f.argumentText.toList := rfl
  rw [← ofList_chars_parts, DeclaredType.mapValue?, DeclaredType.arguments, String.toList_ofList,
    DeclaredType.Parts.argumentTexts_chars, harguments, Option.elim_some,
    f.splitArguments_argumentText, List.map_cons, List.map_singleton, hvalue, valueText?]
  cases f.key with
  | none =>
    have hnone : DeclaredType.wildcardBound (Text.trim "".toList) = [] := by decide
    rw [Option.elim_none, List.map_cons, hnone, List.filter_cons_of_neg (by decide),
      DeclaredType.IsArgument.filter_map_wildcardBound (.cons f.value.isArgument .nil)]
    rfl
  | some key =>
    rw [Option.elim_some, key.isArgument.unpadded.trim_eq,
      DeclaredType.IsArgument.filter_map_wildcardBound
        (.cons key.isArgument (.cons f.value.isArgument .nil))]
    exact congrArg some f.value.bound.ofList_chars_parts

end Written.MapField

namespace Property

variable {f : FieldRecord} {p : Property}

private theorem additionalProperties_ofType (harray : ¬DeclaredType.isArray f.type = true)
    (hmap : DeclaredType.isMap f.type = true) :
    (ofType f).additionalProperties =
      some (nested (DeclaredType.mapValue? f.type) " value" "map value") := by
  rw [ofType]
  dsimp only
  rw [if_neg harray, if_pos hmap]

private theorem additionalProperties_ofField (h : ofField f = .ok p) :
    p.additionalProperties = (ofType f).additionalProperties := by
  refine foldlM_constrain_induction
    (P := fun q ↦ q.additionalProperties = (ofType f).additionalProperties) ?_ h rfl
  intro a _ q r hstep hq
  cases hstep <;> exact hq

/-- A value of which something is known is not described as one of which nothing is known. -/
theorem nested_text_ne (T : Written.TypeTerm) :
    nested (some T.text) " value" "map value" ≠ nested none " value" "map value" := by
  intro hsame
  rw [nested, nested, T.base_text] at hsame
  split at hsame
  · rename_i hknown
    have hdescription : T.text ++ " value" = "map" ++ " value" :=
      Option.some.inj (congrArg description hsame)
    have hbase : T.baseName = "map" := by
      rw [← T.base_text, (String.append_left_inj _).mp hdescription]
      decide +kernel
    rw [hbase] at hknown
    exact absurd hknown (by decide)
  · have htype : "object" = "string" := congrArg type hsame
    exact absurd htype (by decide)

end Property

namespace Written

variable {c : MapClass}

/-- The property of a field that is a map describes its values. -/
theorem MapField.additionalProperties_eq {f : MapField} {p : Property}
    (hmap : BaseType.isKnownAs "object" f.map.last.text = true)
    (hp : Property.ofField (f.record options) = .ok p) :
    p.additionalProperties = some (Property.nested f.valueText? " value" "map value") := by
  have hbrackets : DeclaredType.endsInBrackets (f.record options).type = false :=
    f.endsInBrackets_type
  have hbase : DeclaredType.base (f.record options).type = f.map.last.text := f.base_type
  have hvalue : DeclaredType.mapValue? (f.record options).type = f.valueText? := f.mapValue?_type
  have harray : ¬DeclaredType.isArray (f.record options).type = true := by
    rw [DeclaredType.isArray, hbrackets, hbase, Bool.false_or]
    intro harray
    have hsame := of_decide_eq_true hmap
    rw [of_decide_eq_true harray] at hsame
    exact absurd (Option.some.inj hsame) (by decide)
  have hisMap : DeclaredType.isMap (f.record options).type = true := by
    rw [DeclaredType.isMap, hbrackets, hbase, hmap]
    rfl
  rw [Property.additionalProperties_ofField hp, Property.additionalProperties_ofType harray hisMap,
    hvalue]

/-- The records of the fields of the class. -/
def MapClass.records (c : MapClass) (options : Options) : List FieldRecord :=
  c.fields.map (·.record options) ++ c.field.record options :: c.later.map (·.record options)

private theorem MapClass.map_ofDecl_decls (c : MapClass) (options : Options) :
    c.decls.map (FieldRecord.ofDecl options) = c.records options := by
  rw [MapClass.decls, List.map_append, List.map_cons, List.map_map, List.map_map]
  rfl

end Written

/-- **The values of a map are described by the text of the value**, whatever its key is, unless the
key is a bare question mark. -/
theorem Conversion.run_describes_values (c : Written.MapClass) (h : Strewn c.pieces source.toList)
    (hoptions : Options.resolve settings = .ok options)
    (hmap : BaseType.isKnownAs "object" c.field.map.last.text = true)
    (hconverts : ∀ f ∈ c.records options, f.Converts)
    (htakes : Schema.TakesPart options (c.field.record options))
    (hlast : ∀ g ∈ c.later, Schema.TakesPart options (g.record options) →
      (g.record options).propertyName ≠ (c.field.record options).propertyName) :
    ∃ result schema p, run source settings none = .ok result ∧ result.schema = some schema ∧
      schema.properties.get? (c.field.record options).propertyName = some p ∧
      p.additionalProperties = some (Property.nested c.field.valueText? " value" "map value") ∧
      (p.additionalProperties =
          some (Property.nested (some c.field.value.bound.text) " value" "map value") ↔
        c.field.key.isSome = true) := by
  obtain ⟨decl, htext, hdecls⟩ := ParsedUnit.ofText_of_strewn c h
  have hrecords := (FieldRecord.map_ofDecl hdecls).trans (c.map_ofDecl_decls options)
  have hall : ∀ f ∈ decl.fields, (FieldRecord.ofDecl options f).Converts := by
    rw [← List.forall_mem_map (f := FieldRecord.ofDecl options), hrecords]
    exact hconverts
  obtain ⟨result, schema, hresult, hschema, hlists⟩ :=
    exists_run_eq_ok_of_ofText htext hoptions hall
  rw [hrecords, Written.MapClass.records, Schema.participants_append_cons htakes] at hlists
  -- no later field has the key of this one, so its property stays
  obtain ⟨p, hp, hget⟩ := hlists.get?_of_last _ _ _ rfl fun g hg ↦ by
    obtain ⟨hmem, hgtakes⟩ := List.mem_filter.mp hg
    obtain ⟨g, hlater, rfl⟩ := List.mem_map.mp hmem
    exact hlast g hlater (of_decide_eq_true hgtakes)
  have hvalues := Written.MapField.additionalProperties_eq hmap hp
  refine ⟨result, schema, p, hresult, hschema, hget, hvalues, ?_⟩
  rw [hvalues, Option.some_inj, Written.MapField.valueText?]
  -- without a key there is nothing known of the values
  cases c.field.key with
  | none => exact iff_of_false (Property.nested_text_ne _).symm Bool.false_ne_true
  | some key => exact iff_of_true rfl rfl

/-! ### A map with a wildcard -/

/-- Pieces in front of a text, with white space between them only where it is needed. -/
def printBefore (cs : List Char) : List Piece → List Char
  | [] => cs
  | q :: qs =>
    let behind := printBefore cs qs
    q.chars ++ if q.kind.Borders behind then behind else q.kind.separator :: behind

private theorem Strewn.printBefore {pieces : List Piece} {cs : List Char} (h : Strewn pieces cs)
    (front : List Piece) : Strewn (front ++ pieces) (printBefore cs front) := by
  induction front with
  | nil => exact h
  | cons q front ih =>
    rw [ClassSchema.printBefore]
    by_cases hborders : q.kind.Borders (ClassSchema.printBefore cs front)
    · rw [if_pos hborders]
      exact .piece (.plain q) hborders ih
    · rw [if_neg hborders]
      have hprecedes := q.kind.precedes_separator (ClassSchema.printBefore cs front)
      exact .piece (.plain q) hprecedes.borders (.blank hprecedes.1 ih)

/-- A class with a map from subtypes of `Key` to integers. -/
def Written.index : MapClass where
  comment := none
  annotations := []
  name := .of "Index" (by decide)
  fields := []
  field :=
    { comment := none
      annotations := []
      modifiers := []
      map := ⟨.of "Map" (by decide), []⟩
      key := some (.upper (.named ⟨.of "Key" (by decide), []⟩))
      value := .exact (.named ⟨.of "Integer" (by decide), []⟩)
        (by decide)
      name := .of "m" (by decide)
      isNoModifier := by decide }
  later := []

/-- The text of the class. -/
def Written.indexText : String := "public class Index\x7bMap<?extends Key,Integer>m;\x7d"

private theorem Written.strewn_indexText : Strewn index.pieces indexText.toList := by
  have htext : indexText = String.ofList
      (printBefore ('?' :: printBefore [] (index.pieces.drop 6)) (index.pieces.take 6)) := by
    decide
  have hbehind := Strewn.nil.printBefore (index.pieces.drop 6)
  rw [List.append_nil] at hbehind
  rw [htext, String.toList_ofList, ← List.take_append_drop 6 index.pieces]
  exact (Strewn.questionMark hbehind).printBefore (index.pieces.take 6)

/-- The values of a map with a wildcard as its key are integers. -/
theorem Conversion.run_describes_values_of_index :
    ∃ result schema p q, run Written.indexText none none = .ok result ∧
      result.schema = some schema ∧ schema.properties.get? "m" = some p ∧
      p.additionalProperties = some q ∧ q.type = "integer" ∧
      q.description = some "Integer value" := by
  obtain ⟨result, schema, p, hresult, hschema, hget, hvalues, -⟩ :=
    @run_describes_values _ none {} Written.index Written.strewn_indexText rfl (by decide)
      (List.forall_mem_singleton.mpr (List.forall_mem_nil _)) (by decide) nofun
  exact ⟨result, schema, p, _, hresult, hschema, hget, hvalues, by decide +kernel,
    by decide +kernel⟩

/-- With a bare question mark as the key nothing is known of the values. -/
theorem Conversion.run_of_bareQuestionMark :
    ((run "class A \x7b Map<?, Integer> f; \x7d" none none).toOption.bind fun result ↦
      result.schema.bind fun schema ↦ (schema.properties.get? "f").bind fun p ↦
        p.additionalProperties.map fun q ↦ (q.type, q.description)) =
          some ("string", some "map value") ∧
      (Property.nested (some "Integer") " value" "map value").type = "integer" := by
  decide +kernel

end ClassSchema
