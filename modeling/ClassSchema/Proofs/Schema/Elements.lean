import ClassSchema.Proofs.Schema.Shape
import ClassSchema.Proofs.Schema.TypeArguments

/-!
# Collections and their elements

The type of a field is classified twice, once for the field itself and once when it is the element
of a collection. For the field, the square brackets at the end of the type are asked for first. For
the element they are never asked for: the base name alone is looked up, and it is the base name
without any brackets. So the two agree on every type that is no array, and on an array only if its
base name is a collection by itself.

The format of a field is looked up under its base name too. A list has the base name `List`, which
has no format, but the base name of an array is that of its elements.
-/

namespace ClassSchema

open Written (TypeTerm QualifiedName)

namespace BaseType

variable {base type : String}

theorem schemaType_of_not_isKnown (h : ¬isKnown base = true) : schemaType base = "object" := by
  rw [isKnown_iff, not_exists] at h
  rw [schemaType, Option.eq_none_iff_forall_ne_some.mpr h]
  rfl

private theorem schemaType_of_isKnownAs (h : isKnownAs type base = true) :
    schemaType base = type := by
  have hknown : isKnown base = true := isKnown_iff.mpr ⟨type, of_decide_eq_true h⟩
  exact (isKnownAs_iff hknown).mp h

end BaseType

namespace DeclaredType

variable {T : TypeTerm}

private theorem element?_array (T : TypeTerm) : element? (TypeTerm.array T).text = some T.text := by
  rw [← TypeTerm.ofList_chars_parts, ← TypeTerm.ofList_chars_parts, TypeTerm.parts,
    Parts.element?_array]

theorem element?_applied (name : QualifiedName) (h : T.text ≠ "super") :
    element? (TypeTerm.applied name (.last T)).text = some T.text := by
  have harguments : (TypeTerm.applied name (.last T)).parts.arguments = some T.text.toList := rfl
  have hargument := TypeTerm.isArgument h
  rw [element?, TypeTerm.toList_text, (Parts.unpadded_chars _).trimEnd_eq,
    Parts.dropBrackets?_chars _ rfl, Parts.argumentTexts_chars, harguments, Option.elim_some,
    (hargument.unsplit T.unsplit).splitArguments_eq, List.map_singleton,
    hargument.unpadded.trim_eq, IsArgument.filter_map_wildcardBound (.cons hargument .nil)]
  exact congrArg some T.ofList_chars_parts

end DeclaredType

namespace Property

variable {f : FieldRecord} {T : TypeTerm}

theorem ofField_of_plain (h : f.annotations = []) : ofField f = .ok (ofType f) := by
  rw [ofField, h]
  rfl

private theorem type_nested_text (T : TypeTerm) (ending fallback : String) :
    (nested (some T.text) ending fallback).type = BaseType.schemaType T.baseName := by
  rw [nested, T.base_text]
  split
  · rfl
  · rename_i hunknown
    exact (BaseType.schemaType_of_not_isKnown hunknown).symm

/-- The type of a field is that of its base name, unless the field is an array. -/
theorem type_ofType_text (h : f.type = T.text) :
    (ofType f).type = if T.element?.isSome then "array" else BaseType.schemaType T.baseName := by
  rw [ofType, h, T.base_text]
  dsimp only
  rw [DeclaredType.isArray, DeclaredType.isMap, T.base_text, T.endsInBrackets_text]
  cases T.element?.isSome with
  | true => rfl
  | false =>
    rw [Bool.false_or, Bool.not_false, Bool.true_and, if_neg Bool.false_ne_true]
    split
    · rename_i harray
      exact (BaseType.schemaType_of_isKnownAs harray).symm
    · split
      · rename_i hmap
        exact (BaseType.schemaType_of_isKnownAs hmap).symm
      · split
        · rename_i hunknown
          refine (BaseType.schemaType_of_not_isKnown fun hknown ↦ ?_).symm
          rw [hknown] at hunknown
          cases hunknown
        · rfl

theorem ofType_of_isArray (h : DeclaredType.isArray f.type = true) :
    (ofType f).type = "array" ∧
      (ofType f).items = some (nested (DeclaredType.element? f.type) " item" "array item") ∧
      (ofType f).format = f.format? (DeclaredType.base f.type) := by
  rw [ofType]
  dsimp only
  rw [if_pos h]
  exact ⟨rfl, rfl, rfl⟩

theorem format?_of_plain (h : f.annotations = []) (base : String) :
    f.format? base = Assoc.get? typeFormats base := by
  rw [FieldRecord.format?, h]
  rfl

/-! ## Arrays and lists -/

theorem ofType_array (hplain : f.annotations = []) (h : f.type = T.text ++ "[]") :
    (ofType f).type = "array" ∧
      (ofType f).items = some (nested (some T.text) " item" "array item") ∧
      (ofType f).format = Assoc.get? typeFormats T.baseName := by
  have htype : f.type = (TypeTerm.array T).text := h
  have harray : DeclaredType.isArray f.type = true := by
    rw [htype, DeclaredType.isArray, (TypeTerm.array T).endsInBrackets_text]
    rfl
  obtain ⟨hp, hitems, hformat⟩ := ofType_of_isArray harray
  refine ⟨hp, ?_, ?_⟩
  · rw [hitems, htype, DeclaredType.element?_array]
  · rw [hformat, format?_of_plain hplain, htype, (TypeTerm.array T).base_text]
    rfl

/-- The name of lists. -/
def listName : QualifiedName :=
  ⟨.of "List" (by decide), []⟩

private theorem text_applied_listName (T : TypeTerm) :
    (TypeTerm.applied listName (.last T)).text = "List<" ++ T.text ++ ">" := by
  have hname : listName.text = "List" := by decide
  rw [TypeTerm.text, hname, Written.TypeArguments.text]
  rfl

/-- The property of a list. -/
theorem ofType_list (hplain : f.annotations = []) (h : f.type = "List<" ++ T.text ++ ">") :
    (ofType f).type = "array" ∧ (ofType f).format = none ∧
      (ofType f).items =
        some (nested (if T.text = "super" then none else some T.text) " item" "array item") := by
  have htype : f.type = (TypeTerm.applied listName (.last T)).text :=
    h.trans (text_applied_listName T).symm
  have hbase : DeclaredType.base f.type = "List" := by
    rw [htype, TypeTerm.base_text]
    exact (show listName.last.text = "List" by decide)
  have harray : DeclaredType.isArray f.type = true := by
    rw [DeclaredType.isArray, hbase, Bool.or_eq_true]
    exact .inr (by decide)
  obtain ⟨hp, hitems, hformat⟩ := ofType_of_isArray harray
  refine ⟨hp, ?_, ?_⟩
  · rw [hformat, format?_of_plain hplain, hbase]
    decide
  · rw [hitems]
    by_cases hsuper : T.text = "super"
    · -- what looks like a wildcard without a bound leaves no argument
      have hnone : DeclaredType.element? "List<super>" = none := by decide
      rw [if_pos hsuper, h, hsuper, show "List<" ++ "super" ++ ">" = "List<super>" from rfl, hnone]
    · rw [if_neg hsuper, htype, DeclaredType.element?_applied listName hsuper]

/-- A field of a type and the property of an element of the type have the same type, except where
the type is an array of what is no collection. -/
theorem type_nested_eq_iff (h : f.type = T.text) (ending fallback : String) :
    (nested (some T.text) ending fallback).type = (ofType f).type ↔
      (T.element?.isSome = true → BaseType.schemaType T.baseName = "array") := by
  rw [type_nested_text, type_ofType_text h]
  cases T.element?.isSome with
  | true => exact ⟨fun hsame _ ↦ hsame, fun himp ↦ himp rfl⟩
  | false => exact ⟨fun _ hfalse ↦ (nomatch hfalse), fun _ ↦ rfl⟩

private theorem type_ne_string_of_super (h : f.type = T.text) (hsuper : T.text = "super") :
    (ofType f).type ≠ "string" := by
  have hbase : T.baseName = "super" := by
    rw [← T.base_text, hsuper]
    decide +kernel
  rw [type_ofType_text h, hbase]
  split
  · decide
  · decide

/-- **What collections say about their elements.** Arrays and lists of a type have a property of
their elements. It has the type that a field of the type has, except where the type is itself an
array of what is no collection. An array has the format that goes with its base name, a list has
none. A list of `super` has an argument that looks like a wildcard. -/
theorem collections_of_elements (T : TypeTerm) {element array list : FieldRecord}
    (hplain : ∀ f ∈ [element, array, list], f.annotations = []) (helement : element.type = T.text)
    (harray : array.type = T.text ++ "[]") (hlist : list.type = "List<" ++ T.text ++ ">") :
    ∃ e a l i j, ofField element = .ok e ∧ ofField array = .ok a ∧ ofField list = .ok l ∧
      a.type = "array" ∧ a.items = some i ∧ l.type = "array" ∧ l.items = some j ∧
      (i.type = e.type ↔
        (T.element?.isSome = true → BaseType.schemaType T.baseName = "array")) ∧
      (j.type = e.type ↔ T.text ≠ "super" ∧
        (T.element?.isSome = true → BaseType.schemaType T.baseName = "array")) ∧
      (a.format = none ↔ Assoc.get? typeFormats T.baseName = none) ∧ l.format = none := by
  rw [List.forall_mem_cons, List.forall_mem_cons, List.forall_mem_singleton] at hplain
  obtain ⟨hplainElement, hplainArray, hplainList⟩ := hplain
  obtain ⟨ha, hi, haFormat⟩ := ofType_array hplainArray harray
  obtain ⟨hl, hlFormat, hj⟩ := ofType_list hplainList hlist
  refine ⟨_, _, _, _, _, ofField_of_plain hplainElement, ofField_of_plain hplainArray,
    ofField_of_plain hplainList, ha, hi, hl, hj, type_nested_eq_iff helement .., ?_, ?_, hlFormat⟩
  · by_cases hsuper : T.text = "super"
    · rw [if_pos hsuper]
      exact ⟨fun hsame ↦ absurd hsame.symm (type_ne_string_of_super helement hsuper),
        fun hne ↦ absurd hsuper hne.1⟩
    · rw [if_neg hsuper, type_nested_eq_iff helement]
      exact ⟨fun h ↦ ⟨hsuper, h⟩, fun h ↦ h.2⟩
  · rw [haFormat]

/-- A list of dates. -/
def listOfDates : TypeTerm :=
  .applied listName (.last (.named ⟨.of "Date" (by decide), []⟩))

/-- The elements of an array of lists of dates are arrays. -/
theorem collections_of_elements_lists :
    ∃ e a l i j, ofField { name := "e", type := "List<Date>" } = .ok e ∧
      ofField { name := "a", type := "List<Date>[]" } = .ok a ∧
      ofField { name := "l", type := "List<List<Date>>" } = .ok l ∧
      a.items = some i ∧ l.items = some j ∧ e.type = "array" ∧ i.type = "array" ∧
      j.type = "array" ∧ a.format = none := by
  have htext : listOfDates.text = "List<Date>" := by decide
  obtain ⟨e, a, l, i, j, he, ha, hl, -, hi, -, hj, hitem, hother, hformat, -⟩ :=
    @collections_of_elements listOfDates { name := "e", type := "List<Date>" }
      { name := "a", type := "List<Date>[]" } { name := "l", type := "List<List<Date>>" }
      (by decide) htext.symm
      (by rw [htext]; rfl) (by rw [htext]; rfl)
  have htype : (ofType { name := "e", type := "List<Date>" }).type = "array" := by decide +kernel
  have hsame : e.type = "array" := by
    rw [ofField_of_plain rfl] at he
    cases he
    exact htype
  refine ⟨e, a, l, i, j, he, ha, hl, hi, hj, hsame, ?_, ?_, hformat.mpr (by decide)⟩
  · exact (hitem.mpr nofun).trans hsame
  · exact (hother.mpr ⟨by rw [htext]; decide, nofun⟩).trans hsame

/-- The elements of an array of arrays are not described as arrays, and an array of dates has the
format of a date. -/
theorem collections_ne_elements :
    ∃ e a d i, ofField { name := "name", type := "String[]" } = .ok e ∧
      ofField { name := "names", type := "String[][]" } = .ok a ∧
      ofField { name := "days", type := "LocalDate[]" } = .ok d ∧ a.items = some i ∧
      e.type = "array" ∧ i.type = "string" ∧ d.type = "array" ∧ d.format = some "date" := by
  refine ⟨_, _, _, _, rfl, rfl, rfl, rfl, ?_⟩
  decide +kernel

end Property

end ClassSchema
