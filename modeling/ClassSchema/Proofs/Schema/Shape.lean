import ClassSchema.Proofs.Schema.Bounds

/-!
# The shape of a property

The type of a property and its nested properties are settled twice: by a table of base types, and by
three questions that take the text of the declared type apart anew. The questions leave no gap and
do not overlap. A known base type that is neither an array nor a map has a type without nested
properties in the table, and every other type is caught by one of the questions. So an array has the
property of its elements, an object has either the properties of its values or no properties at
all, and no other property has anything nested.

Annotations come afterwards. What one of them can add is said once, `Property.Constrained`; all
of it leaves the type and the nested properties as they are, and the bounds of a length are added to
strings only.
-/

namespace ClassSchema

/-! ## What an annotation adds -/

namespace Property

variable {a : AnnotationRecord} {p q : Property}

/-- What adding the constraint of an annotation can come to. -/
inductive Constrained (a : AnnotationRecord) (p : Property) : Property → Prop
  | length {low high : Option Number} {minLength maxLength : Option Int}
    (name_mem : a.name ∈ ["Size", "Length"]) (type_eq : p.type = "string")
    (low_eq : a.number? "min" = .ok low) (high_eq : a.number? "max" = .ok high)
    (minLength_eq : integerOf low = .ok minLength) (maxLength_eq : integerOf high = .ok maxLength) :
    Constrained a p
      { p with minLength := minLength.or p.minLength, maxLength := maxLength.or p.maxLength }
  | noLength (name_mem : a.name ∈ ["Size", "Length"]) (type_ne : p.type ≠ "string") :
    Constrained a p p
  | minimum {value : Option Number} (name_mem : a.name ∈ ["Min", "DecimalMin"])
    (value_eq : a.number? "value" = .ok value) :
    Constrained a p { p with minimum := value.or p.minimum }
  | maximum {value : Option Number} (name_mem : a.name ∈ ["Max", "DecimalMax"])
    (value_eq : a.number? "value" = .ok value) :
    Constrained a p { p with maximum := value.or p.maximum }
  | pattern (name_eq : a.name = "Pattern") :
    Constrained a p { p with pattern := (nonEmpty? (a.text? "regexp")).or p.pattern }
  | unrelated (length_not_mem : a.name ∉ ["Size", "Length"])
    (minimum_not_mem : a.name ∉ ["Min", "DecimalMin"])
    (maximum_not_mem : a.name ∉ ["Max", "DecimalMax"]) :
    Constrained a p p

private theorem constrained_of_constrainLength (hname : a.name ∈ ["Size", "Length"])
    (h : constrainLength a p = .ok q) : Constrained a p q := by
  unfold constrainLength at h
  by_cases htype : p.type = "string"
  · rw [if_pos htype] at h
    simp only [bind_eq_ok_iff, numberOf_eq_ok_iff] at h
    obtain ⟨low, hlow, high, hhigh, minLength, hmin, maxLength, hmax, h⟩ := h
    cases h
    exact .length hname htype hlow hhigh hmin hmax
  · rw [if_neg htype] at h
    cases h
    exact .noLength hname htype

theorem constrained_of_constrain (h : constrain p a = .ok q) : Constrained a p q := by
  simp only [constrain, List.contains_iff_mem] at h
  by_cases hlength : a.name ∈ ["Size", "Length"]
  · rw [if_pos hlength] at h
    exact constrained_of_constrainLength hlength h
  · rw [if_neg hlength] at h
    by_cases hmin : a.name ∈ ["Min", "DecimalMin"]
    · rw [if_pos hmin] at h
      obtain ⟨value, hvalue, h⟩ := bind_eq_ok_iff.mp h
      cases h
      exact .minimum hmin (numberOf_eq_ok_iff.mp hvalue)
    · rw [if_neg hmin] at h
      by_cases hmax : a.name ∈ ["Max", "DecimalMax"]
      · rw [if_pos hmax] at h
        obtain ⟨value, hvalue, h⟩ := bind_eq_ok_iff.mp h
        cases h
        exact .maximum hmax (numberOf_eq_ok_iff.mp hvalue)
      · rw [if_neg hmax] at h
        by_cases hpattern : a.name = "Pattern"
        · rw [if_pos hpattern] at h
          cases h
          exact .pattern hpattern
        · rw [if_neg hpattern] at h
          cases h
          exact .unrelated hlength hmin hmax

/-- What every annotation keeps is kept by all annotations of a field. -/
theorem foldlM_constrain_induction {P : Property → Prop} {annotations : List AnnotationRecord}
    (hstep : ∀ a ∈ annotations, ∀ p q, Constrained a p q → P p → P q)
    (h : annotations.foldlM constrain p = .ok q) (hp : P p) : P q := by
  induction annotations generalizing p with
  | nil =>
    cases h
    exact hp
  | cons a annotations ih =>
    rw [List.foldlM_cons] at h
    obtain ⟨r, hr, hrest⟩ := bind_eq_ok_iff.mp h
    have hfirst := hstep a List.mem_cons_self p r (constrained_of_constrain hr) hp
    exact ih (fun b hb ↦ hstep b (List.mem_cons_of_mem a hb)) hrest hfirst

end Property

/-! ## Base types -/

namespace BaseType

variable {base type : String}

theorem isKnown_iff : isKnown base = true ↔ ∃ type, Assoc.get? knownTypes base = some type := by
  rw [isKnown, Assoc.has_iff_mem_keys]
  generalize knownTypes = table
  induction table with
  | nil => simp [Assoc.keys, Assoc.get?]
  | cons entry rest ih =>
    obtain ⟨k, v⟩ := entry
    by_cases hk : k = base
    · simp [Assoc.keys, Assoc.get?, hk]
    · simpa [Assoc.keys, Assoc.get?, hk, Ne.symm hk] using ih

theorem isKnownAs_iff (h : isKnown base = true) :
    isKnownAs type base = true ↔ schemaType base = type := by
  obtain ⟨known, hknown⟩ := isKnown_iff.mp h
  rw [isKnownAs, schemaType, hknown]
  simp

end BaseType

/-! ## Shapes -/

namespace Property

/-- The property has a type and a description and says nothing else. -/
def IsFlat (p : Property) : Prop := p = { type := p.type, description := p.description }

theorem isFlat_nested (type : Option String) (ending fallback : String) :
    (nested type ending fallback).IsFlat := by
  unfold nested
  split
  · rfl
  · dsimp only
    split <;> rfl

/-- Whether there are properties of elements, properties under names and properties of values. -/
def nestedParts (p : Property) : List Bool :=
  [p.items.isSome, p.properties.isSome, p.additionalProperties.isSome]

/-- The nested properties and the bounds of a property are those that its type can have. -/
structure WellShaped (p : Property) : Prop where
  /-- The arrays are the properties with elements. -/
  array_iff : p.type = "array" ↔ p.items.isSome = true
  /-- An array or an object has one sort of nested properties, and nothing else has any. -/
  count_nestedParts :
    p.nestedParts.count true = if p.type = "array" ∨ p.type = "object" then 1 else 0
  /-- No property is listed under a name. -/
  properties_eq_nil : ∀ table, p.properties = some table → table = []
  /-- Elements are not taken further apart. -/
  items_isFlat : ∀ item, p.items = some item → item.IsFlat
  /-- Neither are the values of a map. -/
  additionalProperties_isFlat : ∀ value, p.additionalProperties = some value → value.IsFlat
  /-- Only strings have a length. -/
  type_of_length : p.minLength.isSome = true ∨ p.maxLength.isSome = true → p.type = "string"

/-- The declared type settles the shape. -/
theorem wellShaped_ofType (f : FieldRecord) : (ofType f).WellShaped := by
  unfold ofType
  dsimp only
  by_cases harray : DeclaredType.isArray f.type = true
  · rw [if_pos harray]
    constructor <;> simp [nestedParts, isFlat_nested]
  · rw [if_neg harray]
    by_cases hmap : DeclaredType.isMap f.type = true
    · rw [if_pos hmap]
      constructor <;> simp [nestedParts, isFlat_nested]
    · rw [if_neg hmap]
      by_cases hknown : BaseType.isKnown (DeclaredType.base f.type) = true
      · -- what is known and neither an array nor a map has a type without nested properties
        have hbrackets : DeclaredType.endsInBrackets f.type = false := by
          simp_all [DeclaredType.isArray]
        have hnoArray : BaseType.schemaType (DeclaredType.base f.type) ≠ "array" := by
          rw [Ne, ← BaseType.isKnownAs_iff hknown]
          simp_all [DeclaredType.isArray]
        have hnoObject : BaseType.schemaType (DeclaredType.base f.type) ≠ "object" := by
          rw [Ne, ← BaseType.isKnownAs_iff hknown]
          simp_all [DeclaredType.isMap]
        rw [if_neg (by simp [hknown])]
        constructor <;> simp [nestedParts, hnoArray, hnoObject]
      · rw [if_pos (by simp [hknown])]
        constructor <;> simp [nestedParts]

theorem WellShaped.constrained {a : AnnotationRecord} {p q : Property} (hp : p.WellShaped)
    (h : Constrained a p q) : q.WellShaped := by
  cases h with
  | length _ htype => exact { hp with type_of_length := fun _ ↦ htype }
  | noLength => exact hp
  | minimum => exact { hp with }
  | maximum => exact { hp with }
  | pattern => exact { hp with }
  | unrelated => exact hp

/-- **The property of a field is well shaped**, whatever its type and its annotations are. -/
theorem wellShaped_of_ofField {f : FieldRecord} {p : Property} (h : ofField f = .ok p) :
    p.WellShaped :=
  foldlM_constrain_induction (fun _ _ _ _ hstep hp ↦ hp.constrained hstep) h (wellShaped_ofType f)

/-- A list of strings has elements that are strings, and no length itself. -/
theorem wellShaped_listOfStrings :
    let size : AnnotationRecord := { name := "Size", arguments := [("max", .number (.int 3))] }
    let field : FieldRecord :=
      { name := "tags", type := "java.util.List< String >", annotations := [size] }
    ∃ p, ofField field = .ok p ∧ p.type = "array" ∧ p.items.map (·.type) = some "string" ∧
      p.maxLength = none ∧ p.WellShaped := by
  intro size field
  have hp : (ofField field).toOption.map
      (fun p ↦ (p.type, p.items.map (·.type), p.maxLength)) =
        some ("array", some "string", none) := by
    decide +kernel
  cases h : ofField field with
  | error fault =>
    rw [h] at hp
    cases hp
  | ok p =>
    rw [h] at hp
    obtain ⟨htype, hrest⟩ := Prod.mk.inj (Option.some.inj hp)
    obtain ⟨hitems, hlength⟩ := Prod.mk.inj hrest
    exact ⟨p, rfl, htype, hitems, hlength, wellShaped_of_ofField h⟩

end Property

end ClassSchema
