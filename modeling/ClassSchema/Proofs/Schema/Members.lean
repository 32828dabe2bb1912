import ClassSchema.Schema.Basic
import Mathlib.Data.List.Nodup

/-!
# The members of a property

In the JSON form of a property what is absent is left out, and nothing that is present looks like
something absent: an empty list, an empty table, an empty text and a zero are entries like any
other. `Property.Members` says of every member what stands under its key. That is all there is to
know about the form, because no key comes twice. So the form determines the property, and with it
the form of a schema determines the schema.
-/

namespace ClassSchema

/-! ## Looking up keys -/

namespace Assoc

variable {α : Type} {table : Assoc α} {key : String}

private theorem get?_cons (k : String) (v : α) (rest : Assoc α) (key : String) :
    get? ((k, v) :: rest) key = if k = key then some v else get? rest key := rfl

theorem get?_append (front back : Assoc α) (key : String) :
    get? (front ++ back) key = (get? front key).or (get? back key) := by
  induction front with
  | nil => rfl
  | cons entry front ih =>
    obtain ⟨k, v⟩ := entry
    rw [List.cons_append, get?_cons, get?_cons]
    split
    · rfl
    · exact ih

end Assoc

namespace Json

theorem int_injective : Function.Injective int := fun _ _ h ↦ Number.int.inj (number.inj h)

theorem texts_injective : Function.Injective texts := fun _ _ h ↦
  List.map_injective_iff.mpr (fun _ _ ↦ text.inj) (list.inj h)

theorem forall_mem_optional {α : Type} {key : String} {form : α → Json} {value : Option α}
    {P : String × Json → Prop} :
    (∀ entry ∈ optional key form value, P entry) ↔ ∀ x, value = some x → P (key, form x) := by
  cases value <;> simp [optional]

theorem get?_optional {α : Type} (key : String) (form : α → Json) (value : Option α)
    (k : String) :
    Assoc.get? (optional key form value) k = if key = k then value.map form else none := by
  cases value with
  | none => exact (ite_self none).symm
  | some value => rfl

end Json

namespace Property

/-- What holds of a property when it holds of the properties in it holds of all properties. -/
@[elab_as_elim]
theorem induction {P : Property → Prop}
    (step : ∀ p, (∀ q, p.items = some q → P q) →
      (∀ table, p.properties = some table → ∀ entry ∈ table, P entry.2) →
      (∀ q, p.additionalProperties = some q → P q) → P p) (p : Property) : P p := by
  refine @Property.rec P (fun part ↦ ∀ q, part = some q → P q)
    (fun part ↦ ∀ table, part = some table → ∀ entry ∈ table, P entry.2)
    (fun table ↦ ∀ entry ∈ table, P entry.2) (fun entry ↦ P entry.2) ?_ nofun ?_ nofun ?_ nofun ?_
    (fun _ _ h ↦ h) p
  · intro type description format enumValues minimum maximum minLength maxLength pattern items
      properties additionalProperties hitems hproperties hadditional
    exact step _ hitems hproperties hadditional
  · rintro q hq _ ⟨rfl⟩
    exact hq
  · rintro table htable _ ⟨rfl⟩
    exact htable
  · intro entry rest hentry hrest
    exact List.forall_mem_cons.mpr ⟨hentry, hrest⟩

/-! ## What stands under the keys -/

theorem tableJson_eq_map (table : List (String × Property)) :
    tableJson table = table.map fun entry ↦ (entry.1, entry.2.toJson) := by
  induction table with
  | nil => rfl
  | cons entry rest ih => rw [tableJson, ih, List.map_cons]

/-- The entries of the JSON form of a property. -/
def entries (p : Property) : List (String × Json) :=
  scalarEntries p ++ nestedEntry "items" p.items ++ tableEntry p.properties
    ++ nestedEntry "additionalProperties" p.additionalProperties

theorem toJson_eq (p : Property) : p.toJson = .table p.entries := by
  cases p
  rw [toJson]
  rfl

private theorem forall_mem_nestedEntry {key : String} {part : Option Property}
    {P : String × Json → Prop} :
    (∀ entry ∈ nestedEntry key part, P entry) ↔ ∀ q, part = some q → P (key, q.toJson) := by
  cases part <;> simp [nestedEntry]

private theorem forall_mem_tableEntry {part : Option (List (String × Property))}
    {P : String × Json → Prop} :
    (∀ entry ∈ tableEntry part, P entry) ↔
      ∀ table, part = some table → P ("properties", .table (tableJson table)) := by
  cases part <;> simp [tableEntry]

/-- A statement about all entries of a property is one about each of its members. -/
theorem forall_mem_entries {p : Property} {P : String × Json → Prop} :
    (∀ entry ∈ p.entries, P entry) ↔
      P ("type", .text p.type) ∧ (∀ t, p.description = some t → P ("description", .text t)) ∧
      (∀ t, p.format = some t → P ("format", .text t)) ∧
      (∀ ts, p.enumValues = some ts → P ("enum", .texts ts)) ∧
      (∀ n, p.minimum = some n → P ("minimum", .number n)) ∧
      (∀ n, p.maximum = some n → P ("maximum", .number n)) ∧
      (∀ n, p.minLength = some n → P ("minLength", .int n)) ∧
      (∀ n, p.maxLength = some n → P ("maxLength", .int n)) ∧
      (∀ t, p.pattern = some t → P ("pattern", .text t)) ∧
      (∀ q, p.items = some q → P ("items", q.toJson)) ∧
      (∀ table, p.properties = some table → P ("properties", .table (tableJson table))) ∧
      (∀ q, p.additionalProperties = some q → P ("additionalProperties", q.toJson)) := by
  simp only [entries, scalarEntries, List.cons_append, List.forall_mem_cons, List.forall_mem_append,
    Json.forall_mem_optional, forall_mem_nestedEntry, forall_mem_tableEntry, and_assoc]

theorem get?_nestedEntry (key : String) (part : Option Property) (k : String) :
    Assoc.get? (nestedEntry key part) k = if key = k then part.map toJson else none := by
  cases part with
  | none => exact (ite_self none).symm
  | some p => rfl

theorem get?_tableEntry (part : Option (List (String × Property))) (k : String) :
    Assoc.get? (tableEntry part) k =
      if "properties" = k then part.map (.table <| tableJson ·) else none := by
  cases part with
  | none => exact (ite_self none).symm
  | some table => rfl

/-- The members of a property as they stand under the keys of a JSON value. -/
structure Members (p : Property) (j : Json) : Prop where
  type : j.get? "type" = some (.text p.type)
  description : j.get? "description" = p.description.map .text
  format : j.get? "format" = p.format.map .text
  enumValues : j.get? "enum" = p.enumValues.map .texts
  minimum : j.get? "minimum" = p.minimum.map .number
  maximum : j.get? "maximum" = p.maximum.map .number
  minLength : j.get? "minLength" = p.minLength.map .int
  maxLength : j.get? "maxLength" = p.maxLength.map .int
  pattern : j.get? "pattern" = p.pattern.map .text
  items : j.get? "items" = p.items.map toJson
  properties : j.get? "properties" = p.properties.map (.table <| tableJson ·)
  additionalProperties : j.get? "additionalProperties" = p.additionalProperties.map toJson

theorem members_toJson (p : Property) : p.Members p.toJson := by
  rw [toJson_eq]
  constructor <;>
    simp [Json.get?, entries, scalarEntries, Assoc.get?_cons, Assoc.get?_append, Json.get?_optional,
      get?_nestedEntry, get?_tableEntry]

theorem get?_required_toJson (p : Property) : p.toJson.get? "required" = none := by
  rw [toJson_eq]
  simp [Json.get?, entries, scalarEntries, Assoc.get?_cons, Assoc.get?_append, Json.get?_optional,
    get?_nestedEntry, get?_tableEntry]

/-! ## The form determines the property -/

/-- Tables with the same form are the same if the properties in the first one are determined by
their forms. -/
theorem eq_of_tableJson_eq {table other : List (String × Property)}
    (hdetermined : ∀ entry ∈ table, ∀ q, entry.2.toJson = q.toJson → entry.2 = q)
    (h : tableJson table = tableJson other) : table = other := by
  induction table generalizing other with
  | nil =>
    cases other with
    | nil => rfl
    | cons entry rest => cases h
  | cons entry rest ih =>
    cases other with
    | nil => cases h
    | cons entry' rest' =>
      rw [List.forall_mem_cons] at hdetermined
      obtain ⟨hhead, hrest⟩ := List.cons.inj h
      obtain ⟨hname, hform⟩ := Prod.mk.inj hhead
      rw [ih hdetermined.2 hrest, Prod.ext hname (hdetermined.1 _ hform)]

theorem eq_of_map_eq {α β : Type} {f : α → β} {a b : Option α}
    (hdetermined : ∀ x, a = some x → ∀ y, f x = f y → x = y) (h : a.map f = b.map f) : a = b := by
  cases a with
  | none =>
    cases b with
    | none => rfl
    | some y => cases h
  | some x =>
    cases b with
    | none => cases h
    | some y => rw [hdetermined x rfl y (Option.some.inj h)]

/-- **The form of a property determines it**, at every depth: what is absent and what is empty never
look the same. -/
theorem toJson_injective : Function.Injective toJson := by
  intro p q h
  induction p using induction generalizing q with
  | step p hitems hproperties hadditional =>
    have hp := p.members_toJson
    have hq := q.members_toJson
    rw [← h] at hq
    -- a property is made of its members, and each of them is told by the form
    have type_eq := Json.text.inj (Option.some.inj (hp.type.symm.trans hq.type))
    have description_eq := eq_of_map_eq (fun _ _ _ ↦ Json.text.inj)
      (hp.description.symm.trans hq.description)
    have format_eq := eq_of_map_eq (fun _ _ _ ↦ Json.text.inj) (hp.format.symm.trans hq.format)
    have enumValues_eq := eq_of_map_eq (fun _ _ _ ↦ @Json.texts_injective _ _)
      (hp.enumValues.symm.trans hq.enumValues)
    have minimum_eq := eq_of_map_eq (fun _ _ _ ↦ Json.number.inj)
      (hp.minimum.symm.trans hq.minimum)
    have maximum_eq := eq_of_map_eq (fun _ _ _ ↦ Json.number.inj)
      (hp.maximum.symm.trans hq.maximum)
    have minLength_eq := eq_of_map_eq (fun _ _ _ ↦ @Json.int_injective _ _)
      (hp.minLength.symm.trans hq.minLength)
    have maxLength_eq := eq_of_map_eq (fun _ _ _ ↦ @Json.int_injective _ _)
      (hp.maxLength.symm.trans hq.maxLength)
    have pattern_eq := eq_of_map_eq (fun _ _ _ ↦ Json.text.inj) (hp.pattern.symm.trans hq.pattern)
    have items_eq := eq_of_map_eq (fun r hr _ ↦ @hitems r hr _) (hp.items.symm.trans hq.items)
    have properties_eq := eq_of_map_eq
      (fun table htable _ hsame ↦ eq_of_tableJson_eq (fun entry hentry _ ↦
        @hproperties table htable entry hentry _) (Json.table.inj hsame))
      (hp.properties.symm.trans hq.properties)
    have additionalProperties_eq := eq_of_map_eq (fun r hr _ ↦ @hadditional r hr _)
      (hp.additionalProperties.symm.trans hq.additionalProperties)
    cases p
    cases q
    simp_all only

end Property

/-! ## Schemas -/

namespace Schema

/-- The members of a schema as they stand under the keys of a JSON value. -/
structure Members (s : Schema) (j : Json) : Prop where
  type : j.get? "type" = some (.text s.type)
  properties : j.get? "properties" = some (.table (Property.tableJson s.properties))
  required : j.get? "required" = some (.texts s.required)
  description : j.get? "description" = s.description.map .text

theorem members_toJson (s : Schema) : s.Members s.toJson := by
  rw [toJson]
  constructor <;> simp [Json.get?, Assoc.get?_cons, Json.get?_optional]

theorem get?_toJson_of_not_mem (s : Schema) {key : String}
    (h : key ∉ ["type", "properties", "required", "description"]) : s.toJson.get? key = none := by
  simp only [List.mem_cons, List.not_mem_nil, or_false, not_or] at h
  simp [toJson, Json.get?, Assoc.get?_cons, Json.get?_optional, Ne.symm h.1, Ne.symm h.2.1,
    Ne.symm h.2.2.1, Ne.symm h.2.2.2]

/-- The form of a schema determines it. -/
theorem toJson_injective : Function.Injective toJson := by
  intro s t h
  have hs := s.members_toJson
  have ht := t.members_toJson
  rw [← h] at ht
  have type_eq := Json.text.inj (Option.some.inj (hs.type.symm.trans ht.type))
  have properties_eq := Property.eq_of_tableJson_eq
    (fun _ _ _ hsame ↦ Property.toJson_injective hsame)
    (Json.table.inj (Option.some.inj (hs.properties.symm.trans ht.properties)))
  have required_eq := Json.texts_injective
    (Option.some.inj (hs.required.symm.trans ht.required))
  have description_eq := Property.eq_of_map_eq (fun _ _ _ ↦ Json.text.inj)
    (hs.description.symm.trans ht.description)
  cases s
  cases t
  simp_all only

end Schema

end ClassSchema
