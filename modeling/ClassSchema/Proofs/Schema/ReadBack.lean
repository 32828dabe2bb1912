import ClassSchema.Proofs.Json.RoundTrip
import ClassSchema.Proofs.Schema.Members
import ClassSchema.Schema.Format

/-!
# Schemas read back from JSON

A schema whose bounds are integers has a JSON form without doubles, so its text is read back as that
form, with the properties in their order. The form determines the schema in turn.
-/

namespace ClassSchema

namespace Json

theorem isIntegral_texts (items : List String) : IsIntegral (texts items) := by
  refine .list fun item hitem ↦ ?_
  obtain ⟨s, -, rfl⟩ := List.mem_map.mp hitem
  exact .text s

end Json

/-- A number that is an integer. -/
def Number.IsInt (n : Number) : Prop := ∃ z, n = .int z

namespace Property

/-- The bounds of a property, and of the properties in it, are integers where there are any. -/
inductive HasIntBounds : Property → Prop
  | intro {p : Property} (minimum : ∀ n, p.minimum = some n → n.IsInt)
    (maximum : ∀ n, p.maximum = some n → n.IsInt)
    (items : ∀ q, p.items = some q → HasIntBounds q)
    (properties : ∀ table, p.properties = some table → ∀ entry ∈ table, HasIntBounds entry.2)
    (additionalProperties : ∀ q, p.additionalProperties = some q → HasIntBounds q) : HasIntBounds p

theorem isIntegral_tableJson {table : List (String × Property)}
    (h : ∀ entry ∈ table, entry.2.toJson.IsIntegral) :
    (Json.table (tableJson table)).IsIntegral := by
  rw [tableJson_eq_map]
  exact .table (List.forall_mem_map.mpr h)

private theorem HasIntBounds.isIntegral {p : Property} (h : p.HasIntBounds) :
    p.toJson.IsIntegral := by
  have hnumber {n : Number} (hn : n.IsInt) : (Json.number n).IsIntegral := by
    obtain ⟨z, rfl⟩ := hn
    exact .int z
  induction h with
  | @intro p minimum maximum _ _ _ items properties additionalProperties =>
    rw [toJson_eq]
    refine .table ((forall_mem_entries (P := fun entry ↦ entry.2.IsIntegral)).mpr
      ⟨?type, ?description, ?format, ?enum, ?minimum, ?maximum, ?minLength, ?maxLength, ?pattern,
        items, ?properties, additionalProperties⟩)
    case type => exact .text _
    case description | format | pattern => exact fun t _ ↦ .text t
    case enum => exact fun ts _ ↦ Json.isIntegral_texts ts
    case minimum => exact fun n hn ↦ hnumber (minimum n hn)
    case maximum => exact fun n hn ↦ hnumber (maximum n hn)
    case minLength | maxLength => exact fun n _ ↦ .int n
    case properties => exact fun table htable ↦ isIntegral_tableJson (properties table htable)

end Property

namespace Schema

/-- The bounds in a schema are integers where there are any. -/
def HasIntBounds (s : Schema) : Prop := ∀ entry ∈ s.properties, entry.2.HasIntBounds

private theorem HasIntBounds.isIntegral {s : Schema} (h : s.HasIntBounds) :
    s.toJson.IsIntegral := by
  refine .table ?_
  simp only [List.cons_append, List.nil_append, List.forall_mem_cons, Json.forall_mem_optional]
  refine ⟨.text _, Property.isIntegral_tableJson fun entry hentry ↦ (h entry hentry).isIntegral,
    Json.isIntegral_texts _, fun t _ ↦ .text t⟩

/-- **The JSON text of a schema loses nothing.** If its bounds are integers, reading the text gives
the form of the schema, and no other schema has that form. -/
theorem read?_render_json {s : Schema} (yaml : YamlWriter) (h : s.HasIntBounds) :
    Json.read? (s.render yaml .json) = some s.toJson ∧ ∀ t : Schema, t.toJson = s.toJson → t = s :=
  ⟨Json.read?_render h.isIntegral, fun _ hsame ↦ toJson_injective hsame⟩

/-- A schema with empty members, a bound of zero, and a name that is full of escapes. -/
def ofEmptyMembers : Schema where
  properties := [("\"\\\n\x01", {
    type := "array", description := some "", enumValues := some [], minimum := some (.int 0),
    items := some { type := "integer", maximum := some (.int (-10)) }, properties := some [] })]
  description := some "用户"

theorem read?_render_json_ofEmptyMembers :
    Json.read? (ofEmptyMembers.render Json.render .json) = some ofEmptyMembers.toJson := by
  have hitems : Property.HasIntBounds { type := "integer", maximum := some (.int (-10)) } :=
    .intro nofun (by rintro _ ⟨⟩; exact ⟨-10, rfl⟩) nofun nofun nofun
  have hbounds : ofEmptyMembers.HasIntBounds := by
    intro entry hentry
    obtain rfl := List.mem_singleton.mp hentry
    refine .intro ?_ nofun ?_ ?_ nofun
    · rintro _ ⟨⟩
      exact ⟨0, rfl⟩
    · rintro _ ⟨⟩
      exact hitems
    · rintro _ ⟨⟩ _ ⟨⟩
  exact (read?_render_json Json.render hbounds).1

end Schema

end ClassSchema
