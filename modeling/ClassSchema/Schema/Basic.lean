import ClassSchema.Json.Basic

/-!
# Schemas

The schema of a class lists its properties by name. A property has a type and, depending on it,
constraints and nested properties. What a property does not say is left out of its JSON form, which
is different from saying something empty.
-/

namespace ClassSchema

/-- A property of a schema. -/
structure Property where
  type : String
  description : Option String := none
  format : Option String := none
  enumValues : Option (List String) := none
  minimum : Option Number := none
  maximum : Option Number := none
  minLength : Option Int := none
  maxLength : Option Int := none
  pattern : Option String := none
  items : Option Property := none
  properties : Option (List (String × Property)) := none
  additionalProperties : Option Property := none

/-- The schema of a class; the properties are in order. -/
structure Schema where
  type : String := "object"
  properties : Assoc Property := []
  required : List String := []
  description : Option String := none

namespace Property

/-- The entries of a property in front of its nested properties. -/
def scalarEntries (p : Property) : List (String × Json) :=
  ("type", .text p.type)
    :: (Json.optional "description" .text p.description
      ++ Json.optional "format" .text p.format
      ++ Json.optional "enum" .texts p.enumValues
      ++ Json.optional "minimum" .number p.minimum
      ++ Json.optional "maximum" .number p.maximum
      ++ Json.optional "minLength" .int p.minLength
      ++ Json.optional "maxLength" .int p.maxLength
      ++ Json.optional "pattern" .text p.pattern)

mutual

/-- The JSON form of a property. -/
def toJson : Property → Json
  | ⟨type, description, format, enumValues, minimum, maximum, minLength, maxLength, pattern, items,
      properties, additionalProperties⟩ =>
    .table (scalarEntries ⟨type, description, format, enumValues, minimum, maximum, minLength,
        maxLength, pattern, none, none, none⟩
      ++ nestedEntry "items" items ++ tableEntry properties
      ++ nestedEntry "additionalProperties" additionalProperties)

/-- The entry of a nested property. -/
def nestedEntry (key : String) : Option Property → List (String × Json)
  | none => []
  | some p => [(key, toJson p)]

/-- The entry of nested properties under names. -/
def tableEntry : Option (List (String × Property)) → List (String × Json)
  | none => []
  | some table => [("properties", .table (tableJson table))]

/-- The JSON forms of properties under names. -/
def tableJson : List (String × Property) → List (String × Json)
  | [] => []
  | (name, p) :: rest => (name, toJson p) :: tableJson rest

end

end Property

/-- The JSON form of a schema. -/
def Schema.toJson (s : Schema) : Json :=
  .table ([("type", .text s.type), ("properties", .table (Property.tableJson s.properties)),
      ("required", .texts s.required)]
    ++ Json.optional "description" .text s.description)

end ClassSchema
