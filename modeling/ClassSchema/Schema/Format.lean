import ClassSchema.Json.Writer
import ClassSchema.Schema.Yaml

/-!
# The written forms of a schema

A schema is written as JSON or as YAML, the latter by a writer that is handed in. A file of either
form ends in its name.
-/

namespace ClassSchema

/-- A written form of a schema. -/
inductive SchemaFormat
  | json
  | yaml
deriving DecidableEq

namespace SchemaFormat

/-- All written forms. -/
def all : List SchemaFormat := [json, yaml]

/-- The word for a written form. -/
def text : SchemaFormat → String
  | json => "json"
  | yaml => "yaml"

/-- The written form that a word stands for. -/
def ofText? (word : String) : Option SchemaFormat := all.find? (·.text = word)

/-- The ending of the names of files in a written form. -/
def ending (f : SchemaFormat) : String := "." ++ f.text

end SchemaFormat

/-- The text of a schema in a written form. -/
def Schema.render (s : Schema) (yaml : YamlWriter) : SchemaFormat → String
  | .json => s.toJson.render
  | .yaml => yaml s.yamlPayload

end ClassSchema
