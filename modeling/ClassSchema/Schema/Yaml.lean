import ClassSchema.Schema.Basic

/-!
# Schemas as YAML

A schema is made ready for a writer of YAML, which is free to write texts as they are. So a text is
put between single quotes when it starts with `@` or `<`, ends with `>` or holds a colon. Keys are
left alone.
-/

namespace ClassSchema

namespace Yaml

/-- Whether a text has to be quoted. -/
def needsQuotes (cs : List Char) : Bool :=
  cs.head? = some '@' || cs.any (· = ':') || cs.head? = some '<' || cs.getLast? = some '>'

/-- A text between single quotes; a single quote in it is doubled. -/
def quote (cs : List Char) : List Char :=
  '\'' :: (cs.flatMap fun c ↦ if c = '\'' then ['\'', '\''] else [c]) ++ ['\'']

/-- A text, quoted if it has to be. -/
def guard (text : String) : String :=
  if needsQuotes text.toList then String.ofList (quote text.toList) else text

end Yaml

/-- A writer of YAML. -/
abbrev YamlWriter := Json → String

/-- What a writer of YAML is given of a schema. -/
def Schema.yamlPayload (s : Schema) : Json := s.toJson.mapTexts Yaml.guard

end ClassSchema
