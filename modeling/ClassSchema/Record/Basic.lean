import ClassSchema.Declaration.Argument
import ClassSchema.Json.Basic

/-!
# Class records

What is extracted of a class: its fields with their types, comments and annotations. A record no
longer knows where in the file anything stood, and its comments are prose without delimiters.
-/

namespace ClassSchema

/-- An annotation with its arguments. -/
structure AnnotationRecord where
  name : String
  arguments : Assoc Argument := []
deriving DecidableEq

namespace AnnotationRecord

/-- The record of an annotation of a declaration. -/
def ofUse (use : AnnotationUse) : AnnotationRecord := ⟨use.name, use.arguments⟩

/-- Whether there is an argument under a key. -/
def has (a : AnnotationRecord) (key : String) : Bool := a.arguments.has key

/-- The text of the argument under a key. -/
def text? (a : AnnotationRecord) (key : String) : Option String :=
  (a.arguments.get? key).map (·.asText)

/-- The number of the argument under a key, if it has one. -/
def number? (a : AnnotationRecord) (key : String) :
    Except Numeral.TooLong (Option Number) :=
  match a.arguments.get? key with
  | some argument => argument.asNumber
  | none => .ok none

/-- An argument as a plain value; a path becomes its text. -/
def argumentJson : Argument → Json
  | .text s => .text s
  | .number n => .number n
  | .flag b => .bool b
  | .path s => .text s

/-- The JSON form of an annotation. -/
def toJson (a : AnnotationRecord) : Json :=
  .table [("name", .text a.name),
    ("parameters", .table (a.arguments.map fun (key, value) ↦ (key, argumentJson value)))]

end AnnotationRecord

/-- A field of a class. -/
structure FieldRecord where
  name : String
  type : String
  comment : Option String := none
  isPrivate : Bool := false
  isRequired : Bool := false
  annotations : List AnnotationRecord := []
  defaultValue : Option String := none
deriving DecidableEq

namespace FieldRecord

/-- The first annotation of a name. -/
def find? (f : FieldRecord) (name : String) : Option AnnotationRecord :=
  f.annotations.find? (·.name = name)

/-- Whether the field has an annotation of a name. -/
def has (f : FieldRecord) (name : String) : Bool := (f.find? name).isSome

/-- The JSON form of a field. -/
def toJson (f : FieldRecord) : Json :=
  .table ([("name", .text f.name), ("type", .text f.type), ("isPrivate", .bool f.isPrivate),
      ("isRequired", .bool f.isRequired),
      ("annotations", .list (f.annotations.map (·.toJson)))]
    ++ Json.optional "comment" .text f.comment
    ++ Json.optional "defaultValue" .text f.defaultValue)

end FieldRecord

/-- A class. -/
structure ClassRecord where
  className : String
  classComment : Option String := none
  fields : List FieldRecord := []
  annotations : List AnnotationRecord := []
deriving DecidableEq

namespace ClassRecord

/-- The JSON form of a class; its own annotations are left out. -/
def toJson (c : ClassRecord) : Json :=
  .table ([("className", .text c.className), ("fields", .list (c.fields.map (·.toJson)))]
    ++ Json.optional "classComment" .text c.classComment)

end ClassRecord

end ClassSchema
