import ClassSchema.Record.Basic
import ClassSchema.Record.Required
import ClassSchema.Schema.Basic
import ClassSchema.Schema.DeclaredType

/-!
# From records to schemas

Every field of a record that takes part becomes a property under its name, or under the name that an
annotation gives it. Of two fields of one name the later one counts, in the place of the earlier.
The type of the property follows from the declared type; a type that is not known is a reference to
another entity and becomes an empty object. Annotations add bounds, a pattern and a format.

A conversion fails only where a bound is no integer of a size that can be read.
-/

namespace ClassSchema

/-- Why a record has no schema. -/
inductive ConversionFault
  | longNumeral (fault : Numeral.TooLong)
  | noInteger (fault : Double.IntegerFault)
deriving DecidableEq

/-- The wording of a failed conversion. -/
def ConversionFault.message : ConversionFault → String
  | longNumeral fault => fault.message
  | noInteger fault => fault.message

/-! ## Tables -/

/-- The formats of the base types that have one. -/
def typeFormats : List (String × String) :=
  [("Date", "date-time"), ("LocalDate", "date"), ("LocalDateTime", "date-time"),
   ("LocalTime", "time"), ("Instant", "date-time"), ("ZonedDateTime", "date-time"),
   ("OffsetDateTime", "date-time"), ("BigDecimal", "decimal"), ("BigInteger", "int64")]

/-- The descriptions of fields with common names. -/
def fieldDescriptions : List (String × String) :=
  [("id", "ID"), ("name", "Name"), ("username", "Username"), ("email", "Email address"),
   ("phone", "Phone number"), ("age", "Age"), ("gender", "Gender"), ("address", "Address"),
   ("createTime", "Creation time"), ("updateTime", "Last update time"), ("status", "Status"),
   ("enabled", "Whether enabled"), ("deleted", "Whether deleted"), ("remark", "Remark"),
   ("description", "Description")]

/-- A text that says something: an empty one does not. -/
def nonEmpty? (text : Option String) : Option String :=
  text.filter (!·.isEmpty)

namespace FieldRecord

/-- The name of the property of a field. -/
def propertyName (f : FieldRecord) : String :=
  (nonEmpty? ((f.find? "JsonProperty").bind (·.text? "value"))).getD f.name

/-- What a field is described by when its type is known. -/
def plainDescription (f : FieldRecord) : String :=
  ((nonEmpty? f.comment).or (Assoc.get? fieldDescriptions f.name)).getD f.name

/-- The description of the property of a field with a given base type. -/
def description (f : FieldRecord) (base : String) : String :=
  if f.has "EnumDescMapping" then "enum: " ++ f.plainDescription
  else if !BaseType.isKnown base then "entity: " ++ base
  else f.plainDescription

/-- The format that an annotation asks for. -/
def annotatedFormat? (a : AnnotationRecord) : Option String :=
  if a.name = "JsonFormat" then
    match a.text? "pattern" with
    | some pattern =>
      if Required.occursIn "yyyy-MM-dd HH:mm:ss".toList pattern.toList then some "date-time"
      else if Required.occursIn "yyyy-MM-dd".toList pattern.toList then some "date"
      else none
    | none => none
  else if a.name = "Email" then some "email"
  else none

/-- The format of the property of a field with a given base type. -/
def format? (f : FieldRecord) (base : String) : Option String :=
  (f.annotations.findSome? annotatedFormat?).or (Assoc.get? typeFormats base)

end FieldRecord

namespace Property

/-- The property of an element of a collection or a value of a map. It is not taken further apart:
a known type keeps its text in the description. -/
def nested (type : Option String) (ending fallback : String) : Property :=
  match type with
  | none => { type := "string", description := some fallback }
  | some type =>
    let base := DeclaredType.base type
    if BaseType.isKnown base then
      { type := BaseType.schemaType base, description := some (type ++ ending) }
    else { type := "object", description := some ("entity: " ++ base) }

/-- The property of a field before its annotations add constraints. -/
def ofType (f : FieldRecord) : Property :=
  let base := DeclaredType.base f.type
  let plain : Property :=
    { type := BaseType.schemaType base
      description := some (f.description base)
      format := f.format? base
      enumValues := if BaseType.isEnum base then some (BaseType.enumValues base) else none }
  if DeclaredType.isArray f.type then
    { plain with
      type := "array"
      items := some (nested (DeclaredType.element? f.type) " item" "array item") }
  else if DeclaredType.isMap f.type then
    { plain with
      type := "object"
      additionalProperties := some (nested (DeclaredType.mapValue? f.type) " value" "map value") }
  else if !BaseType.isKnown base then { plain with type := "object", properties := some [] }
  else plain

/-- The number of an argument of an annotation. -/
def numberOf (a : AnnotationRecord) (key : String) :
    Except ConversionFault (Option Number) :=
  match a.number? key with
  | .ok n => .ok n
  | .error fault => .error (.longNumeral fault)

/-- The integer part of a bound, if there is a bound. -/
def integerOf : Option Number → Except ConversionFault (Option Int)
  | none => .ok none
  | some n =>
    match n.toInt with
    | .ok i => .ok (some i)
    | .error fault => .error (.noInteger fault)

/-- Adds the bounds of a length to a string; other properties have none. -/
def constrainLength (a : AnnotationRecord) (p : Property) : Except ConversionFault Property := do
  if p.type = "string" then
    let low ← numberOf a "min"
    let high ← numberOf a "max"
    let low ← integerOf low
    let high ← integerOf high
    return { p with minLength := low.or p.minLength, maxLength := high.or p.maxLength }
  else return p

/-- Adds the constraint of an annotation. -/
def constrain (p : Property) (a : AnnotationRecord) : Except ConversionFault Property := do
  if ["Size", "Length"].contains a.name then constrainLength a p
  else if ["Min", "DecimalMin"].contains a.name then
    let value ← numberOf a "value"
    return { p with minimum := value.or p.minimum }
  else if ["Max", "DecimalMax"].contains a.name then
    let value ← numberOf a "value"
    return { p with maximum := value.or p.maximum }
  else if a.name = "Pattern" then
    return { p with pattern := (nonEmpty? (a.text? "regexp")).or p.pattern }
  else return p

/-- The property of a field. -/
def ofField (f : FieldRecord) : Except ConversionFault Property :=
  f.annotations.foldlM constrain (ofType f)

end Property

namespace Schema

/-- Whether a field takes part in a schema. -/
def includes (options : Options) (f : FieldRecord) : Bool :=
  !f.has "JsonIgnore" && (options.includePrivate || !f.isPrivate)

/-- The description of a class. -/
def classDescription (c : ClassRecord) : String :=
  (nonEmpty? c.classComment).getD (c.className ++ " entity")

/-- The name and the property of a field. -/
def entryOf (f : FieldRecord) : Except ConversionFault (String × Property) :=
  match Property.ofField f with
  | .ok p => .ok (f.propertyName, p)
  | .error fault => .error fault

/-- The schema of a class. -/
def ofRecord (options : Options) (c : ClassRecord) : Except ConversionFault Schema := do
  let fields := c.fields.filter (includes options)
  let entries ← fields.mapM entryOf
  return {
    type := "object"
    properties := Assoc.ofEntries entries
    required := ((fields.filter (·.isRequired)).map (·.propertyName)).eraseDups
    description := some (classDescription c) }

end Schema

end ClassSchema
