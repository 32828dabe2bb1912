import ClassSchema.Options
import ClassSchema.Pattern.Validity
import ClassSchema.Schema.Basic

/-!
# Valid schemas

A schema is checked against the rules of the schema dialect: types are among the seven JSON types,
lengths are not negative, patterns are regular expressions, and the required names are distinct. The
first violation in reading order is reported.
-/

namespace ClassSchema

/-- A rule of the schema dialect that is broken. A pattern that asks for too many repetitions, for
too wide a look-behind, or for flags that exclude each other, cannot even be judged. -/
inductive Violation
  | negative (length : Int)
  | unknownType (type : String)
  | repeatedName (names : List String)
  | noPattern (pattern : String)
  | unjudged (fault : Pattern.Fault)
deriving DecidableEq

/-- The wording of a fault of a pattern. -/
def Pattern.Fault.message : Pattern.Fault → String
  | malformed => "malformed pattern"
  | repetitionTooLarge => "the repetition number is too large"
  | numeralTooLong fault => fault.message
  | conflictingFlags => "ASCII and UNICODE flags are incompatible"
  | lookBehindTooWide => "invalid SRE code"

/-- The wording of a violation. -/
def Violation.message : Violation → String
  | negative length => s!"{length} is less than the minimum of 0"
  | unknownType type => s!"{Text.quoted type} is not valid under any of the given schemas"
  | repeatedName names => s!"{(Json.texts names).display} has non-unique elements"
  | noPattern pattern => s!"{Text.quoted pattern} is not a 'regex'"
  | unjudged fault => fault.message

namespace Violation

/-- The types of the schema dialect. -/
def knownTypes : List String :=
  ["array", "boolean", "integer", "null", "number", "object", "string"]

/-- The violation of a type. -/
def ofType (type : String) : Option Violation :=
  if knownTypes.contains type then none else some (.unknownType type)

/-- The violation of a length. -/
def ofLength : Option Int → Option Violation
  | none => none
  | some n => if n < 0 then some (.negative n) else none

/-- The violation of a pattern. -/
def ofPattern : Option String → Option Violation
  | none => none
  | some pattern =>
    match Pattern.fault? pattern with
    | none => none
    | some .malformed => some (.noPattern pattern)
    | some fault => some (.unjudged fault)

/-- The violation of a list of names that have to be distinct. -/
def ofNames (names : List String) : Option Violation :=
  if names.eraseDups.length = names.length then none else some (.repeatedName names)

end Violation

namespace Property

mutual

/-- The first violation in a property. -/
def violation? : Property → Option Violation
  | ⟨type, _, _, _, _, _, minLength, maxLength, pattern, items, properties,
      additionalProperties⟩ =>
    (Violation.ofType type)
      <|> (Violation.ofLength minLength)
      <|> (Violation.ofLength maxLength)
      <|> (Violation.ofPattern pattern)
      <|> (nestedViolation? items)
      <|> (optionalViolation? properties)
      <|> (nestedViolation? additionalProperties)

/-- The first violation in a property that may be absent. -/
def nestedViolation? : Option Property → Option Violation
  | none => none
  | some p => violation? p

/-- The first violation in properties that may be absent. -/
def optionalViolation? : Option (List (String × Property)) → Option Violation
  | none => none
  | some table => tableViolation? table

/-- The first violation in properties under names. -/
def tableViolation? : List (String × Property) → Option Violation
  | [] => none
  | (_, p) :: rest => (violation? p) <|> (tableViolation? rest)

end

end Property

/-- The first violation in a schema. -/
def Schema.violation? (s : Schema) : Option Violation :=
  (Violation.ofType s.type)
    <|> (Property.tableViolation? s.properties)
    <|> (Violation.ofNames s.required)

end ClassSchema
