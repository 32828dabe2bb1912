import ClassSchema.Assoc
import ClassSchema.Text.Blank

/-!
# Declared types

The type of a field is opaque text such as `Map<String, List<Item>>` or `byte[]`. This module takes
from it what a schema needs: the base name without type arguments, array suffixes and package, the
type arguments at the outermost level, and from these the type of the elements of a collection and
of the values of a map.

Brackets are not assumed to match. The type arguments reach from the first opening angle bracket to
the last closing one, and a comma separates arguments where as many brackets were opened as closed.
-/

namespace ClassSchema

/-! ## Tables -/

/-- The schema types of the known base types. -/
def knownTypes : List (String × String) :=
  [("int", "integer"), ("Integer", "integer"), ("long", "integer"), ("Long", "integer"),
   ("byte", "integer"), ("Byte", "integer"), ("short", "integer"), ("Short", "integer"),
   ("float", "number"), ("Float", "number"), ("double", "number"), ("Double", "number"),
   ("boolean", "boolean"), ("Boolean", "boolean"), ("char", "string"), ("Character", "string"),
   ("String", "string"), ("BigDecimal", "string"), ("BigInteger", "string"), ("Date", "string"),
   ("LocalDate", "string"), ("LocalDateTime", "string"), ("LocalTime", "string"),
   ("Instant", "string"), ("ZonedDateTime", "string"), ("OffsetDateTime", "string"),
   ("List", "array"), ("ArrayList", "array"), ("LinkedList", "array"), ("Collection", "array"),
   ("Set", "array"), ("HashSet", "array"), ("LinkedHashSet", "array"), ("TreeSet", "array"),
   ("Map", "object"), ("HashMap", "object"), ("LinkedHashMap", "object"), ("TreeMap", "object")]

/-- The values of the enumerations that are known by name. -/
def knownEnums : List (String × List String) :=
  [("Gender", ["MALE", "FEMALE"]), ("Status", ["ACTIVE", "INACTIVE"]),
   ("OrderStatus", ["PENDING", "PAID", "SHIPPED", "COMPLETED", "CANCELLED"])]

/-- The endings of a name that make a type an enumeration. -/
def enumEndings : List String := ["Status", "Type", "Enum"]

/-- The values of an enumeration that is not known by name. -/
def defaultEnumValues : List String := ["VALUE1", "VALUE2"]

namespace BaseType

/-- The schema type of a base type; an unknown one is an object. -/
def schemaType (base : String) : String := (Assoc.get? knownTypes base).getD "object"

/-- Whether a base type is in the table of known types. -/
def isKnown (base : String) : Bool := Assoc.has knownTypes base

/-- Whether a base type is a known type of a given schema type. -/
def isKnownAs (type base : String) : Bool := Assoc.get? knownTypes base = some type

/-- Whether a base type is taken for an enumeration. -/
def isEnum (base : String) : Bool :=
  Assoc.has knownEnums base || enumEndings.any (·.toList.isSuffixOf base.toList)

/-- The values of an enumeration. -/
def enumValues (base : String) : List String :=
  (Assoc.get? knownEnums base).getD defaultEnumValues

end BaseType

/-! ## Taking a type apart -/

namespace DeclaredType

/-- Whether a character occurs in a text. -/
def holds (c : Char) (cs : List Char) : Bool := cs.any (· = c)

/-- The part in front of the last `c`; the text has to hold one. -/
def beforeLast (c : Char) (cs : List Char) : List Char :=
  ((cs.reverse.dropWhile (· ≠ c)).drop 1).reverse

/-- The part behind the last `c`, or all of a text without one. -/
def afterLast (c : Char) (cs : List Char) : List Char :=
  (cs.reverse.takeWhile (· ≠ c)).reverse

/-- The part in front of the first opening angle bracket. -/
def beforeArguments (cs : List Char) : List Char := cs.takeWhile (· ≠ '<')

/-- The part behind the first opening angle bracket. -/
def fromArguments (cs : List Char) : List Char := (cs.dropWhile (· ≠ '<')).drop 1

/-- A type without its type arguments. Without a closing bracket they reach to the end. -/
def dropArguments (cs : List Char) : List Char :=
  let inner := fromArguments cs
  beforeArguments cs ++ if holds '>' inner then afterLast '>' inner else []

/-- A text without one `[]` at its end, and without the blanks in front of that. -/
def dropBrackets? (cs : List Char) : Option (List Char) :=
  match cs.reverse with
  | ']' :: '[' :: rest => some (rest.dropWhile Text.isBlank).reverse
  | _ => none

/-- A text without three dots at its end, and without the blanks in front of them. -/
def dropDots (cs : List Char) : List Char :=
  match cs.reverse with
  | '.' :: '.' :: '.' :: rest => (rest.dropWhile Text.isBlank).reverse
  | _ => cs

private theorem length_dropBrackets?_lt {cs rest : List Char} (h : dropBrackets? cs = some rest) :
    rest.length < cs.length := by
  unfold dropBrackets? at h
  split at h
  · rename_i tail hr
    have hl : cs.length = tail.length + 2 := by
      rw [← List.length_reverse, hr]; rfl
    have hd : (tail.dropWhile Text.isBlank).length ≤ tail.length :=
      (List.dropWhile_sublist _).length_le
    cases h
    rw [List.length_reverse]
    omega
  · cases h

/-- A text without any `[]` at its end. -/
def dropAllBrackets (cs : List Char) : List Char :=
  match _h : dropBrackets? cs with
  | some rest => dropAllBrackets rest
  | none => cs
termination_by cs.length
decreasing_by exact length_dropBrackets?_lt _h

/-- The base name: no type arguments, no dots or brackets behind, no package in front. -/
def base (type : String) : String :=
  let text := Text.trim (dropArguments (Text.trim type.toList))
  String.ofList (afterLast '.' (dropAllBrackets (dropDots text)))

/-- The texts between the commas outside of all brackets, where `depth` brackets are open. -/
def splitArguments (depth : Int) : List Char → List (List Char)
  | [] => [[]]
  | c :: cs =>
    if c = ',' ∧ depth = 0 then [] :: splitArguments 0 cs
    else
      let depth := if c = '<' then depth + 1 else if c = '>' then depth - 1 else depth
      match splitArguments depth cs with
      | [] => [[c]]
      | piece :: rest => (c :: piece) :: rest

/-- The bound of a wildcard. The question mark is no token, so `? extends Item` is read as
`extends Item`. -/
def wildcardBound (cs : List Char) : List Char :=
  let keyword := cs.takeWhile (· ≠ ' ')
  if keyword = "extends".toList ∨ keyword = "super".toList then
    Text.trim ((cs.dropWhile (· ≠ ' ')).drop 1)
  else cs

/-- The type arguments at the outermost level; empty ones are left out. -/
def argumentTexts (cs : List Char) : List (List Char) :=
  let inner := fromArguments cs
  if holds '<' cs && holds '>' inner then
    let pieces := splitArguments 0 (beforeLast '>' inner)
    ((pieces.map Text.trim).map wildcardBound).filter (!·.isEmpty)
  else []

/-- The type arguments at the outermost level. -/
def arguments (type : String) : List String :=
  (argumentTexts type.toList).map String.ofList

/-- Whether the type ends in `[]`. -/
def endsInBrackets (type : String) : Bool := (dropBrackets? (Text.trimEnd type.toList)).isSome

/-- Whether the type is an array or one of the known collections. -/
def isArray (type : String) : Bool :=
  endsInBrackets type || BaseType.isKnownAs "array" (base type)

/-- Whether the type is one of the known maps. -/
def isMap (type : String) : Bool :=
  !endsInBrackets type && BaseType.isKnownAs "object" (base type)

/-- The type of the elements of an array, or of a collection with one type argument. -/
def element? (type : String) : Option String :=
  let text := Text.trimEnd type.toList
  match dropBrackets? text with
  | some element => some (String.ofList element)
  | none =>
    match argumentTexts text with
    | [argument] => some (String.ofList argument)
    | _ => none

/-- The type of the values of a map with two type arguments. -/
def mapValue? (type : String) : Option String :=
  match arguments type with
  | [_, value] => some value
  | _ => none

end DeclaredType

end ClassSchema
