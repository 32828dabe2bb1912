import ClassSchema.Grammar.Arguments
import ClassSchema.Grammar.TypeText

/-!
# What stands in front of a declaration

Comments, annotations and modifiers come in any order. The last comment is the one that belongs to
the declaration. Some modifiers are no reserved words; they are ordinary names unless they stand
where a modifier can stand, and never in front of a parenthesis.
-/

namespace ClassSchema

/-- The comment, the annotations and the modifiers in front of a declaration. -/
structure Prelude where
  comment : Option Token := none
  annotations : List AnnotationUse := []
  modifiers : List String := []

namespace Prelude

/-- A comment alone declares nothing. -/
def isEmpty (p : Prelude) : Bool := p.annotations.isEmpty && p.modifiers.isEmpty

/-- The modifiers that are no reserved words. -/
def contextualModifiers : List String :=
  ["abstract", "transient", "volatile", "synchronized", "native", "strictfp", "default", "sealed"]

/-- Whether the token `t`, behind which come `ts`, is a modifier. -/
def isModifier (t : Token) (ts : List Token) : Bool :=
  t.kind.isModifier
    || t.is .identifier && contextualModifiers.contains t.text && !Ahead.atMark .openParen ts

/-- Whether an annotation starts at `t`, behind which come `ts`. The sign in front of `interface`
announces the declaration of an annotation type instead. -/
def startsAnnotations (t : Token) (ts : List Token) : Bool :=
  t.isMark .atSign && Ahead.kind ts ≠ .keyword .interfaceWord

/-- Reads on, adding to what has been read so far. -/
def readFrom (source : Option (List Char)) (sofar : Prelude) (ts : List Token) :
    Reading Prelude :=
  match ts with
  | [] => .found sofar []
  | t :: rest =>
    if t.kind.isComment then readFrom source { sofar with comment := some t } rest
    else if startsAnnotations t rest then
      match _h : Arguments.use source (t :: rest) with
      | .found use more =>
        readFrom source { sofar with annotations := sofar.annotations ++ [use] } more
      | .missed cause more => .missed cause more
    else if isModifier t rest then
      readFrom source { sofar with modifiers := sofar.modifiers ++ [t.text] } rest
    else .found sofar (t :: rest)
termination_by ts.length
decreasing_by
  · simp
  · have := Arguments.length_use_rest_lt source t rest
    rw [_h] at this
    exact this
  · simp

/-- Reads the comments, annotations and modifiers at the front. -/
def read (source : Option (List Char)) (ts : List Token) : Reading Prelude := readFrom source {} ts

private theorem length_readFrom_rest_le (source : Option (List Char)) (sofar : Prelude)
    (ts : List Token) : (readFrom source sofar ts).rest.length ≤ ts.length := by
  fun_induction readFrom source sofar ts with
  | case3 sofar t rest _ _ use more h ih =>
    have := Arguments.length_use_rest_lt source t rest
    rw [h] at this
    simp only [Reading.rest_found] at this
    omega
  | case4 sofar t rest _ _ cause more h =>
    have := Arguments.length_use_rest_lt source t rest
    rw [h] at this
    simp only [Reading.rest_missed] at this ⊢
    omega
  | case1 => simp
  | case6 => simp
  | _ => simp only [List.length_cons]; omega

theorem length_read_rest_le (source : Option (List Char)) (ts : List Token) :
    (read source ts).rest.length ≤ ts.length := length_readFrom_rest_le ..

end Prelude

/-! ## Declarations that are passed over -/

/-- The declarations that are not read: interfaces, enumerations, annotation types and, inside of a
class, other classes. -/
inductive Skippable
  | interfaceType
  | enumType
  | annotationType
  | classType
deriving DecidableEq

namespace Skippable

/-- What a declaration is called in messages. -/
def text : Skippable → String
  | interfaceType => "interface"
  | enumType => "enum"
  | annotationType => "annotation type"
  | classType => "class"

/-- The declaration at the front that is to be passed over, if it is one; classes count only when
`nested`. -/
def at? (nested : Bool) (ts : List Token) : Option Skippable :=
  match Ahead.kind ts with
  | .keyword .interfaceWord => some interfaceType
  | .keyword .enumWord => some enumType
  | .keyword .classWord => if nested then some classType else none
  | .mark .atSign =>
    if Ahead.kindAt 1 ts = .keyword .interfaceWord then some annotationType else none
  | _ => none

end Skippable

end ClassSchema
