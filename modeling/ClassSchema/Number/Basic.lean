import ClassSchema.Number.Shortest

/-!
# Numbers

A number is an integer of any size or a double. The two never mix: `1` and `1.0` are different
values with different texts.
-/

namespace ClassSchema

/-- An integer or a double. -/
inductive Number
  | int (value : Int)
  | double (value : Double)
deriving DecidableEq

namespace Number

/-- The text of a number in a style of doubles; an integer is written in decimal. -/
def text (style : DecimalStyle) : Number → String
  | int n => toString n
  | double d => style.text d

/-- The integer part of a number. -/
def toInt : Number → Except Double.IntegerFault Int
  | int n => .ok n
  | double d => d.toInt

end Number

end ClassSchema
