import ClassSchema.Number.Basic
import ClassSchema.Text.Blank
import ClassSchema.Text.Digit

/-!
# Numerals

The number written in a text. Blanks around it are ignored, and so is one type letter at its end
(`10L`, `1.5f`). What is left is a sign, if any, and decimal digits, which are an integer, or digits
with one point among them, which are a double; any other text is no numeral. Digits of every script
count by their value. An integer may have 4300 digits at most, leading zeros included.
-/

namespace ClassSchema.Numeral

/-- An integer of too many digits. -/
structure TooLong where
  digits : Nat
deriving DecidableEq

/-- The number of digits an integer may have. -/
def digitLimit : Nat := 4300

/-- The wording of the refusal to read a long integer. -/
def TooLong.message (fault : TooLong) : String :=
  s!"Exceeds the limit ({digitLimit} digits) for integer string conversion: value has " ++
    s!"{fault.digits} digits; use sys.set_int_max_str_digits() to increase the limit"

/-- The type letters: long, float and double. -/
def isTypeLetter (c : Char) : Bool :=
  c = 'l' || c = 'L' || c = 'f' || c = 'F' || c = 'd' || c = 'D'

/-- Drops one type letter at the end. -/
def dropTypeLetter (cs : List Char) : List Char :=
  if cs.getLast?.any isTypeLetter then cs.dropLast else cs

/-- Splits off the sign; the first component tells whether it is a minus. -/
def splitSign : List Char → Bool × List Char
  | '-' :: cs => (true, cs)
  | '+' :: cs => (false, cs)
  | cs => (false, cs)

/-- The value of a row of decimal digits. -/
def digitsValue (cs : List Char) : Nat :=
  cs.foldl (fun n c ↦ 10 * n + (Text.decimalValue? c).getD 0) 0

/-- The integer with a sign and a row of digits. -/
def readInteger (negative : Bool) (digits : List Char) : Except TooLong Int :=
  if digits.length > digitLimit then .error ⟨digits.length⟩
  else .ok (if negative then -digitsValue digits else digitsValue digits)

/-- The number written in a text, if it is a numeral. -/
def read (text : String) : Except TooLong (Option Number) :=
  let (negative, body) := splitSign (dropTypeLetter (Text.trim text.toList))
  let whole := body.takeWhile Text.isDecimal
  match body.dropWhile Text.isDecimal with
  | [] => if whole.isEmpty then .ok none else (readInteger negative whole).map (some <| .int ·)
  | '.' :: fraction =>
    if fraction.all Text.isDecimal && !(whole.isEmpty && fraction.isEmpty) then
      let digits := digitsValue (whole ++ fraction)
      .ok (some (.double (.ofDecimal negative digits (-fraction.length))))
    else .ok none
  | _ => .ok none

end ClassSchema.Numeral
