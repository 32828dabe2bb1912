import ClassSchema.Pattern.Glyph
import ClassSchema.Text.CharacterName.Lookup

/-!
# Escapes and character sets

What a backslash and the character behind it mean, outside and inside of a character set. A letter
that has no meaning must not be escaped. Inside of a set an escape is a character with a code point
or a class of characters, and only characters are the ends of a range.
-/

namespace ClassSchema.Pattern

/-- Octal digits. -/
def isOctal (c : Char) : Bool := '0' ≤ c && c ≤ '7'

/-- The escape letters that stand for a control character, and the backslash. -/
def controlCode? (c : Char) : Option Nat :=
  match c with
  | 'a' => some 7
  | 'b' => some 8
  | 'f' => some 12
  | 'n' => some 10
  | 'r' => some 13
  | 't' => some 9
  | 'v' => some 11
  | '\\' => some 92
  | _ => none

/-- The escape letters that stand for a class of characters. -/
def isClassLetter (c : Char) : Bool := ['d', 'D', 's', 'S', 'w', 'W'].contains c

/-- The escape letters that stand for a place. -/
def isAnchorLetter (c : Char) : Bool := ['A', 'b', 'B', 'Z'].contains c

/-- The code point of exactly `n` hexadecimal digits. -/
def readHex (n : Nat) : Scan Nat := do
  let digits ← Scan.takeWhile Text.isHexDigit n
  if digits.length = n then return Text.digitsValue 16 digits else Scan.fail

/-- Reads the code point of an escape by number or name; nothing for other letters. -/
def readCode? (c : Char) : Scan (Option Nat) := do
  match c with
  | 'x' => return some (← readHex 2)
  | 'u' => return some (← readHex 4)
  | 'U' =>
    let code ← readHex 8
    if code ≤ 0x10FFFF then return some code else Scan.fail
  | 'N' =>
    Scan.expect '\x7b'
    let name ← Scan.takeUntil '\x7d'
    match Text.CharacterName.codePoint? name with
    | some code => return some code
    | none => Scan.fail
  | _ => return none

/-- A character outside of the letters and digits stands for itself. -/
def literalCode (c : Char) : Scan Nat := if c.isAlpha then Scan.fail else pure c.toNat

/-- Reads an escape inside of a set: a code point, or nothing for a class. -/
def readSetEscape (c : Char) : Scan (Option Nat) := do
  if let some code := controlCode? c then return some code
  if isClassLetter c then return none
  if let some code ← readCode? c then return some code
  if isOctal c then
    let code := Text.digitsValue 8 (c :: (← Scan.takeWhile isOctal 2))
    if code ≤ 0o377 then return some code else Scan.fail
  if c.isDigit then Scan.fail
  return some (← literalCode c)

/-- Reads one member of a set: a code point, or nothing for a class. -/
def readSetMember : Glyph → Scan (Option Nat)
  | .plain c => return some c.toNat
  | .escaped c => readSetEscape c
  | .dangling => Scan.fail

/-- Reads a set behind its opening bracket and a circumflex; `started` tells that it has a member. A
closing bracket in the first place is a member. -/
def readSet (fuel : Nat) (started : Bool) : Scan Unit := do
  match fuel with
  | 0 => Scan.fail
  | fuel + 1 =>
    let first ← Scan.take
    if first = .plain ']' && started then return ()
    let low ← readSetMember first
    if ← Scan.skip '-' then
      let second ← Scan.take
      if second = .plain ']' then return ()
      let high ← readSetMember second
      match low, high with
      | some a, some b => if b < a then Scan.fail
      | _, _ => Scan.fail
    readSet fuel true

/-! ## References to groups -/

/-- Whether a group is closed. -/
def isClosed (s : Scanner) (group : Nat) : Bool := (s.groups[group]?.join).isSome

/-- Inside of a look-behind a reference has to be to a group that was closed in front of it. -/
def checkLookBehind (group : Nat) : Scan Unit := do
  let s ← get
  match s.closedGroups with
  | none => return ()
  | some count => if !isClosed s group || count ≤ group then Scan.fail

/-- The width of a reference to a group that has to be closed. -/
def referTo (group : Nat) : Scan Width := do
  match (← get).groups[group]?.join with
  | none => Scan.fail
  | some width =>
    checkLookBehind group
    return width

/-- Reads an escape of digits behind the first one, which is not zero: three octal digits are a
character, others are the number of a group. -/
def readNumber (first : Char) : Scan Width := do
  let second ← Scan.takeWhile Char.isDigit 1
  if isOctal first && second.all isOctal && !second.isEmpty then
    let third ← Scan.takeWhile isOctal 1
    if !third.isEmpty then
      if Text.digitsValue 8 (first :: second ++ third) ≤ 0o377 then return .one else Scan.fail
  referTo (Text.digitsValue 10 (first :: second))

/-- Reads an escape outside of a set; the first component tells whether it is a place. -/
def readEscape (c : Char) : Scan (Bool × Width) := do
  if isAnchorLetter c then return (true, .zero)
  if isClassLetter c || (controlCode? c).isSome then return (false, .one)
  if let some _ ← readCode? c then return (false, .one)
  if c = '0' then
    let _ ← Scan.takeWhile isOctal 2
    return (false, .one)
  if c.isDigit then return (false, ← readNumber c)
  let _ ← literalCode c
  return (false, .one)

end ClassSchema.Pattern
