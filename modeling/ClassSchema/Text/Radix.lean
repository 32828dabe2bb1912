/-!
# Digits in a base

The value of ASCII digits in a base up to sixteen. Above nine the letters from `a` on are digits, in
either case.
-/

namespace ClassSchema.Text

/-- Whether a character is a hexadecimal digit. -/
def isHexDigit (c : Char) : Bool := c.isDigit || 'a' ≤ c && c ≤ 'f' || 'A' ≤ c && c ≤ 'F'

/-- The value of a digit. -/
def digitValue (c : Char) : Nat :=
  if c.isDigit then c.toNat - 48 else c.toLower.toNat - 87

/-- The value of digits in a base. -/
def digitsValue (base : Nat) (cs : List Char) : Nat :=
  cs.foldl (fun n c ↦ base * n + digitValue c) 0

end ClassSchema.Text
