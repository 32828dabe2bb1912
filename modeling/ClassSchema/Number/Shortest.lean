import ClassSchema.Number.Double

/-!
# Shortest decimal text of a double

A double stands for every real number that rounds to it. Its text is the decimal of the fewest
significant digits among them, and of two such decimals the nearer one (the even one if both are
equally near). For each number of digits only the two neighbours of the value on that decimal grid
can qualify, and seventeen digits always suffice.

How the digits are laid out is a choice of the format that prints them, collected in
`DecimalStyle`.
-/

namespace ClassSchema

/-- A positive decimal, `digits · 10 ^ exponent`. -/
structure Decimal where
  digits : Nat
  exponent : Int
deriving DecidableEq

namespace Decimal

/-- Moves the zeros at the end of the digits into the exponent; `fuel` bounds their number. -/
def stripZeros (fuel : Nat) (d : Decimal) : Decimal :=
  match fuel with
  | 0 => d
  | fuel + 1 =>
    if d.digits % 10 = 0 ∧ d.digits ≠ 0 then stripZeros fuel ⟨d.digits / 10, d.exponent + 1⟩ else d

/-- The power of ten of the first digit of the positive number `m · 2 ^ e`, where `e` is at least
`-1074`. -/
def leadingExponent (m : Nat) (e : Int) : Int :=
  let scaled := m * powerOfTen 400 * powerOfTwo e / powerOfTwo (-e)
  (Nat.toDigits 10 scaled).length - 401

/-- The decimal `D · 10 ^ exponent` nearest to `m · 2 ^ e` that rounds to it, if there is one. In
quarters of the last bit the value is `4 m`; the reals that round to it lie between half a bit
below (a quarter, under a power of two) and half a bit above, ends included for even `m`. -/
def onGrid? (m : Nat) (e exponent : Int) : Option Nat :=
  let unit := powerOfTen exponent * powerOfTwo (2 - e)
  let quarter := powerOfTwo (e - 2) * powerOfTen (-exponent)
  let value := 4 * m * quarter
  let gap := if m = powerOfTwo (Double.precision - 1) ∧ e > Double.minExponent then 1 else 2
  let low := (4 * m - gap) * quarter
  let high := (4 * m + 2) * quarter
  let inside (x : Nat) : Bool :=
    if m % 2 = 0 then low ≤ x && x ≤ high else low < x && x < high
  let below := value / unit
  let above := below + 1
  match inside (below * unit), inside (above * unit) with
  | true, true =>
    let down := value - below * unit
    let up := above * unit - value
    some (if down < up ∨ down = up ∧ below % 2 = 0 then below else above)
  | true, false => some below
  | false, true => some above
  | false, false => none

/-- The shortest decimal that rounds to the positive double `m · 2 ^ e`. -/
def shortest (m : Nat) (e : Int) : Decimal :=
  let top := leadingExponent m e
  let hit := (List.range 17).findSome? fun (n : Nat) ↦
    let exponent := top - n
    (onGrid? m e exponent).map (Decimal.mk · exponent)
  (hit.getD ⟨0, 0⟩).stripZeros 20

end Decimal

/-- How a format writes doubles: the powers of ten of the first digit for which the digits are
written around a point instead of with an exponent, and the names of the values that are not
finite. -/
structure DecimalStyle where
  positionalFrom : Int
  positionalBelow : Int
  infinity : String
  notANumber : String

namespace DecimalStyle

/-- Zeros in a row. -/
def zeros (n : Nat) : String := String.ofList (List.replicate n '0')

/-- The text of a positive decimal: a point with a digit on either side, or an exponent with its
sign and at least two digits. -/
def decimalText (style : DecimalStyle) (d : Decimal) : String :=
  let digits := Nat.toDigits 10 d.digits
  let count := digits.length
  let x := d.exponent + (count - 1 : Nat)
  if style.positionalFrom ≤ x ∧ x < style.positionalBelow then
    if x < 0 then "0." ++ zeros (-x - 1).toNat ++ String.ofList digits
    else
      let whole := x.toNat + 1
      if count ≤ whole then String.ofList digits ++ zeros (whole - count) ++ ".0"
      else String.ofList (digits.take whole) ++ "." ++ String.ofList (digits.drop whole)
  else
    let fraction := if count = 1 then "" else "." ++ String.ofList (digits.drop 1)
    let size := toString x.natAbs
    let size := zeros (2 - size.length) ++ size
    String.ofList (digits.take 1) ++ fraction ++ (if x < 0 then "e-" else "e+") ++ size

/-- The text of a double. -/
def text (style : DecimalStyle) : Double → String
  | .finite negative m e =>
    (if negative then "-" else "") ++
      if m = 0 then "0.0" else style.decimalText (Decimal.shortest m e)
  | .infinite negative => (if negative then "-" else "") ++ style.infinity
  | .notANumber => style.notANumber

/-- The plain style: point notation from `0.0001` to below `10 ^ 16`. -/
def plain : DecimalStyle := ⟨-4, 16, "inf", "nan"⟩

end DecimalStyle

end ClassSchema
