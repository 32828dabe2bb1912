/-!
# Doubles

Binary floating-point numbers of 53 bits, as exact values: a finite one is a sign, a mantissa and a
power of two. A decimal is read by rounding its exact value to the nearest double, and a value
halfway between two doubles to the one with the even mantissa.
-/

namespace ClassSchema

/-- A double. A finite one is `mantissa · 2 ^ exponent` with its sign; zero has a sign too. -/
inductive Double
  | finite (negative : Bool) (mantissa : Nat) (exponent : Int)
  | infinite (negative : Bool)
  | notANumber
deriving DecidableEq

/-- A power of two; an exponent below zero counts as zero. -/
def powerOfTwo (exponent : Int) : Nat := Nat.pow 2 exponent.toNat

/-- A power of ten; an exponent below zero counts as zero. -/
def powerOfTen (exponent : Int) : Nat := Nat.pow 10 exponent.toNat

theorem powerOfTwo_pos (exponent : Int) : 0 < powerOfTwo exponent :=
  Nat.pow_pos (by decide)

theorem powerOfTen_pos (exponent : Int) : 0 < powerOfTen exponent :=
  Nat.pow_pos (by decide)

/-- The quotient `n / d`, rounded to the nearest integer, and a half to the even one. -/
def divRoundEven (n d : Nat) : Nat :=
  let q := n / d
  let r := n % d
  if 2 * r < d then q else if d < 2 * r then q + 1 else q + q % 2

namespace Double

/-- The number of bits of a mantissa. -/
def precision : Int := 53

/-- The least exponent; a mantissa of fewer bits occurs only there. -/
def minExponent : Int := -1074

/-- The greatest exponent of a finite double. -/
def maxExponent : Int := 971

/-- The zero of a sign. -/
def zero (negative : Bool) : Double := finite negative 0 minExponent

/-- The power of two by which `num / den` has to be divided to leave 53 bits before the point. -/
def scaleOf (num den : Nat) : Int :=
  let k : Int := (num.log2 : Int) - den.log2
  let atLeast : Bool := den * powerOfTwo k ≤ num * powerOfTwo (-k)
  max (if atLeast then k - 52 else k - 53) minExponent

/-- The double nearest to the positive quotient `num / den`. -/
def ofRatio (negative : Bool) (num den : Nat) : Double :=
  if num = 0 then zero negative
  else
    let e := scaleOf num den
    let m := divRoundEven (num * powerOfTwo (-e)) (den * powerOfTwo e)
    let (m, e) :=
      if m = powerOfTwo precision then (powerOfTwo (precision - 1), e + 1) else (m, e)
    if e > maxExponent then infinite negative else finite negative m e

/-- The double nearest to `digits · 10 ^ exponent`. A value far outside the range of doubles is
settled by its magnitude, so no power is computed for it. -/
def ofDecimal (negative : Bool) (digits : Nat) (exponent : Int) : Double :=
  let magnitude : Int := (Nat.toDigits 10 digits).length + exponent
  if digits = 0 ∨ magnitude < -330 then zero negative
  else if magnitude > 310 then infinite negative
  else ofRatio negative (digits * powerOfTen exponent) (powerOfTen (-exponent))

/-- Why a double has no integer part. -/
inductive IntegerFault
  | infinity
  | notANumber
deriving DecidableEq

/-- The wording of a missing integer part. -/
def IntegerFault.message : IntegerFault → String
  | infinity => "cannot convert float infinity to integer"
  | notANumber => "cannot convert float NaN to integer"

/-- The integer part, cut toward zero. -/
def toInt : Double → Except IntegerFault Int
  | finite negative m e =>
    let size : Nat := m * powerOfTwo e / powerOfTwo (-e)
    .ok (if negative then -size else size)
  | infinite _ => .error .infinity
  | notANumber => .error .notANumber

end Double

end ClassSchema
