import ClassSchema.Json.Basic

/-!
# Reading JSON

Reads one JSON value from a text. The entries of an object are kept as they are written, in order.
Numbers with a fraction or an exponent are doubles, all others integers; the names `NaN`, `Infinity`
and `-Infinity` are doubles too.
-/

namespace ClassSchema.Json

/-- White space between the parts of a value. -/
def isSpace (c : Char) : Bool := c = ' ' || c = '\n' || c = '\r' || c = '\t'

/-- Drops white space at the front. -/
def skipSpace (cs : List Char) : List Char := cs.dropWhile isSpace

/-- The value of a hexadecimal digit. -/
def hexValue? (c : Char) : Option Nat :=
  if '0' ≤ c ∧ c ≤ '9' then some (c.toNat - 48)
  else if 'a' ≤ c ∧ c ≤ 'f' then some (c.toNat - 87)
  else if 'A' ≤ c ∧ c ≤ 'F' then some (c.toNat - 55)
  else none

/-- The value of four hexadecimal digits. -/
def hexValue4? (a b c d : Char) : Option Nat := do
  let a ← hexValue? a
  let b ← hexValue? b
  let c ← hexValue? c
  let d ← hexValue? d
  return ((a * 16 + b) * 16 + c) * 16 + d

/-- The character of an escape letter. -/
def unescape? (c : Char) : Option Char :=
  if c = '"' ∨ c = '\\' ∨ c = '/' then some c
  else if c = 'n' then some '\n'
  else if c = 'r' then some '\r'
  else if c = 't' then some '\t'
  else if c = 'b' then some '\x08'
  else if c = 'f' then some '\x0c'
  else none

/-- The character of a code unit, given the high surrogate in front of it, if there is one. The
second form is a high surrogate that waits for its partner. -/
def joinUnit? (high : Option Nat) (unit : Nat) : Option (Char ⊕ Nat) :=
  match high with
  | some h =>
    if 0xDC00 ≤ unit ∧ unit < 0xE000 then
      some (.inl (Char.ofNat (0x10000 + (h - 0xD800) * 0x400 + (unit - 0xDC00))))
    else none
  | none =>
    if 0xD800 ≤ unit ∧ unit < 0xDC00 then some (.inr unit)
    else if 0xDC00 ≤ unit ∧ unit < 0xE000 then none
    else some (.inl (Char.ofNat unit))

/-- Reads a text up to its closing quote. -/
def readText (high : Option Nat) : List Char → Option (List Char × List Char)
  | [] => none
  | '\\' :: 'u' :: a :: b :: c :: d :: cs => do
    match ← joinUnit? high (← hexValue4? a b c d) with
    | .inl char => (readText none cs).map fun (chars, rest) ↦ (char :: chars, rest)
    | .inr high => readText (some high) cs
  | '\\' :: c :: cs => do
    if high.isSome then none
    let char ← unescape? c
    (readText none cs).map fun (chars, rest) ↦ (char :: chars, rest)
  | c :: cs =>
    if high.isSome then none
    else if c = '"' then some ([], cs)
    else if c = '\\' ∨ c.toNat < 0x20 then none
    else (readText none cs).map fun (chars, rest) ↦ (c :: chars, rest)

/-- The value of a row of ASCII digits. -/
def digitsValue (cs : List Char) : Nat := cs.foldl (fun n c ↦ 10 * n + (c.toNat - 48)) 0

/-- Reads a fraction: a point and at least one digit; no point is no fraction. -/
def readFraction : List Char → Option (List Char × List Char)
  | '.' :: cs =>
    let digits := cs.takeWhile Char.isDigit
    if digits.isEmpty then none else some (digits, cs.dropWhile Char.isDigit)
  | cs => some ([], cs)

/-- Reads an exponent: a letter, perhaps a sign, and at least one digit; no letter is no
exponent. -/
def readExponent : List Char → Option (Option Int × List Char)
  | c :: cs =>
    if c = 'e' ∨ c = 'E' then
      let (negative, cs) := match cs with
        | '-' :: cs => (true, cs)
        | '+' :: cs => (false, cs)
        | cs => (false, cs)
      let digits := cs.takeWhile Char.isDigit
      if digits.isEmpty then none
      else
        let n : Int := digitsValue digits
        some (some (if negative then -n else n), cs.dropWhile Char.isDigit)
    else some (none, c :: cs)
  | [] => some (none, [])

/-- Reads a number without its sign. -/
def readUnsigned (negative : Bool) (cs : List Char) : Option (Number × List Char) := do
  let whole := cs.takeWhile Char.isDigit
  if whole.isEmpty || whole.length > 1 && whole.head? == some '0' then none
  let (fraction, cs) ← readFraction (cs.dropWhile Char.isDigit)
  let (exponent, cs) ← readExponent cs
  if fraction.isEmpty && exponent.isNone then
    let n : Int := digitsValue whole
    return (.int (if negative then -n else n), cs)
  else
    let scale := exponent.getD 0 - fraction.length
    return (.double (.ofDecimal negative (digitsValue (whole ++ fraction)) scale), cs)

/-- Reads a number. -/
def readNumber : List Char → Option (Number × List Char)
  | '-' :: cs => readUnsigned true cs
  | cs => readUnsigned false cs

/-- Drops a word at the front. -/
def dropWord? (word : String) (cs : List Char) : Option (List Char) :=
  if word.toList.isPrefixOf cs then some (cs.drop word.length) else none

/-- The values that are written as a word. -/
def words : List (String × Json) :=
  [("null", null), ("true", bool true), ("false", bool false),
   ("NaN", number (.double .notANumber)),
   ("Infinity", number (.double (.infinite false))),
   ("-Infinity", number (.double (.infinite true)))]

/-- Reads a word or a number. -/
def readSimple (cs : List Char) : Option (Json × List Char) :=
  match words.findSome? fun (word, value) ↦ (dropWord? word cs).map (value, ·) with
  | some result => some result
  | none => (readNumber cs).map fun (n, rest) ↦ (number n, rest)

mutual

/-- Reads a value; `fuel` bounds the depth and the number of items together. -/
def readValue (fuel : Nat) (cs : List Char) : Option (Json × List Char) :=
  match fuel with
  | 0 => none
  | fuel + 1 =>
    match skipSpace cs with
    | '"' :: cs => (readText none cs).map fun (s, rest) ↦ (text (String.ofList s), rest)
    | '[' :: cs =>
      match skipSpace cs with
      | ']' :: cs => some (list [], cs)
      | cs => (readItems fuel cs).map fun (items, rest) ↦ (list items, rest)
    | '\x7b' :: cs =>
      match skipSpace cs with
      | '\x7d' :: cs => some (table [], cs)
      | cs => (readEntries fuel cs).map fun (entries, rest) ↦ (table entries, rest)
    | cs => readSimple cs

/-- Reads items up to the closing bracket. -/
def readItems (fuel : Nat) (cs : List Char) : Option (List Json × List Char) :=
  match fuel with
  | 0 => none
  | fuel + 1 => do
    let (item, cs) ← readValue fuel cs
    match skipSpace cs with
    | ']' :: cs => return ([item], cs)
    | ',' :: cs =>
      let (items, cs) ← readItems fuel cs
      return (item :: items, cs)
    | _ => none

/-- Reads entries up to the closing brace. -/
def readEntries (fuel : Nat) (cs : List Char) : Option (List (String × Json) × List Char) :=
  match fuel with
  | 0 => none
  | fuel + 1 =>
    match skipSpace cs with
    | '"' :: cs => do
      let (key, cs) ← readText none cs
      match skipSpace cs with
      | ':' :: cs =>
        let (value, cs) ← readValue fuel cs
        let entry := (String.ofList key, value)
        match skipSpace cs with
        | '\x7d' :: cs => return ([entry], cs)
        | ',' :: cs =>
          let (entries, cs) ← readEntries fuel cs
          return (entry :: entries, cs)
        | _ => none
      | _ => none
    | _ => none

end

/-- The value that a text holds, with nothing but white space around it. -/
def read? (source : String) : Option Json :=
  match readValue (2 * source.length + 2) source.toList with
  | some (value, rest) => if (skipSpace rest).isEmpty then some value else none
  | none => none

end ClassSchema.Json
