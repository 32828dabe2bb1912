import ClassSchema.Number.Numeral
import ClassSchema.Text.Name

/-!
# Reading a pattern

The state in which a regular expression is read: the glyphs ahead, where a backslash and the
character behind it are one glyph, the groups opened so far, and the flags. Reading fails with a
fault that tells why the pattern is no regular expression, and it fails at the first fault: a
backslash at the end is one as soon as it comes next, and does not hide a fault in front of it.
-/

namespace ClassSchema.Pattern

/-- Why a text is no regular expression. -/
inductive Fault
  | malformed
  | repetitionTooLarge
  | numeralTooLong (fault : Numeral.TooLong)
  | conflictingFlags
  | lookBehindTooWide
deriving DecidableEq

/-! ## Widths -/

/-- The least and the greatest number of characters that a part of a pattern matches. -/
structure Width where
  low : Nat
  high : Nat
deriving DecidableEq

namespace Width

/-- No bound on the number of repetitions, and the greatest width that is told apart. -/
def unbounded : Nat := 4294967295

/-- The width with all ends from `unbounded` on taken to be equal. The low end stays below, so that
a part of such a width has no fixed width. -/
def clamp (low high : Nat) : Width := ⟨min low (unbounded - 1), min high unbounded⟩

/-- Nothing is matched. -/
def zero : Width := ⟨0, 0⟩

/-- One character is matched. -/
def one : Width := ⟨1, 1⟩

/-- One part after another. -/
def append (a b : Width) : Width := clamp (a.low + b.low) (a.high + b.high)

/-- One part or the other. -/
def either (a b : Width) : Width := ⟨min a.low b.low, max a.high b.high⟩

/-- A part, repeated. -/
def times (a : Width) (least most : Nat) : Width := clamp (a.low * least) (a.high * most)

end Width

/-! ## Glyphs -/

/-- A character of a pattern, a backslash with the character behind it, or one at the end. -/
inductive Glyph
  | plain (c : Char)
  | escaped (c : Char)
  | dangling
deriving DecidableEq

/-- The text of a glyph. -/
def Glyph.text : Glyph → List Char
  | plain c => [c]
  | escaped c => ['\\', c]
  | dangling => ['\\']

/-- The glyphs of a pattern. -/
def glyphs : List Char → List Glyph
  | [] => []
  | ['\\'] => [.dangling]
  | '\\' :: c :: cs => .escaped c :: glyphs cs
  | c :: cs => .plain c :: glyphs cs

/-! ## State -/

/-- The flags that are set for the whole pattern. -/
structure Flags where
  verbose : Bool := false
  ascii : Bool := false
  unicode : Bool := false
  template : Bool := false

/-- The state of reading a pattern. A group that is still open has no width. Inside of a
look-behind, `closedGroups` is the number of groups there were in front of it. The last three tell
whether anything is repeated, whether a look-behind has no fixed width, and whether one has too
great a width. -/
structure Scanner where
  ahead : List Glyph := []
  groups : List (Option Width) := [none]
  names : List (String × Nat) := []
  closedGroups : Option Nat := none
  conditions : List Nat := []
  flags : Flags := {}
  repeats : Bool := false
  variableLookBehind : Bool := false
  wideLookBehind : Bool := false

/-- Reading a part of a pattern. -/
abbrev Scan := StateT Scanner (Except Fault)

namespace Scan

/-- The pattern is malformed. -/
def fail {α : Type} : Scan α := throw .malformed

/-- The next glyph, without moving. -/
def peek : Scan (Option Glyph) := do return (← get).ahead.head?

/-- Moves on to where `rest` is ahead. There must not be a backslash next that escapes nothing. -/
def moveTo (rest : List Glyph) : Scan Unit := do
  if rest.head? = some .dangling then fail
  modify fun s ↦ { s with ahead := rest }

/-- Moves over the next glyph. -/
def take? : Scan (Option Glyph) := do
  let s ← get
  moveTo (s.ahead.drop 1)
  return s.ahead.head?

/-- Moves over the next glyph; there has to be one. -/
def take : Scan Glyph := do
  match ← take? with
  | some g => return g
  | none => fail

/-- Moves over a character if it is next. -/
def skip (c : Char) : Scan Bool := do
  if (← peek) = some (.plain c) then
    let _ ← take?
    return true
  else return false

/-- Moves over a character that has to be next. -/
def expect (c : Char) : Scan Unit := do
  if !(← skip c) then fail

/-- Moves over at most `n` characters of a class. -/
def takeWhile (p : Char → Bool) : Nat → Scan (List Char)
  | 0 => return []
  | n + 1 => do
    match ← peek with
    | some (.plain c) =>
      if p c then
        let _ ← take?
        return c :: (← takeWhile p n)
      else return []
    | _ => return []

/-- The characters in front of `stop`, which has to come, and not at once. Moves over `stop`. -/
def takeUntil (stop : Char) : Scan (List Char) := do
  let s ← get
  let front := s.ahead.takeWhile (· ≠ .plain stop)
  if front.isEmpty || front.length = s.ahead.length then fail
  moveTo (s.ahead.drop (front.length + 1))
  return front.flatMap Glyph.text

/-- Moves behind the next `stop`, or to the end if it does not come; tells whether it came. -/
def skipBehind (stop : Char) : Scan Bool := do
  let ahead := (← get).ahead
  let rest := ahead.dropWhile (· ≠ .plain stop)
  if rest.isEmpty && ahead.contains .dangling then fail
  moveTo (rest.drop 1)
  return !rest.isEmpty

end Scan

end ClassSchema.Pattern
