/-!
# Spans of a text

A span is a half-open range of character offsets. Offsets count code points. A span never ends
before it starts; that is part of the type, so reading two integers as a span can fail for two
reasons only.
-/

namespace ClassSchema

/-- The characters from offset `start` up to, not including, offset `stop`. -/
structure Span where
  start : Nat
  stop : Nat
  start_le_stop : start ≤ stop := by omega
deriving DecidableEq

namespace Span

/-- Why two integers are not a span. -/
inductive Fault
  | negative
  | reversed
deriving DecidableEq

/-- The wording of a fault. -/
def Fault.message : Fault → String
  | negative => "TextRange positions cannot be negative"
  | reversed => "TextRange invariant violated: start > end"

/-- The empty span at `offset`. -/
def empty (offset : Nat) : Span := ⟨offset, offset, Nat.le_refl _⟩

instance : Inhabited Span := ⟨empty 0⟩

/-- Reads two integers as a span; a negative one is reported before a reversed pair. -/
def ofInts (start stop : Int) : Except Fault Span :=
  if start < 0 ∨ stop < 0 then .error .negative
  else if h : start.toNat ≤ stop.toNat then .ok ⟨start.toNat, stop.toNat, h⟩
  else .error .reversed

/-- The number of characters of a span. -/
def length (s : Span) : Nat := s.stop - s.start

/-- Spans are ordered by their start, then by their end. -/
def before (a b : Span) : Bool := a.start < b.start || a.start = b.start && a.stop < b.stop

/-- The pair of offsets, as it is shown in a listing. -/
def pairText (s : Span) : String := s!"({s.start}, {s.stop})"

/-- The display of a span on its own. -/
def display (s : Span) : String := s!"TextRange{s.pairText}"

/-- The part of a text that a span covers, clamped to the text. -/
def sliceOf (s : Span) (text : String) : String :=
  String.ofList ((text.toList.drop s.start).take s.length)

end Span

end ClassSchema
