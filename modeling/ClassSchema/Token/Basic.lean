import ClassSchema.Span
import ClassSchema.Text.Quoted
import ClassSchema.Token.Kind

/-!
# Tokens

A token is a kind with the exact text it was read from, its line and column (both counted from
one), and the span of that text. The listing shows one token on a line: its index in at least three
digits, its kind in a field of fourteen, its place, its span and its quoted text.
-/

namespace ClassSchema

/-- A piece of a class file. -/
structure Token where
  kind : Kind
  text : String
  line : Nat
  column : Nat
  span : Span
deriving DecidableEq

namespace Token

/-- The end of an input that has nothing in it. -/
def emptyEnd : Token := ⟨.endOfInput, "", 1, 1, .empty 0⟩

instance : Inhabited Token := ⟨emptyEnd⟩

/-- The end of an input whose last token is `last`. -/
def endAfter (last : Token) : Token :=
  ⟨.endOfInput, "", last.line, last.column + last.text.length, .empty last.span.stop⟩

/-- The token of a text that starts at an offset in the first line. -/
def onFirstLine (kind : Kind) (text : String) (offset : Nat) : Token where
  kind := kind
  text := text
  line := 1
  column := offset + 1
  span := ⟨offset, offset + text.length, Nat.le_add_right ..⟩

/-- Whether the token has a given kind. -/
def is (t : Token) (kind : Kind) : Bool := t.kind = kind

/-- Whether the token is a given punctuation mark. -/
def isMark (t : Token) (m : Mark) : Bool := t.kind = .mark m

/-- The line of a listing that shows the token under a number. -/
def listing (index : Nat) (t : Token) : String :=
  let number := toString index
  let padded := String.ofList (List.replicate (3 - number.length) '0') ++ number
  let label := t.kind.label ++ String.ofList (List.replicate (14 - t.kind.label.length) ' ')
  s!"{padded} {label} {t.line}:{t.column} range={t.span.pairText} text={Text.quoted t.text}"

/-- The listing of a sequence of tokens, one line for each. -/
def listingLines (tokens : List Token) : List String :=
  tokens.zipIdx.map fun (t, index) ↦ t.listing index

/-- The listing of a sequence of tokens as one text, each line ended. -/
def listingText (tokens : List Token) : String :=
  String.join ((listingLines tokens).map (· ++ "\n"))

end Token

end ClassSchema
