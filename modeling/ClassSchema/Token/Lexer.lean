import ClassSchema.Text.Digit
import ClassSchema.Token.Basic

/-!
# Reading tokens

The lexer stands at a place of the text with the characters still to be read. One step looks at the
next character, decides what starts there and how far it reaches, and moves past it; the text of
the token is exactly what was passed over, so nothing is lost. Characters that start no token, and a
string that is never closed, are passed over without a token.

How far a token reaches is decided by functions on the list of characters alone
(`Lexeme.read`); line and column follow from the characters passed over (`Place.after`).
-/

namespace ClassSchema

/-! ## Places -/

/-- An offset into the text with its line and column. -/
structure Place where
  offset : Nat
  line : Nat
  column : Nat
deriving DecidableEq

namespace Place

/-- The start of a text. -/
def start : Place := ⟨0, 1, 1⟩

/-- Whether `c` ends a line when `following` comes next: a carriage return before a line feed
leaves that to the line feed. -/
def endsLine (c : Char) (following : Option Char) : Bool :=
  c = '\n' || c = '\r' && following != some '\n'

/-- The place behind one character. -/
def step (p : Place) (c : Char) (following : Option Char) : Place :=
  if endsLine c following then ⟨p.offset + 1, p.line + 1, 1⟩
  else ⟨p.offset + 1, p.line, p.column + 1⟩

/-- The place behind the characters `taken` when `rest` comes after them. -/
def after (p : Place) (taken rest : List Char) : Place :=
  match taken with
  | [] => p
  | c :: cs => (p.step c (cs.head?.or rest.head?)).after cs rest

theorem offset_step (p : Place) (c : Char) (following : Option Char) :
    (p.step c following).offset = p.offset + 1 := by
  unfold step; split <;> rfl

theorem offset_after (p : Place) (taken rest : List Char) :
    (p.after taken rest).offset = p.offset + taken.length := by
  induction taken generalizing p with
  | nil => rfl
  | cons c cs ih => rw [after, ih, offset_step, List.length_cons]; omega

end Place

/-! ## What starts at a character -/

/-- The line feed and the carriage return. -/
def isNewlineChar (c : Char) : Bool := c = '\n' || c = '\r'

/-- The characters of a run of white space: space, tab and form feed. -/
def isSpaceChar (c : Char) : Bool := c = ' ' || c = '\t' || c = '\x0c'

/-- The characters an identifier can start with. -/
def isIdentifierStart (c : Char) : Bool := Text.isLetter c || c = '_' || c = '$'

/-- The characters an identifier can go on with. -/
def isIdentifierPart (c : Char) : Bool := Text.isWord c || c = '_' || c = '$'

/-- The letters that may close a number: long, float and double. -/
def isNumberSuffix (c : Char) : Bool :=
  c = 'l' || c = 'L' || c = 'f' || c = 'F' || c = 'd' || c = 'D'

/-- What starts at a character: the kind of token, if it is one, and the number of characters that
belong to it after the first. -/
structure Lexeme where
  kind? : Option Kind
  extra : Nat
deriving DecidableEq

namespace Lexeme

/-- The characters of a block comment after its opening `/*`, up to the first `*/` and with it. -/
def blockLength : List Char → Nat
  | [] => 0
  | '*' :: '/' :: _ => 2
  | _ :: cs => blockLength cs + 1

/-- The characters of a string after its opening quote, up to the closing one and with it; a
backslash takes the character after it along. -/
def stringLength? : List Char → Option Nat
  | [] => none
  | '"' :: _ => some 1
  | '\\' :: _ :: cs => (stringLength? cs).map (· + 2)
  | _ :: cs => (stringLength? cs).map (· + 1)

/-- The characters of a fraction: a point and the digits behind it, if there are any. -/
def fractionLength : List Char → Nat
  | '.' :: cs => if cs.head?.any Text.isDigit then (cs.takeWhile Text.isDigit).length + 1 else 0
  | _ => 0

/-- One for a suffix letter that no identifier character follows. -/
def suffixLength : List Char → Nat
  | c :: cs => if isNumberSuffix c && !cs.head?.any isIdentifierPart then 1 else 0
  | [] => 0

/-- The characters of an unsigned number: digits, a fraction, a suffix. -/
def numberLength (cs : List Char) : Nat :=
  let whole := (cs.takeWhile Text.isDigit).length
  let fraction := fractionLength (cs.drop whole)
  whole + fraction + suffixLength (cs.drop (whole + fraction))

/-- What starts at `c` when `cs` comes after it. -/
def read (c : Char) (cs : List Char) : Lexeme :=
  if isNewlineChar c then
    ⟨some .newline, if c = '\r' ∧ cs.head? = some '\n' then 1 else 0⟩
  else if isSpaceChar c then
    ⟨some .blank, (cs.takeWhile isSpaceChar).length⟩
  else if c = '/' then
    match cs with
    | '/' :: rest => ⟨some (.comment .line), (rest.takeWhile (!isNewlineChar ·)).length + 1⟩
    | '*' :: rest =>
      let form := if rest.head? = some '*' ∧ rest.tail.head? ≠ some '/' then .doc else .block
      ⟨some (.comment form), blockLength rest + 1⟩
    | _ => ⟨none, 0⟩
  else if c = '"' then
    match stringLength? cs with
    | some length => ⟨some .string, length⟩
    | none => ⟨none, cs.length⟩
  else if Text.isDigit c then
    ⟨some .number, numberLength (c :: cs) - 1⟩
  else if c = '-' ∧ cs.head?.any Text.isDigit then
    ⟨some .number, numberLength cs⟩
  else if isIdentifierStart c then
    let rest := cs.takeWhile isIdentifierPart
    let kind := match Keyword.ofText? (String.ofList (c :: rest)) with
      | some word => .keyword word
      | none => .identifier
    ⟨some kind, rest.length⟩
  else ⟨(Mark.ofChar? c).map .mark, 0⟩

end Lexeme

/-! ## The lexer -/

/-- The characters still to be read, and the place of the first of them. -/
structure Lexer where
  rest : List Char
  place : Place
deriving DecidableEq

namespace Lexer

/-- A lexer at the start of a text. -/
def ofText (text : String) : Lexer := ⟨text.toList, .start⟩

/-- Whether everything has been read. -/
def isDone (l : Lexer) : Bool := l.rest.isEmpty

/-- The token of the end of the input, at the current place. -/
def endToken (l : Lexer) : Token :=
  ⟨.endOfInput, "", l.place.line, l.place.column, .empty l.place.offset⟩

/-- The token made of the characters `taken`, which start at the current place. -/
def tokenOf (l : Lexer) (kind : Kind) (taken : List Char) : Token where
  kind := kind
  text := String.ofList taken
  line := l.place.line
  column := l.place.column
  span := ⟨l.place.offset, l.place.offset + taken.length, Nat.le_add_right ..⟩

/-- One step: the token that was passed over, if it is one. At the end the lexer stays and gives
the end token again and again. -/
def next (l : Lexer) : Option Token × Lexer :=
  match l.rest with
  | [] => (some l.endToken, l)
  | c :: cs =>
    let lexeme := Lexeme.read c cs
    let taken := c :: cs.take lexeme.extra
    let rest := cs.drop lexeme.extra
    (lexeme.kind?.map (l.tokenOf · taken), ⟨rest, l.place.after taken rest⟩)

/-- A step that is not at the end reads at least one character. -/
theorem next_rest_length {l : Lexer} (h : l.rest ≠ []) :
    l.next.2.rest.length < l.rest.length := by
  obtain ⟨rest, place⟩ := l
  cases rest with
  | nil => exact absurd rfl h
  | cons c cs =>
    have le : (cs.drop (Lexeme.read c cs).extra).length ≤ cs.length := by
      rw [List.length_drop]
      exact Nat.sub_le _ _
    exact Nat.lt_succ_of_le le

/-- All tokens from here on, trivia included, with the end token last. -/
def tokens (l : Lexer) : List Token :=
  if _h : l.rest = [] then [l.endToken]
  else
    let step := l.next
    step.1.toList ++ step.2.tokens
termination_by l.rest.length
decreasing_by exact next_rest_length _h

end Lexer

namespace Token

/-- All tokens of a text, white space and line breaks included. -/
def lex (source : String) : List Token := (Lexer.ofText source).tokens

/-- The tokens of a text that matter to its structure: comments are kept, white space and line
breaks are not. -/
def tokenize (source : String) : List Token := (lex source).filter (!·.kind.isTrivia)

end Token

end ClassSchema
