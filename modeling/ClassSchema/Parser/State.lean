import ClassSchema.Diagnostic
import ClassSchema.Grammar.Member

/-!
# The state of a parser

A parser stands in a list of tokens: those it has passed, those ahead, and the end token behind
which it never goes. Beside that it keeps the errors and warnings so far. Tokens are never changed;
moving takes them from one side to the other, so the position is the number of tokens passed and the
end of the input is reached when none is ahead.

A checkpoint records the position and the numbers of errors and warnings. Going back to it moves
there and drops what was reported since.
-/

namespace ClassSchema

/-- A declaration that was passed over, with the place where it started. -/
structure SkippedDeclaration where
  what : Skippable
  line : Nat
  column : Nat
deriving DecidableEq

/-- A parser in the middle of its work. `passed` holds the latest token first; `ahead` holds no end
token; `beyond` are tokens behind the first end token, which are never reached. -/
structure Parser where
  passed : List Token
  ahead : List Token
  final : Token
  beyond : List Token
  source : Option (List Char)
  errors : List Diagnostic := []
  warnings : List String := []
  skipped : List SkippedDeclaration := []

namespace Parser

/-! ## Tokens -/

/-- A list of tokens with an end token behind the last one, unless it is one. -/
def closed (ts : List Token) : List Token :=
  match ts.getLast? with
  | some last => if last.is .endOfInput then ts else ts ++ [.endAfter last]
  | none => [.emptyEnd]

/-- A parser at the first of some tokens. The text of the source lets values keep their exact
text. -/
def ofTokens (ts : List Token) (source : Option String := none) : Parser :=
  let ts := closed ts
  let rest := ts.dropWhile (!·.is .endOfInput)
  { passed := []
    ahead := ts.takeWhile (!·.is .endOfInput)
    final := rest.head?.getD .emptyEnd
    beyond := rest.drop 1
    source := source.map (·.toList) }

variable (p : Parser)

/-- The tokens from the current one on, the end token included. -/
def remaining : List Token := p.ahead ++ p.final :: p.beyond

/-- All tokens. -/
def tokens : List Token := p.passed.reverse ++ p.remaining

/-- The number of tokens passed. -/
def position : Nat := p.passed.length

/-- The current token. -/
def current : Token := p.ahead.head?.getD p.final

/-- The token `n` places ahead, or the last one. -/
def nth (n : Nat) : Token := p.remaining[n]?.getD (p.beyond.getLast?.getD p.final)

/-- Whether the current token is of a given kind. -/
def isAt (kind : Kind) : Bool := p.current.is kind

/-- Whether all tokens have been passed. -/
def atEnd : Bool := p.ahead.isEmpty

/-- Moves on by at most `n` tokens. -/
def advance (n : Nat) : Parser :=
  { p with passed := (p.ahead.take n).reverse ++ p.passed, ahead := p.ahead.drop n }

/-- Moves back by at most `n` tokens. -/
def retreat (n : Nat) : Parser :=
  { p with passed := p.passed.drop n, ahead := (p.passed.take n).reverse ++ p.ahead }

/-- Moves to a position. -/
def goTo (position : Nat) : Parser :=
  if p.position ≤ position then p.advance (position - p.position)
  else p.retreat (p.position - position)

/-- Moves to where `rest` is ahead. -/
def settle (rest : List Token) : Parser := p.advance (p.ahead.length - rest.length)

/-- Moves over the current token, unless it is the end token. -/
def bump : Parser := p.advance 1

/-- The comment directly in front of the current token, white space apart. -/
def precedingComment : Option Token :=
  match p.passed.dropWhile (·.kind.isTrivia) with
  | [] => none
  | t :: _ => if t.kind.isComment then some t else none

/-! ## Reports -/

/-- Whether an error has been reported. -/
def hasErrors : Bool := p.errors.any (·.isError)

/-- Adds a diagnostic, unless the last one has the same code and starts at the same place. -/
def report (d : Diagnostic) : Parser :=
  match p.errors.getLast? with
  | some last =>
    if last.span.start = d.span.start ∧ last.code = d.code then p
    else { p with errors := p.errors ++ [d] }
  | none => { p with errors := [d] }

/-- Reports a complaint at the current token. -/
def complain (c : Complaint) (message : String := "") : Parser :=
  p.report (c.diagnosticAt p.current message)

/-- Adds a warning. -/
def warn (text : String) : Parser := { p with warnings := p.warnings ++ [text] }

/-- Moves over a token of the expected kind, or complains. -/
def expect (kind : Kind) (c : Complaint) : Bool × Parser :=
  if p.isAt kind then (true, p.bump) else (false, p.complain c)

/-! ## Checkpoints -/

/-- A position with the numbers of errors and warnings reported before it. -/
structure Checkpoint where
  position : Nat
  errors : Nat
  warnings : Nat
deriving DecidableEq

/-- The checkpoint of the current state. -/
def checkpoint : Checkpoint := ⟨p.position, p.errors.length, p.warnings.length⟩

/-- Goes back to a checkpoint. -/
def rewind (c : Checkpoint) : Parser :=
  { p.goTo c.position with
    errors := p.errors.take c.errors
    warnings := p.warnings.take c.warnings }

/-! ## Skips -/

/-- Moves over the group that starts at the current token. -/
def skipBalanced : Parser := p.advance (Skip.balanced p.ahead)

/-- Moves to the next token of a kind in `stops`. -/
def skipUntil (stops : Kind → Bool) : Parser := p.advance (Skip.upTo stops p.ahead)

/-- Moves to the end of the current member. -/
def skipToMemberEnd : Parser := p.advance (Skip.toMemberEnd p.ahead)

/-- Moves to the end of the current declaration. -/
def skipTypeDeclaration : Parser := p.advance (Skip.toDeclarationEnd p.ahead)

/-- Looks for a token of a kind, giving up at a kind in `stops`. -/
def search (target : Kind) (stops : Kind → Bool) : Option Skip.SearchFault × Parser :=
  let (count, fault) := Skip.search target stops p.ahead
  (fault, p.advance count)

/-! ## Moving loses nothing -/

@[simp] private theorem tokens_advance (n : Nat) : (p.advance n).tokens = p.tokens := by
  have h : (p.ahead.take n) ++ p.ahead.drop n = p.ahead := List.take_append_drop ..
  simp only [tokens, remaining, advance, List.reverse_append, List.reverse_reverse,
    List.append_assoc]
  rw [← List.append_assoc (p.ahead.take n), h]

@[simp] private theorem tokens_retreat (n : Nat) : (p.retreat n).tokens = p.tokens := by
  have h : (p.passed.drop n).reverse ++ (p.passed.take n).reverse = p.passed.reverse := by
    rw [← List.reverse_append, List.take_append_drop]
  simp only [tokens, remaining, retreat, List.append_assoc]
  rw [← List.append_assoc (p.passed.drop n).reverse, h]

@[simp] theorem tokens_goTo (position : Nat) : (p.goTo position).tokens = p.tokens := by
  unfold goTo; split <;> simp

theorem skipTypeDeclaration_eq : p.skipTypeDeclaration = p.skipToMemberEnd := by
  rw [skipTypeDeclaration, Skip.toDeclarationEnd_eq, skipToMemberEnd]

theorem length_ahead_advance (n : Nat) : (p.advance n).ahead.length = p.ahead.length - n := by
  simp [advance]

end Parser

end ClassSchema
