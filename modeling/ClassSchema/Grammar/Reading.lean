import ClassSchema.Declaration.Basic
import ClassSchema.Number.Numeral
import ClassSchema.Token.Basic

/-!
# Reading from a list of tokens

A construct is read off the front of the tokens ahead, up to the end of the input; the end token is
not among them. A reading finds the construct or misses it, and in both cases tells which tokens are
left. Nothing else is affected, so giving up a reading and returning to its start is to forget it.
-/

namespace ClassSchema

/-- Why a member of a class was given up. -/
inductive Malformation
  | arguments (line : Nat)
  | type (line column : Nat)
  | name (typeText got : String)
  | value (field : String)
  | semicolon (field : String)
  | parameters (method : String)
  | closingParen (method : String)
  | body (method : String)
deriving DecidableEq

/-- The warning for a member that was given up. -/
def Malformation.message : Malformation → String
  | arguments line => s!"Failed to parse annotation at line {line}, skipping member"
  | type line column => s!"Failed to parse type at line {line}:{column}, skipping member"
  | name typeText got =>
    s!"Expected identifier after type '{typeText}', got '{got}', skipping member"
  | value field => s!"Expected value after '=' for field '{field}', skipping member"
  | semicolon field => s!"Expected ';' after field '{field}', skipping member"
  | parameters method => s!"Failed to parse parameters of method '{method}', skipping member"
  | closingParen method =>
    s!"Expected ')' after parameters of method '{method}', skipping member"
  | body method => s!"Expected method body for '{method}', skipping member"

/-- Why a construct was not read: it is not there; the arguments of an annotation are not closed; an
integer is too long; or a member is malformed. -/
inductive Miss
  | absent
  | unclosedArguments
  | longNumeral (fault : Numeral.TooLong)
  | malformed (why : Malformation)
deriving DecidableEq

/-- The outcome of reading a construct, with the tokens that are left. -/
inductive Reading (α : Type)
  | found (value : α) (rest : List Token)
  | missed (cause : Miss) (rest : List Token)

namespace Reading

variable {α β : Type}

/-- The tokens that are left. -/
def rest : Reading α → List Token
  | found _ rest => rest
  | missed _ rest => rest

/-- Goes on reading behind a construct that was found. -/
def andThen (r : Reading α) (next : α → List Token → Reading β) : Reading β :=
  match r with
  | found value rest => next value rest
  | missed cause rest => missed cause rest

/-- Changes the value that was found. -/
def map (f : α → β) (r : Reading α) : Reading β := r.andThen fun value rest ↦ found (f value) rest

/-- Turns an absent construct, or one with unclosed arguments, into a malformed member. -/
def orMalformed (r : Reading α) (why : Malformation) : Reading α :=
  match r with
  | missed .absent rest => missed (.malformed why) rest
  | missed .unclosedArguments rest => missed (.malformed why) rest
  | other => other

@[simp] theorem rest_found (value : α) (rest : List Token) : (found value rest).rest = rest := rfl

@[simp] theorem rest_missed (cause : Miss) (rest : List Token) :
    (missed cause rest : Reading α).rest = rest := rfl

@[simp] theorem rest_map (f : α → β) (r : Reading α) : (r.map f).rest = r.rest := by
  cases r <;> rfl

@[simp] theorem rest_orMalformed (r : Reading α) (why : Malformation) :
    (r.orMalformed why).rest = r.rest := by
  unfold orMalformed; split <;> rfl

theorem length_andThen_rest_le {r : Reading α} {next : α → List Token → Reading β} {n : Nat}
    (hr : r.rest.length ≤ n)
    (hnext : ∀ value rest, rest.length ≤ n → (next value rest).rest.length ≤ n) :
    (r.andThen next).rest.length ≤ n := by
  cases r with
  | found value rest => exact hnext value rest hr
  | missed cause rest => exact hr

end Reading

/-! ## Looking at the tokens ahead -/

namespace Ahead

/-- The kind of the next token. -/
def kind : List Token → Kind
  | [] => .endOfInput
  | t :: _ => t.kind

/-- The kind of the token `n` places ahead. -/
def kindAt (n : Nat) (ts : List Token) : Kind := kind (ts.drop n)

/-- Whether the next token is a given mark. -/
def atMark (m : Mark) (ts : List Token) : Bool := kind ts = .mark m

/-- The texts of a row of `. name` pairs. -/
abbrev Names := List (Token × Token)

/-- The pairs of a dot and a name at the front, where `isName` tells which kinds are names, and the
tokens behind them. -/
def dottedNames (isName : Kind → Bool) : List Token → Names × List Token
  | dot :: name :: rest =>
    if dot.isMark .dot && isName name.kind then
      let (names, rest) := dottedNames isName rest
      ((dot, name) :: names, rest)
    else ([], dot :: name :: rest)
  | ts => ([], ts)

/-- The number of `[]` pairs at the front, and the tokens behind them. -/
def bracketPairs : List Token → Nat × List Token
  | left :: right :: rest =>
    if left.isMark .openBracket && right.isMark .closeBracket then
      let (count, rest) := bracketPairs rest
      (count + 1, rest)
    else (0, left :: right :: rest)
  | ts => (0, ts)

theorem length_dottedNames_rest_le (isName : Kind → Bool) (ts : List Token) :
    (dottedNames isName ts).2.length ≤ ts.length := by
  fun_induction dottedNames isName ts <;> grind

theorem length_bracketPairs_rest_le (ts : List Token) :
    (bracketPairs ts).2.length ≤ ts.length := by
  fun_induction bracketPairs ts <;> grind

end Ahead

end ClassSchema
