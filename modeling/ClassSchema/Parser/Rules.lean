import ClassSchema.Parser.State
import ClassSchema.Token.Lexer

/-!
# Rules of the grammar

A rule moves a parser over a construct. It finds the construct, finds that it is absent, or meets a
fault that ends the parse. Malformed members are left out with a warning; an error of the class as a
whole makes the class absent.

The two rules that repeat another rule insist that each round moves the parser on. They would report
a fault otherwise, so they end on every input.
-/

namespace ClassSchema

/-- A fault that ends the parse: an integer is too long to be read, or the parser stands still at a
token. -/
inductive ParseFault
  | longNumeral (fault : Numeral.TooLong)
  | stalled (token : Token)
deriving DecidableEq

/-- The wording of a fault. -/
def ParseFault.message : ParseFault → String
  | longNumeral fault => fault.message
  | stalled t => s!"Parser stopped making progress at {t.kind.label} {t.line}:{t.column}"

/-- What a rule comes to. -/
inductive Outcome (α : Type)
  | present (value : α)
  | absent
  | fault (cause : ParseFault)

/-- A rule of the grammar. -/
abbrev Rule (α : Type) := Parser → Outcome α × Parser

namespace Rule

variable {α β : Type}

/-- The rule that finds a value without moving. -/
def pure (value : α) : Rule α := fun p ↦ (.present value, p)

/-- Goes on with another rule where the first one found its construct. -/
def bind (rule : Rule α) (next : α → Rule β) : Rule β := fun p ↦
  match rule p with
  | (.present value, p) => next value p
  | (.absent, p) => (.absent, p)
  | (.fault cause, p) => (.fault cause, p)

/-- The rule that reads something off the tokens ahead. Unclosed arguments are complained of where
the reading ends. -/
def reading (read : Option (List Char) → List Token → Reading α) : Rule α := fun p ↦
  match read p.source p.ahead with
  | .found value rest => (.present value, p.settle rest)
  | .missed .unclosedArguments rest => (.absent, (p.settle rest).complain .unclosedArguments)
  | .missed (.longNumeral fault) rest => (.fault (.longNumeral fault), p.settle rest)
  | .missed _ rest => (.absent, p.settle rest)

/-- The rule that changes the parser and finds nothing in particular. -/
def modify (f : Parser → Parser) : Rule Unit := fun p ↦ (.present (), f p)

/-- The rule that moves over one token of a kind and is absent, with a complaint, at another. -/
def expect (kind : Kind) (c : Complaint) : Rule Token := fun p ↦
  match p.expect kind c with
  | (true, q) => (.present p.current, q)
  | (false, q) => (.absent, q)

/-- Gives up the member that starts where `p` stands: a warning, and on to the end of the member. -/
def giveUp (why : Malformation) (p : Parser) : Outcome (List Member) × Parser :=
  (.present [], (p.warn why.message).skipToMemberEnd)

/-- A member of a class; a malformed one is left out. -/
def classMember : Rule (List Member) := fun p ↦
  match MemberItem.read p.source p.final p.ahead with
  | .found (.members decls) rest => (.present decls, p.settle rest)
  | .found (.nestedType what) rest =>
    let q := (p.settle rest).warn s!"Skipped nested {what.text} declaration"
    (.present [], q.skipTypeDeclaration)
  | .missed (.malformed why) _ => giveUp why p
  | .missed (.longNumeral fault) rest => (.fault (.longNumeral fault), p.settle rest)
  | .missed .absent _ => giveUp (.arguments p.current.line) p
  | .missed .unclosedArguments rest =>
    let q := (p.settle rest).complain .unclosedArguments
    if p.errors.length < q.errors.length then (.absent, q)
    else giveUp (.arguments p.current.line) p

/-- Whether the members of a class end here. -/
def endsBody (p : Parser) : Bool := p.isAt (.mark .closeBrace) || p.atEnd

/-- The members up to the closing brace of a class or the end of the input. -/
def classBody (p : Parser) : Outcome (List Member) × Parser :=
  if endsBody p then (.present [], p)
  else
    match classMember p with
    | (.present decls, q) =>
      if q.ahead.length < p.ahead.length then
        match classBody q with
        | (.present more, r) => (.present (decls ++ more), r)
        | other => other
      else if endsBody q then (.present decls, q)
      else (.fault (.stalled q.current), q)
    | (.absent, q) => (.absent, q)
    | (.fault cause, q) => (.fault cause, q)
termination_by p.ahead.length

/-- The kind of the opening brace of a class. -/
def isOpenBrace (kind : Kind) : Bool := kind = .mark .openBrace

/-- A class from its keyword on, behind `head`; `comment` is the comment that stands in front of
it. -/
def classRest (comment : Option Token) (head : Prelude) : Rule ClassDecl :=
  bind (expect (.keyword .classWord) .classKeyword) fun classToken ↦
  bind (expect .identifier .className) fun name ↦
  bind (modify (·.skipUntil isOpenBrace)) fun _ ↦
  bind (expect (.mark .openBrace) .classBody) fun _ ↦
  bind classBody fun members ↦
  bind (expect (.mark .closeBrace) .unclosedClassBody) fun _ ↦
  pure
    { name := name.text
      modifiers := head.modifiers
      annotations := head.annotations
      fields := Member.fields members
      methods := Member.methods members
      comment := (comment.or head.comment).map (·.text)
      line := classToken.line
      column := classToken.column }

/-- A declaration behind what stands in front of it: a class, or nothing when the declaration is
passed over. `start` is its first token. -/
def declarationRest (start : Token) (comment : Option Token) (head : Prelude) :
    Rule (Option ClassDecl) := fun p ↦
  match Skippable.at? false p.ahead with
  | some what =>
    let note : SkippedDeclaration := ⟨what, start.line, start.column⟩
    (.present none, { p with skipped := p.skipped ++ [note] }.skipTypeDeclaration)
  | none => bind (classRest comment head) (fun decl ↦ pure (some decl)) p

/-- A top-level declaration. -/
def typeDeclaration : Rule (Option ClassDecl) := fun p ↦
  match reading Prelude.read p with
  | (.present head, q) => declarationRest p.current p.precedingComment head q
  | (.absent, q) => (.absent, if q.hasErrors then q else q.complain .classKeyword)
  | (.fault cause, q) => (.fault cause, q)

/-- Moves to the start of the next declaration. -/
def toDeclaration (p : Parser) : Parser := p.skipUntil Kind.startsDeclaration

/-- The classes from a declaration on; what stands between declarations is passed over. -/
def classesFrom (p : Parser) : Outcome (List ClassDecl) × Parser :=
  match typeDeclaration p with
  | (.present decl, q) =>
    let q := toDeclaration q
    if q.atEnd then (.present decl.toList, q)
    else if q.ahead.length < p.ahead.length then
      match classesFrom q with
      | (.present more, r) => (.present (decl.toList ++ more), r)
      | other => other
    else (.fault (.stalled q.current), q)
  | (.absent, q) => (.absent, q)
  | (.fault cause, q) => (.fault cause, q)
termination_by p.ahead.length

/-- The classes of a whole file. -/
def compilationUnit : Rule CompilationUnit := fun p ↦
  let p := toDeclaration p
  if p.atEnd then (.present ⟨[]⟩, p)
  else bind classesFrom (fun classes ↦ pure ⟨classes⟩) p

end Rule

/-! ## Parsing a file -/

/-- What parsing a file gives: its declarations, unless there was an error, and the reports. -/
structure ParsedUnit where
  tree : Option CompilationUnit
  errors : List Diagnostic
  warnings : List String
  skipped : List SkippedDeclaration

namespace ParsedUnit

/-- Whether an error was reported. -/
def hasErrors (u : ParsedUnit) : Bool := u.errors.any (·.isError)

/-- Parses tokens. A fault becomes an error at the token where it arose. -/
def ofTokens (ts : List Token) (source : Option String := none) : ParsedUnit :=
  match Rule.compilationUnit (.ofTokens ts source) with
  | (.present unit, p) =>
    ⟨if p.hasErrors then none else some unit, p.errors, p.warnings, p.skipped⟩
  | (.absent, p) => ⟨none, p.errors, p.warnings, p.skipped⟩
  | (.fault cause, p) =>
    let p := p.complain .internal cause.message
    ⟨none, p.errors, p.warnings, p.skipped⟩

/-- Parses a text. -/
def ofText (source : String) : ParsedUnit := ofTokens (Token.tokenize source) (some source)

end ParsedUnit

end ClassSchema
