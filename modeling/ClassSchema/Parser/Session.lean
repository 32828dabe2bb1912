import ClassSchema.Parser.Rules

/-!
# Sessions

A session drives a parser by single commands: moves, looks ahead, reports, checkpoints, skips and
whole rules. Checkpoints and progress marks are kept under names. Every command has a reply; a
command that fails leaves the parser where the failure arose, and the session goes on.
-/

namespace ClassSchema

/-- The constructs a session can ask for. -/
inductive Construct
  | compilationUnit
  | typeDeclaration
  | classBody
  | classMember
  | parameter
  | type
  | defaultValue
  | prelude
  | annotationUse
  | argument
deriving DecidableEq

/-- A construct that was found. -/
inductive Construed
  | unit (decl : CompilationUnit)
  | declaration (decl : Option ClassDecl)
  | body (members : List Member)
  | members (members : List Member)
  | parameter (decl : ParameterDecl)
  | text (value : String)
  | prelude (head : Prelude)
  | annotationUse (use : AnnotationUse)
  | argument (value : Argument)

/-- The rule of a construct. -/
def Construct.rule : Construct → Rule Construed
  | compilationUnit => .bind Rule.compilationUnit (.pure <| .unit ·)
  | typeDeclaration => .bind Rule.typeDeclaration (.pure <| .declaration ·)
  | classBody => .bind Rule.classBody (.pure <| .body ·)
  | classMember => .bind Rule.classMember (.pure <| .members ·)
  | parameter => .bind (.reading ParameterDecl.read) (.pure <| .parameter ·)
  | type => .bind (.reading fun _ ↦ TypeText.read) (.pure <| .text ·)
  | defaultValue => .bind (.reading Initializer.read) (.pure <| .text ·)
  | prelude => .bind (.reading Prelude.read) (.pure <| .prelude ·)
  | annotationUse => .bind (.reading Arguments.use) (.pure <| .annotationUse ·)
  | argument => .bind (.reading Arguments.value) (.pure <| .argument ·)

/-- The commands of a session. -/
inductive Command
  | bump
  | current
  | tokens
  | atEnd
  | isAt (kind : Kind)
  | isAtAny (kinds : List Kind)
  | eat (kind : Kind)
  | expect (kind : Kind) (complaint : Complaint)
  | hasErrors
  | nthKind (n : Nat)
  | nthToken (n : Nat)
  | checkpoint (name : String)
  | rewind (name : String)
  | complain (complaint : Complaint) (message : String)
  | warn (text : String)
  | precedingComment
  | skipBalanced
  | skipUntil (kinds : List Kind)
  | skipToMemberEnd
  | skipTypeDeclaration
  | search (target : Kind) (stops : List Kind)
  | hasProgressed (name : String)
  | assertProgress (name : String)
  | parse (construct : Construct)
  | demand (construct : Construct)
  | arguments
  | joinType (start stop : Nat)
  | sourceText (start stop : Nat)

/-- Why a command failed. -/
inductive CommandFault
  | parse (cause : ParseFault)
  | absent
  | noTokens
deriving DecidableEq

/-- The wording of a failed command. -/
def CommandFault.message : CommandFault → String
  | parse cause => cause.message
  | absent => "Cannot unwrap an absent ParsedSyntax"
  | noTokens => "list index out of range"

/-- The reply to a command. -/
inductive Reply
  | nothing
  | token (token : Option Token)
  | tokens (tokens : List Token)
  | truth (value : Bool)
  | kind (kind : Kind)
  | checkpoint (checkpoint : Parser.Checkpoint)
  | search (fault : Option Skip.SearchFault)
  | found (value : Construed)
  | absent
  | value (value : Construed)
  | arguments (table : Assoc Argument)
  | text (text : String)
  | failed (fault : CommandFault)

/-- A parser with the checkpoints and progress marks taken so far. -/
structure Session where
  parser : Parser
  checkpoints : Assoc Parser.Checkpoint := []
  marks : Assoc Nat := []

namespace Session

/-- A session at the first of some tokens. -/
def start (ts : List Token) (source : Option String) : Session := ⟨.ofTokens ts source, [], []⟩

/-- Whether the parser has moved on since the last time this was asked under a name; it has the
first time. -/
def progressed (s : Session) (name : String) : Bool × Session :=
  let position := s.parser.position
  let moved := match s.marks.get? name with
    | none => true
    | some last => last < position
  (moved, { s with marks := s.marks.put name position })

/-- The tokens from one position up to another. -/
def tokensFrom (s : Session) (start stop : Nat) : List Token :=
  (s.parser.tokens.drop start).take (stop - start)

/-- The reply to a command, and the session after it. -/
def execute (s : Session) : Command → Reply × Session
  | .bump => (.token s.parser.current, { s with parser := s.parser.bump })
  | .current => (.token s.parser.current, s)
  | .tokens => (.tokens s.parser.tokens, s)
  | .atEnd => (.truth s.parser.atEnd, s)
  | .isAt kind => (.truth (s.parser.isAt kind), s)
  | .isAtAny kinds => (.truth (kinds.any s.parser.isAt), s)
  | .eat kind =>
    if s.parser.isAt kind then (.truth true, { s with parser := s.parser.bump })
    else (.truth false, s)
  | .expect kind complaint =>
    let (met, parser) := s.parser.expect kind complaint
    (.truth met, { s with parser })
  | .hasErrors => (.truth s.parser.hasErrors, s)
  | .nthKind n => (.kind (s.parser.nth n).kind, s)
  | .nthToken n => (.token (s.parser.nth n), s)
  | .checkpoint name =>
    let point := s.parser.checkpoint
    (.checkpoint point, { s with checkpoints := s.checkpoints.put name point })
  | .rewind name =>
    match s.checkpoints.get? name with
    | some point => (.nothing, { s with parser := s.parser.rewind point })
    | none => (.nothing, s)
  | .complain complaint message =>
    (.nothing, { s with parser := s.parser.complain complaint message })
  | .warn text => (.nothing, { s with parser := s.parser.warn text })
  | .precedingComment => (.token s.parser.precedingComment, s)
  | .skipBalanced => (.nothing, { s with parser := s.parser.skipBalanced })
  | .skipUntil kinds => (.nothing, { s with parser := s.parser.skipUntil kinds.contains })
  | .skipToMemberEnd => (.nothing, { s with parser := s.parser.skipToMemberEnd })
  | .skipTypeDeclaration => (.nothing, { s with parser := s.parser.skipTypeDeclaration })
  | .search target stops =>
    let (fault, parser) := s.parser.search target stops.contains
    (.search fault, { s with parser })
  | .hasProgressed name =>
    let (moved, s) := s.progressed name
    (.truth moved, s)
  | .assertProgress name =>
    let (moved, s) := s.progressed name
    (if moved then .nothing else .failed (.parse (.stalled s.parser.current)), s)
  | .parse construct =>
    match construct.rule s.parser with
    | (.present value, parser) => (.found value, { s with parser })
    | (.absent, parser) => (.absent, { s with parser })
    | (.fault cause, parser) => (.failed (.parse cause), { s with parser })
  | .demand construct =>
    match construct.rule s.parser with
    | (.present value, parser) => (.value value, { s with parser })
    | (.absent, parser) => (.failed .absent, { s with parser })
    | (.fault cause, parser) => (.failed (.parse cause), { s with parser })
  | .arguments =>
    match Rule.reading Arguments.read s.parser with
    | (.present table, parser) => (.arguments table, { s with parser })
    | (.absent, parser) => (.nothing, { s with parser })
    | (.fault cause, parser) => (.failed (.parse cause), { s with parser })
  | .joinType start stop => (.text (TypeText.join (s.tokensFrom start stop)), s)
  | .sourceText start stop =>
    let tokens := s.tokensFrom start stop
    if tokens.isEmpty && s.parser.source.isSome then (.failed .noTokens, s)
    else (.text (ClassSchema.sourceText s.parser.source tokens), s)

/-- Executes commands one after another, with the replies in order. -/
def run (s : Session) : List Command → List Reply × Session
  | [] => ([], s)
  | command :: commands =>
    let (reply, s) := s.execute command
    let (replies, s) := s.run commands
    (reply :: replies, s)

end Session

end ClassSchema
