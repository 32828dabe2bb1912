import ClassSchema.CommandLine.Invocation
import ClassSchema.Files.Tree
import ClassSchema.Json.Writer
import ClassSchema.Pipeline
import ClassSchema.Schema.BlockStyle
import ClassSchema.Schema.Validity

/-!
# Running an invocation

A job works on a tree of files and prints to two streams. A file or folder that cannot be used ends
the job with a message and keeps what was printed before; so does a file that is no text. Bounds
that are no integers, patterns that cannot be judged and lost values end it without an answer. A job
that writes YAML is handed its writer.
-/

namespace ClassSchema.CommandLine

/-! ## Actions -/

/-- The files, and what has been printed. -/
structure World where
  tree : FileTree
  out : String := ""
  err : String := ""

/-- What ends a job early. -/
inductive Halt
  | file (fault : FileFault)
  | encoding (fault : Utf8.Fault)
  | conversion (fault : ConversionFault)
  | pattern (fault : Pattern.Fault)
  | option (fault : OptionFault)
  | noFolder
  | noEnding

/-- The wording of what ended a job. -/
def Halt.message : Halt → String
  | file fault => fault.message
  | encoding fault => fault.message
  | conversion fault => fault.message
  | pattern fault => fault.message
  | option fault => fault.message
  | noFolder => "unsupported operand type(s) for /: 'list' and 'str'"
  | noEnding => "unhashable type: 'list'"

/-- Whether a job that was ended still has an answer. -/
def Halt.isReported : Halt → Bool
  | file .nulInPath => false
  | file _ | encoding _ => true
  | _ => false

/-- A step of a job. -/
abbrev JobM := ExceptT Halt (StateM World)

namespace JobM

/-- Prints a text. -/
def print (text : String) : JobM Unit := modify fun w ↦ { w with out := w.out ++ text }

/-- Prints a line of messages. -/
def report (line : String) : JobM Unit := modify fun w ↦ { w with err := w.err ++ line ++ "\n" }

/-- Prints notes, if they are wanted. -/
def log (s : Settings) (notes : List Note) : JobM Unit := do
  if s.verbose then notes.forM fun note ↦ report note.line

/-- A question to the tree of files. -/
def ask {α : Type} (question : FileTree → Except FileFault α) : JobM α := do
  match question (← get).tree with
  | .ok answer => return answer
  | .error fault => throw (.file fault)

/-- A change of the tree of files. -/
def change (f : FileTree → Except FileFault FileTree) : JobM Unit := do
  let tree ← ask f
  modify fun w ↦ { w with tree := tree }

/-- The text of a file. -/
def readText (path : Path) : JobM String := do
  match Utf8.readText (← ask (·.read path)) with
  | .ok text => return text
  | .error fault => throw (.encoding fault)

/-- Writes a text to a file, with the folders it lies in. -/
def writeText (path : Path) (text : String) : JobM Unit := do
  change (·.ensureFolder path.parent)
  change (·.write path (Utf8.encode text))

end JobM

open JobM

/-! ## Lost values -/

/-- Refuses settings in which the value of an option about fields has got lost. -/
def checkOptions (s : Settings) : JobM Unit := do
  if s.hasLost .requiredStrategy then throw (.option (.noStrategy (.list [])))
  if s.hasLost .commentStyle then throw (.option (.noCommentStyle (.list [])))

/-- The folder for output, if there is one. -/
def outFolder? (s : Settings) : JobM (Option Path) := do
  if s.hasLost .out then throw .noFolder
  return s.out

/-- The file for the schema of a class, if there is a folder for output. -/
def target? (s : Settings) (className : String) : JobM (Option Path) := do
  if s.hasLost .format && (s.out.isSome || s.hasLost .out) then throw .noEnding
  return (← outFolder? s).map (·.extend [className ++ s.format.ending])

/-! ## Jobs -/

/-- The files that a path stands for: those of the right ending in a folder, or the path itself. -/
def sources (path : Path) : JobM (List Path) := do
  if ← ask (·.isFolder path) then
    let location ← ask (·.locate path)
    return ((← get).tree.filesBelow location ".java").map path.extend
  else return [path]

/-- The violation in a schema that is to be valid, if it can be judged. -/
def violation (s : Settings) (schema : Schema) : JobM (Option Violation) := do
  if s.validate then
    match schema.violation? with
    | some (.unjudged fault) => throw (.pattern fault)
    | violation => return violation
  else return none

/-- Converts a file and says whether that gave a valid schema. -/
def convertFile (yaml : YamlWriter) (s : Settings) (path : Path) : JobM Bool := do
  let text ← readText path
  match Conversion.ofSource text s.options with
  | .error fault => throw (.conversion fault)
  | .ok c =>
    log s c.notes
    c.parsed.warnings.forM fun warning ↦ report s!"{path.text}: warning: {warning}"
    c.parsed.errors.forM fun error ↦ report (error.report (some path.text))
    match c.schema, c.parsed.record with
    | some schema, some record =>
      match ← violation s schema with
      | some violation =>
        report s!"{path.text}: invalid schema: {violation.message}"
        return false
      | none =>
        match ← target? s record.className with
        | none => print (schema.render yaml s.format ++ "\n")
        | some target =>
          writeText target (schema.render yaml s.format)
          log s [.wrote target.text]
        return true
    | _, _ => return false

/-- Converts all files of a path. -/
def convert (yaml : YamlWriter) (s : Settings) (path : Path) : JobM Nat := do
  let paths ← sources path
  if paths.isEmpty then
    report s!"No .java files found under {path.text}"
    return 1
  checkOptions s
  let results ← paths.mapM (convertFile yaml s)
  let failures := results.count false
  if failures = 0 then return 0
  report s!"{failures} of {paths.length} file(s) failed"
  return 1

/-- Prints the report on a file and says whether it is valid. -/
def checkFile (s : Settings) (path : Path) : JobM Bool := do
  let parsed := ParsedClass.ofSource (← readText path) s.options
  log s parsed.notes
  let r := ValidationReport.ofParsed parsed
  print ((Json.table (("path", .text path.text) :: r.entries)).render ++ "\n")
  return r.valid

/-- Prints the reports on all files of a path. -/
def check (s : Settings) (path : Path) : JobM Nat := do
  checkOptions s
  let results ← (← sources path).mapM (checkFile s)
  return if results.all id then 0 else 1

/-- Prints the tokens of a file. -/
def tokens (s : Settings) (path : Path) : JobM Nat := do
  let source ← readText path
  let tokens := Token.tokenize source
  log s [.lexed tokens.length source.length]
  print (Token.listingText tokens)
  return 0

/-! ## Outcomes -/

/-- What a job leaves: its exit status, what it printed, and the files. -/
structure Outcome where
  status : Nat
  out : String
  err : String
  tree : FileTree

namespace Invocation

/-- The action of an invocation. -/
def action (i : Invocation) (yaml : YamlWriter) : JobM Nat :=
  match i.job with
  | .convert => convert yaml i.settings i.path
  | .check => check i.settings i.path
  | .tokens => tokens i.settings i.path

/-- Runs an invocation on a tree of files. -/
def run (i : Invocation) (tree : FileTree) (yaml : YamlWriter := Yaml.blockStyle) :
    Except Halt Outcome :=
  match (i.action yaml).run.run { tree := tree } with
  | (.ok status, w) => .ok ⟨status, w.out, w.err, w.tree⟩
  | (.error halt, w) =>
    if halt.isReported then .ok ⟨1, w.out, s!"{w.err}beanschema: {halt.message}\n", w.tree⟩
    else .error halt

end Invocation

end ClassSchema.CommandLine
