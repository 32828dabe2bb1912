import ClassSchema.Parser.Rules
import ClassSchema.Record.Extract
import ClassSchema.Schema.Convert

/-!
# From source text to schema

The way of a text through the library: tokens, declarations, the record of the first class, the
schema. Parsing never fails; it gives a record or says why there is none. Converting fails only on
bounds that are no integers of a readable size. Each stage leaves a note of what it did.
-/

namespace ClassSchema

/-! ## Notes -/

/-- A note of what a stage did. -/
inductive Note
  | lexed (tokens characters : Nat)
  | skipped (declaration : SkippedDeclaration)
  | parsed (classes errors warnings : Nat)
  | extracted (fields : Nat) (className : String)
  | converted (className : String) (properties : Nat)
  | wrote (path : String)
deriving DecidableEq

/-- The line of the log that shows a note, with its level and the stage it comes from. -/
def Note.line : Note → String
  | lexed tokens characters =>
    s!"DEBUG beanschema.lexer.lexer: Lexed {tokens} tokens from {characters} characters"
  | skipped declaration =>
    s!"DEBUG beanschema.parser.grammar: Skipping {declaration.what.text} declaration at " ++
      s!"{declaration.line}:{declaration.column}"
  | parsed classes errors warnings =>
    s!"DEBUG beanschema.parser.parse: Parsed {classes} class(es) with {errors} error(s) and " ++
      s!"{warnings} warning(s)"
  | extracted fields className =>
    s!"DEBUG beanschema.extract.extractor: Extracted {fields} field(s) from class {className}"
  | converted className properties =>
    s!"DEBUG beanschema.schema.converter: Converted {className} into {properties} propert(ies)"
  | wrote path => s!"INFO beanschema.cli: Wrote {path}"

/-! ## Parsing -/

/-- What parsing a text gives: the record of its first class, if there was no error and there is a
class, with the reports and the options it was made with. -/
structure ParsedClass where
  record : Option ClassRecord
  errors : List Diagnostic
  warnings : List String
  options : Options
  notes : List Note

namespace ParsedClass

/-- Whether an error was reported. -/
def hasErrors (p : ParsedClass) : Bool := p.errors.any (·.isError)

/-- The notes of the lexer and the parser. -/
def parserNotes (source : String) (tokens : List Token) (u : ParsedUnit) : List Note :=
  let classes := (u.tree.map (·.classes.length)).getD 0
  .lexed tokens.length source.length :: u.skipped.map .skipped
    ++ [.parsed classes u.errors.length u.warnings.length]

/-- Parses a text. -/
def ofSource (source : String) (options : Options) : ParsedClass :=
  let tokens := Token.tokenize source
  let u := ParsedUnit.ofTokens tokens (some source)
  let notes := parserNotes source tokens u
  match if u.hasErrors then none else u.tree with
  | none => ⟨none, u.errors, u.warnings, options, notes⟩
  | some tree =>
    match ClassRecord.extract? options (.unit tree) with
    | none => ⟨none, u.errors, u.warnings ++ [ClassRecord.noClassWarning], options, notes⟩
    | some record =>
      let note := .extracted record.fields.length record.className
      ⟨some record, u.errors, u.warnings, options, notes ++ [note]⟩

/-- The JSON form of a parse. -/
def toJson (p : ParsedClass) : Json :=
  .table [("classRecord", (p.record.map (·.toJson)).getD .null),
    ("errors", .list (p.errors.map (·.toJson))), ("warnings", .texts p.warnings)]

end ParsedClass

/-! ## Validation -/

/-- Whether a text holds a class that can be read, with the reports. -/
structure ValidationReport where
  valid : Bool
  errors : List Diagnostic
  warnings : List String
  className : Option String
  fieldCount : Nat

namespace ValidationReport

/-- The report on a parse. -/
def ofParsed (p : ParsedClass) : ValidationReport where
  valid := p.record.isSome && !p.hasErrors
  errors := p.errors
  warnings := p.warnings
  className := p.record.map (·.className)
  fieldCount := (p.record.map (·.fields.length)).getD 0

/-- Parses a text and reports on it. -/
def ofSource (source : String) (options : Options) : ValidationReport :=
  ofParsed (.ofSource source options)

/-- The entries of the JSON form of a report. -/
def entries (r : ValidationReport) : List (String × Json) :=
  [("valid", .bool r.valid), ("errors", .list (r.errors.map (·.toJson))),
    ("warnings", .texts r.warnings), ("className", (r.className.map .text).getD .null),
    ("fieldCount", .int r.fieldCount)]

end ValidationReport

/-! ## Conversion -/

/-- A parse with the schema of its record, which is there exactly when the record is. -/
structure Conversion where
  parsed : ParsedClass
  schema : Option Schema
  notes : List Note

/-- Why a text was not converted. -/
inductive RunFault
  | option (fault : OptionFault)
  | conversion (fault : ConversionFault)
  | parsedAndOptions

/-- The wording of a fault. -/
def RunFault.message : RunFault → String
  | option fault => fault.message
  | conversion fault => fault.message
  | parsedAndOptions => "Pass either parsed or options, not both"

namespace Conversion

/-- Converts what was parsed. -/
def ofParsed (p : ParsedClass) : Except ConversionFault Conversion :=
  match p.record with
  | none => .ok ⟨p, none, p.notes⟩
  | some record =>
    match Schema.ofRecord p.options record with
    | .ok schema =>
      let note := .converted record.className schema.properties.length
      .ok ⟨p, some schema, p.notes ++ [note]⟩
    | .error fault => .error fault

/-- Parses and converts a text. -/
def ofSource (source : String) (options : Options) : Except ConversionFault Conversion :=
  ofParsed (.ofSource source options)

/-- Whether there is a schema. -/
def succeeded (c : Conversion) : Bool := c.schema.isSome

end Conversion

/-- The options of settings that may be missing. -/
def Options.resolve : Option (List (String × Json)) → Except RunFault Options
  | none => .ok {}
  | some settings =>
    match Options.ofSettings settings with
    | .ok options => .ok options
    | .error fault => .error (.option fault)

/-- Parses and converts a text, or converts an earlier parse instead; that one has its options
already. -/
def Conversion.run (source : String) (settings : Option (List (String × Json)))
    (parsed : Option ParsedClass) : Except RunFault Conversion :=
  let conversion (result : Except ConversionFault Conversion) : Except RunFault Conversion :=
    match result with
    | .ok c => .ok c
    | .error fault => .error (.conversion fault)
  match parsed, settings with
  | some _, some _ => .error .parsedAndOptions
  | some p, none => conversion (Conversion.ofParsed p)
  | none, settings =>
    match Options.resolve settings with
    | .ok options => conversion (Conversion.ofSource source options)
    | .error fault => .error fault

end ClassSchema
