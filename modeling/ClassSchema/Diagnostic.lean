import ClassSchema.Json.Basic
import ClassSchema.Token.Basic

/-!
# Diagnostics

A hard error found while reading a class file: what was expected, where, and how it is reported.
Each cause has a fixed report; a diagnostic is a report at a token.
-/

namespace ClassSchema

/-- The severity of a diagnostic. -/
inductive Severity
  | syntactic
  | semantic
  | warning
deriving DecidableEq

namespace Severity

/-- The word for a severity. -/
def text : Severity → String
  | syntactic => "syntax"
  | semantic => "semantic"
  | warning => "warning"

/-- The severity a word stands for. -/
def ofText? (word : String) : Option Severity :=
  [syntactic, semantic, warning].find? (·.text = word)

end Severity

/-- A diagnostic located at a line and column, both counted from one. -/
structure Diagnostic where
  code : String
  message : String
  line : Nat
  column : Nat
  severity : Severity := .syntactic
  span : Span := .empty 0
  hint : Option String := none
  category : Option String := none
deriving DecidableEq

namespace Diagnostic

/-- A warning is no error; everything else is. -/
def isError (d : Diagnostic) : Bool := d.severity ≠ .warning

/-- The short form of a diagnostic: message, place and severity. -/
def toJson (d : Diagnostic) : Json :=
  .table [("message", .text d.message), ("line", .int d.line), ("column", .int d.column),
    ("type", .text d.severity.text)]

/-- The line that reports a diagnostic, with the path of its file if that is given. An empty hint is
no hint. -/
def report (d : Diagnostic) (path : Option String := none) : String :=
  let place := s!"{d.line}:{d.column}"
  let place := match path with
    | some path => s!"{path}:{place}"
    | none => place
  let text := s!"{place}: {d.severity.text} {d.code}: {d.message}"
  match d.hint with
  | some hint => if hint.isEmpty then text else s!"{text} (hint: {hint})"
  | none => text

end Diagnostic

/-- What a class file was found to lack, or that reading it failed. -/
inductive Complaint
  | classKeyword
  | className
  | classBody
  | unclosedClassBody
  | unclosedArguments
  | internal
deriving DecidableEq

namespace Complaint

/-- All complaints. -/
def all : List Complaint :=
  [classKeyword, className, classBody, unclosedClassBody, unclosedArguments, internal]

/-- The code of a complaint. -/
def code : Complaint → String
  | classKeyword => "PARSER_EXPECTED_CLASS_KEYWORD"
  | className => "PARSER_EXPECTED_CLASS_NAME"
  | classBody => "PARSER_EXPECTED_CLASS_BODY"
  | unclosedClassBody => "PARSER_UNCLOSED_CLASS_BODY"
  | unclosedArguments => "PARSER_UNCLOSED_ANNOTATION_ARGUMENTS"
  | internal => "PARSER_INTERNAL_ERROR"

/-- The wording of a complaint. -/
def message : Complaint → String
  | classKeyword => "Expected class declaration"
  | className => "Expected class name"
  | classBody => "Expected \"\x7b\" after class name"
  | unclosedClassBody => "Expected \"\x7d\" after class body"
  | unclosedArguments => "Expected \")\" after annotation parameters"
  | internal => "Unknown parsing error"

/-- The advice that goes with a complaint. -/
def hint : Complaint → Option String
  | classKeyword =>
    some "Only `class` declarations are extracted; interfaces and enums are skipped."
  | _ => none

/-- The severity of a complaint: all of them concern the structure of the text. -/
def severity : Complaint → Severity
  | _ => .syntactic

/-- The part of the program that complains. -/
def category : Complaint → Option String
  | _ => some "parser"

/-- The complaint with a given code. -/
def ofCode? (code : String) : Option Complaint := all.find? (·.code = code)

/-- The diagnostic of a complaint at a token. A message of its own replaces the usual wording unless
it is empty. -/
def diagnosticAt (c : Complaint) (token : Token) (message : String := "") : Diagnostic where
  code := c.code
  message := if message.isEmpty then c.message else message
  line := token.line
  column := token.column
  severity := c.severity
  span := token.span
  hint := c.hint
  category := c.category

end Complaint

end ClassSchema
