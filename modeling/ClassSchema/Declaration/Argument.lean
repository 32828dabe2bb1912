import ClassSchema.Declaration.Basic
import ClassSchema.Number.Numeral

/-!
# Arguments as texts and as numbers

A string in a class file stands between double quotes; a backslash escapes the character after it.
Every argument has a text. Numbers and strings that hold a numeral also have a number, so
`@DecimalMin("0.01")` sets the same bound as `@DecimalMin(0.01)`.
-/

namespace ClassSchema

namespace Text

/-- The character that an escape stands for; an unknown escape stands for its own character. -/
def unescape (c : Char) : Char :=
  if c = 'n' then '\n' else if c = 't' then '\t' else if c = 'r' then '\r' else c

/-- Resolves the escapes of a text. A backslash at the very end stands for itself. -/
def unescapeAll : List Char → List Char
  | [] => []
  | '\\' :: c :: cs => unescape c :: unescapeAll cs
  | c :: cs => c :: unescapeAll cs

/-- Drops the double quotes around a text, if it stands between two. -/
def dropQuotes (cs : List Char) : List Char :=
  match cs with
  | '"' :: rest => if rest.getLast? = some '"' then rest.dropLast else cs
  | _ => cs

/-- The text that a string literal stands for. -/
def unquote (literal : String) : String :=
  String.ofList (unescapeAll (dropQuotes literal.toList))

end Text

namespace Argument

/-- The word for a truth value. -/
def flagText (b : Bool) : String := if b then "true" else "false"

/-- The text of an argument. -/
def asText : Argument → String
  | text s => s
  | number n => n.text .plain
  | flag b => flagText b
  | path s => s

/-- The number of an argument, if it has one. -/
def asNumber : Argument → Except Numeral.TooLong (Option Number)
  | number n => .ok (some n)
  | text s => Numeral.read s
  | flag _ | path _ => .ok none

end Argument

end ClassSchema
