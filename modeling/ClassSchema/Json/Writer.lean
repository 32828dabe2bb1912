import ClassSchema.Json.Basic
import ClassSchema.Text.Quoted

/-!
# Writing JSON

One item or entry a line, indented by two spaces for each level; an empty list or object stays on
its line. Texts are written as they are, except for quotes, backslashes and control characters.
-/

namespace ClassSchema.Json

/-- The style of doubles in JSON text. -/
def decimalStyle : DecimalStyle :=
  { DecimalStyle.plain with infinity := "Infinity", notANumber := "NaN" }

/-- A character of a text: the quote, the backslash and control characters are escaped. -/
def escapedChar (c : Char) : List Char :=
  if c = '"' then ['\\', '"']
  else if c = '\\' then ['\\', '\\']
  else if c = '\n' then ['\\', 'n']
  else if c = '\r' then ['\\', 'r']
  else if c = '\t' then ['\\', 't']
  else if c = '\x08' then ['\\', 'b']
  else if c = '\x0c' then ['\\', 'f']
  else if c.toNat < 0x20 then '\\' :: 'u' :: Text.hexDigits 4 c.toNat
  else [c]

/-- A text between quotes. -/
def writeText (s : String) : List Char := '"' :: (s.toList.flatMap escapedChar ++ ['"'])

/-- The start of a line at some level. -/
def newline (level : Nat) : List Char := '\n' :: List.replicate (2 * level) ' '

mutual

/-- The text of a value that stands at some level. -/
def write (level : Nat) : Json → List Char
  | null => "null".toList
  | bool b => if b then "true".toList else "false".toList
  | number n => (n.text decimalStyle).toList
  | text s => writeText s
  | list [] => ['[', ']']
  | list (item :: items) =>
    '[' :: newline (level + 1) ++ write (level + 1) item ++ writeItems (level + 1) items
      ++ newline level ++ [']']
  | table [] => ['\x7b', '\x7d']
  | table ((key, value) :: entries) =>
    '\x7b' :: newline (level + 1) ++ writeText key ++ [':', ' '] ++ write (level + 1) value
      ++ writeEntries (level + 1) entries ++ newline level ++ ['\x7d']

/-- The text of the items behind the first one. -/
def writeItems (level : Nat) : List Json → List Char
  | [] => []
  | item :: items => ',' :: newline level ++ write level item ++ writeItems level items

/-- The text of the entries behind the first one. -/
def writeEntries (level : Nat) : List (String × Json) → List Char
  | [] => []
  | (key, value) :: entries =>
    ',' :: newline level ++ writeText key ++ [':', ' '] ++ write level value
      ++ writeEntries level entries

end

/-- The text of a value. -/
def render (value : Json) : String := String.ofList (write 0 value)

end ClassSchema.Json
