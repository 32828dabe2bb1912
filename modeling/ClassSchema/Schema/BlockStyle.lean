import ClassSchema.Schema.Yaml
import ClassSchema.Text.Blank

/-!
# A writer of YAML in block style

The writer that the program is run with; what is said of schemas holds for every other one too. It
knows as much of YAML as schemas have: names with values, and lists of texts. There are two spaces
for each level, and the items of a list stand one level below their key. Keys and texts are written
raw. A text with a line feed becomes a block of lines, marked `|` if the text ends with a line feed
and `|-` if not; line feeds at its end are dropped.
-/

namespace ClassSchema.Yaml

/-- The blanks in front of a line at some level. -/
def indent (level : Nat) : List Char := List.replicate (2 * level) ' '

/-- A line of a block; an empty one has no blanks. -/
def blockLine (level : Nat) (line : List Char) : List Char :=
  '\n' :: if line.isEmpty then [] else indent level ++ line

/-- A text behind its key or dash: on the line itself, or as a block at `level`. -/
def writeText (level : Nat) (text : String) : List Char :=
  let cs := text.toList
  if cs.any (· = '\n') then
    let lines := Text.splitAt '\n' (cs.reverse.dropWhile (· = '\n')).reverse
    (if cs.getLast? = some '\n' then ['|'] else ['|', '-'])
      ++ lines.flatMap (blockLine level)
  else cs

/-- The text of a value without parts. -/
def writeScalar (level : Nat) : Json → List Char
  | .text s => writeText level s
  | .number n => (n.text .plain).toList
  | .bool b => if b then "true".toList else "false".toList
  | _ => "null".toList

mutual

/-- The entries of an object, each on a new line. -/
def writeEntries (level : Nat) : List (String × Json) → List Char
  | [] => []
  | (key, value) :: entries =>
    '\n' :: indent level ++ key.toList ++ [':'] ++ writeBehindKey level value
      ++ writeEntries level entries

/-- A value behind its key. -/
def writeBehindKey (level : Nat) : Json → List Char
  | .table [] => [' ', '\x7b', '\x7d']
  | .table (entry :: entries) => writeEntries (level + 1) (entry :: entries)
  | .list [] => [' ', '[', ']']
  | .list (item :: items) => writeItems (level + 1) (item :: items)
  | value => ' ' :: writeScalar (level + 1) value

/-- The items of a list, each on a new line. -/
def writeItems (level : Nat) : List Json → List Char
  | [] => []
  | item :: items =>
    '\n' :: indent level ++ ['-', ' '] ++ writeScalar (level + 1) item ++ writeItems level items

end

/-- The text of an object: its entries without the first line feed, and one at the end. -/
def blockStyle : YamlWriter
  | .table entries => String.ofList ((writeEntries 0 entries).drop 1 ++ ['\n'])
  | _ => ""

/-- The text of a schema in block style. -/
def render (s : Schema) : String := blockStyle s.yamlPayload

end ClassSchema.Yaml
