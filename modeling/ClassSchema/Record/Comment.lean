import ClassSchema.Text.Blank

/-!
# The prose of a comment

A comment is reduced to what it says. A line or block comment loses its delimiters and the blanks at
its ends. A documentation comment is taken line by line: each line loses its leading asterisk and
the blanks around it, empty lines and lines that start with an at sign are dropped, and the rest is
joined by single spaces.
-/

namespace ClassSchema.Comment

/-- Drops a closing delimiter at the end, if there is one. -/
def dropCloser (cs : List Char) : List Char :=
  match cs.reverse with
  | '/' :: '*' :: rest => rest.reverse
  | _ => cs

/-- A line of a documentation comment without its leading asterisk and the blanks around it. -/
def docLine (line : List Char) : List Char :=
  match Text.trimStart line with
  | '*' :: rest => Text.trim rest
  | _ => Text.trim line

/-- Whether a line of a documentation comment is prose. -/
def isProse (line : List Char) : Bool := line.head?.any (· ≠ '@')

/-- The prose of a documentation comment between its delimiters. -/
def docProse (body : List Char) : List Char :=
  List.intercalate [' '] (((Text.lines body).map docLine).filter isProse)

/-- What a comment says, before the blanks at its ends are dropped. -/
def body (cs : List Char) : List Char :=
  if "/**".toList.isPrefixOf cs && cs ≠ "/**/".toList then docProse (dropCloser (cs.drop 3))
  else if "//".toList.isPrefixOf cs then cs.drop 2
  else if "/*".toList.isPrefixOf cs then dropCloser (cs.drop 2)
  else cs

/-- What a comment says, if it says anything. -/
def clean (comment : String) : Option String :=
  match Text.trim (body comment.toList) with
  | [] => none
  | prose => some (String.ofList prose)

end ClassSchema.Comment
