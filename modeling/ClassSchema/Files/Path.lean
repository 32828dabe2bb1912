import ClassSchema.Text.Blank

/-!
# Paths

A path is a sequence of parts, from the working folder or from the root. Empty parts and single dots
say nothing and are dropped when a path is read; a pair of dots is kept, because what it leads to
depends on the files. A path that starts with exactly two slashes keeps both.
-/

namespace ClassSchema

/-- A path: the number of slashes in front, at most two, and the parts. -/
structure Path where
  slashes : Nat
  parts : List String
deriving DecidableEq

namespace Path

/-- The slashes in front of a path that count. -/
def rootSlashes (cs : List Char) : Nat :=
  match (cs.takeWhile (· = '/')).length with
  | 0 => 0
  | 2 => 2
  | _ => 1

/-- The path that a text names. -/
def ofText (text : String) : Path :=
  let parts := (Text.splitAt '/' text.toList).map String.ofList
  ⟨rootSlashes text.toList, parts.filter fun part ↦ part ≠ "" && part ≠ "."⟩

variable (p : Path)

/-- The text of a path; the working folder is a dot. -/
def text : String :=
  let front := String.ofList (List.replicate p.slashes '/')
  let text := front ++ "/".intercalate p.parts
  if text.isEmpty then "." else text

/-- The path of what lies in a folder under some parts. -/
def extend (parts : List String) : Path := { p with parts := p.parts ++ parts }

/-- The path without its last part. -/
def parent : Path := { p with parts := p.parts.dropLast }

/-- The last part. -/
def name : String := p.parts.getLast?.getD ""

/-- The last part without its ending. A dot at the start or at the end begins no ending. -/
def stem : String :=
  let backwards := p.name.toList.reverse
  let ending := backwards.takeWhile (· ≠ '.')
  let rest := (backwards.dropWhile (· ≠ '.')).drop 1
  if ending.isEmpty || rest.isEmpty then p.name else String.ofList rest.reverse

end Path

end ClassSchema
