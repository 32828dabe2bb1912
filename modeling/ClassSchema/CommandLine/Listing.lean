import ClassSchema.CommandLine.Run

/-!
# Listings in files

A second program beside the jobs: it writes the listing of all tokens of a file, white space and
line ends included, to a file named after the input. Any fault ends it without an answer.
-/

namespace ClassSchema.CommandLine.Listing

/-- The options of the program. -/
def usage : Usage where
  letters := [('h', .help)]
  names := [("help", .help), ("out", .out)]

/-- The folder for listings when none is given. -/
def defaultFolder : Path := .ofText "out"

/-- The file for the listing of an input. -/
def target (s : Settings) (input : Path) : JobM Path :=
  return ((← outFolder? s).getD defaultFolder).extend [input.stem ++ "_tokens.txt"]

/-- Writes the listing of an input. -/
def action (s : Settings) (input : Path) : JobM Unit := do
  let target ← target s input
  let tokens := Token.lex (← JobM.readText input)
  JobM.writeText target (Token.listingText tokens)
  JobM.print s!"Wrote {tokens.length} tokens to {target.text}\n"

/-- Runs the program on a tree of files. -/
def run (s : Settings) (input : Path) (tree : FileTree) : Except Halt Outcome :=
  match (action s input).run.run { tree := tree } with
  | (.ok _, w) => .ok ⟨0, w.out, w.err, w.tree⟩
  | (.error halt, _) => .error halt

end ClassSchema.CommandLine.Listing
