import ClassSchema.CommandLine.Run

/-!
# The program

Reads from the disk what a command line speaks of, runs it, writes the new files and prints what
there is to print. All decisions are made by `CommandLine.Invocation.run`.
-/

namespace ClassSchema.CommandLine.Disk

/-- The text that names a location. -/
def locationText (location : List String) : String := "/" ++ "/".intercalate location

/-- The locations that a path passes. -/
def trail (location : List String) : List String → List (List String)
  | [] => [location]
  | part :: parts =>
    location :: trail (if part = ".." then location.dropLast else location ++ [part]) parts

/-- Adds what lies at a location. -/
def loadOne (tree : FileTree) (location : List String) : IO FileTree := do
  let place := (← IO.currentDir) / locationText location
  if ← place.isDir then return tree.putFolder location
  else if ← place.pathExists then
    return tree.putFile location (← IO.FS.readBinFile place).toList
  else return tree

/-- Adds the files below a location that a job may take as its input. -/
partial def loadBelow (tree : FileTree) (location : List String) : IO FileTree := do
  let place := (← IO.currentDir) / locationText location
  if ← place.isDir then
    let mut tree := tree.putFolder location
    for entry in ← place.readDir do
      tree ← loadBelow tree (location ++ [entry.fileName])
    return tree
  else if (location.getLast?.getD "").endsWith ".java" then loadOne tree location
  else return tree

/-- Adds what lies on the way of a path, and below its end if that is wanted. -/
def loadPath (tree : FileTree) (path : Path) (below : Bool) : IO FileTree := do
  let start := if path.slashes = 0 then tree.here else []
  let locations := trail start path.parts
  let tree ← locations.foldlM loadOne tree
  match below, locations.getLast? with
  | true, some location => loadBelow tree location
  | _, _ => return tree

/-- The part of the disk that an invocation speaks of. -/
def load (i : Invocation) : IO FileTree := do
  let here := (← IO.currentDir).components.filter (· ≠ "")
  let tree ← loadPath { here := here } i.path true
  match i.settings.out with
  | some folder => loadPath tree folder false
  | none => return tree

/-- Writes the files that are new or have changed. -/
def save (before after : FileTree) : IO Unit := do
  let root ← IO.currentDir
  for (location, bytes) in after.files do
    if before.bytesAt? location ≠ some bytes then
      IO.FS.createDirAll (root / locationText location.dropLast)
      IO.FS.writeBinFile (root / locationText location) ⟨bytes.toArray⟩

end ClassSchema.CommandLine.Disk

namespace ClassSchema.CommandLine

/-- How the program is called. -/
def usageText : String :=
  "usage: beanschema [-h] [-v] convert|check|tokens [-h] [options] path\n"

/-- Runs a command line and gives the exit status. -/
def runOnDisk (args : List String) : IO UInt32 := do
  match Invocation.ofArguments args with
  | .error refusal =>
    match refusal with
    | .help => IO.print usageText
    | .misused => IO.eprint usageText
    return UInt32.ofNat refusal.status
  | .ok invocation =>
    let tree ← Disk.load invocation
    match invocation.run tree with
    | .error halt =>
      IO.eprintln halt.message
      return 1
    | .ok outcome =>
      Disk.save tree outcome.tree
      IO.print outcome.out
      IO.eprint outcome.err
      return UInt32.ofNat outcome.status

end ClassSchema.CommandLine

/-- The entry of the program. -/
def main (args : List String) : IO UInt32 := ClassSchema.CommandLine.runOnDisk args
