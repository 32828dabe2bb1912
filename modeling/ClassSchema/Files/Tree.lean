import ClassSchema.Files.Path
import ClassSchema.Text.Quoted
import ClassSchema.Text.Utf8

/-!
# A tree of files

The files and folders that a command works on, as a value. A *location* is the list of names that
leads from the root to a file or folder; a folder is there when it is listed or when something lies
in it. Following a path goes part by part: each step needs a folder to stand in, a pair of dots goes
up, and a name that is too long leads nowhere.
-/

namespace ClassSchema

/-! ## Faults -/

/-- Why a file or folder cannot be used. -/
inductive FileFault
  | missing (path : Path)
  | taken (path : Path)
  | noFolder (path : Path)
  | folder (path : Path)
  | longName (path : Path)
  | nulInPath
deriving DecidableEq

namespace FileFault

/-- The wording of a fault: a number, a cause and the quoted path. -/
def describe (number : Nat) (cause : String) (path : Path) : String :=
  s!"[Errno {number}] {cause}: {Text.quoted path.text}"

/-- The wording of a fault. -/
def message : FileFault → String
  | missing path => describe 2 "No such file or directory" path
  | taken path => describe 17 "File exists" path
  | noFolder path => describe 20 "Not a directory" path
  | folder path => describe 21 "Is a directory" path
  | longName path => describe 36 "File name too long" path
  | nulInPath => "embedded null byte"

end FileFault

/-! ## Trees -/

/-- Files with their bytes, further folders, and the working folder. -/
structure FileTree where
  here : List String
  folders : List (List String) := []
  files : List (List String × List UInt8) := []

namespace FileTree

variable (t : FileTree)

/-- The bytes of the file at a location. -/
def bytesAt? (location : List String) : Option (List UInt8) :=
  (t.files.find? (·.1 = location)).map (·.2)

/-- Whether there is a folder at a location. -/
def isFolderAt (location : List String) : Bool :=
  (t.here :: t.folders).any (location.isPrefixOf ·)
    || t.files.any fun file ↦ location.isPrefixOf file.1 && file.1 ≠ location

/-- Puts bytes at a location: in the place of the file there, or else behind all others. -/
def putBytes (location : List String) (bytes : List UInt8) :
    List (List String × List UInt8) → List (List String × List UInt8)
  | [] => [(location, bytes)]
  | file :: files =>
    if file.1 = location then (location, bytes) :: files
    else file :: putBytes location bytes files

/-- Puts a file with some bytes at a location. -/
def putFile (location : List String) (bytes : List UInt8) : FileTree :=
  { t with files := putBytes location bytes t.files }

/-- The bytes just put are the ones found. -/
theorem bytesAt?_putFile_self (location : List String) (bytes : List UInt8) :
    (t.putFile location bytes).bytesAt? location = some bytes := by
  unfold putFile bytesAt?
  induction t.files with
  | nil => simp [putBytes]
  | cons file files ih =>
    by_cases h : file.1 = location
    · simp [putBytes, h]
    · simpa [putBytes, h] using ih

/-- The files at other locations stay. -/
theorem bytesAt?_putFile_of_ne {location other : List String} (bytes : List UInt8)
    (h : other ≠ location) : (t.putFile location bytes).bytesAt? other = t.bytesAt? other := by
  unfold putFile bytesAt?
  induction t.files with
  | nil => simp [putBytes, Ne.symm h]
  | cons file files ih =>
    by_cases hf : file.1 = location
    · simp [putBytes, hf, Ne.symm h]
    · by_cases ho : file.1 = other
      · subst ho
        simp [putBytes, hf]
      · simpa [putBytes, hf, ho] using ih

/-- Puts a folder at a location. -/
def putFolder (location : List String) : FileTree := { t with folders := t.folders ++ [location] }

/-! ## Following a path -/

/-- The greatest number of bytes in a name. -/
def maxName : Nat := 255

/-- The greatest number of bytes in a path. -/
def maxPath : Nat := 4095

/-- Follows the parts of `path` that are left, from a location. Nothing need lie at the end. -/
def follow (path : Path) (location : List String) : List String → Except FileFault (List String)
  | [] => .ok location
  | part :: parts =>
    if t.isFolderAt location then
      if part = ".." then follow path location.dropLast parts
      else if maxName < part.utf8ByteSize then .error (.longName path)
      else follow path (location ++ [part]) parts
    else if (t.bytesAt? location).isSome then .error (.noFolder path)
    else .error (.missing path)

/-- The location that a path leads to. -/
def locate (path : Path) : Except FileFault (List String) :=
  if path.text.contains '\x00' then .error .nulInPath
  else if maxPath < path.text.utf8ByteSize then .error (.longName path)
  else t.follow path (if path.slashes = 0 then t.here else []) path.parts

/-- Whether a path leads to a folder. A path that leads nowhere does not; one with a name that is
too long is refused. -/
def isFolder (path : Path) : Except FileFault Bool :=
  match t.locate path with
  | .ok location => .ok (t.isFolderAt location)
  | .error (.longName path) => .error (.longName path)
  | .error _ => .ok false

/-! ## Reading and writing -/

/-- The bytes of the file that a path leads to. -/
def read (path : Path) : Except FileFault (List UInt8) :=
  match t.locate path with
  | .error fault => .error fault
  | .ok location =>
    match t.bytesAt? location with
    | some bytes => .ok bytes
    | none => .error (if t.isFolderAt location then .folder path else .missing path)

/-- Writes a file in a folder that is there. -/
def write (path : Path) (bytes : List UInt8) : Except FileFault FileTree :=
  match t.locate path with
  | .error fault => .error fault
  | .ok location =>
    if t.isFolderAt location then .error (.folder path) else .ok (t.putFile location bytes)

/-- Makes a folder in a folder that is there. -/
def makeFolder (path : Path) : Except FileFault FileTree :=
  match t.locate path with
  | .error fault => .error fault
  | .ok location =>
    if t.isFolderAt location || (t.bytesAt? location).isSome then .error (.taken path)
    else .ok (t.putFolder location)

/-- Takes a folder that could not be made because it is there already. -/
def acceptFolder (path : Path) (fault : FileFault) : Except FileFault FileTree :=
  match fault, t.isFolder path with
  | .missing _, _ => .error fault
  | _, .ok true => .ok t
  | _, .ok false => .error fault
  | _, .error fault => .error fault

/-- Makes the folders of a path that are not there, `depth` of them at most. -/
def ensureFolders : Nat → FileTree → Path → Except FileFault FileTree
  | depth, t, path =>
    match t.makeFolder path with
    | .ok t => .ok t
    | .error (.missing missing) =>
      match depth with
      | 0 => .error (.missing missing)
      | depth + 1 =>
        match ensureFolders depth t path.parent with
        | .error fault => .error fault
        | .ok t =>
          match t.makeFolder path with
          | .ok t => .ok t
          | .error fault => t.acceptFolder path fault
    | .error fault => t.acceptFolder path fault

/-- Makes a folder with the folders above it, as far as they are not there. -/
def ensureFolder (path : Path) : Except FileFault FileTree :=
  ensureFolders path.parts.length t path

/-! ## Listing -/

/-- The parts that lead from a location to the files below it whose names end in `ending`, in the
order of the parts. -/
def filesBelow (location : List String) (ending : String) : List (List String) :=
  let below := t.files.filterMap fun file ↦
    if location.isPrefixOf file.1 then some (file.1.drop location.length) else none
  let named := below.filter fun parts ↦ (parts.getLast?.getD "").endsWith ending
  named.mergeSort fun a b ↦ !decide (b < a)

end FileTree

end ClassSchema
