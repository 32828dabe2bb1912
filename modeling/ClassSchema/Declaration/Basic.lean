import ClassSchema.Assoc
import ClassSchema.Number.Basic

/-!
# Declarations

What is read of a class file: its classes with their fields and methods, and the annotations on all
of these. Types are kept as text. Comments are kept as they stand in the file, delimiters included.
-/

namespace ClassSchema

/-- An argument of an annotation. A path is a dotted name such as `Color.RED` or `Color.class`, or
the text of an array in braces. -/
inductive Argument
  | text (value : String)
  | number (value : Number)
  | flag (value : Bool)
  | path (value : String)
deriving DecidableEq

/-- An annotation with its arguments in order. A single argument without a key stands under
`value`. -/
structure AnnotationUse where
  name : String
  arguments : Assoc Argument := []
  line : Nat := 0
  column : Nat := 0
deriving DecidableEq

/-- A parameter of a method. -/
structure ParameterDecl where
  name : String
  type : String
  annotations : List AnnotationUse := []
deriving DecidableEq

/-- A field. The trailing comment is a line comment in front of its semicolon. -/
structure FieldDecl where
  name : String
  type : String
  modifiers : List String := []
  annotations : List AnnotationUse := []
  comment : Option String := none
  trailingComment : Option String := none
  defaultValue : Option String := none
  line : Nat := 0
  column : Nat := 0
deriving DecidableEq

namespace FieldDecl

/-- Whether the field is declared private. -/
def isPrivate (f : FieldDecl) : Bool := f.modifiers.contains "private"

/-- Whether the field is declared static. -/
def isStatic (f : FieldDecl) : Bool := f.modifiers.contains "static"

end FieldDecl

/-- The signature of a method; a constructor has no return type. -/
structure MethodDecl where
  name : String
  returnType : Option String
  modifiers : List String := []
  annotations : List AnnotationUse := []
  parameters : List ParameterDecl := []
  comment : Option String := none
  line : Nat := 0
  column : Nat := 0
deriving DecidableEq

/-- Whether a method is a constructor. -/
def MethodDecl.isConstructor (m : MethodDecl) : Bool := m.returnType.isNone

/-- A member of a class. -/
inductive Member
  | field (decl : FieldDecl)
  | method (decl : MethodDecl)
deriving DecidableEq

/-- The fields among some members, in order. -/
def Member.fields (members : List Member) : List FieldDecl :=
  members.filterMap fun
    | .field f => some f
    | .method _ => none

/-- The methods among some members, in order. -/
def Member.methods (members : List Member) : List MethodDecl :=
  members.filterMap fun
    | .field _ => none
    | .method m => some m

/-- A class with its members. -/
structure ClassDecl where
  name : String
  modifiers : List String := []
  annotations : List AnnotationUse := []
  fields : List FieldDecl := []
  methods : List MethodDecl := []
  comment : Option String := none
  line : Nat := 0
  column : Nat := 0
deriving DecidableEq

/-- The classes of a file. -/
structure CompilationUnit where
  classes : List ClassDecl
deriving DecidableEq

end ClassSchema
