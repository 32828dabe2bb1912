import ClassSchema.Declaration.Basic

/-!
# Walking over declarations

The declarations of a file form a tree. The walk visits a node before its children and the children
from first to last. It keeps the nodes still to be visited on a stack: the next one is taken off,
and its children are put in its place.
-/

namespace ClassSchema

/-- A node of the tree of declarations. -/
inductive Node
  | unit (decl : CompilationUnit)
  | classDecl (decl : ClassDecl)
  | field (decl : FieldDecl)
  | method (decl : MethodDecl)
  | parameter (decl : ParameterDecl)
  | annotationUse (decl : AnnotationUse)
deriving DecidableEq

namespace Node

/-- The nodes directly below a node: annotations, then fields, then methods or parameters. -/
def children : Node → List Node
  | unit u => u.classes.map classDecl
  | classDecl c => c.annotations.map annotationUse ++ c.fields.map field ++ c.methods.map method
  | field f => f.annotations.map annotationUse
  | method m => m.annotations.map annotationUse ++ m.parameters.map parameter
  | parameter p => p.annotations.map annotationUse
  | annotationUse _ => []

/-- The name that a node declares; a file has none. -/
def name? : Node → Option String
  | unit _ => none
  | classDecl c => some c.name
  | field f => some f.name
  | method m => some m.name
  | parameter p => some p.name
  | annotationUse a => some a.name

/-- The class that a node is. -/
def asClass? : Node → Option ClassDecl
  | classDecl c => some c
  | _ => none

/-- How many levels of nodes there can be from this node down. -/
def levels : Node → Nat
  | unit _ => 5
  | classDecl _ => 4
  | method _ => 3
  | field _ | parameter _ => 2
  | annotationUse _ => 1

theorem levels_lt_of_mem_children {child node : Node} (h : child ∈ node.children) :
    child.levels < node.levels := by
  cases node <;> simp only [children, List.mem_map, List.mem_append, List.not_mem_nil] at h
  all_goals grind [levels]

/-- What some numbers add up to. -/
def total : List Nat → Nat
  | [] => 0
  | n :: ns => n + total ns

theorem total_append (ms ns : List Nat) : total (ms ++ ns) = total ms + total ns := by
  induction ms with
  | nil => exact (Nat.zero_add _).symm
  | cons m ms ih => rw [List.cons_append, total, total, ih, Nat.add_assoc]

/-- The number of nodes from this node down. -/
def size (node : Node) : Nat :=
  1 + total (node.children.attach.map fun child ↦ size child.1)
termination_by node.levels
decreasing_by exact levels_lt_of_mem_children child.2

theorem size_eq (node : Node) : node.size = 1 + total (node.children.map size) := by
  rw [size]
  exact congrArg (1 + total ·) List.attach_map_val

/-- Visits the nodes of a stack, the topmost one first. -/
def visit : List Node → List Node
  | [] => []
  | node :: stack => node :: visit (node.children ++ stack)
termination_by stack => total (stack.map size)
decreasing_by
  rw [List.map_append, total_append, List.map_cons, total, size_eq node]
  omega

/-- All nodes from this one down, in the order of the walk. -/
def walk (node : Node) : List Node := visit [node]

/-- The first class that the walk meets. -/
def firstClass? (node : Node) : Option ClassDecl := node.walk.findSome? asClass?

end Node

end ClassSchema
