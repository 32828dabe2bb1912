import ClassSchema.Declaration.Walk
import Mathlib.Data.List.Flatten
import Mathlib.Data.List.Range

/-!
# The order of the walk

The walk keeps a stack, and the tree is not to be seen in it: what is on the stack are the nodes
that are still to be visited, from all levels at once. Nothing that a visit puts on the stack comes
to lie below what was there, so a stack is visited part by part, `Node.visit_append`. From this
follows the recursive order: a node, and behind it the walks over its children.

One node can occur at several places of a tree, so that each occurrence is visited once is said of
*places*. A place is the way down to a node: which child to go to at each level. In lexicographic
order a node comes before the nodes below it, and what is below one child before what is below a
later one. `Node.places` lists the places of a tree, each of them once and in ascending order, and
the walk visits the nodes at these places.
-/

namespace ClassSchema

namespace Node

/-! ## The stack -/

private theorem visit_append (stack lower : List Node) :
    visit (stack ++ lower) = visit stack ++ visit lower := by
  fun_induction visit stack with
  | case1 => rfl
  | case2 node stack ih => rw [List.cons_append, visit, ← List.append_assoc, ih, List.cons_append]

private theorem visit_eq_flatMap (stack : List Node) : visit stack = stack.flatMap walk := by
  induction stack with
  | nil => rw [visit, List.flatMap_nil]
  | cons node stack ih =>
    rw [← List.singleton_append, visit_append, ih, List.singleton_append, List.flatMap_cons, walk]

theorem walk_eq (node : Node) : node.walk = node :: node.children.flatMap walk := by
  rw [walk, visit, List.append_nil, visit_eq_flatMap]

private theorem length_visit (stack : List Node) :
    (visit stack).length = total (stack.map size) := by
  fun_induction visit stack with
  | case1 => rfl
  | case2 node stack ih =>
    rw [List.length_cons, ih, List.map_append, total_append, List.map_cons, total, size_eq node]
    omega

private theorem length_walk (node : Node) : node.walk.length = node.size := length_visit [node]

/-! ## Places -/

/-- The node at a place: each number tells which child to go to next. -/
def at? (node : Node) : List Nat → Option Node
  | [] => some node
  | index :: place => node.children[index]?.bind fun child ↦ child.at? place

/-- The places of the nodes from this node down, its own first. -/
def places (node : Node) : List (List Nat) :=
  [] :: node.children.attach.zipIdx.flatMap fun (child, index) ↦ child.1.places.map (index :: ·)
termination_by node.levels
decreasing_by exact levels_lt_of_mem_children child.2

theorem places_eq (node : Node) : node.places =
    [] :: node.children.zipIdx.flatMap fun (child, index) ↦ child.places.map (index :: ·) := by
  have hchildren : node.children.zipIdx =
      node.children.attach.zipIdx.map (Prod.map Subtype.val id) := by
    rw [← List.zipIdx_map, List.attach_map_subtype_val]
  rw [places, hchildren, List.flatMap_map]
  rfl

theorem children_induction {motive : Node → Prop}
    (step : ∀ node, (∀ child ∈ node.children, motive child) → motive node) (node : Node) :
    motive node := by
  induction hlevels : node.levels using Nat.strongRecOn generalizing node with
  | ind levels ih =>
    refine step node fun child hchild ↦ ih child.levels ?_ child rfl
    exact hlevels ▸ levels_lt_of_mem_children hchild

theorem cons_mem_places {node : Node} {index : Nat} {place : List Nat} :
    index :: place ∈ node.places ↔
      ∃ child, node.children[index]? = some child ∧ place ∈ child.places := by
  rw [places_eq, List.mem_cons, List.mem_flatMap]
  constructor
  · rintro (hnil | ⟨⟨child, index'⟩, hchild, hplace⟩)
    · cases hnil
    · obtain ⟨place', hplace', hcons⟩ := List.mem_map.mp hplace
      obtain ⟨rfl, rfl⟩ := List.cons.inj hcons
      exact ⟨child, List.mk_mem_zipIdx_iff_getElem?.mp hchild, hplace'⟩
  · rintro ⟨child, hchild, hplace⟩
    exact .inr ⟨(child, index), List.mk_mem_zipIdx_iff_getElem?.mpr hchild,
      List.mem_map_of_mem hplace⟩

theorem mem_places_iff {node : Node} {place : List Nat} :
    place ∈ node.places ↔ (node.at? place).isSome := by
  induction place generalizing node with
  | nil =>
    rw [places_eq]
    exact iff_of_true List.mem_cons_self rfl
  | cons index place ih =>
    rw [cons_mem_places, at?, Option.isSome_bind]
    simp only [ih, Option.any_eq_true]

/-- The places are listed in ascending order, so none is listed twice. -/
theorem pairwise_places (node : Node) : node.places.Pairwise (· < ·) := by
  induction node using children_induction with
  | step node ih =>
    have hindices : (node.children.zipIdx.map Prod.snd).Pairwise (· < ·) :=
      List.zipIdx_map_snd 0 node.children ▸ List.pairwise_lt_range' 1
    rw [places_eq, List.pairwise_cons, List.pairwise_flatMap]
    refine ⟨fun place hplace ↦ ?_, fun ⟨child, index⟩ hchild ↦ ?_, ?_⟩
    · -- the node itself comes before all places below it
      obtain ⟨⟨child, index⟩, -, hbelow⟩ := List.mem_flatMap.mp hplace
      obtain ⟨place, -, rfl⟩ := List.mem_map.mp hbelow
      exact List.nil_lt_cons index place
    · -- below one child
      refine List.pairwise_map.mpr ((ih child (List.fst_mem_of_mem_zipIdx hchild)).imp ?_)
      exact fun hlt ↦ List.cons_lt_cons_iff.mpr (.inr ⟨rfl, hlt⟩)
    · -- below an earlier child and below a later one
      refine (List.pairwise_map.mp hindices).imp fun hlt place hplace later hlater ↦ ?_
      obtain ⟨place, -, rfl⟩ := List.mem_map.mp hplace
      obtain ⟨later, -, rfl⟩ := List.mem_map.mp hlater
      exact List.cons_lt_cons_iff.mpr (.inl hlt)

/-- The walk visits the nodes at the places, in the order of the places. -/
theorem map_at?_places (node : Node) : node.places.map node.at? = node.walk.map some := by
  induction node using children_induction with
  | step node ih =>
    have hbelow : ∀ indexed ∈ node.children.zipIdx,
        (indexed.1.places.map (indexed.2 :: ·)).map node.at? = indexed.1.walk.map some := by
      rintro ⟨child, index⟩ hchild
      have hfound : node.children[index]? = some child := List.mk_mem_zipIdx_iff_getElem?.mp hchild
      rw [List.map_map, ← ih child (List.mem_of_getElem? hfound)]
      refine List.map_congr_left fun place _ ↦ ?_
      rw [Function.comp_apply, at?, hfound, Option.bind_some]
    calc node.places.map node.at?
        = some node :: node.children.zipIdx.flatMap fun indexed ↦ indexed.1.walk.map some := by
          rw [places_eq, List.map_cons, List.map_flatMap, List.flatMap_congr hbelow]
          rfl
      _ = some node :: (node.children.zipIdx.map Prod.fst).flatMap fun child ↦
            child.walk.map some := by rw [List.flatMap_map]
      _ = node.walk.map some := by
          rw [List.zipIdx_map_fst, walk_eq, List.map_cons, List.map_flatMap]

/-! ## The walk -/

/-- The first class of a file is the first one that the walk meets. -/
theorem firstClass?_unit (tree : CompilationUnit) :
    (unit tree).firstClass? = tree.classes.head? := by
  rw [firstClass?, walk, visit, children, List.append_nil]
  cases tree.classes with
  | nil =>
    rw [List.map_nil, visit]
    rfl
  | cons decl others =>
    rw [List.map_cons, visit]
    rfl

/-- The walk over a tree, from the node on that it starts with. -/
structure WalksInOrder (node : Node) : Prop where
  /-- The node comes first, and then the walks over its children in their order. -/
  recursive : node.walk = node :: node.children.flatMap walk
  /-- The stack is empty after one round for each node. -/
  rounds : node.walk.length = node.size
  /-- Where a place is listed there is a node, and where there is a node its place is listed. -/
  listed : ∀ place, place ∈ node.places ↔ (node.at? place).isSome
  /-- No place is listed twice, and they are listed in the order of the tree. -/
  ascending : node.places.Pairwise (· < ·)
  /-- The nodes that are visited are those at the listed places, one for each place. -/
  visited : node.walk.map some = node.places.map node.at?

/-- **The walk is the pre-order of the tree.** It ends, it visits every occurrence of a node once,
parents before their children and children in their order, and the first class that it meets in a
file is the first one of the file, if there is one. -/
theorem walk_in_order :
    (∀ node : Node, node.WalksInOrder) ∧
      ∀ tree : CompilationUnit, (unit tree).firstClass? = tree.classes.head? ∧
        ((unit tree).firstClass? = none ↔ tree.classes = []) := by
  refine ⟨fun node ↦ ?_, fun tree ↦ ⟨firstClass?_unit tree, ?_⟩⟩
  · exact ⟨walk_eq node, length_walk node, fun _ ↦ mem_places_iff, pairwise_places node,
      (map_at?_places node).symm⟩
  · rw [firstClass?_unit, List.head?_eq_none_iff]

end Node

end ClassSchema
