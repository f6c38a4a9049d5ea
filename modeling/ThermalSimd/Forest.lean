import Mathlib.Data.List.Basic

/-!
# Ordered forests and their preorder layout

A forest is a leaf or a node with its own forest, and then what follows. `layout` writes it to a
list of cells in preorder, each with the index of the node it stands in. A `Spine` is a forest still
being written: nested open nodes, with the trees finished on every level.
-/

/-- Ordered forests with labels on leaves and nodes. -/
inductive Forest (Leaf Node : Type)
  | nil
  | leaf (label : Leaf) (rest : Forest Leaf Node)
  | node (label : Node) (children rest : Forest Leaf Node)
  deriving DecidableEq

/-- How leaves and nodes are written under their parent; a node counts its leaves. -/
structure Drawing (Leaf Node Cell : Type) where
  leaf : Option ℕ → Leaf → Cell
  node : Option ℕ → Node → ℕ → Cell

namespace Forest

variable {Leaf Node Cell Leaf' Node' : Type}

def size : Forest Leaf Node → ℕ
  | nil => 0
  | leaf _ rest => rest.size + 1
  | node _ children rest => children.size + rest.size + 1

def leaves : Forest Leaf Node → ℕ
  | nil => 0
  | leaf _ rest => rest.leaves + 1
  | node _ _ rest => rest.leaves

def append : Forest Leaf Node → Forest Leaf Node → Forest Leaf Node
  | nil, after => after
  | leaf label rest, after => leaf label (rest.append after)
  | node label children rest, after => node label children (rest.append after)

def map (onLeaf : Leaf → Leaf') (onNode : Node → Node') : Forest Leaf Node → Forest Leaf' Node'
  | nil => nil
  | leaf label rest => leaf (onLeaf label) (rest.map onLeaf onNode)
  | node label children rest =>
    node (onNode label) (children.map onLeaf onNode) (rest.map onLeaf onNode)

/-- The cells of a forest in preorder from index `base`, its roots under `parent`. -/
def layout (draw : Drawing Leaf Node Cell) (parent : Option ℕ) (base : ℕ) :
    Forest Leaf Node → List Cell
  | nil => []
  | leaf label rest => draw.leaf parent label :: rest.layout draw parent (base + 1)
  | node label children rest =>
    draw.node parent label children.leaves ::
      (children.layout draw (some base) (base + 1) ++
        rest.layout draw parent (base + 1 + children.size))

@[simp]
theorem append_nil (forest : Forest Leaf Node) : forest.append nil = forest := by
  induction forest with
  | nil => rfl
  | leaf label rest hrest | node label kids rest _ hrest => rw [append, hrest]

@[simp]
theorem append_assoc (first second third : Forest Leaf Node) :
    (first.append second).append third = first.append (second.append third) := by
  induction first with
  | nil => rfl
  | leaf label rest hrest | node label kids rest _ hrest =>
    simp only [append, hrest]

@[simp]
theorem size_append (first second : Forest Leaf Node) :
    (first.append second).size = first.size + second.size := by
  induction first with
  | nil => simp [append, size]
  | leaf label rest hrest | node label kids rest _ hrest =>
    simp only [append, size, hrest]; omega

@[simp]
theorem leaves_append (first second : Forest Leaf Node) :
    (first.append second).leaves = first.leaves + second.leaves := by
  induction first with
  | nil => simp [append, leaves]
  | leaf label rest hrest => simp only [append, leaves, hrest]; omega
  | node label _ rest _ hrest => simp only [append, leaves, hrest]

@[simp]
theorem leaves_map (onLeaf : Leaf → Leaf') (onNode : Node → Node') (forest : Forest Leaf Node) :
    (forest.map onLeaf onNode).leaves = forest.leaves := by
  induction forest with
  | nil => rfl
  | leaf label rest hrest | node label kids rest _ hrest =>
    simp only [map, leaves, hrest]

@[simp]
theorem size_map (onLeaf : Leaf → Leaf') (onNode : Node → Node') (forest : Forest Leaf Node) :
    (forest.map onLeaf onNode).size = forest.size := by
  induction forest with
  | nil => rfl
  | leaf label rest hrest => simp only [map, size, hrest]
  | node label _ rest childrenHold hrest =>
    simp only [map, size, childrenHold, hrest]

section

variable (draw : Drawing Leaf Node Cell)

@[simp]
theorem length_layout (parent base) (forest : Forest Leaf Node) :
    (forest.layout draw parent base).length = forest.size := by
  induction forest generalizing parent base with
  | nil => rfl
  | leaf label rest hrest => simp [layout, size, hrest]
  | node label _ rest childrenHold hrest =>
    simp [layout, size, childrenHold, hrest]

theorem layout_append (parent base) (first second : Forest Leaf Node) :
    (first.append second).layout draw parent base =
      first.layout draw parent base ++ second.layout draw parent (base + first.size) := by
  induction first generalizing base with
  | nil => rfl
  | leaf label rest hrest =>
    simp only [append, layout, size, hrest, List.cons_append]
    rw [show base + 1 + rest.size = base + (rest.size + 1) by omega]
  | node label kids rest _ hrest =>
    simp only [append, layout, size, hrest, List.cons_append, List.append_assoc]
    rw [show base + 1 + kids.size + rest.size = base + (kids.size + rest.size + 1) by
      omega]

end

end Forest

/-- A forest being written: the roots so far, or the children so far of a node that is open. -/
inductive Spine (Open Leaf Node : Type)
  | ground (items : Forest Leaf Node)
  | inside (outer : Spine Open Leaf Node) (label : Open) (items : Forest Leaf Node)

namespace Spine

variable {Open Leaf Node Cell : Type}

def extend : Spine Open Leaf Node → Forest Leaf Node → Spine Open Leaf Node
  | ground items, more => ground (items.append more)
  | inside outer label items, more => inside outer label (items.append more)

def size : Spine Open Leaf Node → ℕ
  | ground items => items.size
  | inside outer _ items => outer.size + 1 + items.size

def super : Spine Open Leaf Node → Option ℕ
  | ground _ => none
  | inside outer _ _ => some outer.size

def layout (draw : Drawing Leaf Node Cell) (drawOpen : Option ℕ → Open → ℕ → Cell) :
    Spine Open Leaf Node → List Cell
  | ground items => items.layout draw none 0
  | inside outer label items =>
    outer.layout draw drawOpen ++ drawOpen outer.super label items.leaves ::
      items.layout draw (some outer.size) (outer.size + 1)

@[simp]
theorem super_ground (items) :
    (ground items : Spine Open Leaf Node).super = none := rfl

@[simp]
theorem super_inside (outer : Spine Open Leaf Node) (label items) :
    (inside outer label items).super = some outer.size := rfl

variable (spine : Spine Open Leaf Node)

@[simp]
theorem super_extend (more) : (spine.extend more).super = spine.super := by
  cases spine <;> rfl

@[simp]
theorem size_extend (more) : (spine.extend more).size = spine.size + more.size := by
  cases spine <;> simp [extend, size, Nat.add_assoc]

@[simp]
theorem extend_nil : spine.extend .nil = spine := by
  cases spine <;> simp [extend]

@[simp]
theorem extend_extend (first second) :
    (spine.extend first).extend second = spine.extend (first.append second) := by
  cases spine <;> simp [extend]

variable (draw : Drawing Leaf Node Cell) (drawOpen : Option ℕ → Open → ℕ → Cell)

theorem layout_inside (outer label items) :
    (inside outer label items).layout draw drawOpen =
      outer.layout draw drawOpen ++ drawOpen outer.super label items.leaves ::
        items.layout draw (some outer.size) (outer.size + 1) := rfl

@[simp]
theorem length_layout (spine : Spine Open Leaf Node) :
    (spine.layout draw drawOpen).length = spine.size := by
  induction spine with
  | ground items => simp [layout, size]
  | inside _ _ items outerHolds => simp [layout, size, outerHolds]; omega

theorem layout_extend_of_leaves_eq_zero (spine : Spine Open Leaf Node) {more}
    (nodes : more.leaves = 0) :
    (spine.extend more).layout draw drawOpen =
      spine.layout draw drawOpen ++ more.layout draw spine.super spine.size := by
  cases spine with
  | ground items => simp [extend, layout, size, Forest.layout_append]
  | inside _ _ items =>
    simp [extend, layout, size, Forest.layout_append, nodes]

end Spine
