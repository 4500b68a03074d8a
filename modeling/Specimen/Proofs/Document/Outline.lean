import Specimen.Document.Node
import Specimen.Schema.Catalog

/-!
# Outlines and leaves

The outline of a document has its elements without their children, in the order of the document.  It leaves out
which elements are marked because something is missing from them.

The leaves are what a document says: the values of its attributes and the texts of its elements, in document order.
The attributes of an element come before its text, and both before what is inside it.  An element that is nil has
no text, so it is not a leaf.

Each leaf has a parent: an attribute the element that carries it, a text the element around its own one.  The parent
is named by its place, the positions of children on the way to it.
-/

namespace Specimen

/-! ## Outlines -/

mutual

/-- The heads of an element and of all below it, in the order of the document. -/
def Node.heads : Node → List NodeHead
  | .mk h children => h :: headsAmong children

/-- The heads of the elements among children and below. -/
def headsAmong : List NodeChild → List NodeHead
  | [] => []
  | .comment _ :: rest => headsAmong rest
  | .element n :: rest => n.heads ++ headsAmong rest

end

@[simp] theorem headsAmong_append (cs ds : List NodeChild) :
    headsAmong (cs ++ ds) = headsAmong cs ++ headsAmong ds := by
  induction cs with
  | nil => rfl
  | cons c rest ih =>
      cases c with
      | comment text => exact ih
      | element n =>
          rw [List.cons_append, headsAmong, headsAmong, ih, List.append_assoc]

/-! ## Without marks -/

/-- An element without the mark that something is missing from it. -/
def NodeHead.unmarked (h : NodeHead) : NodeHead := { h with truncated := false }

/-- The elements of a document in order, without marks. -/
def Node.outline (n : Node) : List NodeHead := n.heads.map NodeHead.unmarked

/-- The elements among children and below in order, without marks. -/
def outlineAmong (cs : List NodeChild) : List NodeHead := (headsAmong cs).map NodeHead.unmarked

@[simp] theorem Node.outline_mk (h : NodeHead) (cs : List NodeChild) :
    (Node.mk h cs).outline = h.unmarked :: outlineAmong cs := rfl

@[simp] theorem Node.outline_truncate (n : Node) : n.truncate.outline = n.outline := by
  cases n
  rfl

@[simp] theorem outlineAmong_append (cs ds : List NodeChild) :
    outlineAmong (cs ++ ds) = outlineAmong cs ++ outlineAmong ds := by
  unfold outlineAmong
  rw [headsAmong_append, List.map_append]

/-- The outline of an element that may not have been built. -/
def outlineOf (built : Option Node) : List NodeHead :=
  outlineAmong (built.map NodeChild.element).toList

@[simp] theorem outlineOf_none : outlineOf none = [] := rfl

@[simp] theorem outlineOf_some (n : Node) : outlineOf (some n) = n.outline := by
  unfold outlineOf outlineAmong Node.outline
  simp [headsAmong]

/-! ## Parts of outlines -/

/-- An outline is cut short: elements of the whole are missing at its end. -/
def CutShort (part whole : List NodeHead) : Prop := ∃ h more, whole = part ++ h :: more

namespace CutShort

variable {part whole : List NodeHead}

theorem isPrefix (h : CutShort part whole) : part <+: whole := by
  obtain ⟨first, more, rfl⟩ := h
  exact ⟨first :: more, rfl⟩

theorem ne (h : CutShort part whole) : part ≠ whole := by
  obtain ⟨first, more, rfl⟩ := h
  simp

theorem append_left (h : CutShort part whole) (before : List NodeHead) :
    CutShort (before ++ part) (before ++ whole) := by
  obtain ⟨first, more, rfl⟩ := h
  exact ⟨first, more, (List.append_assoc ..).symm⟩

theorem append_right (h : CutShort part whole) (after : List NodeHead) :
    CutShort part (whole ++ after) := by
  obtain ⟨first, more, rfl⟩ := h
  exact ⟨first, more ++ after, by simp⟩

theorem of_outline (n : Node) : CutShort [] n.outline := by
  cases n
  exact ⟨_, _, rfl⟩

end CutShort

/-! ## Leaves -/

/-- A value in a document.  The name of an attribute begins with `@`. -/
structure DocumentLeaf where
  name : String
  path : String
  value : String
  deriving DecidableEq, Repr

/-- The leaf of an attribute, below the path of its element. -/
def DocumentLeaf.ofAttribute (owner : String) (a : Attribute) : DocumentLeaf :=
  ⟨"@" ++ a.name, owner ++ "/@" ++ a.name, a.value⟩

/-- The values of the leaves that a field stands for, in order. -/
def valuesFor (field : String) (leaves : List DocumentLeaf) : List String :=
  (leaves.filter fun l => keyMatches field l.name l.path).map (·.value)

@[simp] theorem valuesFor_append (field : String) (leaves more : List DocumentLeaf) :
    valuesFor field (leaves ++ more) = valuesFor field leaves ++ valuesFor field more := by
  simp [valuesFor]

theorem valuesFor_singleton (field : String) (l : DocumentLeaf) :
    valuesFor field [l] = if keyMatches field l.name l.path then [l.value] else [] := by
  unfold valuesFor
  rw [List.filter_cons]
  split <;> rfl

/-- The leaves of an element at a path, without those of the elements inside it. -/
def NodeHead.leaves (path : String) (h : NodeHead) : List DocumentLeaf :=
  h.attributes.map (.ofAttribute path) ++ h.text.toList.map fun text => ⟨h.name, path, text⟩

mutual

/-- The leaves of an element at a path, in document order. -/
def Node.leaves (path : String) : Node → List DocumentLeaf
  | .mk h children => h.leaves path ++ leavesAmong path children

/-- The leaves among the children of an element at a path, in document order. -/
def leavesAmong (path : String) : List NodeChild → List DocumentLeaf
  | [] => []
  | .comment _ :: rest => leavesAmong path rest
  | .element n :: rest => n.leaves (joinPath path n.name) ++ leavesAmong path rest

end

namespace Node

/-- The leaves of a document. -/
def documentLeaves (document : Node) : List DocumentLeaf :=
  document.leaves (joinPath "" document.name)

/-- The value that a document carries where a field occurs for the `n`-th time, counting from 0. -/
def occurrence? (document : Node) (field : String) (n : Nat) : Option String :=
  (valuesFor field document.documentLeaves)[n]?

end Node

/-! ## Leaves by their parents -/

/-- A leaf with the place of its parent.  The root of a document stands as if it were the first child of a parent, and
the place of this parent is empty. -/
structure PlacedLeaf where
  parent : List Nat
  leaf : DocumentLeaf
  deriving DecidableEq, Repr

/-- The leaves of an element, without those of the elements inside it, by the places of the element around it and of
the element itself. -/
def NodeHead.placedLeaves (path : String) (outer place : List Nat) (h : NodeHead) : List PlacedLeaf :=
  (h.attributes.map fun a => ⟨place, .ofAttribute path a⟩) ++
    h.text.toList.map fun text => ⟨outer, ⟨h.name, path, text⟩⟩

mutual

/-- The leaves of an element that is a child in some place, in document order. -/
def Node.placedLeaves (path : String) (outer : List Nat) (position : Nat) : Node → List PlacedLeaf
  | .mk h children =>
    h.placedLeaves path outer (outer ++ [position]) ++ placedAmong path (outer ++ [position]) 0 children

/-- The leaves among the children in a place from a position on, in document order. -/
def placedAmong (path : String) (place : List Nat) (position : Nat) : List NodeChild → List PlacedLeaf
  | [] => []
  | .comment _ :: rest => placedAmong path place (position + 1) rest
  | .element n :: rest =>
    n.placedLeaves (joinPath path n.name) place position ++ placedAmong path place (position + 1) rest

end

/-- The leaves of a document with the places of their parents. -/
def Node.placed (document : Node) : List PlacedLeaf :=
  document.placedLeaves (joinPath "" document.name) [] 0

@[simp] theorem Node.placedLeaves_truncate (path : String) (outer : List Nat) (position : Nat) (n : Node) :
    n.truncate.placedLeaves path outer position = n.placedLeaves path outer position := by
  cases n
  rfl

theorem placedAmong_append (path : String) (place : List Nat) (position : Nat) (cs ds : List NodeChild) :
    placedAmong path place position (cs ++ ds) =
      placedAmong path place position cs ++ placedAmong path place (position + cs.length) ds := by
  induction cs generalizing position with
  | nil => rfl
  | cons c rest ih =>
      rw [List.length_cons, Nat.add_comm rest.length, ← Nat.add_assoc]
      cases c with
      | comment text => exact ih (position + 1)
      | element n =>
          rw [List.cons_append, placedAmong, placedAmong, ih, List.append_assoc]

theorem NodeHead.leaf_placedLeaves (path : String) (outer place : List Nat) (h : NodeHead) :
    (h.placedLeaves path outer place).map (·.leaf) = h.leaves path := by
  rw [placedLeaves, leaves, List.map_append, List.map_map, List.map_map]
  rfl

mutual

/-- Without the places of their parents, they are the leaves. -/
theorem Node.leaf_placedLeaves (path : String) (outer : List Nat) (position : Nat) (n : Node) :
    (n.placedLeaves path outer position).map (·.leaf) = n.leaves path := by
  cases n with
  | mk h children =>
      rw [Node.placedLeaves, Node.leaves, List.map_append, h.leaf_placedLeaves, leaf_placedAmong]

theorem leaf_placedAmong (path : String) (place : List Nat) (position : Nat) (cs : List NodeChild) :
    (placedAmong path place position cs).map (·.leaf) = leavesAmong path cs := by
  cases cs with
  | nil => rfl
  | cons c rest =>
      cases c with
      | comment text => exact leaf_placedAmong path place (position + 1) rest
      | element n =>
          rw [placedAmong, leavesAmong, List.map_append, n.leaf_placedLeaves, leaf_placedAmong]

end

theorem Node.leaf_placed (document : Node) : document.placed.map (·.leaf) = document.documentLeaves :=
  document.leaf_placedLeaves _ _ _

mutual

/-- The parent of a leaf in an element is the element, one inside it, or for its own text the one around it. -/
theorem Node.parent_of_mem_placedLeaves {path : String} {outer : List Nat} {position : Nat} {n : Node}
    {x : PlacedLeaf} (hx : x ∈ n.placedLeaves path outer position) :
    x.parent = outer ∨ outer ++ [position] <+: x.parent := by
  cases n with
  | mk h children =>
      rw [Node.placedLeaves, NodeHead.placedLeaves] at hx
      rcases List.mem_append.1 hx with hown | hinside
      · rcases List.mem_append.1 hown with hattribute | htext
        · obtain ⟨a, -, rfl⟩ := List.mem_map.1 hattribute
          exact .inr (List.prefix_refl _)
        · obtain ⟨text, -, rfl⟩ := List.mem_map.1 htext
          exact .inl rfl
      · rcases parent_of_mem_placedAmong hinside with heq | ⟨k, -, -, hprefix⟩
        · exact .inr (heq ▸ List.prefix_refl _)
        · exact .inr ((List.prefix_append _ _).trans hprefix)

theorem parent_of_mem_placedAmong {path : String} {place : List Nat} {position : Nat} {cs : List NodeChild}
    {x : PlacedLeaf} (hx : x ∈ placedAmong path place position cs) :
    x.parent = place ∨ ∃ k, position ≤ k ∧ k < position + cs.length ∧ place ++ [k] <+: x.parent := by
  cases cs with
  | nil => cases hx
  | cons c rest =>
      have hrest : x ∈ placedAmong path place (position + 1) rest → x.parent = place ∨
          ∃ k, position ≤ k ∧ k < position + (c :: rest).length ∧ place ++ [k] <+: x.parent := by
        intro hx
        rcases parent_of_mem_placedAmong hx with heq | ⟨k, hle, hlt, hprefix⟩
        · exact .inl heq
        · exact .inr ⟨k, by omega, by rw [List.length_cons]; omega, hprefix⟩
      cases c with
      | comment text => exact hrest hx
      | element n =>
          rcases List.mem_append.1 hx with hfirst | hx
          · rcases Node.parent_of_mem_placedLeaves hfirst with heq | hprefix
            · exact .inl heq
            · exact .inr ⟨position, Nat.le_refl _, by rw [List.length_cons]; omega, hprefix⟩
          · exact hrest hx

end

/-- Leaves among earlier and later children have no other parent in common than that of the children. -/
theorem parent_eq_of_placedAmong {path : String} {place : List Nat} {position : Nat} {cs ds : List NodeChild}
    {x y : PlacedLeaf} (hx : x ∈ placedAmong path place position cs)
    (hy : y ∈ placedAmong path place (position + cs.length) ds) (hparent : x.parent = y.parent) :
    x.parent = place := by
  rcases parent_of_mem_placedAmong hx with heq | ⟨k, -, hlt, hxk⟩
  · exact heq
  · rcases parent_of_mem_placedAmong hy with heq | ⟨l, hle, -, hyl⟩
    · exact hparent.trans heq
    · rw [← hparent] at hyl
      have hsame : place ++ [k] = place ++ [l] :=
        (List.prefix_of_prefix_length_le hxk hyl (by simp)).eq_of_length (by simp)
      obtain rfl : k = l := List.singleton_inj.1 (List.append_cancel_left hsame)
      omega

end Specimen
