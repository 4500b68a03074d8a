/-!
# Graphs of names

Finite graphs whose nodes are texts, kept in increasing order.  A graph is read in two ways: who reaches
whom, and in which order the nodes can be listed when each has to come after its targets.
-/

namespace Specimen

/-- A graph: its nodes in increasing order, each with its targets in increasing order. -/
abbrev Graph := List (String × List String)

namespace Graph

/-- Puts a text into its place in an increasing list, once. -/
def insertSorted (s : String) : List String → List String
  | [] => [s]
  | t :: rest =>
    if s < t then s :: t :: rest else if s = t then t :: rest else t :: insertSorted s rest

/-- The members of a list in increasing order, each once. -/
def sorted (names : List String) : List String :=
  names.foldl (fun done s => insertSorted s done) []

@[simp]
theorem mem_insertSorted {s x : String} {l : List String} :
    x ∈ insertSorted s l ↔ x = s ∨ x ∈ l := by
  induction l with
  | nil => simp [insertSorted]
  | cons t rest ih =>
    unfold insertSorted
    split
    · simp
    · split
      · rename_i heq
        simp [heq]
      · simp [ih, or_left_comm]

theorem mem_foldl_insertSorted {names done : List String} {x : String} :
    x ∈ names.foldl (fun done s => insertSorted s done) done ↔ x ∈ names ∨ x ∈ done := by
  induction names generalizing done with
  | nil => simp
  | cons s rest ih => simp [ih, or_assoc, or_left_comm]

@[simp]
theorem mem_sorted {names : List String} {x : String} : x ∈ sorted names ↔ x ∈ names := by
  simp [sorted, mem_foldl_insertSorted]

/-- Adds targets to a node, which is added when it is missing. -/
def add (node : String) (targets : List String) : Graph → Graph
  | [] => [(node, sorted targets)]
  | (n, ts) :: rest =>
    if node < n then (node, sorted targets) :: (n, ts) :: rest
    else if node = n then (n, sorted (ts ++ targets)) :: rest
    else (n, ts) :: add node targets rest

def nodes (g : Graph) : List String := g.map (·.1)

def targets (g : Graph) (node : String) : List String :=
  match g.find? fun p => p.1 == node with
  | some (_, ts) => ts
  | none => []

/-- Whether there is an edge from a node to a target. -/
def hasEdge (g : Graph) (node target : String) : Bool := (g.targets node).contains target

def edgeCount (g : Graph) : Nat := g.foldl (fun n p => n + p.2.length) 0

/-- Whether a target turns up on the way from the nodes of a stack, the top of which stands first.  Where a node
was visited before, the way is not followed again; `fuel` bounds how many nodes are taken from the stack. -/
def findsFrom (g : Graph) (target : String) : (fuel : Nat) → (stack visited : List String) → Bool
  | 0, _, _ => false
  | _ + 1, [], _ => false
  | fuel + 1, node :: stack, visited =>
    if node = target then true
    else if visited.contains node then findsFrom g target fuel stack visited
    else findsFrom g target fuel ((g.targets node).reverse ++ stack) (node :: visited)

/-- Whether a target can be reached from a node by one or more edges.  The targets of the node are put on the stack
at first, and those of each other node at most once. -/
def reaches (g : Graph) (node target : String) : Bool :=
  g.findsFrom target (2 * g.edgeCount) (g.targets node).reverse []

/-- Whether a node can be reached from itself. -/
def isRecursive (g : Graph) (node : String) : Bool := g.reaches node node

/-- A listing that has come so far. -/
structure Listing where
  /-- How many nodes that are not listed each node still waits for. -/
  waiting : List (String × Nat)
  /-- The nodes that wait for nothing and are not listed, in increasing order. -/
  ready : List String
  listed : List String

namespace Listing

def start (waiting : List (String × Nat)) : Listing where
  waiting
  ready := (waiting.filter fun p => p.2 == 0).map (·.1)
  listed := []

/-- Lists a node, after which the others that were ready are still ready: what waits for it waits for one
node less, and is ready when it waits for nothing any more. -/
def list (waitsFor : (node other : String) → Bool) (node : String) (others : List String) (l : Listing) : Listing :=
  let waiting := l.waiting.map fun p => if waitsFor p.1 node then (p.1, p.2 - 1) else p
  let freed := (waiting.filter fun p => waitsFor p.1 node && p.2 == 0).map (·.1)
  { waiting
    ready := freed.foldl (fun ready n => insertSorted n ready) others
    listed := l.listed ++ [node] }

/-- Lists nodes one at a time, always the least that is ready; `fuel` bounds their number. -/
def advance (waitsFor : (node other : String) → Bool) : (fuel : Nat) → Listing → Listing
  | 0, l => l
  | fuel + 1, l =>
    match l.ready with
    | [] => l
    | node :: others => advance waitsFor fuel (l.list waitsFor node others)

end Listing

/-- How many of its targets each node waits for at first, of which only some count. -/
def waiting (g : Graph) (counts : (node target : String) → Bool) : List (String × Nat) :=
  g.map fun p => (p.1, (p.2.filter (counts p.1)).length)

/-- The nodes in an order in which each comes after those it waits for, or the nodes that wait for something to the
end. -/
def listing (g : Graph) (counts waitsFor : (node target : String) → Bool) : Except (List String) (List String) :=
  let done := (Listing.start (g.waiting counts)).advance waitsFor g.length
  if done.listed.length = g.length then .ok done.listed
  else .error ((done.waiting.filter fun p => decide (0 < p.2)).map (·.1))

/-- The nodes in an order in which each comes after its targets inside the graph.  A node that is its own target
waits for itself. -/
def targetsFirst (g : Graph) : Except (List String) (List String) :=
  g.listing (fun _ t => g.nodes.contains t) g.hasEdge

/-- The nodes in an order in which each comes after its targets inside the graph apart from itself. -/
def toposort (g : Graph) : Except (List String) (List String) :=
  g.listing (fun n t => g.nodes.contains t && t != n) fun n t => n != t && g.hasEdge n t

/-- The nodes that cannot be listed because a cycle of two or more nodes can be reached from them. -/
def stuck (g : Graph) : List String :=
  match g.toposort with
  | .ok _ => []
  | .error left => left

end Graph

end Specimen
