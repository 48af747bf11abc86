import RelicRace.Library.Grid
import RelicRace.Library.Loops

/-!
The data of the maze generator: `MazeTile`, `GridPosition`, `Stack` and the
`GKGridGraphNode`s with their connections. A node is a reference in the source;
every node of a maze is created with its own grid position, so a reference is
modelled by that position. `GKGridGraph` and `GKGridGraphNode` belong to the
system: the graph keeps the order of its nodes, and `addConnections` adds a
neighbour that is not there yet.
-/

namespace RelicRace
open Library

/-- The ways in which the source stops with a trap or an exception, and the step
    limit of a modelled loop. -/
inductive Fault where
  | indexOutOfRange
  | nilUnwrap
  | emptyRange
  | noInteger
  | nodeHasParent
  | stepLimit
  deriving DecidableEq, Repr

def indexed {α : Type} : Option α → Except Fault α
  | some value => .ok value
  | none => .error .indexOutOfRange

def unwrapped {α : Type} : Option α → Except Fault α
  | some value => .ok value
  | none => .error .nilUnwrap

section Run
variable {α β : Type}

@[simp] theorem run_ok (value : α) (next : α → Except Fault β) :
    (Except.ok value >>= next) = next value := rfl

@[simp] theorem run_pure (value : α) : (pure value : Except Fault α) = .ok value := rfl

theorem run_bind_iff (first : Except Fault α) (next : α → Except Fault β) (result : β) :
    (first >>= next) = .ok result ↔ ∃ value, first = .ok value ∧ next value = .ok result :=
  Loops.bind_ok_iff first next result

theorem indexed_ok_iff (found : Option α) (value : α) :
    indexed found = .ok value ↔ found = some value := by
  cases found <;> simp [indexed]

/-- A loop over a list keeps an invariant that each round can re-establish. -/
theorem loop_keeps (round : β → α → Except Fault β) (keeps : β → Prop) (items : List α)
    (rounds : ∀ item ∈ items, ∀ state, keeps state →
      ∃ state', round state item = .ok state' ∧ keeps state') (state : β) (start : keeps state) :
    ∃ state', items.foldlM round state = .ok state' ∧ keeps state' := by
  induction items generalizing state with
  | nil => exact ⟨state, rfl, start⟩
  | cons item rest ih =>
      obtain ⟨middle, ran, kept⟩ := rounds item List.mem_cons_self state start
      obtain ⟨final, ran', kept'⟩ :=
        ih (fun other member => rounds other (List.mem_cons_of_mem item member)) middle kept
      exact ⟨final, by simp [List.foldlM_cons, ran, ran'], kept'⟩

theorem map_all_ok (round : α → Except Fault β) (value : α → β) (items : List α)
    (rounds : ∀ item ∈ items, round item = .ok (value item)) :
    items.mapM round = .ok (items.map value) := by
  induction items with
  | nil => rfl
  | cons item rest ih =>
      have tail := ih fun other member => rounds other (List.mem_cons_of_mem item member)
      simp [List.mapM_cons, rounds item List.mem_cons_self, tail]

end Run

inductive Cell where
  | Space
  | Wall
  deriving DecidableEq, Repr

inductive Direction where
  | left
  | right
  | up
  | down
  | none
  deriving DecidableEq, Repr

@[ext] structure GridPosition where
  column : Int
  row : Int
  deriving DecidableEq, Repr

structure GKGridGraphNode where
  gridPosition : GridPosition
  connectedNodes : List GridPosition
  deriving DecidableEq, Repr

structure GKGridGraph where
  nodes : List GKGridGraphNode
  deriving DecidableEq, Repr

structure MazeTile where
  node : GKGridGraphNode
  cellType : Cell
  deriving DecidableEq, Repr

/-- `Stack` appends to and pops from the end of its array; the list holds the
    elements last one first. -/
structure Stack (Element : Type) where
  array : List Element

namespace Stack
variable {Element : Type}

def push (stack : Stack Element) (element : Element) : Stack Element := ⟨element :: stack.array⟩

def pop (stack : Stack Element) : Stack Element := ⟨stack.array.tail⟩

def peek (stack : Stack Element) : Option Element := stack.array.head?

end Stack

def MAX_ROWS : Nat := 21
def MAX_COLUMNS : Nat := 37

/-- Every element of `mazeStack` is a two-element array `[x, y]` of the source,
    where `x` counts rows and `y` counts columns. -/
structure Maze where
  graph : GKGridGraph
  mazeWidth : Nat
  mazeHeight : Nat
  data : Grid MazeTile
  visitedMap : Grid Bool
  mazeStack : Stack (Int × Int)

/-! Reads and writes of `data` at the place of a grid position. -/

def tileAt? (data : Grid MazeTile) (place : GridPosition) : Option MazeTile :=
  data.at? place.row place.column

def updateTile (data : Grid MazeTile) (place : GridPosition) (change : MazeTile → MazeTile) :
    Except Fault (Grid MazeTile) :=
  match tileAt? data place with
  | some tile => .ok (data.put place.row place.column (change tile))
  | none => .error .indexOutOfRange

def MazeTile.opened (tile : MazeTile) : MazeTile := { tile with cellType := .Space }

def GKGridGraphNode.connect (node : GKGridGraphNode) (target : GridPosition) : GKGridGraphNode :=
  if target ∈ node.connectedNodes then node
  else { node with connectedNodes := node.connectedNodes ++ [target] }

def MazeTile.connect (tile : MazeTile) (target : GridPosition) : MazeTile :=
  { tile with node := tile.node.connect target }

/-- `source.node.addConnections(to: [target.node], bidirectional: true)`. -/
def addConnections (data : Grid MazeTile) (source target : GridPosition) :
    Except Fault (Grid MazeTile) := do
  let data ← updateTile data source (·.connect target)
  updateTile data target (·.connect source)

/-! What the rest of the program can see of `data`. -/

def IsSpace (data : Grid MazeTile) (place : GridPosition) : Prop :=
  ∃ tile, tileAt? data place = some tile ∧ tile.cellType = .Space

def links (data : Grid MazeTile) (place : GridPosition) : List GridPosition :=
  match tileAt? data place with
  | some tile => tile.node.connectedNodes
  | none => []

def Joined (data : Grid MazeTile) (source target : GridPosition) : Prop :=
  target ∈ links data source

instance (data : Grid MazeTile) (source target : GridPosition) :
    Decidable (Joined data source target) :=
  inferInstanceAs (Decidable (target ∈ links data source))

/-- A connection of the node at one place to the node at another. -/
def GKGridGraph.Linked (graph : GKGridGraph) (source target : GridPosition) : Prop :=
  ∃ node ∈ graph.nodes, node.gridPosition = source ∧ target ∈ node.connectedNodes

/-- Sharing an edge of the grid. -/
def EdgeAdjacent (source target : GridPosition) : Prop :=
  (source.row = target.row ∧
    (source.column = target.column + 1 ∨ target.column = source.column + 1)) ∨
  (source.column = target.column ∧ (source.row = target.row + 1 ∨ target.row = source.row + 1))

instance (source target : GridPosition) : Decidable (EdgeAdjacent source target) :=
  inferInstanceAs (Decidable (_ ∨ _))

end RelicRace
