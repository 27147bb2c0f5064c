import Spreadsheet.Address

/-! Which formula cells refer to which cells. -/

namespace Spreadsheet

/-- Formula cells in the order they were entered, each with the cells it refers to in row order. -/
structure Graph where
  entries : List (Address × List Address)

namespace Graph

/-- Puts an address into a list in row order, unless it is there. -/
def place (address : Address) : List Address → List Address
  | [] => [address]
  | first :: rest =>
    match compare address first with
    | .lt => address :: first :: rest
    | .eq => first :: rest
    | .gt => first :: place address rest

/-- Some addresses in row order, each once. -/
def inRowOrder (addresses : List Address) : List Address :=
  addresses.foldl (fun placed address => place address placed) []

/-- The graph of no cells. -/
def empty : Graph := ⟨[]⟩

/-- The formula cells, in the order they were entered. -/
def nodes (graph : Graph) : List Address :=
  graph.entries.map Prod.fst

/-- Whether a cell is one of the formula cells. -/
def contains (graph : Graph) (cell : Address) : Bool :=
  graph.entries.any fun entry => entry.1 == cell

/-- How many formula cells there are. -/
def size (graph : Graph) : Nat :=
  graph.entries.length

/-- Whether there are no formula cells. -/
def isEmpty (graph : Graph) : Bool :=
  graph.entries.isEmpty

/-- Enters a formula cell with what it refers to; one that is there keeps its place. -/
def insert (graph : Graph) (cell : Address) (references : List Address) : Graph :=
  let entry := (cell, inRowOrder references)
  if graph.contains cell then
    ⟨graph.entries.map fun other => if other.1 = cell then entry else other⟩
  else ⟨graph.entries ++ [entry]⟩

/-- Takes a formula cell out. -/
def erase (graph : Graph) (cell : Address) : Graph :=
  ⟨graph.entries.filter fun entry => entry.1 != cell⟩

/-- The cells that a cell refers to, in row order. -/
def precedents (graph : Graph) (cell : Address) : List Address :=
  (graph.entries.find? fun entry => entry.1 == cell).elim [] Prod.snd

/-- The formula cells that refer to a cell, in the order they were entered. -/
def dependents (graph : Graph) (cell : Address) : List Address :=
  (graph.entries.filter fun entry => entry.2.contains cell).map Prod.fst

/-- How many formula cells other than itself refer to a cell. -/
def inDegree (graph : Graph) (cell : Address) : Nat :=
  ((graph.dependents cell).filter fun other => other != cell).length

/-- The other formula cells that a formula cell refers to, in row order. -/
def targets (graph : Graph) (cell : Address) : List Address :=
  (graph.precedents cell).filter fun other => other != cell && graph.contains other

end Graph

end Spreadsheet
