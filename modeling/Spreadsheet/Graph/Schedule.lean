import Spreadsheet.Graph.Basic
import Spreadsheet.Graph.Drain
import Std.Data.TreeSet

/-! The order in which formula cells are computed, and the cells on cycles of references. -/

namespace Spreadsheet

/-- Cells to compute, each after the cells it refers to, and the cells on cycles in row order. -/
structure Schedule where
  order : List Address
  cyclic : List Address
  deriving DecidableEq

/-- Whether there is a cycle. -/
def Schedule.hasCycle (schedule : Schedule) : Bool :=
  !schedule.cyclic.isEmpty

namespace Graph

/-- Some nodes without those taken, in their order. -/
def without (nodes taken : List Address) : List Address :=
  let set := Std.TreeSet.ofList taken
  nodes.filter fun node => !set.contains node

/-- Searches from a stack of nodes for one that leads to `goal`; a node is stacked only once. -/
def leadsTo (next : Address → List Address) (goal : Address) :
    Nat → List Address → Std.TreeSet Address → Bool
  | 0, _, _ => false
  | _ + 1, [], _ => false
  | count + 1, node :: stack, seen =>
    if (next node).contains goal then true
    else
      let fresh := (next node).filter fun target => !seen.contains target
      let seen := fresh.foldl (fun seen target => seen.insert target) seen
      leadsTo next goal count (fresh ++ stack) seen

/-- The nodes from which a path leads back to themselves, in their order. -/
def returning (nodes : List Address) (next : Address → List Address) : List Address :=
  nodes.filter fun node => leadsTo next node (nodes.length + 1) [node] ∅

/-- The other formula cells that each formula cell refers to. -/
def targetTable (graph : Graph) : Std.TreeMap Address (List Address) :=
  tabulate graph.nodes graph.targets

/-- What refers to each of some nodes among them, given what the nodes refer to. -/
def referrerTable (nodes : List Address) (targets : Address → List Address) :
    Std.TreeMap Address (List Address) :=
  tabulate nodes fun node => nodes.filter fun other => (targets other).contains node

/-- What each of some nodes refers to among them, given what the nodes refer to. -/
def innerTable (nodes : List Address) (targets : Address → List Address) :
    Std.TreeMap Address (List Address) :=
  let set := Std.TreeSet.ofList nodes
  tabulate nodes fun node => (targets node).filter set.contains

/-- Orders the formula cells: first drained from those that nothing refers to, then what is left
drained from those that refer to nothing left; what is left of that is searched for cycles. -/
def schedule (graph : Graph) : Schedule :=
  let targets := graph.targetTable
  let drained := drain graph.nodes (targets.getD · [])
  let pending := without graph.nodes drained
  let referrers := referrerTable pending (targets.getD · [])
  let peeled := drain pending (referrers.getD · [])
  let core := without pending peeled
  let inner := innerTable core (targets.getD · [])
  let cyclic := returning core (inner.getD · [])
  let between := without core cyclic
  -- What a cycle reads comes first, and what reads a cycle comes last.
  ⟨peeled ++ between ++ drained.reverse, inRowOrder cyclic⟩

end Graph

end Spreadsheet
