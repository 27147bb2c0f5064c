import Spreadsheet.Address
import Std.Data.TreeMap

/-! Draining a graph: a node is taken as soon as all nodes that lead to it have been taken. -/

namespace Spreadsheet.Graph

/-- A table of what some nodes lead to. -/
def tabulate (nodes : List Address) (next : Address → List Address) :
    Std.TreeMap Address (List Address) :=
  nodes.foldl (fun table node => table.insert node (next node)) ∅

/-- A drain under way: nodes free to be taken, nodes taken with the latest first, and for every
node how many of those that lead to it have not been taken. -/
structure Drain where
  free : List Address
  taken : List Address
  waiting : Std.TreeMap Address Nat

namespace Drain

/-- For every node, how many nodes lead to it. -/
def countLeading (nodes : List Address) (next : Address → List Address) :
    Std.TreeMap Address Nat :=
  let zeros := nodes.foldl (fun table node => table.insert node 0) (∅ : Std.TreeMap Address Nat)
  (nodes.flatMap next).foldl (fun table target => table.modify target (· + 1)) zeros

/-- A drain of some nodes before any is taken: those that nothing leads to are free. -/
def start (nodes : List Address) (next : Address → List Address) : Drain :=
  let waiting := countLeading nodes next
  ⟨nodes.filter fun node => waiting.getD node 1 == 0, [], waiting⟩

/-- Notes that one of the nodes leading to a node has been taken; the last of them frees it. -/
def release (drain : Drain) (target : Address) : Drain :=
  match drain.waiting[target]? with
  | none => drain
  | some count =>
    let waiting := drain.waiting.insert target (count - 1)
    if count - 1 = 0 then { drain with waiting, free := drain.free ++ [target] }
    else { drain with waiting }

/-- Takes the node that has been free for longest. -/
def step (next : Address → List Address) (drain : Drain) : Drain :=
  match drain.free with
  | [] => drain
  | node :: rest =>
    (next node).foldl release { drain with free := rest, taken := node :: drain.taken }

/-- Takes so many nodes, or all that come free. -/
def steps (next : Address → List Address) : Nat → Drain → Drain
  | 0, drain => drain
  | count + 1, drain => steps next count (drain.step next)

end Drain

/-- The nodes that a drain takes, in order; a node is taken once, so no step is missing. -/
def drain (nodes : List Address) (next : Address → List Address) : List Address :=
  ((Drain.start nodes next).steps next nodes.length).taken.reverse

end Spreadsheet.Graph
