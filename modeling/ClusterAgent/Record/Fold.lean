import ClusterAgent.AggregationError
import ClusterAgent.Record

/-!
Contract: combining records leaf by leaf.

A result always has the shape of its left record. A leaf that the right record
also holds, in the same place, is combined with it; every other leaf of the left
record stays, and what only the right record holds is dropped.

Owns: combining two records, folding a list of them.
Does not own: the operators on leaves.
-/

namespace ClusterAgent

variable {α : Type}

mutual

/-- Combines a tree with what stands in its place on the right. -/
def Tree.combine (operator : α → α → α) : Tree α → Option (Tree α) → Tree α
  | .leaf left, some (.leaf right) => .leaf (operator left right)
  | .leaf left, some (.node _) => .leaf left
  | .leaf left, none => .leaf left
  | .node members, some (.node others) => .node (Record.combine operator members others)
  | .node members, some (.leaf _) => .node (Record.combine operator members [])
  | .node members, none => .node (Record.combine operator members [])

def Record.combine (operator : α → α → α) : Record α → Record α → Record α
  | [], _ => []
  | (key, tree) :: rest, others =>
    (key, tree.combine operator (others.lookup key)) :: Record.combine operator rest others

end

/-- Folds records pairwise from the left. Without a seed the first record is the seed, and there
is nothing to fold an empty list into. -/
def Record.foldAll
    (operator : α → α → α)
    (records : List (Record α))
    (seed : Option (Record α))
    (what : String) :
    Except AggregationError (Record α) :=
  match seed, records with
  | some seed, records => .ok (records.foldl (Record.combine operator) seed)
  | none, first :: rest => .ok (rest.foldl (Record.combine operator) first)
  | none, [] => .error (.emptyAggregation what)

end ClusterAgent
