/-!
Contract: what can go wrong while collected data is shaped into a report.

Owns: the causes and the wording of each.
Does not own: failures of the cluster's interface or of the command line.
-/

namespace ClusterAgent

/-- Why statistics of a node carry no usable sample. -/
inductive StatsFault (τ : Type := String) where
  | notJson (node complaint : τ)
  | malformed (node : τ) (issue : String)
  | noSamples (node : τ)
  | unreadableTimestamp (timestamp : τ)
deriving DecidableEq, Repr

def StatsFault.message : StatsFault → String
  | .notJson node complaint => s!"Statistics of node {node} are not JSON: {complaint}"
  | .malformed node issue => s!"Statistics of node {node} are malformed: {issue}"
  | .noSamples node => s!"Node {node} reported no statistics samples"
  | .unreadableTimestamp timestamp => s!"Unparseable statistics timestamp: '{timestamp}'"

/-- Failures of aggregation. Any of them ends the collection cycle. -/
inductive AggregationError (τ : Type := String) where
  | malformedQuantity (quantity : String)
  | emptyAggregation (what : String)
  | duplicateKey (key : String)
  | identityMismatch (left right : String)
  | malformedStats (fault : StatsFault τ)
deriving DecidableEq, Repr

/-- The node that a fault tells; a timestamp tells itself. -/
def StatsFault.node? : StatsFault → Option String
  | .notJson node _ => some node
  | .malformed node _ => some node
  | .noSamples node => some node
  | .unreadableTimestamp _ => none

namespace AggregationError

def message : AggregationError → String
  | malformedQuantity quantity => s!"Malformed quantity: '{quantity}'"
  | emptyAggregation what => s!"Cannot aggregate an empty list of {what} without a seed"
  | duplicateKey key => s!"Key {key} is already present and cannot be merged"
  | identityMismatch left right => s!"Cannot combine metrics of {left} with metrics of {right}"
  | malformedStats fault => fault.message

/-- The class name under which an error is shown. -/
def name : AggregationError → String
  | malformedQuantity _ => "MalformedQuantityError"
  | emptyAggregation _ => "EmptyAggregationError"
  | duplicateKey _ => "DuplicateKeyError"
  | identityMismatch _ _ => "IdentityMismatchError"
  | malformedStats _ => "MalformedStatsError"

def code : AggregationError → String
  | malformedQuantity _ => "MALFORMED_QUANTITY"
  | emptyAggregation _ => "EMPTY_AGGREGATION"
  | duplicateKey _ => "DUPLICATE_KEY"
  | identityMismatch _ _ => "IDENTITY_MISMATCH"
  | malformedStats _ => "MALFORMED_STATS"

end AggregationError

end ClusterAgent
