import ClusterAgent.Cluster.Catalog
import ClusterAgent.Record.Fold

/-!
Contract: amounts of resources that nodes offer and containers ask for.

Owns: tables of declared quantities, reading an amount from one, empty sums.
Does not own: which table a view is taken from.
-/

namespace ClusterAgent

structure ResourceTable where
  entries : List (String × Declaration)

namespace ResourceTable

def declared (table : ResourceTable) (name : String) : Declaration :=
  (table.entries.lookup name).getD .absent

/-- Cores, or the default where none are declared. -/
def cpu (table : ResourceTable) (default : String) : Except Failure Number :=
  (table.declared "cpu").read Quantity.cpu default .amount

/-- Bytes of memory, or the default where none are declared. -/
def memory (table : ResourceTable) (default : String) : Except Failure Number :=
  (table.declared "memory").read Quantity.memory default .amount

def pods (table : ResourceTable) : Except Failure Number :=
  (table.declared "pods").read Quantity.count "0" .count

end ResourceTable

def sumRecords
    (records : List (Record Number))
    (seed : Option (Record Number))
    (what : String) :
    Except AggregationError (Record Number) :=
  Record.foldAll Number.add records seed what

end ClusterAgent
