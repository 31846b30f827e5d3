import ClusterAgent.Classification
import ClusterAgent.Cluster.Metric
import ClusterAgent.Collection.Source

/-!
Contract: custom pod metrics, collected for each namespace.

A metric is queried in every namespace. A query that fails, or whose answer does
not have the form of one, leaves its namespace out and is logged; it never ends
the cycle, unless its failure has no text by which it could be classified or, in
a log that is kept, told. The metrics of a group are queried at the same time
and then merged, and metrics that describe different objects do end the cycle.

Owns: the groups of metrics, their queries, the merged series.
Does not own: the sections that show them.
-/

namespace ClusterAgent.PodMetrics

/-- The metrics of each group, in the order in which they are collected. -/
def groups : List (String × List String) :=
  [("memory", ["memory_rss", "memory_swap", "memory_usage_bytes", "memory_max_usage_bytes"]),
    ("fs", ["fs_inodes", "fs_reads", "fs_writes", "fs_limit_bytes", "fs_usage_bytes"]),
    ("cpu", ["cpu_system", "cpu_user", "cpu_usage"])]

def readAnswer (answer : Except Failure Value) : Except Failure MetricSeries := do
  let body ← answer
  (MetricSeries.ofBody (some body)).mapError .rejected

/-- What is logged of a metric before it is queried. -/
def announcement (metric : Name) : Except Undeclared LogEntry := do
  let name ← requireText metric.plainText?
  return ⟨.debug, s!"Query Custom Metrics Endpoint: {name}", []⟩

/-- What is logged of a namespace that is left out. A query that finds nothing only means that
there are no pods. -/
def unavailable (namespaceName metric : Name) (error : ApiError) :
    Except Undeclared LogEntry := do
  if error.kind = .notFound then
    let name ← requireText namespaceName.plainText?
    return ⟨.info, s!"Data unavailable. No pods in namespace {name}", []⟩
  let message ← requireText error.message.plainText?
  return ⟨.info, s!"Data unavailable. {message}",
    [("namespace", namespaceName.field), ("metric", metric.field), ("code", error.code)].filterMap
      fun (key, held) => held.map (key, ·)⟩

/-- One metric in one namespace: the call and what its answer says. -/
structure Query where
  namespaceName : Name
  call : Call Value
  series : Except Failure MetricSeries

def query (source : Source) (metric namespaceName : Name) : Query :=
  let call := source.podMetric namespaceName metric
  ⟨namespaceName, call, readAnswer call.outcome⟩

/-- Handles the answer to a query: one without a series has a failure that is classified and
logged. -/
def Query.handle (logging : Logging) (metric : Name) (query : Query) :
    Except Undeclared (List Event) :=
  match query.series with
  | .ok _ => .ok []
  | .error failure => do
    let error ← ApiError.ofFailure failure
    logging.record (unavailable query.namespaceName metric error)

def Query.reported (logging : Logging) (metric : Name) (query : Query) : List Event :=
  (query.handle logging metric).toOption.getD []

/-- What a query logs while others settle: one that never got under way is reported already. -/
def Query.settled (logging : Logging) (metric : Name) (query : Query) : List Event :=
  query.call.settled ++ if query.call.isUnderWay then [] else query.reported logging metric

/-- The series of a query that has one, under its namespace. -/
def Query.entry? (query : Query) : Option (Name × MetricSeries) :=
  match query.series with
  | .ok series => some (query.namespaceName, series)
  | .error _ => none

/-- One metric in all namespaces, by the phases in which it happens. -/
structure Round where
  started : List Event
  settled : List Event
  reported : List Event
  series : Except Undeclared (Table Name MetricSeries)

def Round.stopped (cause : Undeclared) : Round := ⟨[], [], [], .error cause⟩

def round (logging : Logging) (source : Source) (namespaces : List Name) (metric : Name) :
    Round :=
  match logging.record (announcement metric) with
  | .error cause => .stopped cause
  | .ok announced =>
    let queries := namespaces.map (query source metric)
    { started := announced ++ queries.flatMap (·.call.started)
      settled := queries.flatMap (Query.settled logging metric)
      reported := (queries.filter (·.call.isUnderWay)).flatMap (Query.reported logging metric)
      series := do
        let _ ← queries.mapM (Query.handle logging metric)
        return .ofList (queries.filterMap Query.entry?) }

/-- The events of rounds at the same time: every query starts before any settles, and all settle
before any answer is read. -/
def Round.events (rounds : List Round) : List Event :=
  rounds.flatMap started ++ rounds.flatMap settled ++ rounds.flatMap reported

def collectMetric
    (logging : Logging)
    (source : Source)
    (namespaces : List Name)
    (metric : Name) :
    Journal (Table Name MetricSeries) :=
  let round := round logging source namespaces metric
  ⟨Round.events [round], round.series.mapError .undeclared⟩

/-- Puts the series of one more metric behind those of the same namespace. -/
def gather (grouped : Table Name (List MetricSeries)) (series : Table Name MetricSeries) :
    Table Name (List MetricSeries) :=
  series.entries.foldl (fun table (namespaceName, one) =>
    table.set namespaceName ((table.get? namespaceName).getD [] ++ [one])) grouped

def merge (grouped : Table Name (List MetricSeries)) : Except Failure (Table Name MetricSeries) :=
  Table.mk <$> grouped.entries.mapM fun (namespaceName, series) =>
    (namespaceName, ·) <$> MetricSeries.combineAll series

/-- Puts the series of several rounds together. -/
def mergeRounds (rounds : List Round) : Except Failure (Table Name MetricSeries) := do
  let tables ← (rounds.mapM Round.series).mapError .undeclared
  merge (tables.foldl gather .empty)

/-- Queries all metrics of a group and merges the answers. -/
def collectGroup (logging : Logging) (source : Source) (namespaces metrics : List Name) :
    Journal (Table Name MetricSeries) :=
  let rounds := metrics.map (round logging source namespaces)
  ⟨Round.events rounds, mergeRounds rounds⟩

end ClusterAgent.PodMetrics
