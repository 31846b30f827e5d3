import ClusterAgent.Cluster.Metadata

/-!
Contract: custom metrics of pods.

A query answers with a list of values, each for one object. Several lists for
the same namespace are merged position by position, as long as they describe the
same objects; the merged list is as long as the shortest.

Owns: the form of an answer, what tells objects apart, merging.
Does not own: which metrics are queried.
-/

namespace ClusterAgent

structure DescribedObject where
  members : Members

namespace DescribedObject

/-- The members that tell one object from another. -/
def identifyingKeys : List String := ["kind", "namespace", "name", "apiVersion"]

def field (object : DescribedObject) (key : String) : Field := object.members.lookup key

def same (left right : DescribedObject) : Bool :=
  identifyingKeys.all fun key => (left.field key).same (right.field key)

/-- An object in words; a namespace that counts as nothing is left out. -/
def describe (object : DescribedObject) : Except Undeclared String := do
  let kind ← requireText ((object.field "kind").plainText? "undefined")
  let namespaceName := object.field "namespace"
  let place ←
    if namespaceName.isGiven then
      (· ++ "/") <$> requireText (namespaceName.plainText? "undefined")
    else .ok ""
  let name ← requireText ((object.field "name").plainText? "undefined")
  return s!"{kind} {place}{name}"

/-- The members that are shown of an object: all but the one name that cannot be given to one. -/
def shown (object : DescribedObject) : Members :=
  object.members.filter fun member => member.1 ≠ "__proto__"

/-- The description made of texts, in the order of the form of an answer. -/
def ofTexts (kind : String) (namespaceName : Option String) (name : String)
    (apiVersion : Option String) : DescribedObject :=
  ⟨[("kind", some kind), ("namespace", namespaceName), ("name", some name),
    ("apiVersion", apiVersion)].filterMap fun (key, declared) =>
      declared.map fun text => (key, .text text)⟩

/-- Reads the members of a described object; members beyond the identifying ones are dropped. -/
def check (path : List Schema.Step) (members : Members) : Schema.Checked DescribedObject :=
  let part (name : String) := (path ++ [Schema.Step.key name], members.lookup name)
  (Schema.both (Schema.text (part "kind").1 (part "kind").2)
    (Schema.both (Schema.textIfPresent (part "namespace").1 (part "namespace").2)
      (Schema.both (Schema.text (part "name").1 (part "name").2)
        (Schema.textIfPresent (part "apiVersion").1 (part "apiVersion").2)))).map
    fun (kind, namespaceName, name, apiVersion) => ofTexts kind namespaceName name apiVersion

end DescribedObject

/-- Metric values of one object; a value that is missing is null. -/
structure DescribedMetric where
  object : DescribedObject
  metrics : Members

namespace DescribedMetric

def check (path : List Schema.Step) (item : Value) : Schema.Checked DescribedMetric :=
  Schema.object path (some item) fun members =>
    let objectPath := path ++ [Schema.Step.key "describedObject"]
    (Schema.both
      (Schema.object objectPath (members.lookup "describedObject")
        (DescribedObject.check objectPath))
      (Schema.both
        (Schema.text (path ++ [.key "metricName"]) (members.lookup "metricName"))
        (Schema.textOrNull (path ++ [.key "value"]) (members.lookup "value")))).map
      fun (object, metricName, value) =>
        ⟨object, [(metricName, (value.map Value.text).getD .null)]⟩

/-- The refusal to merge metrics of two objects. -/
def mismatch (left right : DescribedObject) : Except Undeclared AggregationError := do
  return .identityMismatch (← left.describe) (← right.describe)

/-- The values of both, those of `right` where both have one. -/
def combine (left right : DescribedMetric) : Except Failure DescribedMetric :=
  if left.object.same right.object then
    .ok ⟨left.object, Members.overlay left.metrics right.metrics⟩
  else
    match mismatch left.object right.object with
    | .ok error => .error (.aggregation error)
    | .error cause => .error (.undeclared cause)

def view (metric : DescribedMetric) : Value :=
  .object [("from_object", .object metric.object.shown), ("metrics", .object metric.metrics)]

end DescribedMetric

/-- The answer to one query, in the order of the answer. -/
abbrev MetricSeries := List DescribedMetric

namespace MetricSeries

def ofBody (body : Option Value) : Schema.Checked MetricSeries :=
  Schema.object [] body fun members =>
    Schema.listIfPresent [.key "items"] (members.lookup "items") DescribedMetric.check

/-- Merges two answers position by position, as far as both go. -/
def combine (left right : MetricSeries) : Except Failure MetricSeries :=
  (left.zip right).mapM fun (a, b) => a.combine b

def combineAll : List MetricSeries → Except Failure MetricSeries
  | [] => .ok []
  | first :: rest => rest.foldlM combine first

def view (series : MetricSeries) : Value := .list (series.map DescribedMetric.view)

end MetricSeries

end ClusterAgent
