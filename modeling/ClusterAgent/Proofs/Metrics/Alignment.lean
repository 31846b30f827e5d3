import ClusterAgent.Cluster.Metric
import ClusterAgent.Value.Equality
import ClusterAgent.Proofs.Outcome
import ClusterAgent.Proofs.Tables

/-!
Contract: series of metrics that describe the same objects, and what they are merged into.

A series is compared with the first one at every position that all series up to
it have. Aligned series merge into one that is as long as the shortest; each of
its records is of the object that the first series has there, with the values of
all series, the later ones winning. Series that are not aligned are refused.

Owns: identities of objects, alignment, the merged series, the outcome of merging.
Does not own: which queries answer with a series.
-/

namespace ClusterAgent

/-! ## Bodies that have the form of an answer -/

namespace Schema

variable {α β : Type}

theorem map_eq_ok {f : α → β} {check : Checked α} {result : β} :
    check.map f = .ok result ↔ ∃ value, check = .ok value ∧ f value = result :=
  Outcome.map_eq_ok

theorem both_eq_ok {left : Checked α} {right : Checked β} {a : α} {b : β} :
    both left right = .ok (a, b) ↔ left = .ok a ∧ right = .ok b := by
  cases left <;> cases right <;> simp [both]

theorem exists_of_object_ok {path : List Step} {found : Option Value}
    {inner : Members → Checked α} {value : α} (checked : object path found inner = .ok value) :
    ∃ members, inner members = .ok value := by
  unfold object at checked
  split at checked
  · exact ⟨_, checked⟩
  · cases checked

theorem exists_of_all_ok {checks : List (Checked α)} {values : List α}
    (checked : all checks = .ok values) : ∀ value ∈ values, .ok value ∈ checks := by
  induction checks generalizing values with
  | nil =>
    cases checked
    simp
  | cons check rest inductionHypothesis =>
    obtain ⟨⟨first, others⟩, bothOk, rfl⟩ := map_eq_ok.1 checked
    obtain ⟨firstOk, othersOk⟩ := both_eq_ok.1 bothOk
    intro value member
    rcases List.mem_cons.1 member with rfl | later
    · rw [firstOk]
      exact List.mem_cons_self
    · exact List.mem_cons_of_mem _ (inductionHypothesis othersOk value later)

end Schema

namespace DescribedObject

/-- What tells an object from others: kind, namespace, name and version, each as it is declared or
absent. -/
def identity (object : DescribedObject) : List Field := identifyingKeys.map object.field

/-- An object that is described by texts only. -/
def IsTextual (object : DescribedObject) : Prop :=
  ∀ member ∈ object.members, ∃ text, member.2 = .text text

theorem field_of_isTextual {object : DescribedObject} (textual : object.IsTextual) (key : String) :
    object.field key = none ∨ ∃ text, object.field key = some (.text text) := by
  cases found : object.field key with
  | none => exact .inl rfl
  | some value =>
    have inTable : (Table.mk object.members).get? key = some value := found
    have member : (key, value) ∈ object.members := Table.mem_entries_of_get? inTable
    obtain ⟨text, isText⟩ := textual _ member
    exact .inr ⟨text, congrArg some isText⟩

/-- Among objects that are described by texts, the same ones are those of one identity. -/
theorem same_iff {left right : DescribedObject} (leftTextual : left.IsTextual)
    (rightTextual : right.IsTextual) :
    left.same right = true ↔ left.identity = right.identity := by
  unfold same identity
  rw [List.all_eq_true, List.map_inj_left]
  apply forall₂_congr
  intro key _
  rcases field_of_isTextual leftTextual key with leftField | ⟨leftText, leftField⟩ <;>
    rcases field_of_isTextual rightTextual key with rightField | ⟨rightText, rightField⟩ <;>
      simp [leftField, rightField, Field.same, Value.same]

theorem exists_describe {object : DescribedObject} (textual : object.IsTextual) :
    ∃ words, object.describe = .ok words := by
  have plain (key : String) :
      ∃ text, requireText ((object.field key).plainText? "undefined") = .ok text := by
    rcases field_of_isTextual textual key with field | ⟨text, field⟩ <;>
      simp [field, Field.plainText?, Value.plainText?, requireText]
  obtain ⟨kind, kindOk⟩ := plain "kind"
  obtain ⟨place, placeOk⟩ := plain "namespace"
  obtain ⟨name, nameOk⟩ := plain "name"
  unfold describe
  by_cases given : (object.field "namespace").isGiven <;>
    simp [kindOk, placeOk, nameOk, given]

theorem isTextual_ofTexts (kind : String) (namespaceName : Option String) (name : String)
    (apiVersion : Option String) : (ofTexts kind namespaceName name apiVersion).IsTextual := by
  intro member isMember
  obtain ⟨⟨key, declared⟩, _, found⟩ := List.mem_filterMap.1 isMember
  obtain ⟨text, _, rfl⟩ := Option.map_eq_some_iff.1 found
  exact ⟨text, rfl⟩

theorem isTextual_of_check {path : List Schema.Step} {members : Members} {object : DescribedObject}
    (checked : check path members = .ok object) : object.IsTextual := by
  obtain ⟨⟨kind, namespaceName, name, apiVersion⟩, _, rfl⟩ := Schema.map_eq_ok.1 checked
  exact isTextual_ofTexts kind namespaceName name apiVersion

end DescribedObject

namespace DescribedMetric

/-- A record as one item of an answer gives it: one value for an object described by texts. -/
structure IsSingle (metric : DescribedMetric) : Prop where
  textual : metric.object.IsTextual
  single : ∃ member, metric.metrics = [member]

theorem combine_of_identity {left right : DescribedMetric} (leftTextual : left.object.IsTextual)
    (rightTextual : right.object.IsTextual)
    (same : left.object.identity = right.object.identity) :
    left.combine right = .ok ⟨left.object, Members.overlay left.metrics right.metrics⟩ := by
  rw [combine, if_pos ((DescribedObject.same_iff leftTextual rightTextual).2 same)]

theorem combine_of_differs {left right : DescribedMetric} (leftTextual : left.object.IsTextual)
    (rightTextual : right.object.IsTextual)
    (differs : left.object.identity ≠ right.object.identity) :
    ∃ one other, left.combine right = .error (.aggregation (.identityMismatch one other)) := by
  obtain ⟨one, oneOk⟩ := DescribedObject.exists_describe leftTextual
  obtain ⟨other, otherOk⟩ := DescribedObject.exists_describe rightTextual
  refine ⟨one, other, ?_⟩
  rw [combine, if_neg (mt (DescribedObject.same_iff leftTextual rightTextual).1 differs)]
  simp [mismatch, oneOk, otherOk]

theorem isSingle_of_check {path : List Schema.Step} {item : Value} {metric : DescribedMetric}
    (checked : check path item = .ok metric) : metric.IsSingle := by
  obtain ⟨members, innerOk⟩ := Schema.exists_of_object_ok checked
  obtain ⟨⟨object, metricName, value⟩, bothOk, rfl⟩ := Schema.map_eq_ok.1 innerOk
  obtain ⟨objectMembers, objectOk⟩ := Schema.exists_of_object_ok (Schema.both_eq_ok.1 bothOk).1
  exact ⟨DescribedObject.isTextual_of_check objectOk, _, rfl⟩

end DescribedMetric

namespace MetricSeries

theorem isSingle_of_ofBody {body : Option Value} {series : MetricSeries}
    (read : ofBody body = .ok series) : ∀ metric ∈ series, metric.IsSingle := by
  obtain ⟨members, itemsOk⟩ := Schema.exists_of_object_ok read
  unfold Schema.listIfPresent at itemsOk
  split at itemsOk
  · cases itemsOk
    simp
  · intro metric member
    obtain ⟨⟨item, position⟩, _, checked⟩ :=
      List.mem_map.1 (Schema.exists_of_all_ok itemsOk metric member)
    exact DescribedMetric.isSingle_of_check checked
  · cases itemsOk

/-! ## Alignment -/

/-- How many positions all of some series have. -/
def commonLength (series : List MetricSeries) : Nat := ((series.map List.length).min?).getD 0

def metricAt (series : List MetricSeries) (which position : Nat) : Option DescribedMetric :=
  (series[which]?).bind (·[position]?)

def identityAt (series : List MetricSeries) (which position : Nat) : Option (List Field) :=
  (metricAt series which position).map fun metric => metric.object.identity

/-- Series that can be merged: each describes the objects of the first one, as far as it and all
series before it go. -/
def Aligned (series : List MetricSeries) : Prop :=
  ∀ which < series.length, ∀ position < commonLength (series.take (which + 1)),
    identityAt series which position = identityAt series 0 position

instance (series : List MetricSeries) : Decidable (Aligned series) := by
  unfold Aligned
  infer_instance

/-- All values that some series have at a position, in the order of the series. -/
def valuesAt (series : List MetricSeries) (position : Nat) : Members :=
  series.flatMap fun one => (one[position]?).elim [] DescribedMetric.metrics

/-- What aligned series are merged into. -/
structure IsMerged (series : List MetricSeries) (merged : MetricSeries) : Prop where
  length : merged.length = commonLength series
  object : ∀ position metric, merged[position]? = some metric →
    (metricAt series 0 position).map DescribedMetric.object = some metric.object
  values : ∀ position metric, merged[position]? = some metric →
    metric.metrics = Members.ofList (valuesAt series position)

@[simp] theorem commonLength_nil : commonLength [] = 0 := rfl

@[simp] theorem commonLength_singleton (one : MetricSeries) : commonLength [one] = one.length := rfl

theorem commonLength_append_singleton {series : List MetricSeries} (nonempty : series ≠ [])
    (last : MetricSeries) :
    commonLength (series ++ [last]) = min (commonLength series) last.length := by
  obtain ⟨first, rest, rfl⟩ := List.exists_cons_of_ne_nil nonempty
  rw [commonLength, commonLength, List.cons_append, List.map_cons, List.map_append,
    List.map_singleton, List.map_cons, List.min?_cons', List.min?_cons', List.foldl_append]
  rfl

theorem metricAt_append_of_lt {series : List MetricSeries} {which : Nat}
    (inside : which < series.length) (last : MetricSeries) (position : Nat) :
    metricAt (series ++ [last]) which position = metricAt series which position := by
  simp [metricAt, List.getElem?_append_left inside]

theorem metricAt_append_last (series : List MetricSeries) (last : MetricSeries) (position : Nat) :
    metricAt (series ++ [last]) series.length position = last[position]? := by
  simp [metricAt]

theorem identityAt_append_of_lt {series : List MetricSeries} {which : Nat}
    (inside : which < series.length) (last : MetricSeries) (position : Nat) :
    identityAt (series ++ [last]) which position = identityAt series which position := by
  simp [identityAt, metricAt_append_of_lt inside]

/-- Series are aligned exactly if all but the last are, and the last one describes the objects of
the first as far as all go. -/
theorem aligned_append_singleton {series : List MetricSeries} (nonempty : series ≠ [])
    (last : MetricSeries) :
    Aligned (series ++ [last]) ↔
      Aligned series ∧ ∀ position < commonLength (series ++ [last]),
        (last[position]?).map (fun metric => metric.object.identity) =
          identityAt series 0 position := by
  have positive : 0 < series.length := List.length_pos_iff.2 nonempty
  constructor
  · intro aligned
    constructor
    · intro which inside position common
      have step := aligned which (by simp; omega) position
      rw [List.take_append_of_le_length inside, identityAt_append_of_lt inside,
        identityAt_append_of_lt positive] at step
      exact step common
    · intro position common
      have step := aligned series.length (by simp) position
      rw [List.take_of_length_le (by simp), identityAt_append_of_lt positive] at step
      rw [← step common, identityAt, metricAt_append_last]
  · rintro ⟨aligned, lastAligned⟩ which inside position common
    rw [List.length_append, List.length_singleton, Nat.lt_succ_iff_lt_or_eq] at inside
    rw [identityAt_append_of_lt positive]
    rcases inside with earlier | isLast
    · rw [List.take_append_of_le_length earlier] at common
      rw [identityAt_append_of_lt earlier]
      exact aligned which earlier position common
    · rw [isLast, List.take_of_length_le (by simp)] at common
      rw [isLast, identityAt, metricAt_append_last]
      exact lastAligned position common

/-! ## Merging -/

theorem combineAll_append_singleton {series : List MetricSeries} (nonempty : series ≠ [])
    (last : MetricSeries) :
    combineAll (series ++ [last]) = combineAll series >>= (combine · last) := by
  obtain ⟨first, rest, rfl⟩ := List.exists_cons_of_ne_nil nonempty
  simp only [combineAll, List.cons_append, List.foldlM_append, List.foldlM_cons, List.foldlM_nil,
    bind_pure]

/-- Two series of textual objects merge if they agree on every position that both have. -/
theorem combine_of_agree {left right : MetricSeries}
    (leftTextual : ∀ metric ∈ left, metric.object.IsTextual)
    (rightTextual : ∀ metric ∈ right, metric.object.IsTextual)
    (agree : ∀ pair ∈ left.zip right, pair.1.object.identity = pair.2.object.identity) :
    combine left right = .ok ((left.zip right).map fun pair =>
      ⟨pair.1.object, Members.overlay pair.1.metrics pair.2.metrics⟩) := by
  apply Outcome.mapM_eq_map
  rintro ⟨a, b⟩ member
  obtain ⟨inLeft, inRight⟩ := List.of_mem_zip member
  exact DescribedMetric.combine_of_identity (leftTextual a inLeft) (rightTextual b inRight)
    (agree (a, b) member)

/-- Two series of textual objects that disagree on a position are refused for that. -/
theorem combine_of_disagree {left right : MetricSeries}
    (leftTextual : ∀ metric ∈ left, metric.object.IsTextual)
    (rightTextual : ∀ metric ∈ right, metric.object.IsTextual)
    (disagree : ¬ ∀ pair ∈ left.zip right, pair.1.object.identity = pair.2.object.identity) :
    ∃ one other, combine left right = .error (.aggregation (.identityMismatch one other)) := by
  have refused : ∀ pair ∈ left.zip right, pair.1.object.identity ≠ pair.2.object.identity →
      ∃ one other, pair.1.combine pair.2 = .error (.aggregation (.identityMismatch one other)) := by
    rintro ⟨a, b⟩ member differs
    obtain ⟨inLeft, inRight⟩ := List.of_mem_zip member
    exact DescribedMetric.combine_of_differs (leftTextual a inLeft) (rightTextual b inRight) differs
  have fails : ¬ ∃ merged, combine left right = .ok merged := by
    intro succeeds
    obtain ⟨pair, member, differs⟩ : ∃ pair ∈ left.zip right,
        pair.1.object.identity ≠ pair.2.object.identity := by
      simpa using disagree
    obtain ⟨merged, stepOk⟩ := Outcome.exists_mapM_ok.1 succeeds pair member
    obtain ⟨one, other, stepRefused⟩ := refused pair member differs
    cases stepOk.symm.trans stepRefused
  obtain ⟨failure, failed⟩ := Outcome.exists_error_of_not_ok fails
  obtain ⟨⟨a, b⟩, member, stepFailed⟩ := Outcome.exists_of_mapM_error failed
  obtain ⟨inLeft, inRight⟩ := List.of_mem_zip member
  by_cases same : a.object.identity = b.object.identity
  · have stepOk := DescribedMetric.combine_of_identity (leftTextual a inLeft)
      (rightTextual b inRight) same
    exact absurd (stepOk.symm.trans stepFailed) (by simp)
  · obtain ⟨one, other, stepRefused⟩ := refused (a, b) member same
    have sameFailure := stepFailed.symm.trans stepRefused
    cases sameFailure
    exact ⟨one, other, failed⟩

/-- The members of one object are in their canonical order already. -/
theorem ofList_metrics {metric : DescribedMetric} (single : metric.IsSingle) :
    Members.ofList metric.metrics = metric.metrics := by
  obtain ⟨⟨key, value⟩, isSingle⟩ := single.single
  rw [isSingle]
  change Members.set [] key value = [(key, value)]
  unfold Members.set
  split <;> rfl

theorem valuesAt_append_singleton (series : List MetricSeries) (last : MetricSeries)
    (position : Nat) :
    valuesAt (series ++ [last]) position =
      valuesAt series position ++ (last[position]?).elim [] DescribedMetric.metrics := by
  simp [valuesAt]

theorem isMerged_singleton {one : MetricSeries} (single : ∀ metric ∈ one, metric.IsSingle) :
    IsMerged [one] one where
  length := rfl
  object position metric found := by simp [metricAt, found]
  values position metric found := by
    have isSingle := single metric (List.mem_of_getElem? found)
    simp [valuesAt, found, ofList_metrics isSingle]

/-- What a merged series and one more agree on, position by position. -/
theorem agree_iff {series : List MetricSeries} {merged last : MetricSeries} (nonempty : series ≠ [])
    (isMerged : IsMerged series merged) :
    (∀ pair ∈ merged.zip last, pair.1.object.identity = pair.2.object.identity) ↔
      ∀ position < commonLength (series ++ [last]),
        (last[position]?).map (fun metric => metric.object.identity) =
          identityAt series 0 position := by
  have identityOfMerged (position : Nat) (metric : DescribedMetric)
      (found : merged[position]? = some metric) :
      identityAt series 0 position = some metric.object.identity := by
    have objectEqual := isMerged.object position metric found
    obtain ⟨first, foundFirst, sameObject⟩ := Option.map_eq_some_iff.1 objectEqual
    simp [identityAt, foundFirst, sameObject]
  rw [commonLength_append_singleton nonempty, ← isMerged.length]
  constructor
  · intro agree position common
    have inMerged : position < merged.length := by omega
    have inLast : position < last.length := by omega
    have member : (merged[position], last[position]) ∈ merged.zip last := by
      rw [List.mem_iff_getElem]
      exact ⟨position, by rw [List.length_zip]; exact common, by simp⟩
    rw [identityOfMerged position merged[position] (List.getElem?_eq_getElem inMerged),
      List.getElem?_eq_getElem inLast]
    exact congrArg some (agree _ member).symm
  · rintro agree ⟨a, b⟩ member
    obtain ⟨position, found⟩ := List.mem_iff_getElem?.1 member
    obtain ⟨inMerged, inLast⟩ := List.getElem?_zip_eq_some.1 found
    have common : position < min merged.length last.length := by
      have := (List.getElem?_eq_some_iff.1 inMerged).1
      have := (List.getElem?_eq_some_iff.1 inLast).1
      omega
    have identityEqual := agree position common
    rw [inLast, identityOfMerged position a inMerged] at identityEqual
    exact (Option.some.inj identityEqual).symm

/-- One more series that agrees is merged in. -/
theorem isMerged_append_singleton {series : List MetricSeries} {merged : MetricSeries}
    (nonempty : series ≠ []) (isMerged : IsMerged series merged) (last : MetricSeries) :
    IsMerged (series ++ [last]) ((merged.zip last).map fun pair =>
      ⟨pair.1.object, Members.overlay pair.1.metrics pair.2.metrics⟩) where
  length := by
    rw [List.length_map, List.length_zip, commonLength_append_singleton nonempty, isMerged.length]
  object position metric found := by
    rw [List.getElem?_map] at found
    obtain ⟨⟨a, b⟩, foundPair, rfl⟩ := Option.map_eq_some_iff.1 found
    have inMerged := (List.getElem?_zip_eq_some.1 foundPair).1
    rw [metricAt_append_of_lt (List.length_pos_iff.2 nonempty)]
    exact isMerged.object position a inMerged
  values position metric found := by
    rw [List.getElem?_map] at found
    obtain ⟨⟨a, b⟩, foundPair, rfl⟩ := Option.map_eq_some_iff.1 found
    obtain ⟨inMerged, inLast⟩ := List.getElem?_zip_eq_some.1 foundPair
    have earlier := isMerged.values position a inMerged
    rw [valuesAt_append_singleton, inLast, Option.elim_some]
    simp only [earlier, Members.ofList, Members.overlay, List.foldl_append]

/-- Series whose records are single ones are merged if they are aligned, and refused for two
objects that are not the same if they are not. -/
theorem combineAll_outcome {series : List MetricSeries}
    (single : ∀ one ∈ series, ∀ metric ∈ one, metric.IsSingle) :
    (Aligned series ∧ ∃ merged, combineAll series = .ok merged ∧ IsMerged series merged ∧
        ∀ metric ∈ merged, metric.object.IsTextual) ∨
      (¬ Aligned series ∧ ∃ one other,
        combineAll series = .error (.aggregation (.identityMismatch one other))) := by
  induction series using List.reverseRecOn with
  | nil =>
    refine .inl ⟨by simp [Aligned], [], rfl, ⟨rfl, ?_, ?_⟩, by simp⟩ <;> simp
  | append_singleton series last inductionHypothesis =>
    have lastSingle : ∀ metric ∈ last, metric.IsSingle := single last (by simp)
    have lastTextual : ∀ metric ∈ last, metric.object.IsTextual :=
      fun metric member => (lastSingle metric member).textual
    by_cases nonempty : series = []
    · -- A single series is merged with nothing.
      subst nonempty
      refine .inl ⟨?_, last, rfl, isMerged_singleton lastSingle, lastTextual⟩
      intro which inside position _
      have isFirst : which = 0 := by simpa using inside
      rw [isFirst]
    · rw [aligned_append_singleton nonempty, combineAll_append_singleton nonempty]
      rcases inductionHypothesis fun one member => single one (List.mem_append_left _ member) with
        ⟨aligned, merged, mergedOk, isMerged, textual⟩ | ⟨misaligned, one, other, refused⟩
      · rw [mergedOk, Outcome.ok_bind]
        by_cases agree : ∀ pair ∈ merged.zip last, pair.1.object.identity = pair.2.object.identity
        · refine .inl ⟨⟨aligned, (agree_iff nonempty isMerged).1 agree⟩, _,
            combine_of_agree textual lastTextual agree,
            isMerged_append_singleton nonempty isMerged last, ?_⟩
          intro metric member
          obtain ⟨⟨a, b⟩, inZip, rfl⟩ := List.mem_map.1 member
          exact textual a (List.of_mem_zip inZip).1
        · exact .inr ⟨fun both => agree ((agree_iff nonempty isMerged).2 both.2),
            combine_of_disagree textual lastTextual agree⟩
      · rw [refused, Outcome.error_bind]
        exact .inr ⟨fun both => misaligned both.1, one, other, rfl⟩

end MetricSeries

end ClusterAgent
