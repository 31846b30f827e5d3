import ClusterAgent.Collection.Journal
import ClusterAgent.Proofs.Outcome

/-!
Contract: journals and calls that are put together.

The outcome of going on is that of the outcomes, whatever is logged. Metric
queries stand in the order in which they are made, and nothing follows a failure.

Owns: outcomes and metric queries of journals, the outcome of calls made together.
Does not own: which calls there are.
-/

namespace ClusterAgent

variable {α β : Type}

@[simp] theorem metricQueries_nil : metricQueries [] = [] := rfl

@[simp] theorem metricQueries_append (earlier later : List Event) :
    metricQueries (earlier ++ later) = metricQueries earlier ++ metricQueries later :=
  List.filterMap_append

theorem metricQueries_flatMap (events : α → List Event) (items : List α) :
    metricQueries (items.flatMap events) = items.flatMap fun item => metricQueries (events item) :=
  List.filterMap_flatMap

theorem metricQueries_record {logging : Logging} {entry : Except Undeclared LogEntry}
    {events : List Event} (recorded : logging.record entry = .ok events) :
    metricQueries events = [] := by
  cases logging with
  | omitted =>
    cases recorded
    rfl
  | kept =>
    obtain ⟨made, _, isRecord⟩ := Outcome.bind_eq_ok.1 recorded
    cases isRecord
    rfl

namespace Journal

@[simp] theorem outcome_pure (value : α) : (Pure.pure value : Journal α).outcome = .ok value := rfl

@[simp] theorem outcome_ofExcept (outcome : Except Failure α) :
    (ofExcept outcome).outcome = outcome := rfl

@[simp] theorem outcome_log (logging : Logging) (level : Level) (message : String) :
    (logging.log level message).outcome = .ok () := by
  cases logging <;> rfl

/-- The outcome of going on is that of going on after the outcome. -/
@[simp] theorem outcome_bind (journal : Journal α) (next : α → Journal β) :
    (journal >>= next).outcome = journal.outcome >>= fun value => (next value).outcome := by
  change (Journal.bind journal next).outcome = _
  unfold Journal.bind
  cases journal.outcome <;> rfl

/-- The metric queries of a journal, none of which is a log entry. -/
def queries (journal : Journal α) : List (String × String) := metricQueries journal.events

@[simp] theorem queries_pure (value : α) : (Pure.pure value : Journal α).queries = [] := rfl

@[simp] theorem queries_ofExcept (outcome : Except Failure α) : (ofExcept outcome).queries = [] :=
  rfl

@[simp] theorem queries_log (logging : Logging) (level : Level) (message : String) :
    (logging.log level message).queries = [] := by
  cases logging <;> rfl

/-- The queries of what goes on follow a success. -/
theorem queries_bind (journal : Journal α) (next : α → Journal β) :
    (journal >>= next).queries =
      journal.queries ++ Outcome.following journal.outcome fun value => (next value).queries := by
  change metricQueries (Journal.bind journal next).events = _
  unfold Journal.bind
  cases journal.outcome with
  | ok value => exact metricQueries_append _ _
  | error failure => exact (List.append_nil _).symm

end Journal

namespace Call

theorem outcome_all_eq_ok {calls : List (Call α)} {values : List α} :
    (all calls).outcome = .ok values ↔
      List.Forall₂ (fun call value => call.outcome = .ok value) calls values := by
  rw [all, Outcome.bind_eq_ok, ← Outcome.mapM_eq_ok]
  constructor
  · rintro ⟨_, _, succeeded⟩
    exact succeeded
  · intro succeeded
    have each := Outcome.exists_mapM_ok.1 ⟨values, succeeded⟩
    obtain ⟨early, earlyOk⟩ := Outcome.exists_mapM_ok.2 fun call member =>
      each call (List.mem_of_mem_filter member)
    exact ⟨early, earlyOk, succeeded⟩

theorem exists_outcome_all_ok {calls : List (Call α)} :
    (∃ values, (all calls).outcome = .ok values) ↔
      ∀ call ∈ calls, ∃ value, call.outcome = .ok value := by
  simp only [outcome_all_eq_ok, ← Outcome.mapM_eq_ok]
  exact Outcome.exists_mapM_ok

/-- Whether a call makes no metric query. -/
def IsPlain (call : Call α) : Prop :=
  metricQueries call.started = [] ∧ metricQueries call.settled = []

theorem queries_run_all {calls : List (Call α)} (plain : ∀ call ∈ calls, call.IsPlain) :
    (all calls).run.queries = [] := by
  change metricQueries (calls.flatMap started ++ calls.flatMap settled) = []
  rw [metricQueries_append, metricQueries_flatMap, metricQueries_flatMap, List.append_eq_nil_iff,
    List.flatMap_eq_nil_iff, List.flatMap_eq_nil_iff]
  exact ⟨fun call member => (plain call member).1, fun call member => (plain call member).2⟩

end Call

end ClusterAgent
