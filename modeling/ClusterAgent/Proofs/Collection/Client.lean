import ClusterAgent.Collection.Client
import ClusterAgent.Proofs.Collection.Agreement
import ClusterAgent.Proofs.Collection.Told

/-!
Contract: the source that goes through the client agrees with the plain one.

The client hands on every answer and classifies every failure. What is classified
once stays as it is, so a failure has the same class whether it comes through the
client or not. A call that the client cannot start is refused by the cluster too.

Owns: what a call through the client comes to, which queries it records.
Does not own: what a cycle does with it.
-/

namespace ClusterAgent

open Outcome (Agree FailsTold)

namespace ClientCall

variable {α : Type} (call : ClientCall)

/-- A failure that has a text is classified and told, and then has the class that it had. -/
theorem exists_classified {failure : Failure} (told : failure.hasText) :
    ∃ error line, call.classified failure = .ok (error, line) ∧
      ApiError.ofFailure failure = .ok error ∧ (Failure.api error).hasText := by
  obtain ⟨error, ofFailure, errorTold⟩ := ApiError.exists_told_ofFailure told
  have objectTold : error.object.plainText?.isSome := errorTold
  obtain ⟨name, nameText⟩ := Option.isSome_iff_exists.1 (ErrorObject.name_hasText objectTold)
  obtain ⟨message, messageText⟩ :=
    Option.isSome_iff_exists.1 (ErrorObject.message_hasText objectTold)
  refine ⟨error, s!"{call.description} failed: {name}: {message}", ?_, ofFailure, errorTold⟩
  have errorName : error.name.plainText? = some name := nameText
  have errorMessage : error.message.plainText? = some message := messageText
  simp only [classified, ofFailure, errorName, errorMessage, requireText, Outcome.ok_bind,
    Outcome.pure_eq_ok]

theorem exists_settle_error (started : List Event) {failure : Failure} (told : failure.hasText) :
    ∃ error line, call.settle started (.error failure : Except Failure α) =
        ⟨true, started, [.log .debug line], .error (.api error)⟩ ∧
      ApiError.ofFailure failure = .ok error ∧ (Failure.api error).hasText := by
  obtain ⟨error, line, classified, ofFailure, errorTold⟩ := call.exists_classified told
  refine ⟨error, line, ?_, ofFailure, errorTold⟩
  simp only [settle, classified]

/-- A call succeeds with what it is answered with, and fails with a failure of the same class. -/
theorem agree_perform {answer : Except Failure α} (told : FailsTold answer)
    (refused : ∀ cause, call.started = .error cause → answer = .error (.undeclared cause)) :
    Agree Failure.SameClass answer (call.perform answer).outcome := by
  unfold perform
  cases start : call.started with
  | error cause =>
    -- Neither side gets as far as asking the cluster, and both fail for the same cause.
    rw [refused cause start]
    exact .error rfl
  | ok started =>
    cases answer with
    | ok value => exact .ok value
    | error failure =>
      obtain ⟨error, line, settled, ofFailure, _⟩ :=
        call.exists_settle_error (α := α) started (told failure rfl)
      dsimp only
      rw [settled]
      exact .error ofFailure

/-- What a call through the client fails with has a text. -/
theorem failsTold_perform {answer : Except Failure α} (told : FailsTold answer) :
    FailsTold (call.perform answer).outcome := by
  unfold perform
  cases call.started with
  | error cause => exact .error (Failure.hasText_undeclared cause)
  | ok started =>
    cases answer with
    | ok value => exact .ok value
    | error failure =>
      obtain ⟨error, line, settled, _, errorTold⟩ :=
        call.exists_settle_error (α := α) started (told failure rfl)
      dsimp only
      rw [settled]
      exact .error errorTold

/-- A call through the client leaves the events of its start, and settles with a log line at
most. -/
theorem events_perform (answer : Except Failure α) :
    (call.perform answer).started = call.started.toOption.getD [] ∧
      metricQueries (call.perform answer).settled = [] := by
  unfold perform
  cases call.started with
  | error cause => exact ⟨rfl, rfl⟩
  | ok started =>
    dsimp only
    unfold settle
    split
    · exact ⟨rfl, rfl⟩
    · split <;> exact ⟨rfl, rfl⟩

theorem started_perform (answer : Except Failure α) :
    (call.perform answer).started = call.started.toOption.getD [] :=
  (call.events_perform answer).1

theorem queries_settled_perform (answer : Except Failure α) :
    metricQueries (call.perform answer).settled = [] :=
  (call.events_perform answer).2

end ClientCall

/-! ## Which calls cannot start -/

section Starting

variable {cluster : Cluster} {cause : Undeclared}

theorem Cluster.statsOf_of_not_started {node : Name}
    (refused : (ClientCall.nodeStats node).started = .error cause) :
    cluster.statsOf node = .error (.undeclared cause) := by
  cases text : node.plainText? with
  | some words => simp [ClientCall.started, text, requireText] at refused
  | none =>
    simp only [ClientCall.started, text, requireText, Outcome.error_bind] at refused
    cases refused
    simp [statsOf, Name.told, text, requireText]

theorem Cluster.metricOf_of_not_started {namespaceName metric : Name}
    (refused : (ClientCall.podMetric namespaceName metric).started = .error cause) :
    cluster.metricOf namespaceName metric = .error (.undeclared cause) := by
  cases place : namespaceName.plainText? <;> cases text : metric.plainText? <;>
    simp_all [ClientCall.started, requireText, metricOf, Name.told]

/-- Starting a metric query through the client records it as starting it directly does. -/
theorem queries_started_podMetric (namespaceName metric : Name) :
    metricQueries ((ClientCall.podMetric namespaceName metric).started.toOption.getD []) =
      metricQueries (queryEvents namespaceName metric) := by
  cases place : namespaceName.plainText? <;> cases text : metric.plainText? <;>
    simp [ClientCall.started, requireText, queryEvents, place, text] <;> rfl

end Starting

/-! ## The source that goes through the client -/

namespace Source

variable {cluster : Cluster}

theorem recordsQueries_throughClient (cluster : Cluster) :
    (throughClient cluster).RecordsQueries where
  list listing := by
    refine ⟨?_, ClientCall.queries_settled_perform _ _⟩
    change metricQueries (ClientCall.perform _ _).started = []
    rw [ClientCall.started_perform]
    rfl
  nodeStats node := by
    refine ⟨?_, ClientCall.queries_settled_perform _ _⟩
    change metricQueries (ClientCall.perform _ _).started = []
    rw [ClientCall.started_perform]
    cases text : node.plainText? <;> simp [ClientCall.started, text, requireText] <;> rfl
  started namespaceName metric := by
    change metricQueries (ClientCall.perform _ _).started = _
    rw [ClientCall.started_perform, queries_started_podMetric]
    simp [queryEvents, metricQueries]
  settled _ _ := ClientCall.queries_settled_perform _ _

theorem isTold_throughClient (told : cluster.IsTold) : (throughClient cluster).IsTold where
  list listing := ClientCall.failsTold_perform _ (told.list listing)
  nodeStats node := ClientCall.failsTold_perform _ (told.statsOf node)
  podMetric namespaceName metric :=
    ClientCall.failsTold_perform _ (told.metricOf namespaceName metric)

/-- Going through the client or not makes no difference that a cycle could see. -/
theorem agrees_throughClient (told : cluster.IsTold) :
    (ofCluster cluster).Agrees (throughClient cluster) where
  list listing := by
    have alike := (ClientCall.list listing).agree_perform (told.list listing) nofun
    exact alike.mono fun _ _ _ => trivial
  nodeStats node := by
    have alike := (ClientCall.nodeStats node).agree_perform (told.statsOf node)
      fun _ => Cluster.statsOf_of_not_started
    exact alike.mono fun _ _ _ => trivial
  podMetric namespaceName metric :=
    (ClientCall.podMetric namespaceName metric).agree_perform (told.metricOf namespaceName metric)
      fun _ => Cluster.metricOf_of_not_started
  queries namespaceName metric := by
    change _ = metricQueries (ClientCall.perform _ _).started
    rw [ClientCall.started_perform, queries_started_podMetric]
    rfl

end Source

end ClusterAgent
