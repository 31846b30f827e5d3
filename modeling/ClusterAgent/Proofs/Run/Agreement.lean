import ClusterAgent.Proofs.Collection.Client
import ClusterAgent.Proofs.Run.Stages

/-!
Contract: runs over sources that agree.

A run is the same up to what it tells of its failures: it writes the same report,
asks for the same metrics and exits in the same way. The source that goes through
the client agrees with the plain one, so the client makes no difference to a run.

Owns: exits of one kind, runs over sources that agree, runs through the client.
Does not own: which sources agree.
-/

namespace ClusterAgent

open Outcome (Agree SucceedAlike)

/-- Exits of one kind, whatever failure is passed on. -/
inductive Exit.SameKind : Exit → Exit → Prop where
  | completed : SameKind .completed .completed
  | failed : SameKind .failed .failed
  | rethrown (failure other : Failure) : SameKind (.rethrown failure) (.rethrown other)

/-! ## The queries of a run -/

theorem Inventory.queries_report (inventory : Inventory) (logging : Logging) :
    (inventory.report logging).queries = [] := by
  unfold report
  simp only [Journal.queries_bind, Journal.queries_log, Journal.queries_ofExcept,
    Journal.queries_pure, Outcome.following_nil, List.append_nil]

/-- Whatever a run comes to, its queries are those of its journal. -/
theorem Run.queries_finish (debug : Bool) (journal : Journal String) (config : Option Config) :
    (finish debug journal config).queries = journal.queries := by
  unfold finish
  split
  · rfl
  · split
    · rfl
    · split <;> rfl

theorem queries_reportCycle [Platform] {connect : Connector} {source : Source}
    (reaches : connect.Reaches source) (config : Config) :
    (reportCycle connect config).queries = (Inventory.collect .kept source).queries := by
  unfold reportCycle
  simp only [Journal.queries_bind, reaches.outcome, reaches.queries, Outcome.following_ok,
    Inventory.queries_report, Journal.queries_pure, Outcome.following_nil, List.append_nil,
    List.nil_append]
  rfl

/-- A run that gets as far as collecting makes the queries of its cycle. -/
theorem queries_run_of_read [Platform] {connect : Connector} {source : Source}
    (reaches : connect.Reaches source) {arguments : List Value} {environment : Environment}
    {config : Config} (read : Command.read arguments environment = .ok (.collect config)) :
    (run connect arguments environment).queries = (Inventory.collect .kept source).queries := by
  rw [run, read]
  change (Run.finish _ _ _).queries = _
  rw [Run.queries_finish, queries_reportCycle reaches]

/-! ## Runs over sources that agree -/

section Agreement

variable [Platform] {first second : Connector} {left right : Source}

theorem succeedAlike_runOutcome (reachesLeft : first.Reaches left)
    (reachesRight : second.Reaches right) (agrees : left.Agrees right) (arguments : List Value)
    (environment : Environment) :
    SucceedAlike (runOutcome first arguments environment)
      (runOutcome second arguments environment) := by
  unfold runOutcome
  apply (SucceedAlike.refl _).bind
  intro command
  cases command with
  | help => exact .refl _
  | collect config =>
    change SucceedAlike (reportCycle first config).outcome (reportCycle second config).outcome
    rw [outcome_reportCycle, outcome_reportCycle, reachesLeft.outcome, reachesRight.outcome,
      Outcome.ok_bind, Outcome.ok_bind]
    exact (Inventory.succeedAlike_collect agrees .kept).bind fun _ => .refl _

/-- The queries that are made do not depend on whether a run succeeds. -/
theorem queries_run_eq (reachesLeft : first.Reaches left) (reachesRight : second.Reaches right)
    (agrees : left.Agrees right) (leftRecords : left.RecordsQueries)
    (rightRecords : right.RecordsQueries) (arguments : List Value) (environment : Environment) :
    (run first arguments environment).queries = (run second arguments environment).queries := by
  cases read : Command.read arguments environment with
  | error failure => rw [run, run, read]
  | ok command =>
    cases command with
    | help => rw [run, run, read]
    | collect config =>
      rw [queries_run_of_read reachesLeft read, queries_run_of_read reachesRight read]
      exact Inventory.queries_collect_eq agrees leftRecords rightRecords .kept

/-- Runs with outcomes that agree write the same and exit in the same way, because both failures
can be told and the configuration alone says whether they are. -/
theorem sameKind_run (reachesLeft : first.Reaches left) (reachesRight : second.Reaches right)
    (agrees : left.Agrees right) (leftTold : left.IsTold) (rightTold : right.IsTold)
    (arguments : List Value) (environment : Environment) :
    (run first arguments environment).stdout = (run second arguments environment).stdout ∧
      Exit.SameKind (run first arguments environment).exit
        (run second arguments environment).exit := by
  have agree := succeedAlike_runOutcome reachesLeft reachesRight agrees arguments environment
  cases leftOutcome : runOutcome first arguments environment with
  | ok text =>
    have rightOutcome := (agree.ok_iff text).1 leftOutcome
    obtain ⟨leftExit, leftWritten, _⟩ := run_of_ok leftOutcome
    obtain ⟨rightExit, rightWritten, _⟩ := run_of_ok rightOutcome
    rw [leftExit, leftWritten, rightExit, rightWritten]
    exact ⟨rfl, .completed⟩
  | error failure =>
    cases rightOutcome : runOutcome second arguments environment with
    | ok text => cases leftOutcome.symm.trans ((agree.ok_iff text).2 rightOutcome)
    | error other =>
      -- The two failures need not be alike, but each has a message that can be told.
      have leftFails := failsWith_of_runOutcome leftOutcome
      have rightFails := failsWith_of_runOutcome rightOutcome
      obtain ⟨message, leftTells⟩ :=
        Option.isSome_iff_exists.1 (leftFails.isTellable (reachesLeft.isTold leftTold))
      obtain ⟨otherMessage, rightTells⟩ :=
        Option.isSome_iff_exists.1 (rightFails.isTellable (reachesRight.isTold rightTold))
      obtain ⟨leftExit, leftWritten, _⟩ := run_of_error leftOutcome leftTells
      obtain ⟨rightExit, rightWritten, _⟩ := run_of_error rightOutcome rightTells
      rw [leftExit, leftWritten, rightExit, rightWritten]
      refine ⟨rfl, ?_⟩
      cases passesOn arguments environment with
      | true => exact .rethrown failure other
      | false => exact .failed

end Agreement

/-! ## Runs through the client -/

/-- Setting up a client for a configuration always succeeds, since the text of a server is known. -/
theorem Connector.reaches_throughClient (cluster : Cluster) :
    (Connector.throughClient cluster).Reaches (.throughClient cluster) where
  outcome config := by
    unfold throughClient ClientConfig.setUp
    simp only [Journal.outcome_bind]
    rfl
  queries config := by
    have warnings (client : ClientConfig) : metricQueries client.warnings = [] := by
      unfold ClientConfig.warnings
      split <;> rfl
    have setUp (client : ClientConfig) : client.setUp.queries = [] := by
      unfold ClientConfig.setUp
      simp only [Journal.queries_bind, Journal.queries_ofExcept, List.nil_append]
      change metricQueries client.warnings ++ Outcome.following _ (fun _ =>
        Outcome.following _ fun _ => []) = []
      rw [warnings]
      simp only [Outcome.following_nil, List.append_nil]
    unfold throughClient
    simp only [Journal.queries_bind, setUp, Journal.queries_pure, Outcome.following_nil,
      List.append_nil]
    rfl

/-- A run through the client is the run over the cluster itself, as far as the report, the metric
queries and the kind of exit go. What a query fails with has the same class before and after the
client has classified it, so it leaves its namespace out, or ends the cycle, in the same way. -/
theorem run_unchanged_by_client [Platform] (cluster : Cluster) (told : cluster.IsTold)
    (arguments : List Value) (environment : Environment) :
    (run (.throughClient cluster) arguments environment).stdout =
        (run (.direct cluster) arguments environment).stdout ∧
      (run (.throughClient cluster) arguments environment).queries =
        (run (.direct cluster) arguments environment).queries ∧
      Exit.SameKind (run (.direct cluster) arguments environment).exit
        (run (.throughClient cluster) arguments environment).exit ∧
      ∀ namespaceName metric,
        (∀ failure,
          ((Source.ofCluster cluster).podMetric namespaceName metric).outcome = .error failure →
          ∃ converted error,
            ((Source.throughClient cluster).podMetric namespaceName metric).outcome =
              .error converted ∧
            ApiError.ofFailure failure = .ok error ∧ ApiError.ofFailure converted = .ok error) ∧
        ∀ logging,
          (PodMetrics.query (.throughClient cluster) metric namespaceName).handle logging metric =
            (PodMetrics.query (.ofCluster cluster) metric namespaceName).handle logging metric := by
  have reachesDirect := Connector.reaches_direct cluster
  have reachesClient := Connector.reaches_throughClient cluster
  have agrees := Source.agrees_throughClient told
  obtain ⟨written, exits⟩ := sameKind_run reachesDirect reachesClient agrees told.source
    (Source.isTold_throughClient told) arguments environment
  have queries := queries_run_eq reachesDirect reachesClient agrees
    (Source.recordsQueries_ofCluster cluster) (Source.recordsQueries_throughClient cluster)
    arguments environment
  refine ⟨written.symm, queries.symm, exits, ?_⟩
  intro namespaceName metric
  constructor
  · intro failure failed
    obtain ⟨error, classified, _⟩ :=
      ApiError.exists_told_ofFailure (told.source.podMetric namespaceName metric failure failed)
    have alike := agrees.podMetric namespaceName metric
    rw [failed] at alike
    generalize ((Source.throughClient cluster).podMetric namespaceName metric).outcome = outcome
      at alike ⊢
    cases alike with
    | @error _ converted sameClass =>
      have sameError : ApiError.ofFailure failure = ApiError.ofFailure converted := sameClass
      exact ⟨converted, error, rfl, classified, sameError.symm.trans classified⟩
  · intro logging
    exact (PodMetrics.handle_eq agrees metric namespaceName).symm

theorem Inventory.isTold_unevenCluster : unevenCluster.IsTold where
  list listing := by cases listing <;> exact .ok _
  nodeStats node := by
    simp only [unevenCluster]
    split
    · exact .ok _
    · exact .ok _
    · exact .error rfl
  podMetric namespaceName metric := by
    simp only [unevenCluster]
    split
    · exact .ok _
    · exact .ok _
    · exact .error rfl

section Universal

attribute [local instance] Platform.universal

/-- A run through the client over a cluster in which nearly all metric queries fail. -/
theorem run_unchanged_by_client_of_unevenCluster :
    Inventory.unevenCluster.IsTold ∧
      (run (.throughClient Inventory.unevenCluster) reportArguments ⟨none⟩).queries.length = 24 ∧
      Exit.SameKind (run (.direct Inventory.unevenCluster) reportArguments ⟨none⟩).exit
        (run (.throughClient Inventory.unevenCluster) reportArguments ⟨none⟩).exit ∧
      ∃ converted,
        ((Source.throughClient Inventory.unevenCluster).podMetric (.text "jobs")
          (.text "fs_reads")).outcome = .error converted := by
  have told := Inventory.isTold_unevenCluster
  obtain ⟨config, read⟩ := exists_config_of_reportArguments
  obtain ⟨_, queries, exits, classes⟩ :=
    run_unchanged_by_client Inventory.unevenCluster told reportArguments ⟨none⟩
  refine ⟨told, ?_, exits, ?_⟩
  · rw [queries, queries_run_of_read (Connector.reaches_direct _) read,
      Inventory.queries_collect_of_arrives Inventory.isWellTyped_unevenCluster
        Inventory.metricsTold_unevenCluster (Source.recordsQueries_ofCluster _)
        Inventory.arrives_unevenCluster]
    decide
  · obtain ⟨converted, _, failed, _⟩ :=
      (classes (.text "jobs") (.text "fs_reads")).1 (.value (.text "down")) rfl
    exact ⟨converted, failed⟩

end Universal

end ClusterAgent
