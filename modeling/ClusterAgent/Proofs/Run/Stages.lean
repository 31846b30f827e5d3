import ClusterAgent.Proofs.Collection.Told
import ClusterAgent.Run

/-!
Contract: the stages of a run, and what a run writes.

A run reads its command line, connects, collects and renders, and each stage goes
on from the one before. What is written depends on the outcome of the last stage
that is reached and on nothing else, so there is no text on standard output before
all blocks are rendered.

Owns: the outcome of a run by its stages, the texts that a run writes.
Does not own: when a stage fails.
-/

namespace ClusterAgent

open Outcome (FailsAs)

/-! ## The outcome of a run -/

/-- A failure to connect has a text, and so has every failure of a call after that. -/
structure Connector.IsTold (connect : Connector) : Prop where
  connects : ∀ config, Outcome.FailsTold (connect config).outcome
  source : ∀ config source, (connect config).outcome = .ok source → source.IsTold

/-- A connector that always gets at the same source, and makes no metric query on the way. -/
structure Connector.Reaches (connect : Connector) (source : Source) : Prop where
  outcome : ∀ config, (connect config).outcome = .ok source
  queries : ∀ config, (connect config).queries = []

theorem Connector.Reaches.isTold {connect : Connector} {source : Source}
    (reaches : connect.Reaches source) (told : source.IsTold) : connect.IsTold where
  connects config := by
    rw [reaches.outcome]
    exact .ok _
  source config other connected := by
    rw [reaches.outcome] at connected
    cases connected
    exact told

theorem Connector.reaches_direct (cluster : Cluster) :
    (Connector.direct cluster).Reaches (.ofCluster cluster) where
  outcome _ := rfl
  queries _ := rfl

theorem outcome_reportCycle [Platform] (connect : Connector) (config : Config) :
    (reportCycle connect config).outcome =
      (connect config).outcome >>= fun source =>
        (Inventory.collect .kept source).outcome >>= fun inventory =>
          (inventory.report .kept).outcome >>= fun blocks =>
            .ok (String.join (blocks.map (· ++ "\n"))) := by
  unfold reportCycle
  simp only [Journal.outcome_bind]
  rfl

/-- Arguments that are accepted leave no option without its value. -/
theorem Options.foldlM_of_parse {arguments : List Value} {options : Options}
    (parsed : parse arguments = .ok options) :
    arguments.foldlM Progress.read ⟨empty, none⟩ = .ok ⟨options, none⟩ := by
  obtain ⟨⟨read, awaited⟩, folded, finished⟩ := Outcome.bind_eq_ok.1 parsed
  rw [folded]
  cases awaited with
  | some awaited => cases finished
  | none =>
    cases finished
    rfl

/-- Behind arguments that are accepted, reading goes on from their options. -/
theorem Options.parse_append {front : List Value} {options : Options}
    (parsed : parse front = .ok options) (later : List Value) :
    parse (front ++ later) = later.foldlM Progress.read ⟨options, none⟩ >>= Progress.finish := by
  rw [parse, List.foldlM_append, foldlM_of_parse parsed, Outcome.ok_bind]

/-- The text that a run comes to, or the failure that stops it. -/
def runOutcome [Platform] (connect : Connector) (arguments : List Value)
    (environment : Environment) : Except Failure String := do
  match ← Command.read arguments environment with
  | .help => return Config.usage
  | .collect config => (reportCycle connect config).outcome

section Stages

variable {connect : Connector} {arguments : List Value} {environment : Environment}

theorem runOutcome_of_read [Platform] {config : Config}
    (read : Command.read arguments environment = .ok (.collect config)) :
    runOutcome connect arguments environment = (reportCycle connect config).outcome := by
  rw [runOutcome, read]
  rfl

/-- Whether failures are passed on: as the configuration says, if there is one. -/
def passesOn (arguments : List Value) (environment : Environment) : Bool :=
  match Command.read arguments environment with
  | .ok .help => false
  | .ok (.collect config) => config.debug
  | .error _ => .text "--debug" ∈ arguments

/-- Whatever a run does, it finishes with its outcome. -/
theorem exists_finish [Platform] (connect : Connector) (arguments : List Value)
    (environment : Environment) :
    ∃ journal config, run connect arguments environment =
        .finish (passesOn arguments environment) journal config ∧
      journal.outcome = runOutcome connect arguments environment := by
  unfold run runOutcome passesOn
  cases Command.read arguments environment with
  | error failure => exact ⟨_, _, rfl, rfl⟩
  | ok command => cases command <;> exact ⟨_, _, rfl, rfl⟩

/-- A text that a run writes out: the usage if that is asked for, and otherwise all blocks of the
report, each with a line break after it, once every stage has gone through. -/
inductive Succeeds [Platform] (connect : Connector) (arguments : List Value)
    (environment : Environment) : String → Prop where
  | help {options : Options} (parsed : Options.parse arguments = .ok options)
      (asked : options.help = true) : Succeeds connect arguments environment Config.usage
  | report {options : Options} {config : Config} {source : Source} {inventory : Inventory}
      {cluster nodes metrics : List String} (parsed : Options.parse arguments = .ok options)
      (unasked : options.help = false) (loaded : Config.load options environment = .ok config)
      (connected : (connect config).outcome = .ok source)
      (collected : (Inventory.collect .kept source).outcome = .ok inventory)
      (clusterMade : inventory.clusterLines = .ok cluster)
      (nodesMade : inventory.nodeLines = .ok nodes)
      (metricsMade : inventory.customMetricsLines = .ok metrics) :
      Succeeds connect arguments environment
        ("\n".intercalate cluster ++ "\n" ++ ("\n".intercalate nodes ++ "\n") ++
          ("\n".intercalate metrics ++ "\n"))

/-- A failure that stops a run at one of its stages. -/
inductive FailsWith [Platform] (connect : Connector) (arguments : List Value)
    (environment : Environment) (failure : Failure) : Prop where
  | parsing (failed : Options.parse arguments = .error failure)
  | loading {options : Options} (parsed : Options.parse arguments = .ok options)
      (unasked : options.help = false) (failed : Config.load options environment = .error failure)
  | connecting {config : Config}
      (read : Command.read arguments environment = .ok (.collect config))
      (failed : (connect config).outcome = .error failure)
  | collecting {config : Config} {source : Source}
      (read : Command.read arguments environment = .ok (.collect config))
      (connected : (connect config).outcome = .ok source)
      (failed : (Inventory.collect .kept source).outcome = .error failure)
  | rendering {config : Config} {source : Source} {inventory : Inventory}
      (read : Command.read arguments environment = .ok (.collect config))
      (connected : (connect config).outcome = .ok source)
      (collected : (Inventory.collect .kept source).outcome = .ok inventory)
      (failed : (inventory.report .kept).outcome = .error failure)

/-- Reading a command line is reading its arguments, and loading a configuration unless help is
asked for. -/
theorem read_eq (arguments : List Value) (environment : Environment) :
    Command.read arguments environment = Options.parse arguments >>= fun options =>
      if options.help = true then .ok .help
      else Command.collect <$> Config.load options environment := by
  unfold Command.read
  cases Options.parse arguments with
  | error failure => rfl
  | ok options =>
    rw [Outcome.ok_bind, Outcome.ok_bind]
    split
    · rfl
    · cases Config.load options environment <;> rfl

theorem read_eq_collect {config : Config} :
    Command.read arguments environment = .ok (.collect config) ↔
      ∃ options, Options.parse arguments = .ok options ∧ options.help = false ∧
        Config.load options environment = .ok config := by
  rw [read_eq, Outcome.bind_eq_ok]
  refine exists_congr fun options => and_congr_right fun _ => ?_
  cases options.help <;> simp [Outcome.map_eq_ok]

theorem read_eq_error {failure : Failure} :
    Command.read arguments environment = .error failure ↔
      Options.parse arguments = .error failure ∨
        ∃ options, Options.parse arguments = .ok options ∧ options.help = false ∧
          Config.load options environment = .error failure := by
  rw [read_eq]
  cases Options.parse arguments with
  | error other => simp
  | ok options => cases asked : options.help <;> simp [asked, Outcome.map_eq_error]

/-- A run comes to a text exactly if its stages lead there. -/
theorem runOutcome_eq_ok [Platform] {text : String} :
    runOutcome connect arguments environment = .ok text ↔
      Succeeds connect arguments environment text := by
  unfold runOutcome
  rw [Outcome.bind_eq_ok]
  constructor
  · rintro ⟨command, read, came⟩
    cases command with
    | help =>
      rw [read_eq, Outcome.bind_eq_ok] at read
      obtain ⟨options, parsed, asks⟩ := read
      split at asks
      · rename_i asked
        rw [← Except.ok.inj came]
        exact .help parsed asked
      · obtain ⟨_, _, isHelp⟩ := Outcome.map_eq_ok.1 asks
        cases isHelp
    | collect config =>
      obtain ⟨options, parsed, unasked, loaded⟩ := read_eq_collect.1 read
      have cycled : (reportCycle connect config).outcome = .ok text := came
      rw [outcome_reportCycle] at cycled
      obtain ⟨source, connected, came⟩ := Outcome.bind_eq_ok.1 cycled
      obtain ⟨inventory, collected, came⟩ := Outcome.bind_eq_ok.1 came
      obtain ⟨blocks, rendered, joined⟩ := Outcome.bind_eq_ok.1 came
      obtain ⟨cluster, nodes, metrics, clusterMade, nodesMade, metricsMade, rfl⟩ :=
        Inventory.outcome_report_eq_ok.1 rendered
      rw [← Except.ok.inj joined]
      exact .report parsed unasked loaded connected collected clusterMade nodesMade metricsMade
  · intro succeeds
    cases succeeds with
    | help parsed asked =>
      refine ⟨.help, ?_, rfl⟩
      rw [read_eq, parsed, Outcome.ok_bind, if_pos asked]
    | report parsed unasked loaded connected collected clusterMade nodesMade metricsMade =>
      refine ⟨_, read_eq_collect.2 ⟨_, parsed, unasked, loaded⟩, ?_⟩
      change (reportCycle connect _).outcome = _
      have rendered : (Inventory.report _ .kept).outcome = .ok _ :=
        Inventory.outcome_report_eq_ok.2 ⟨_, _, _, clusterMade, nodesMade, metricsMade, rfl⟩
      rw [outcome_reportCycle, connected, Outcome.ok_bind, collected, Outcome.ok_bind, rendered]
      rfl

/-- A run that comes to a failure was stopped by it at one of its stages. -/
theorem failsWith_of_runOutcome [Platform] {failure : Failure}
    (failed : runOutcome connect arguments environment = .error failure) :
    FailsWith connect arguments environment failure := by
  unfold runOutcome at failed
  rcases Outcome.bind_eq_error.1 failed with notRead | ⟨command, read, stopped⟩
  · rcases read_eq_error.1 notRead with notParsed | ⟨options, parsed, unasked, notLoaded⟩
    · exact .parsing notParsed
    · exact .loading parsed unasked notLoaded
  · cases command with
    | help => cases stopped
    | collect config =>
      have cycled : (reportCycle connect config).outcome = .error failure := stopped
      rw [outcome_reportCycle] at cycled
      rcases Outcome.bind_eq_error.1 cycled with notConnected | ⟨source, connected, cycled⟩
      · exact .connecting read notConnected
      rcases Outcome.bind_eq_error.1 cycled with notCollected | ⟨inventory, collected, cycled⟩
      · exact .collecting read connected notCollected
      rcases Outcome.bind_eq_error.1 cycled with notRendered | ⟨blocks, rendered, joined⟩
      · exact .rendering read connected collected notRendered
      cases joined

/-- Whatever stops a run has a message, if every failure of a call has a text. -/
theorem FailsWith.isTellable [Platform] (told : connect.IsTold) {failure : Failure}
    (fails : FailsWith connect arguments environment failure) : failure.IsTellable := by
  cases fails with
  | parsing failed => exact (Options.isOwn_parse _ _ failed).isTellable
  | loading _ _ failed => exact (Config.isOwn_load _ _ _ failed).isTellable
  | connecting _ failed => exact Failure.isTellable_of_hasText (told.connects _ _ failed)
  | collecting _ connected failed =>
    exact Inventory.failsAs_collect (told.source _ _ connected) .kept _ failed
  | rendering _ _ _ failed => exact (Inventory.isOwn_report _ _ _ failed).isTellable

end Stages

/-! ## What is written -/

section Writing

variable [Platform] {connect : Connector} {arguments : List Value} {environment : Environment}

theorem run_of_ok {text : String} (came : runOutcome connect arguments environment = .ok text) :
    (run connect arguments environment).exit = .completed ∧
      (run connect arguments environment).stdout = [text] ∧
      (run connect arguments environment).stderr = [] := by
  obtain ⟨journal, config, finished, outcome⟩ := exists_finish connect arguments environment
  rw [finished, Run.finish, outcome.trans came]
  exact ⟨rfl, rfl, rfl⟩

theorem run_of_error {failure : Failure} {message : String}
    (failed : runOutcome connect arguments environment = .error failure)
    (tells : failure.message? = some message) :
    (run connect arguments environment).exit =
        (if passesOn arguments environment then .rethrown failure else .failed) ∧
      (run connect arguments environment).stdout = [] ∧
      (run connect arguments environment).stderr =
        if passesOn arguments environment then [] else [message ++ "\n"] := by
  obtain ⟨journal, config, finished, outcome⟩ := exists_finish connect arguments environment
  rw [finished, Run.finish, outcome.trans failed]
  dsimp only
  rw [tells]
  cases passesOn arguments environment <;> exact ⟨rfl, rfl, rfl⟩

/-- A run that writes anything on standard output has come to it. -/
theorem runOutcome_of_written {text : String}
    (written : (run connect arguments environment).stdout = [text]) :
    runOutcome connect arguments environment = .ok text := by
  obtain ⟨journal, config, finished, outcome⟩ := exists_finish connect arguments environment
  rw [finished] at written
  rw [← outcome]
  unfold Run.finish at written
  split at written
  · rename_i came
    rw [came, List.singleton_inj.1 written]
  · split at written
    · cases written
    · split at written <;> cases written

end Writing

/-- A block that cannot be made stops the report, whatever blocks are made before it. -/
theorem Inventory.exists_failure_of_block {inventory : Inventory} {failure : Failure}
    (failed : inventory.clusterLines = .error failure ∨ inventory.nodeLines = .error failure ∨
      inventory.customMetricsLines = .error failure) (logging : Logging) :
    ∃ other, (inventory.report logging).outcome = .error other := by
  apply Outcome.exists_error_of_not_ok
  rintro ⟨blocks, rendered⟩
  obtain ⟨cluster, nodes, metrics, clusterMade, nodesMade, metricsMade, _⟩ :=
    outcome_report_eq_ok.1 rendered
  rw [clusterMade, nodesMade, metricsMade] at failed
  rcases failed with notMade | notMade | notMade <;> cases notMade

/-- A run writes one text on standard output and completes, or tells one failure on standard error
and fails, or passes the failure on and writes nothing. It completes exactly if all its stages go
through, and a block that cannot be made keeps the others from being written. -/
theorem run_writes_once_or_rethrows [Platform] (connect : Connector) (told : connect.IsTold)
    (arguments : List Value) (environment : Environment) :
    ((∃ text, (run connect arguments environment).exit = .completed ∧
          (run connect arguments environment).stdout = [text] ∧
          (run connect arguments environment).stderr = [] ∧
          Succeeds connect arguments environment text) ∨
        (∃ failure message, (run connect arguments environment).exit = .failed ∧
          (run connect arguments environment).stdout = [] ∧
          (run connect arguments environment).stderr = [message ++ "\n"] ∧
          failure.message? = some message ∧ FailsWith connect arguments environment failure) ∨
        ∃ failure, (run connect arguments environment).exit = .rethrown failure ∧
          (run connect arguments environment).stdout = [] ∧
          (run connect arguments environment).stderr = [] ∧
          FailsWith connect arguments environment failure) ∧
      ((run connect arguments environment).exit = .completed ↔
        ∃ text, Succeeds connect arguments environment text) ∧
      ∀ config source inventory failure,
        Command.read arguments environment = .ok (.collect config) →
        (connect config).outcome = .ok source →
        (Inventory.collect .kept source).outcome = .ok inventory →
        (inventory.clusterLines = .error failure ∨ inventory.nodeLines = .error failure ∨
          inventory.customMetricsLines = .error failure) →
        (run connect arguments environment).stdout = [] := by
  cases outcome : runOutcome connect arguments environment with
  | ok text =>
    obtain ⟨exit, stdout, stderr⟩ := run_of_ok outcome
    have succeeds := runOutcome_eq_ok.1 outcome
    refine ⟨.inl ⟨text, exit, stdout, stderr, succeeds⟩, ?_, ?_⟩
    · exact ⟨fun _ => ⟨text, succeeds⟩, fun _ => exit⟩
    · intro config source inventory failure read connected collected notMade
      obtain ⟨other, notRendered⟩ := Inventory.exists_failure_of_block notMade .kept
      rw [runOutcome_of_read read, outcome_reportCycle, connected, Outcome.ok_bind, collected,
        Outcome.ok_bind, notRendered] at outcome
      cases outcome
  | error failure =>
    have fails := failsWith_of_runOutcome outcome
    obtain ⟨message, tells⟩ := Option.isSome_iff_exists.1 (fails.isTellable told)
    obtain ⟨exit, stdout, stderr⟩ := run_of_error outcome tells
    refine ⟨.inr ?_, ?_, fun _ _ _ _ _ _ _ _ => stdout⟩
    · cases passed : passesOn arguments environment with
      | true =>
        rw [passed] at exit stderr
        exact .inr ⟨failure, exit, stdout, stderr, fails⟩
      | false =>
        rw [passed] at exit stderr
        exact .inl ⟨failure, message, exit, stdout, stderr, tells, fails⟩
    · simp only [← runOutcome_eq_ok, outcome]
      rw [exit]
      split <;> simp

/-- A command line that asks for a report. -/
def reportArguments : List Value := [.text "--token", .text "secret", .text "host"]

/-- Whether a command asks for a report. -/
def Command.collects : Command → Bool
  | help => false
  | collect _ => true

theorem exists_config_of_reportArguments :
    ∃ config, Command.read reportArguments ⟨none⟩ = .ok (.collect config) := by
  have asked : (Command.read reportArguments ⟨none⟩).toOption.any Command.collects = true := by
    decide +kernel
  cases read : Command.read reportArguments ⟨none⟩ with
  | error failure => simp [read, Except.toOption] at asked
  | ok command =>
    cases command with
    | help => simp [read, Except.toOption, Command.collects] at asked
    | collect config => exact ⟨config, rfl⟩

section Universal

attribute [local instance] Platform.universal

namespace Inventory

theorem isTold_crowdedCluster : crowdedCluster.IsTold where
  list listing := by cases listing <;> exact .ok _
  nodeStats _ := .ok _
  podMetric _ _ := .error (by decide)

theorem exists_report_crowdedCluster :
    ∃ blocks, ((collectedFrom crowdedCluster).report .kept).outcome = .ok blocks := by
  have typed := (entities_of_collect isWellTyped_crowdedCluster collect_crowdedCluster).1
  obtain ⟨groups, distinct⟩ := podMetrics_of_collect collect_crowdedCluster
  have named : (collectedFrom crowdedCluster).HasNamedNode := by
    have names : Entity.names (collectedFrom crowdedCluster).nodes =
        [.text "b", .text "a", .text "b"] := rfl
    rw [hasNamedNode_iff typed, names]
    decide
  exact (reads_report typed named (exists_customMetricsLines groups distinct) .kept).succeeds
    { volumes := (reads_volumes typed).accepted_of_ok rfl
      nodes := (NodeList.reads_resources typed.nodes).accepted_of_ok rfl
      pods := (PodList.reads_totalResources typed.pods).accepted_of_ok rfl }

theorem exists_runOutcome_crowdedCluster :
    ∃ text, runOutcome (.direct crowdedCluster) reportArguments ⟨none⟩ = .ok text := by
  obtain ⟨config, read⟩ := exists_config_of_reportArguments
  obtain ⟨blocks, rendered⟩ := exists_report_crowdedCluster
  have collected : (collect .kept (.ofCluster crowdedCluster)).outcome =
      .ok (collectedFrom crowdedCluster) := rfl
  refine ⟨String.join (blocks.map (· ++ "\n")), ?_⟩
  rw [runOutcome_of_read read, outcome_reportCycle, (Connector.reaches_direct _).outcome,
    Outcome.ok_bind, collected, Outcome.ok_bind, rendered]
  rfl

end Inventory

/-- A run that writes the report of a cluster that answers no metric query. -/
theorem run_writes_once_or_rethrows_of_crowdedCluster :
    (Connector.direct Inventory.crowdedCluster).IsTold ∧
      (run (.direct Inventory.crowdedCluster) reportArguments ⟨none⟩).exit = .completed := by
  have told := (Connector.reaches_direct _).isTold Inventory.isTold_crowdedCluster.source
  obtain ⟨text, came⟩ := Inventory.exists_runOutcome_crowdedCluster
  obtain ⟨_, completes, _⟩ := run_writes_once_or_rethrows (.direct Inventory.crowdedCluster) told
    reportArguments ⟨none⟩
  exact ⟨told, completes.2 ⟨text, runOutcome_eq_ok.1 came⟩⟩

end Universal

end ClusterAgent
