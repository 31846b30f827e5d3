import ClusterAgent.Proofs.CommandLine.Validation
import ClusterAgent.Proofs.Run.Detail

/-!
Contract: runs that differ in the verbosity only.

No stage but the log looks at the verbosity, and a higher one lets through
whatever a lower one does. So a run that is asked for more detail does the same
as without, and logs no less.

Owns: configurations that differ in the verbosity, which entries a run logs, what
logging leaves as it is.
Does not own: how more detail is asked for, how a line of the log is written.
-/

namespace ClusterAgent

open Outcome (Related)

/-! ## Configurations -/

/-- A configuration with another verbosity. -/
def Config.withVerbosity (config : Config) (verbose : Nat) : Config := { config with verbose }

/-- Whether configurations are the same but for the verbosity, and the second one lets through every
level that the first one does. -/
def Config.GrowsInto (left right : Config) : Prop :=
  ∃ verbose, right = left.withVerbosity verbose ∧
    ∀ level : Level, level.depth ≤ left.verbose → level.depth ≤ verbose

/-- A verbosity that passes lets through the same levels as the one that was asked for. -/
theorem Config.exists_checkVerbosity {count : Nat} (small : count < 2 ^ 85) :
    ∃ checked, checkVerbosity (some (.number (.ofNat count))) = .ok checked ∧
      ∀ level : Level, level.depth ≤ checked ↔ level.depth ≤ count := by
  obtain ⟨whole, passed, -, kept⟩ := exists_checkVerbosity_eq_ok small
  refine ⟨whole, passed, fun level => ?_⟩
  have deep : level.depth ≤ 2 := by cases level <;> decide
  have binade : 2 ≤ binadeSize := by decide
  omega

/-- Settings hold the verbosity as a number. -/
theorem Settings.ofOptions_withMore (options : Options) (count : Nat) :
    ofOptions (options.withMore count) =
      (fun settings : Settings =>
        { settings with verbose := some (.number (.ofNat (options.verbose + count))) }) <$>
          ofOptions options := by
  unfold ofOptions
  rw [map_bind]
  rfl

namespace Config

theorem related_validate_verbose (settings : Settings) (environment : Environment)
    {less more : Nat} (ascends : less ≤ more) (small : more < 2 ^ 85) :
    Related GrowsInto
      (validate { settings with verbose := some (.number (.ofNat less)) } environment)
      (validate { settings with verbose := some (.number (.ofNat more)) } environment) := by
  obtain ⟨fewer, checkedLess, letsLess⟩ := exists_checkVerbosity (ascends.trans_lt small)
  obtain ⟨further, checkedMore, letsMore⟩ := exists_checkVerbosity small
  unfold validate
  simp only [checkedLess, checkedMore, Outcome.ok_bind]
  -- All other fields are checked in the same way on both sides.
  repeat' refine Related.after _ fun _ => ?_
  refine .ok ⟨further, rfl, fun level admitted => ?_⟩
  exact (letsMore level).2 (((letsLess level).1 admitted).trans ascends)

/-- Options that ask for more detail make configurations that let through more. -/
theorem related_load_withMore (options : Options) (environment : Environment) {count : Nat}
    (small : options.verbose + count < 2 ^ 85) :
    Related GrowsInto (load options environment) (load (options.withMore count) environment) := by
  have plain := Settings.ofOptions_withMore options 0
  have isPlain : options.withMore 0 = options := rfl
  rw [isPlain] at plain
  unfold load
  rw [plain, Settings.ofOptions_withMore options count]
  cases Settings.ofOptions options with
  | error cause => exact .error _
  | ok settings =>
    have ascends : options.verbose ≤ options.verbose + count := Nat.le_add_right _ _
    exact (related_validate_verbose settings environment ascends small).mapError _

end Config

/-! ## Command lines -/

/-- Commands that are the same but for a verbosity that lets through no less. -/
inductive Command.GrowsInto : Command → Command → Prop where
  | help : GrowsInto .help .help
  | collect {left right : Config} (grows : left.GrowsInto right) :
      GrowsInto (.collect left) (.collect right)

section Arguments

variable {front inserted : List Value} (asks : ∀ argument ∈ inserted, AsksForDetail argument)

include asks

theorem Command.related_read_of_asks (accepted : ∃ options, Options.parse front = .ok options)
    {back : List Value} (given : CanBeGiven (front ++ inserted ++ back))
    (environment : Environment) :
    Related GrowsInto (Command.read (front ++ back) environment)
      (Command.read (front ++ inserted ++ back) environment) := by
  obtain ⟨count, parsed⟩ := Options.exists_parse_of_asks accepted asks back
  rw [read_eq, read_eq, parsed]
  cases plain : Options.parse (front ++ back) with
  | error failure => exact .error failure
  | ok options =>
    rw [plain, Outcome.map_ok] at parsed
    have small : options.verbose + count < 2 ^ 85 := Options.verbose_lt_of_parse given parsed
    rw [Outcome.map_ok, Outcome.ok_bind, Outcome.ok_bind]
    have sameHelp : (options.withMore count).help = options.help := rfl
    rw [sameHelp]
    split
    · exact .ok .help
    · exact (Config.related_load_withMore options environment small).bind
        fun _ _ grows => .ok (.collect grows)

/-- Asking for more detail is not asking for debugging. -/
theorem Run.ofRefusal_of_asks (back : List Value) (failure : Failure) :
    ofRefusal (front ++ inserted ++ back) failure = ofRefusal (front ++ back) failure := by
  have notAsked : Value.text "--debug" ∉ inserted := by
    intro member
    obtain ⟨text, count, isText, reads⟩ := (asks _ member).exists_ofText
    cases isText
    have isDebug : Argument.ofText "--debug" = .debug := by decide
    rw [isDebug] at reads
    cases reads
  unfold ofRefusal
  simp only [List.mem_append, notAsked, or_false]

end Arguments

/-! ## What is logged -/

/-- An entry without its details. -/
def LogEntry.bare (entry : LogEntry) : LogEntry := { entry with details := [] }

/-- An event without the details of what is logged. -/
def Event.bare : Event → Event
  | .logged entry => .logged entry.bare
  | .queried namespaceName metric => .queried namespaceName metric

theorem logEntries_map_bare (events : List Event) :
    logEntries (events.map Event.bare) = (logEntries events).map LogEntry.bare := by
  unfold logEntries
  rw [List.filterMap_map, List.map_filterMap]
  congr 1
  funext event
  cases event <;> rfl

theorem metricQueries_map_bare (events : List Event) :
    metricQueries (events.map Event.bare) = metricQueries events := by
  unfold metricQueries
  rw [List.filterMap_map]
  congr 1
  funext event
  cases event <;> rfl

/-- A whole verbosity lets through every level that is at most as deep. -/
theorem LogStyle.admits_ofVerbosity (verbosity : Nat) (level : Level) :
    (ofVerbosity verbosity).admits level = decide (level.depth ≤ verbosity) := by
  match verbosity with
  | 0 => cases level <;> decide +kernel
  | 1 => cases level <;> decide +kernel
  | more + 2 =>
    have high : (2 : Rat) ≤ ((more + 2 : Nat) : Rat) := by
      exact_mod_cast Nat.le_add_left 2 more
    have deep : level.depth ≤ 2 := by cases level <;> decide
    have threshold : (ofVerbosity ((more + 2 : Nat) : Rat)).threshold = .debug := if_pos high
    have within : level.depth ≤ more + 2 := deep.trans (Nat.le_add_left 2 more)
    unfold admits
    rw [threshold]
    exact decide_eq_decide.2 ⟨fun _ => within, fun _ => deep⟩

/-- The entries among events that a verbosity lets through. -/
def entriesAt (verbosity : Nat) (events : List Event) : List LogEntry :=
  (logEntries events).filter fun entry => (LogStyle.ofVerbosity verbosity).admits entry.level

/-- Details have no part in what is let through. -/
theorem map_bare_entriesAt (verbosity : Nat) (events : List Event) :
    (entriesAt verbosity events).map LogEntry.bare =
      entriesAt verbosity (events.map Event.bare) := by
  unfold entriesAt
  rw [logEntries_map_bare, List.filter_map]
  rfl

/-- Of the same events, a configuration with a higher verbosity lets no less through. -/
theorem Config.GrowsInto.sublist {left right : Config} (grows : left.GrowsInto right)
    {fewer further : List Event} (same : fewer.map Event.bare = further.map Event.bare) :
    ((entriesAt left.verbose fewer).map LogEntry.bare).Sublist
      ((entriesAt right.verbose further).map LogEntry.bare) := by
  obtain ⟨verbose, rfl, letsThrough⟩ := grows
  rw [map_bare_entriesAt, map_bare_entriesAt, same]
  apply List.monotone_filter_right
  intro entry admitted
  rw [LogStyle.admits_ofVerbosity] at admitted ⊢
  exact decide_eq_true (letsThrough entry.level (of_decide_eq_true admitted))

namespace Run

/-- The entries that a run logs, those that its verbosity lets through. -/
def logged (run : Run) : List LogEntry :=
  match run.config with
  | some config => entriesAt config.verbose run.events
  | none => []

/-- The log of a run has a line for each entry that the run logs. -/
theorem exists_log_eq_map_logged (run : Run) :
    ∃ style, ∀ now, run.log now =
      run.logged.map fun entry => (LogRecord.ofEntry now entry).line style ++ "\n" := by
  unfold log logged
  cases run.config with
  | none => exact ⟨.ofVerbosity 0, fun now => rfl⟩
  | some config => exact ⟨.ofVerbosity config.verbose, fun now => rfl⟩

/-- Runs of which the second one does the same and logs no less: they exit in the same way, write
the same texts, connect with configurations that are the same but for the verbosity, and make the
same queries. But for details, what the first one logs the second one logs as well, in the same
order. -/
structure GrowsInto (quiet loud : Run) : Prop where
  exit : quiet.exit = loud.exit
  stdout : quiet.stdout = loud.stdout
  stderr : quiet.stderr = loud.stderr
  config : quiet.config.map (·.withVerbosity 0) = loud.config.map (·.withVerbosity 0)
  queries : quiet.queries = loud.queries
  logged : (quiet.logged.map LogEntry.bare).Sublist (loud.logged.map LogEntry.bare)

theorem growsInto_refl (run : Run) : run.GrowsInto run := ⟨rfl, rfl, rfl, rfl, rfl, .refl _⟩

end Run

/-! ## Runs -/

/-- How a run finishes depends on the outcome only. -/
theorem Run.finish_eq (debug : Bool) (journal : Journal String) (config : Option Config) :
    finish debug journal config =
      { finish debug (.ofExcept journal.outcome) none with
        events := journal.events
        config := config } := by
  unfold finish Journal.ofExcept
  dsimp only
  cases journal.outcome with
  | ok text => rfl
  | error failure =>
    dsimp only
    split
    · rfl
    · split <;> rfl

/-- Runs with the same outcome and the same events but for details. -/
theorem Run.growsInto_finish (debug : Bool) {left right : Config} (grows : left.GrowsInto right)
    {fewer further : Journal String} (sameOutcome : fewer.outcome = further.outcome)
    (sameEvents : fewer.events.map Event.bare = further.events.map Event.bare) :
    (finish debug fewer (some left)).GrowsInto (finish debug further (some right)) := by
  have sameQueries : metricQueries fewer.events = metricQueries further.events := by
    rw [← metricQueries_map_bare, sameEvents, metricQueries_map_bare]
  have sameConfig : left.withVerbosity 0 = right.withVerbosity 0 := by
    obtain ⟨verbose, rfl, -⟩ := grows
    rfl
  rw [finish_eq debug fewer, finish_eq debug further, sameOutcome]
  exact ⟨rfl, rfl, rfl, congrArg some sameConfig, sameQueries, grows.sublist sameEvents⟩

theorem Journal.emit_bind {α : Type} (events : List Event) (next : Unit → Journal α) :
    emit events >>= next = ⟨events ++ (next ()).events, (next ()).outcome⟩ := rfl

/-- A connector that gets at the same source, and does the same on the way, whatever the
verbosity. -/
def Connector.IgnoresVerbosity (connect : Connector) : Prop :=
  ∀ config verbose, connect (config.withVerbosity verbose) = connect config

theorem Connector.ignoresVerbosity_direct (cluster : Cluster) :
    (direct cluster).IgnoresVerbosity := fun _ _ => rfl

theorem Connector.ignoresVerbosity_throughClient (cluster : Cluster) :
    (throughClient cluster).IgnoresVerbosity := fun _ _ => rfl

section Runs

variable [Platform] {connect : Connector} (ignores : connect.IgnoresVerbosity)

include ignores

/-- A cycle shows the verbosity in the details of its first entry only. -/
theorem reportCycle_withVerbosity (config : Config) (verbose : Nat) :
    (reportCycle connect (config.withVerbosity verbose)).outcome =
        (reportCycle connect config).outcome ∧
      (reportCycle connect (config.withVerbosity verbose)).events.map Event.bare =
        (reportCycle connect config).events.map Event.bare := by
  have cycle (config : Config) : reportCycle connect config =
      Journal.emit [.logged ⟨.debug, "parsed arguments", config.details⟩] >>= fun _ =>
        connect config >>= fun source => Inventory.collect .kept source >>= fun inventory =>
          inventory.report .kept >>= fun blocks =>
            pure (String.join (blocks.map (· ++ "\n"))) := rfl
  have started (details : Members) :
      [Event.logged ⟨.debug, "parsed arguments", details⟩].map Event.bare =
        [.logged ⟨.debug, "parsed arguments", []⟩] := rfl
  rw [cycle, cycle, ignores config verbose, Journal.emit_bind, Journal.emit_bind]
  dsimp only
  rw [List.map_append, List.map_append, started, started]
  exact ⟨rfl, rfl⟩

theorem Run.growsInto_ofConfig {left right : Config} (grows : left.GrowsInto right) :
    (ofConfig connect left).GrowsInto (ofConfig connect right) := by
  obtain ⟨verbose, isRight, letsThrough⟩ := grows
  obtain ⟨sameOutcome, sameEvents⟩ := reportCycle_withVerbosity ignores left verbose
  rw [← isRight] at sameOutcome sameEvents
  have sameDebug : right.debug = left.debug := by rw [isRight]; rfl
  unfold ofConfig
  rw [sameDebug]
  exact growsInto_finish left.debug ⟨verbose, isRight, letsThrough⟩ sameOutcome.symm
    sameEvents.symm

/-- Asking for more detail behind arguments that are accepted on their own leaves what a run does as
it is, however often it is asked for, whatever arguments follow and whatever fails. Only the log
differs, and it grows. -/
theorem run_grows_with_verbosity {front inserted : List Value}
    (accepted : ∃ options, Options.parse front = .ok options)
    (asks : ∀ argument ∈ inserted, AsksForDetail argument) (back : List Value)
    (given : CanBeGiven (front ++ inserted ++ back)) (environment : Environment) :
    (run connect (front ++ back) environment).GrowsInto
      (run connect (front ++ inserted ++ back) environment) := by
  have related := Command.related_read_of_asks asks accepted given environment
  unfold run
  -- A refusal looks at the arguments once more, so only what they read as is generalized.
  generalize Command.read (front ++ back) environment = quiet,
    Command.read (front ++ inserted ++ back) environment = loud at related ⊢
  cases related with
  | error failure =>
    dsimp only
    rw [Run.ofRefusal_of_asks asks]
    exact Run.growsInto_refl _
  | ok grows =>
    cases grows with
    | help => exact Run.growsInto_refl _
    | collect grows => exact Run.growsInto_ofConfig ignores grows

end Runs

section Universal

attribute [local instance] Platform.universal

/-- A run that completes, and runs of the client over a cluster of which metric queries fail. -/
theorem run_grows_with_verbosity_of_crowdedCluster :
    (∃ options, Options.parse [.text "--token", .text "secret"] = .ok options) ∧
      (∀ argument ∈ [Value.text "-vv", .text "--verbose"], AsksForDetail argument) ∧
      CanBeGiven [.text "--token", .text "secret", .text "-vv", .text "--verbose", .text "host"] ∧
      (run (.direct Inventory.crowdedCluster)
        [.text "--token", .text "secret", .text "-vv", .text "--verbose", .text "host"]
          ⟨none⟩).exit = .completed ∧
      (run (.throughClient Inventory.unevenCluster) reportArguments ⟨none⟩).GrowsInto
        (run (.throughClient Inventory.unevenCluster)
          [.text "--token", .text "secret", .text "-vv", .text "--verbose", .text "host"]
            ⟨none⟩) := by
  have accepted : ∃ options, Options.parse [.text "--token", .text "secret"] = .ok options :=
    ⟨_, rfl⟩
  have asks : ∀ argument ∈ [Value.text "-vv", .text "--verbose"], AsksForDetail argument := by
    intro argument member
    simp only [List.mem_cons, List.not_mem_nil, or_false] at member
    rcases member with rfl | rfl
    · exact .letters 1
    · exact .long
  have given : CanBeGiven
      [.text "--token", .text "secret", .text "-vv", .text "--verbose", .text "host"] := by
    refine ⟨by decide, fun text member => ?_⟩
    simp only [List.mem_cons, List.not_mem_nil, or_false, Value.text.injEq] at member
    rcases member with rfl | rfl | rfl | rfl | rfl <;> decide
  refine ⟨accepted, asks, given, ?_, ?_⟩
  · have grows := run_grows_with_verbosity
      (Connector.ignoresVerbosity_direct Inventory.crowdedCluster) accepted asks
      [.text "host"] given ⟨none⟩
    obtain ⟨text, came⟩ := Inventory.exists_runOutcome_crowdedCluster
    exact grows.exit.symm.trans (run_of_ok came).1
  · exact run_grows_with_verbosity
      (Connector.ignoresVerbosity_throughClient Inventory.unevenCluster) accepted asks
      [.text "host"] given ⟨none⟩

end Universal

end ClusterAgent
