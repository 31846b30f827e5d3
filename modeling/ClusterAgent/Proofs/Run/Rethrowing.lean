import ClusterAgent.Proofs.CommandLine.Grammar
import ClusterAgent.Proofs.CommandLine.Validation
import ClusterAgent.Proofs.Run.Stages

/-!
Contract: which failures of a run are passed on.

Once a command line is accepted, a run that fails passes its failure on if the
command line has the debug switch, and tells it otherwise. A text that is only
the value of an option is no switch. It does count as one while there is no
configuration: a configuration that is refused is passed on behind any argument
that reads as the switch.

Owns: the switch among the units of a command line, how a run ends that fails
after its command line is accepted.
Does not own: when a run fails, and with what.
-/

namespace ClusterAgent

/-! ## The switch -/

theorem CommandUnit.IsWord.eq_debug {text : String} (isWord : CommandUnit.debug.IsWord text) :
    text = "--debug" := by
  cases isWord
  rfl

theorem CommandUnit.ne_debug_of_awaits {flag : String} {unit : String → CommandUnit}
    (awaits : Awaits flag unit) (value : String) : unit value ≠ .debug := by
  cases awaits with
  | option option => exact CommandUnit.noConfusion
  | dropping isDropping => exact CommandUnit.noConfusion

/-- Where the switch is among the units, its name is among the arguments. -/
theorem SplitsInto.mem_of_debug {texts : List String} {units : List CommandUnit}
    (splits : SplitsInto texts units) (switched : .debug ∈ units) : "--debug" ∈ texts := by
  induction splits with
  | nil => cases switched
  | word isWord later inductionHypothesis =>
    rcases List.mem_cons.1 switched with isDebug | switchedLater
    · rw [← isDebug] at isWord
      exact List.mem_cons.2 (.inl isWord.eq_debug.symm)
    · exact List.mem_cons_of_mem _ (inductionHypothesis switchedLater)
  | withValue awaits value later inductionHypothesis =>
    rcases List.mem_cons.1 switched with isDebug | switchedLater
    · exact absurd isDebug.symm (CommandUnit.ne_debug_of_awaits awaits value)
    · exact List.mem_cons_of_mem _ (List.mem_cons_of_mem _ (inductionHypothesis switchedLater))

namespace Options

theorem debug_take (options : Options) (unit : CommandUnit) :
    (options.take unit).debug = true ↔ options.debug = true ∨ CommandUnit.debug = unit := by
  cases unit with
  | keeps option value => cases option <;> simp [take, set]
  | _ => simp [take]

/-- A word that is read does what its unit asks for. -/
theorem eq_of_read_word {options : Options} {unit : CommandUnit} {text : String}
    {next : Progress} (isWord : unit.IsWord text)
    (read : Progress.read ⟨options, none⟩ (.text text) = .ok next) :
    next = ⟨options.take unit, none⟩ := by
  by_cases fits : (options.host.toList ++ unit.positional?.toList).length ≤ 1
  · rw [read_word isWord fits] at read
    exact (Except.ok.inj read).symm
  · -- Only a second host does not fit, and that is not read.
    have few : (options.host.toList ++ []).length ≤ 1 := by
      rw [List.append_nil]
      exact Option.length_toList_le
    cases isWord with
    | positional noDash notDropping =>
      have given : options.host ≠ none := by
        intro free
        rw [free] at fits
        exact fits (Nat.le_refl 1)
      change (options.readNext (Argument.ofText text)).mapError _ = _ at read
      rw [Argument.ofText_positional noDash notDropping, readNext, if_neg given] at read
      cases read
    | _ => exact absurd few fits

theorem debug_of_foldlM {texts : List String} {units : List CommandUnit} {options result : Options}
    (splits : SplitsInto texts units)
    (folded : (texts.map Value.text).foldlM Progress.read ⟨options, none⟩ = .ok ⟨result, none⟩) :
    result.debug = true ↔ options.debug = true ∨ .debug ∈ units := by
  induction splits generalizing options with
  | nil =>
    cases folded
    simp
  | word isWord _ inductionHypothesis =>
    rw [List.map_cons, List.foldlM_cons] at folded
    obtain ⟨next, read, folded⟩ := Outcome.bind_eq_ok.1 folded
    rw [eq_of_read_word isWord read] at folded
    rw [inductionHypothesis folded, debug_take, List.mem_cons, or_assoc]
  | withValue awaits value _ inductionHypothesis =>
    obtain ⟨keeps, read, kept⟩ := read_flag options awaits
    rw [List.map_cons, List.map_cons, List.foldlM_cons, read, Outcome.ok_bind,
      List.foldlM_cons] at folded
    change (List.foldlM Progress.read ⟨options.keep keeps (.text value), none⟩ _ :
      Except Failure Progress) = _ at folded
    rw [kept] at folded
    rw [inductionHypothesis folded, debug_take, List.mem_cons, or_assoc]

/-- Accepted options have the switch if the units of the command line have it. -/
theorem debug_iff_of_splitsInto {texts : List String} {units : List CommandUnit}
    {options : Options} (parsed : parse (texts.map .text) = .ok options)
    (splits : SplitsInto texts units) : options.debug = true ↔ .debug ∈ units := by
  rw [debug_of_foldlM splits (foldlM_of_parse parsed)]
  simp [empty]

/-- The switch of accepted options stands among the arguments. -/
theorem mem_of_debug {texts : List String} {options : Options}
    (parsed : parse (texts.map .text) = .ok options) (asked : options.debug = true) :
    "--debug" ∈ texts := by
  obtain ⟨units, splits, -, -⟩ := exists_units_of_parse parsed
  exact splits.mem_of_debug ((debug_iff_of_splitsInto parsed splits).1 asked)

end Options

/-- A configuration has the switch of the options that it is made from. -/
theorem Config.debug_of_load {options : Options} {environment : Environment} {config : Config}
    (loaded : load options environment = .ok config) : config.debug = options.debug := by
  obtain ⟨settings, made, valid⟩ := load_eq_ok.1 loaded
  have switched := (Settings.areSpelledBy_of_ofOptions made).debug
  rw [valid.debug] at switched
  exact Except.ok.inj switched

/-! ## How a run ends that fails -/

/-- A run that passes a failure on and writes nothing. -/
structure Run.Rethrows (run : Run) (failure : Failure) : Prop where
  exit : run.exit = .rethrown failure
  stdout : run.stdout = []
  stderr : run.stderr = []

/-- A run that fails after the message of a failure on standard error. -/
structure Run.Tells (run : Run) (failure : Failure) : Prop where
  exit : run.exit = .failed
  stdout : run.stdout = []
  stderr : ∃ message, failure.message? = some message ∧ run.stderr = [message ++ "\n"]

section Failing

variable {connect : Connector} {arguments : List Value} {environment : Environment}
  {failure : Failure}

/-- A stage that fails stops the run with its failure. -/
theorem FailsWith.runOutcome_eq [Platform]
    (fails : FailsWith connect arguments environment failure) :
    runOutcome connect arguments environment = .error failure := by
  cases fails with
  | parsing failed => rw [runOutcome, read_eq_error.2 (.inl failed), Outcome.error_bind]
  | loading parsed unasked failed =>
    rw [runOutcome, read_eq_error.2 (.inr ⟨_, parsed, unasked, failed⟩), Outcome.error_bind]
  | connecting read failed =>
    rw [runOutcome_of_read read, outcome_reportCycle, failed, Outcome.error_bind]
  | collecting read connected failed =>
    rw [runOutcome_of_read read, outcome_reportCycle, connected, Outcome.ok_bind, failed,
      Outcome.error_bind]
  | rendering read connected collected failed =>
    rw [runOutcome_of_read read, outcome_reportCycle, connected, Outcome.ok_bind, collected,
      Outcome.ok_bind, failed, Outcome.error_bind]

theorem FailsWith.rethrows [Platform] (told : connect.IsTold)
    (fails : FailsWith connect arguments environment failure)
    (passed : passesOn arguments environment = true) :
    (run connect arguments environment).Rethrows failure := by
  obtain ⟨message, tells⟩ := Option.isSome_iff_exists.1 (fails.isTellable told)
  obtain ⟨exit, stdout, stderr⟩ := run_of_error fails.runOutcome_eq tells
  rw [passed, if_pos rfl] at exit stderr
  exact ⟨exit, stdout, stderr⟩

theorem FailsWith.tells [Platform] (told : connect.IsTold)
    (fails : FailsWith connect arguments environment failure)
    (kept : passesOn arguments environment = false) :
    (run connect arguments environment).Tells failure := by
  obtain ⟨message, tells⟩ := Option.isSome_iff_exists.1 (fails.isTellable told)
  obtain ⟨exit, stdout, stderr⟩ := run_of_error fails.runOutcome_eq tells
  rw [kept, if_neg Bool.false_ne_true] at exit stderr
  exact ⟨exit, stdout, message, tells, stderr⟩

/-- A run that shows how to use the agent does not fail. -/
theorem FailsWith.help_eq_false [Platform] {options : Options}
    (fails : FailsWith connect arguments environment failure)
    (parsed : Options.parse arguments = .ok options) : options.help = false := by
  rw [← Bool.not_eq_true]
  intro asked
  have succeeds : Succeeds connect arguments environment Config.usage := .help parsed asked
  cases (runOutcome_eq_ok.2 succeeds).symm.trans fails.runOutcome_eq

/-- Behind an accepted command line, failures are passed on as its switch says once there is a
configuration, and before that if the name of the switch is among the arguments. -/
theorem passesOn_of_parsed {options : Options} (parsed : Options.parse arguments = .ok options)
    (unasked : options.help = false) (environment : Environment) :
    passesOn arguments environment =
      if (Config.load options environment).isOk then options.debug
      else decide (.text "--debug" ∈ arguments) := by
  unfold passesOn
  rw [read_eq, parsed, Outcome.ok_bind, unasked, if_neg Bool.false_ne_true]
  cases loaded : Config.load options environment with
  | ok config => exact Config.debug_of_load loaded
  | error refusal => rfl

end Failing

/-- A run that fails after its command line is accepted passes the failure on if the command line
has the debug switch, at whatever stage it fails. Without the switch it tells the failure, unless
the configuration is refused and a value reads as the switch: then the failure is passed on too. The
command line has the switch if one of its units is the switch, so no value of an option is one. -/
theorem failures_rethrown_on_request [Platform] (connect : Connector) (told : connect.IsTold)
    (texts : List String) (options : Options)
    (parsed : Options.parse (texts.map .text) = .ok options) (environment : Environment)
    (failure : Failure) (fails : FailsWith connect (texts.map .text) environment failure) :
    (options.debug = true → (run connect (texts.map .text) environment).Rethrows failure) ∧
      (options.debug = false →
        "--debug" ∉ texts ∨ (∃ config, Config.load options environment = .ok config) →
          (run connect (texts.map .text) environment).Tells failure) ∧
      (options.debug = false → "--debug" ∈ texts →
        (∃ refusal, Config.load options environment = .error refusal) →
          (run connect (texts.map .text) environment).Rethrows failure) ∧
      ∀ units, SplitsInto texts units → (options.debug = true ↔ .debug ∈ units) := by
  have passes := passesOn_of_parsed parsed (fails.help_eq_false parsed) environment
  have named : Value.text "--debug" ∈ texts.map Value.text ↔ "--debug" ∈ texts :=
    List.mem_map_of_injective fun _ _ same => Value.text.inj same
  refine ⟨?_, ?_, ?_, fun units => Options.debug_iff_of_splitsInto parsed⟩
  · intro asked
    apply fails.rethrows told
    rw [passes, asked, decide_eq_true (named.2 (Options.mem_of_debug parsed asked)), ite_self]
  · intro unasked nameless
    apply fails.tells told
    rw [passes, unasked]
    rcases nameless with nameless | ⟨config, loaded⟩
    · rw [decide_eq_false (mt named.1 nameless), ite_self]
    · rw [loaded]
      rfl
  · rintro unasked isNamed ⟨refusal, refused⟩
    apply fails.rethrows told
    rw [passes, refused, decide_eq_true (named.2 isNamed)]
    rfl

/-- A cluster that cannot be connected to. -/
def Connector.refusing : Connector :=
  fun _ => .ofExcept (.error (.foreign (.plain "connection refused" [])))

theorem Connector.isTold_refusing : refusing.IsTold where
  connects _ := .error (by decide)
  source config source connected := by cases connected

section Universal

attribute [local instance] Platform.universal

/-- Options that make a configuration get as far as the connection. -/
theorem failsWith_refusing {arguments : List Value} {options : Options}
    (parsed : Options.parse arguments = .ok options) (unasked : options.help = false)
    (loads : ∃ config, Config.load options ⟨none⟩ = .ok config) :
    FailsWith .refusing arguments ⟨none⟩ (.foreign (.plain "connection refused" [])) := by
  obtain ⟨config, loaded⟩ := loads
  exact .connecting (read_eq_collect.2 ⟨options, parsed, unasked, loaded⟩) rfl

/-- The options of a token, a host and the switch. -/
def switchedOptions : Options :=
  ⟨some "host", none, some (.text "secret"), none, none, false, true, 0, false⟩

/-- The options of a host and a token that reads as the switch. -/
def namedOptions : Options :=
  ⟨some "host", none, some (.text "--debug"), none, none, false, false, 0, false⟩

theorem failures_rethrown_on_request_of_refusing :
    (run .refusing (["--token", "secret", "host", "--debug"].map .text) ⟨none⟩).Rethrows
        (.foreign (.plain "connection refused" [])) ∧
      (run .refusing (["--token", "--debug", "host"].map .text) ⟨none⟩).Tells
        (.foreign (.plain "connection refused" [])) := by
  have switchedLoads : ∃ config, Config.load switchedOptions ⟨none⟩ = .ok config :=
    Outcome.exists_ok_of_isOk (by decide +kernel)
  have namedLoads : ∃ config, Config.load namedOptions ⟨none⟩ = .ok config :=
    Outcome.exists_ok_of_isOk (by decide +kernel)
  obtain ⟨rethrows, _⟩ := failures_rethrown_on_request .refusing Connector.isTold_refusing
    ["--token", "secret", "host", "--debug"] switchedOptions rfl ⟨none⟩ _
    (failsWith_refusing rfl rfl switchedLoads)
  obtain ⟨_, tells, _⟩ := failures_rethrown_on_request .refusing Connector.isTold_refusing
    ["--token", "--debug", "host"] namedOptions rfl ⟨none⟩ _
    (failsWith_refusing rfl rfl namedLoads)
  exact ⟨rethrows rfl, tells rfl (.inr namedLoads)⟩

/-- A token that reads as the switch. Without a host it is passed on that the host is missing,
although no debugging is asked for. -/
theorem rethrown_without_request :
    ∃ options failure,
      Options.parse (["--token", "--debug"].map .text) = .ok options ∧ options.debug = false ∧
        FailsWith (.direct Inventory.crowdedCluster) (["--token", "--debug"].map .text) ⟨none⟩
          failure ∧
        (run (.direct Inventory.crowdedCluster) (["--token", "--debug"].map .text) ⟨none⟩).Rethrows
          failure ∧
        ¬ (run (.direct Inventory.crowdedCluster) (["--token", "--debug"].map .text) ⟨none⟩).Tells
          failure := by
  have parsed : Options.parse (["--token", "--debug"].map .text) =
      .ok ⟨none, none, some (.text "--debug"), none, none, false, false, 0, false⟩ := rfl
  have fails : FailsWith (.direct Inventory.crowdedCluster) (["--token", "--debug"].map .text)
      ⟨none⟩ (.configuration (.invalidField .host .hostMissing)) := .loading parsed rfl rfl
  have told := (Connector.reaches_direct _).isTold Inventory.isTold_crowdedCluster.source
  have rethrows := fails.rethrows told rfl
  refine ⟨_, _, parsed, rfl, fails, rethrows, ?_⟩
  intro tells
  cases rethrows.exit.symm.trans tells.exit

end Universal

end ClusterAgent
