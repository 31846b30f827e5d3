import ClusterAgent.Proofs.CommandLine.Words
import ClusterAgent.Proofs.Run.Stages

/-!
Contract: runs that differ in the token only.

A token is read into the options, checked for being there, and handed to the
client. No stage looks at the rest of it: wherever a configuration is shown
something else stands in its place. So two runs that are given different tokens
in the same place cannot be told apart by what they write, log or exit with.

Owns: options and configurations that differ in the token, what can be seen of a
run, the secrecy of the token.
Does not own: what a source does with a token.
-/

namespace ClusterAgent

open Outcome (Related)

/-! ## Options and configurations -/

/-- Tokens that are the same, or both texts that are not empty. -/
inductive TokensAlike : Field → Field → Prop where
  | same (token : Field) : TokensAlike token token
  | given {first second : String} (firstGiven : first ≠ "") (secondGiven : second ≠ "") :
      TokensAlike (some (.text first)) (some (.text second))

namespace Options

/-- Options that are the same but for the token. -/
def SameButToken (left right : Options) : Prop :=
  ∃ token, right = { left with token } ∧ TokensAlike left.token token

variable {left right : Options}

theorem SameButToken.keep (same : left.SameButToken right) (keeps : Option ValueOption)
    (value : Value) : (left.keep keeps value).SameButToken (right.keep keeps value) := by
  obtain ⟨token, rfl, alike⟩ := same
  match keeps with
  | none => exact ⟨token, rfl, alike⟩
  | some .port => exact ⟨token, rfl, alike⟩
  | some .token => exact ⟨some value, rfl, .same _⟩
  | some .urlPrefix => exact ⟨token, rfl, alike⟩
  | some .pathPrefix => exact ⟨token, rfl, alike⟩

structure Progress.SameButToken (left right : Progress) : Prop where
  options : left.options.SameButToken right.options
  awaited : left.awaited = right.awaited

theorem SameButToken.readNext (same : left.SameButToken right) (argument : Argument) :
    Related Progress.SameButToken (left.readNext argument) (right.readNext argument) := by
  cases argument with
  | option flag keeps attached =>
    cases attached with
    | none => exact .ok ⟨same, rfl⟩
    | some value => exact .ok ⟨same.keep keeps (.text value), rfl⟩
  | refused error => exact .error error
  | positional text =>
    obtain ⟨token, rfl, alike⟩ := same
    unfold Options.readNext
    dsimp only
    split
    · exact .ok ⟨⟨token, rfl, alike⟩, rfl⟩
    · exact .error _
  | noCertCheck | debug | verbose | help =>
    obtain ⟨token, rfl, alike⟩ := same
    exact .ok ⟨⟨token, rfl, alike⟩, rfl⟩

/-- No argument is read in another way because of a token before it. -/
theorem Progress.SameButToken.read {left right : Progress} (same : left.SameButToken right)
    (argument : Value) :
    Related Progress.SameButToken (left.read argument) (right.read argument) := by
  unfold Progress.read
  rw [← same.awaited]
  cases left.awaited with
  | some awaited => exact .ok ⟨same.options.keep awaited.2 argument, rfl⟩
  | none => exact Related.after _ fun text => (same.options.readNext _).mapError _

theorem Progress.SameButToken.finish {left right : Progress} (same : left.SameButToken right) :
    Related Options.SameButToken left.finish right.finish := by
  unfold Progress.finish
  rw [← same.awaited]
  cases left.awaited with
  | some awaited => exact .error _
  | none => exact .ok same.options

end Options

/-- A configuration with another token. -/
def Config.withToken (config : Config) (token : String) : Config := { config with token }

/-- Configurations that are the same but for the token. -/
def Config.SameButToken (left right : Config) : Prop := ∃ token, right = left.withToken token

/-- Tokens that are given pass the same check. -/
theorem ConfigField.required_token {token : String} (given : token ≠ "") :
    ConfigField.token.required .tokenMissing (some (.text token)) = .ok token := by
  simp [ConfigField.required, ConfigField.nonempty, ConfigField.text, given]

/-- Settings hold the token as it is given. -/
theorem Settings.ofOptions_token (options : Options) (token : Field) :
    ofOptions { options with token } =
      (fun settings : Settings => { settings with token }) <$> ofOptions options := by
  unfold ofOptions
  rw [map_bind]
  rfl

namespace Config

variable {first second : String}

theorem related_validate (settings : Settings) (environment : Environment)
    (firstGiven : first ≠ "") (secondGiven : second ≠ "") :
    Related SameButToken (validate { settings with token := some (.text first) } environment)
      (validate { settings with token := some (.text second) } environment) := by
  unfold validate
  simp only [ConfigField.required_token firstGiven, ConfigField.required_token secondGiven,
    Outcome.ok_bind]
  -- All other fields are checked in the same way on both sides.
  repeat' refine Related.after _ fun _ => ?_
  exact .ok ⟨second, rfl⟩

theorem related_load_given (options : Options) (environment : Environment)
    (firstGiven : first ≠ "") (secondGiven : second ≠ "") :
    Related SameButToken (load { options with token := some (.text first) } environment)
      (load { options with token := some (.text second) } environment) := by
  unfold load
  rw [Settings.ofOptions_token options (some (.text first)),
    Settings.ofOptions_token options (some (.text second))]
  cases Settings.ofOptions options with
  | error cause => exact .error _
  | ok settings =>
    exact (related_validate settings environment firstGiven secondGiven).mapError _

/-- Options that differ in the token make configurations that do. -/
theorem related_load {left right : Options} (same : left.SameButToken right)
    (environment : Environment) :
    Related SameButToken (load left environment) (load right environment) := by
  obtain ⟨token, rfl, alike⟩ := same
  obtain ⟨host, port, leftToken, urlPrefix, pathPrefix, noCertCheck, debug, verbose, help⟩ := left
  dsimp only at alike ⊢
  cases alike with
  | same => exact .refl (fun config => ⟨config.token, rfl⟩) _
  | given firstGiven secondGiven =>
    exact related_load_given
      ⟨host, port, none, urlPrefix, pathPrefix, noCertCheck, debug, verbose, help⟩ environment
      firstGiven secondGiven

end Config

/-! ## Command lines -/

/-- How a token is given: after its option, or attached to it. -/
inductive TokenForm where
  | apart
  | attached

def TokenForm.arguments : TokenForm → String → List Value
  | apart, token => [.text "--token", .text token]
  | attached, token => [.text ("--token=" ++ token)]

/-- Commands that are the same but for the token of the configuration. -/
inductive Command.SameButToken : Command → Command → Prop where
  | help : SameButToken .help .help
  | collect {left right : Config} (same : left.SameButToken right) :
      SameButToken (.collect left) (.collect right)

theorem Argument.ofText_token : ofText "--token" = .option "--token" (some .token) none :=
  ofText_flag .token

theorem Argument.ofText_attached_token (token : String) :
    ofText ("--token=" ++ token) = .option "--token" (some .token) (some token) :=
  ofText_attached .token token

/-- Reading a token that is given sets it, and nothing is left to follow. -/
theorem Options.foldlM_token (form : TokenForm) (options : Options) (token : String) :
    (form.arguments token).foldlM Progress.read ⟨options, none⟩ =
      .ok ⟨options.set .token (.text token), none⟩ := by
  have reads (text : String) : Progress.read ⟨options, none⟩ (.text text) =
      (options.readNext (.ofText text)).mapError .configuration := rfl
  cases form with
  | apart =>
    rw [TokenForm.arguments, List.foldlM_cons, reads, Argument.ofText_token]
    rfl
  | attached =>
    rw [TokenForm.arguments, List.foldlM_cons, reads, Argument.ofText_attached_token]
    rfl

/-- Runs of which one cannot be told from the other: they exit in the same way, write the same texts
and log the same lines at the same time. -/
structure Run.LooksLike (left right : Run) : Prop where
  exit : left.exit = right.exit
  stdout : left.stdout = right.stdout
  stderr : left.stderr = right.stderr
  log : ∀ now, left.log now = right.log now

/-- A connector that gets at the same source, and does the same on the way, whatever the token. -/
def Connector.IgnoresToken (connect : Connector) : Prop :=
  ∀ config token, connect (config.withToken token) = connect config

section Tokens

variable {front : List Value} {first second : String}

theorem Options.related_parse {options : Options} (accepted : parse front = .ok options)
    (form : TokenForm) (firstGiven : first ≠ "") (secondGiven : second ≠ "") (back : List Value) :
    Related SameButToken (parse (front ++ form.arguments first ++ back))
      (parse (front ++ form.arguments second ++ back)) := by
  have given (token : String) : parse (front ++ form.arguments token ++ back) =
      back.foldlM Progress.read ⟨options.set .token (.text token), none⟩ >>= Progress.finish := by
    rw [List.append_assoc, parse_append accepted, List.foldlM_append, foldlM_token,
      Outcome.ok_bind]
  have start : Progress.SameButToken ⟨options.set .token (.text first), none⟩
      ⟨options.set .token (.text second), none⟩ :=
    ⟨⟨some (.text second), rfl, .given firstGiven secondGiven⟩, rfl⟩
  rw [given, given]
  exact (Related.foldlM (fun _ _ argument same => same.read argument) back start).bind
    fun _ _ same => same.finish

theorem Command.related_read {options : Options} (accepted : Options.parse front = .ok options)
    (form : TokenForm) (firstGiven : first ≠ "") (secondGiven : second ≠ "") (back : List Value)
    (environment : Environment) :
    Related SameButToken (Command.read (front ++ form.arguments first ++ back) environment)
      (Command.read (front ++ form.arguments second ++ back) environment) := by
  refine (Options.related_parse accepted form firstGiven secondGiven back).bind ?_
  intro left right same
  have sameHelp : left.help = right.help := by
    obtain ⟨token, rfl, -⟩ := same
    rfl
  rw [← sameHelp]
  split
  · exact .ok .help
  · exact (Config.related_load same environment).bind fun _ _ same => .ok (.collect same)

/-- A token is not taken for the debug switch. -/
theorem TokenForm.debug_not_mem (form : TokenForm) {token : String} (notDebug : token ≠ "--debug") :
    Value.text "--debug" ∉ form.arguments token := by
  cases form with
  | apart => simp [arguments, notDebug.symm]
  | attached =>
    intro member
    have same := congrArg String.toList (Value.text.inj (List.mem_singleton.1 member))
    rw [String.toList_append] at same
    simp at same

/-- A refused command line is told alike, since the token has no part in how failures are passed
on. -/
theorem Run.ofRefusal_eq (form : TokenForm) (firstNotDebug : first ≠ "--debug")
    (secondNotDebug : second ≠ "--debug") (back : List Value) (failure : Failure) :
    ofRefusal (front ++ form.arguments first ++ back) failure =
      ofRefusal (front ++ form.arguments second ++ back) failure := by
  unfold ofRefusal
  simp only [List.mem_append, form.debug_not_mem firstNotDebug, form.debug_not_mem secondNotDebug]

end Tokens

/-! ## Runs -/

theorem reportCycle_withToken [Platform] {connect : Connector} (ignores : connect.IgnoresToken)
    (config : Config) (token : String) :
    reportCycle connect (config.withToken token) = reportCycle connect config := by
  unfold reportCycle
  rw [ignores]
  rfl

/-- What is seen of a run with a configuration is seen of it with any other token. -/
theorem Run.looksLike_finish (debug : Bool) (journal : Journal String) (config : Config)
    (token : String) :
    LooksLike (finish debug journal (some config))
      (finish debug journal (some (config.withToken token))) := by
  unfold finish
  split
  · exact ⟨rfl, rfl, rfl, fun _ => rfl⟩
  · split
    · exact ⟨rfl, rfl, rfl, fun _ => rfl⟩
    · split <;> exact ⟨rfl, rfl, rfl, fun _ => rfl⟩

theorem looksLike_run [Platform] {connect : Connector} (ignores : connect.IgnoresToken)
    {front : List Value} {options : Options} (accepted : Options.parse front = .ok options)
    (form : TokenForm) {first second : String} (firstGiven : first ≠ "") (secondGiven : second ≠ "")
    (firstNotDebug : first ≠ "--debug") (secondNotDebug : second ≠ "--debug") (back : List Value)
    (environment : Environment) :
    (run connect (front ++ form.arguments first ++ back) environment).LooksLike
      (run connect (front ++ form.arguments second ++ back) environment) := by
  have related := Command.related_read accepted form firstGiven secondGiven back environment
  unfold run
  -- A refusal looks at the arguments once more, so only what they read as is generalized.
  generalize Command.read (front ++ form.arguments first ++ back) environment = left,
    Command.read (front ++ form.arguments second ++ back) environment = right at related ⊢
  cases related with
  | error failure =>
    dsimp only
    rw [Run.ofRefusal_eq form firstNotDebug secondNotDebug]
    exact ⟨rfl, rfl, rfl, fun _ => rfl⟩
  | ok same =>
    cases same with
    | help => exact ⟨rfl, rfl, rfl, fun _ => rfl⟩
    | collect same =>
      obtain ⟨token, rfl⟩ := same
      dsimp only [Run.ofConfig]
      rw [reportCycle_withToken ignores]
      exact Run.looksLike_finish _ _ _ token

/-- Setting up the client shows the server, and nothing of the token. -/
theorem Connector.ignoresToken_throughClient {clusters : Config → Cluster}
    (ignores : ∀ config token, clusters (config.withToken token) = clusters config) :
    IgnoresToken fun config => throughClient (clusters config) config := by
  intro config token
  dsimp only
  rw [ignores]
  rfl

/-- Two runs that are given different tokens in the same place, after arguments that are accepted
on their own, cannot be told from each other, whatever arguments follow, whatever fails and however
much is logged. That holds over any source that does not look at the token, and over the client. -/
theorem run_hides_token [Platform] {front : List Value}
    (accepted : ∃ options, Options.parse front = .ok options) (form : TokenForm)
    {first second : String} (firstGiven : first ≠ "") (secondGiven : second ≠ "")
    (firstNotDebug : first ≠ "--debug") (secondNotDebug : second ≠ "--debug") (back : List Value)
    (environment : Environment) :
    (∀ connect : Connector,
      (∀ config token, connect { config with token := token } = connect config) →
      (run connect (front ++ form.arguments first ++ back) environment).LooksLike
        (run connect (front ++ form.arguments second ++ back) environment)) ∧
    ∀ clusters : Config → Cluster,
      (∀ config token, clusters { config with token := token } = clusters config) →
      (run (fun config => Connector.throughClient (clusters config) config)
        (front ++ form.arguments first ++ back) environment).LooksLike
        (run (fun config => Connector.throughClient (clusters config) config)
          (front ++ form.arguments second ++ back) environment) := by
  obtain ⟨options, parsed⟩ := accepted
  constructor
  · intro connect ignores
    exact looksLike_run ignores parsed form firstGiven secondGiven firstNotDebug secondNotDebug back
      environment
  · intro clusters ignores
    exact looksLike_run (Connector.ignoresToken_throughClient ignores) parsed form firstGiven
      secondGiven firstNotDebug secondNotDebug back environment

section Universal

attribute [local instance] Platform.universal

/-- A run that completes with one token completes with another one, and the client logs the same
about queries that fail. -/
theorem run_hides_token_of_crowdedCluster :
    (∃ options, Options.parse [] = .ok options) ∧
      (∃ options, Options.parse [.text "-vvv"] = .ok options) ∧
      (run (.direct Inventory.crowdedCluster)
        (TokenForm.apart.arguments "other" ++ [.text "host"]) ⟨none⟩).exit = .completed ∧
      ∀ form : TokenForm,
        (run (.throughClient Inventory.unevenCluster)
          ([.text "-vvv"] ++ form.arguments "secret" ++ [.text "host"]) ⟨none⟩).LooksLike
          (run (.throughClient Inventory.unevenCluster)
            ([.text "-vvv"] ++ form.arguments "other" ++ [.text "host"]) ⟨none⟩) := by
  have nothing : ∃ options, Options.parse [] = .ok options := ⟨_, rfl⟩
  have verbose : ∃ options, Options.parse [.text "-vvv"] = .ok options := ⟨_, rfl⟩
  have secretGiven : "secret" ≠ "" := by decide
  have otherGiven : "other" ≠ "" := by decide
  have secretNotDebug : "secret" ≠ "--debug" := by decide
  have otherNotDebug : "other" ≠ "--debug" := by decide
  refine ⟨nothing, verbose, ?_, fun form => ?_⟩
  · have alike := (run_hides_token nothing .apart secretGiven otherGiven secretNotDebug
      otherNotDebug [.text "host"] ⟨none⟩).1 (.direct Inventory.crowdedCluster) fun _ _ => rfl
    obtain ⟨text, came⟩ := Inventory.exists_runOutcome_crowdedCluster
    exact alike.exit.symm.trans (run_of_ok came).1
  · exact (run_hides_token verbose form secretGiven otherGiven secretNotDebug otherNotDebug
      [.text "host"] ⟨none⟩).2 (fun _ => Inventory.unevenCluster) fun _ _ => rfl

end Universal

end ClusterAgent
