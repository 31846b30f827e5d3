import ClusterAgent.Config
import ClusterAgent.Proofs.Number.Whole
import ClusterAgent.Proofs.Outcome

/-!
Contract: configurations as outcomes of the checks of their fields.

A check either passes what fits its field, or refuses the field. A configuration
is made exactly if every field passes its check, and it holds what the checks
come to.

Owns: the settings of options, what each kind of check passes, the checks of a
validation, one by one.
Does not own: which options give fitting settings.
-/

namespace ClusterAgent

/-- Settings that options spell. A switch that was not given passes its check as one that is off. -/
structure Settings.AreSpelledBy (settings : Settings) (options : Options) : Prop where
  host : settings.host = options.host.map .text
  port : options.port.mapM Numeral.readValue = .ok settings.port
  token : settings.token = options.token
  urlPrefix : settings.urlPrefix = options.urlPrefix
  pathPrefix : settings.pathPrefix = options.pathPrefix
  noCertCheck : ConfigField.noCertCheck.switch settings.noCertCheck = .ok options.noCertCheck
  debug : ConfigField.debug.switch settings.debug = .ok options.debug
  verbose : settings.verbose = some (.number (.ofNat options.verbose))

theorem Settings.areSpelledBy_of_ofOptions {options : Options} {settings : Settings}
    (made : ofOptions options = .ok settings) : settings.AreSpelledBy options := by
  obtain ⟨port, isPort, isSettings⟩ := Outcome.bind_eq_ok.1 made
  cases isSettings
  refine ⟨rfl, isPort, rfl, rfl, rfl, ?_, ?_, rfl⟩
  · cases asked : options.noCertCheck <;> rfl
  · cases asked : options.debug <;> rfl

/-! ## Checks of single fields -/

namespace ConfigField

/-- A check that passes exactly what fits, and refuses its own field otherwise. -/
structure Decides {α : Type} (field : ConfigField) (Fits : α → Prop)
    (outcome : Except ConfigurationError α) : Prop where
  passes (value : α) : outcome = .ok value ↔ Fits value
  refuses {error : ConfigurationError} :
    outcome = .error error → ∃ fault, error = .invalidField field fault

variable {α : Type} {field : ConfigField} {Fits : α → Prop}
  {outcome : Except ConfigurationError α}

theorem Decides.unfit (decides : field.Decides Fits outcome) {error : ConfigurationError}
    (refused : outcome = .error error) : ¬ ∃ value, Fits value := by
  rintro ⟨value, fits⟩
  have passed := (decides.passes value).2 fits
  rw [refused] at passed
  cases passed

theorem Decides.congr {Others : α → Prop} (decides : field.Decides Fits outcome)
    (same : ∀ value, Fits value ↔ Others value) : field.Decides Others outcome where
  passes value := (decides.passes value).trans (same value)
  refuses := decides.refuses

theorem decides_refuse (unfit : ∀ value, ¬ Fits value) (fault : FieldFault) :
    field.Decides Fits (field.refuse fault) where
  passes value := by
    constructor
    · intro passed
      cases passed
    · intro fits
      exact absurd fits (unfit value)
  refuses refused := ⟨fault, (Except.error.inj refused).symm⟩

theorem decides_ok {value : α} (fits : Fits value) (only : ∀ other, Fits other → other = value) :
    field.Decides Fits (.ok value) where
  passes other := by
    constructor
    · intro passed
      cases passed
      exact fits
    · intro otherFits
      rw [only other otherFits]
  refuses refused := by cases refused

theorem decides_nonempty (field : ConfigField) (text : String) :
    field.Decides (fun value => value = text ∧ text ≠ "") (field.nonempty (.text text)) := by
  have check : field.nonempty (.text text) =
      if text = "" then field.refuse .emptyText else .ok text := rfl
  rw [check]
  by_cases isEmpty : text = ""
  · rw [if_pos isEmpty]
    exact decides_refuse (fun value fits => fits.2 isEmpty) .emptyText
  · rw [if_neg isEmpty]
    exact decides_ok ⟨rfl, isEmpty⟩ fun value fits => fits.1

theorem decides_required (field : ConfigField) (missing : FieldFault) (given : Option String) :
    field.Decides (fun text => given = some text ∧ text ≠ "")
      (field.required missing (given.map .text)) := by
  cases given with
  | none => exact decides_refuse (fun text fits => by cases fits.1) missing
  | some given =>
    refine (decides_nonempty field given).congr fun text => ?_
    rw [Option.some.injEq]
    constructor
    · rintro ⟨rfl, nonempty⟩
      exact ⟨rfl, nonempty⟩
    · rintro ⟨rfl, nonempty⟩
      exact ⟨rfl, nonempty⟩

theorem decides_optional (field : ConfigField) (given : Option String) :
    field.Decides (fun result => result = given ∧ given ≠ some "")
      (field.optional (given.map .text)) := by
  cases given with
  | none =>
    have notEmpty : (none : Option String) ≠ some "" := by decide
    exact decides_ok ⟨rfl, notEmpty⟩ fun result fits => fits.1
  | some text =>
    have decides := decides_nonempty field text
    have check : field.optional ((some text).map .text) =
        some <$> field.nonempty (.text text) := rfl
    rw [check]
    refine ⟨fun result => ?_, fun refused => decides.refuses (Outcome.map_eq_error.1 refused)⟩
    rw [Outcome.map_eq_ok, ne_eq, Option.some.injEq]
    constructor
    · rintro ⟨value, passed, rfl⟩
      obtain ⟨rfl, nonempty⟩ := (decides.passes value).1 passed
      exact ⟨rfl, nonempty⟩
    · rintro ⟨rfl, nonempty⟩
      exact ⟨text, (decides.passes text).2 ⟨rfl, nonempty⟩, rfl⟩

/-- A whole number passes if it is in the range. -/
theorem decides_whole (field : ConfigField) (least : Nat) (greatest : Option Nat)
    (number : Number) :
    field.Decides
      (fun n : Nat => number.toInt? = some (n : Int) ∧ least ≤ n ∧ ∀ most ∈ greatest, n ≤ most)
      (field.whole least greatest number) := by
  unfold whole
  split
  · exact decides_refuse (fun n fits => by cases fits.1) _
  split
  · next noInt =>
    refine decides_refuse (fun n fits => ?_) _
    rw [noInt] at fits
    cases fits.1
  · next found isFound =>
    rw [isFound]
    by_cases below : found < least
    · rw [if_pos below]
      refine decides_refuse (fun n fits => ?_) _
      obtain ⟨isWhole, atLeast, _⟩ := fits
      have same : found = n := Option.some.inj isWhole
      omega
    rw [if_neg below]
    obtain ⟨n, rfl⟩ : ∃ n : Nat, found = n := ⟨found.toNat, by omega⟩
    rw [Int.toNat_natCast]
    split
    · next most above =>
      refine decides_refuse (fun other fits => ?_) _
      obtain ⟨isWhole, _, atMost⟩ := fits
      obtain ⟨isMost, exceeded⟩ := Option.filter_eq_some_iff.1 above
      have same : (n : Int) = other := Option.some.inj isWhole
      have bounded := atMost most isMost
      have beyond : most < n := of_decide_eq_true exceeded
      omega
    · next noneAbove =>
      have within : ∀ most ∈ greatest, n ≤ most := by
        intro most isMost
        have notBeyond := Option.filter_eq_none_iff.1 noneAbove most isMost
        rw [decide_eq_true_eq] at notBeyond
        omega
      refine decides_ok ⟨rfl, by omega, within⟩ fun other fits => ?_
      have same : (n : Int) = other := Option.some.inj fits.1
      omega

end ConfigField

namespace Config

/-- A verbosity that can be asked for passes as the whole number nearest to it. That is the verbosity
itself, unless both are large. -/
theorem exists_checkVerbosity_eq_ok {count : Nat} (small : count < 2 ^ 85) :
    ∃ whole : Nat, checkVerbosity (some (.number (.ofNat count))) = .ok whole ∧
      (Number.ofNat count).toInt? = some (whole : Int) ∧
      (whole = count ∨ binadeSize ≤ count ∧ binadeSize ≤ whole) := by
  have inRange : count.log2 < 1023 := by
    by_cases isZero : count = 0
    · rw [isZero]
      decide
    · have short : count.log2 < 85 := (Nat.log2_lt isZero).2 small
      omega
  obtain ⟨whole, isWhole, kept⟩ := Number.exists_toInt?_ofNat inRange
  have noMost : ∀ most ∈ (none : Option Nat), whole ≤ most := fun most isMost => by cases isMost
  refine ⟨whole, ?_, isWhole, kept⟩
  exact ((ConfigField.decides_whole .verbose 0 none _).passes whole).2
    ⟨isWhole, Nat.zero_le whole, noMost⟩

/-! ## Validation -/

/-- A configuration that holds what the check of each field comes to. -/
structure IsValidated (settings : Settings) (environment : Environment) (config : Config) :
    Prop where
  host : ConfigField.host.required .hostMissing settings.host = .ok config.host
  port : ConfigField.port.whole 1 (some 65535) (settings.port.getD (.ofNat defaultPort)) =
    .ok config.port
  token : ConfigField.token.required .tokenMissing settings.token = .ok config.token
  urlPrefix : ConfigField.urlPrefix.optional settings.urlPrefix = .ok config.urlPrefix
  pathPrefix : checkPathPrefix settings.pathPrefix = .ok config.pathPrefix
  noCertCheck : ConfigField.noCertCheck.switch settings.noCertCheck = .ok config.noCertCheck
  caFile : ConfigField.caFile.optional (environment.caBundle.filter Value.isGiven) =
    .ok config.caFile
  debug : ConfigField.debug.switch settings.debug = .ok config.debug
  verbose : checkVerbosity settings.verbose = .ok config.verbose

variable {settings : Settings} {environment : Environment} {config : Config}

theorem validate_eq_ok :
    validate settings environment = .ok config ↔ IsValidated settings environment config := by
  constructor
  · intro validated
    unfold validate at validated
    simp only [Outcome.bind_eq_ok] at validated
    obtain ⟨host, isHost, port, isPort, token, isToken, urlPrefix, isUrlPrefix, pathPrefix,
      isPathPrefix, noCertCheck, isNoCertCheck, caFile, isCaFile, debug, isDebug, verbose,
      isVerbose, isConfig⟩ := validated
    cases isConfig
    exact ⟨isHost, isPort, isToken, isUrlPrefix, isPathPrefix, isNoCertCheck, isCaFile, isDebug,
      isVerbose⟩
  · intro valid
    unfold validate
    simp only [valid.host, valid.port, valid.token, valid.urlPrefix, valid.pathPrefix,
      valid.noCertCheck, valid.caFile, valid.debug, valid.verbose, Outcome.ok_bind]
    rfl

theorem load_eq_ok {options : Options} :
    load options environment = .ok config ↔
      ∃ settings, Settings.ofOptions options = .ok settings ∧
        IsValidated settings environment config := by
  unfold load
  rw [Outcome.bind_eq_ok]
  simp only [Outcome.mapError_eq_ok, validate_eq_ok]

end Config

end ClusterAgent
