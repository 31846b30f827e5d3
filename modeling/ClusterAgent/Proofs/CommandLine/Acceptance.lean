import ClusterAgent.Proofs.CommandLine.Grammar
import ClusterAgent.Proofs.CommandLine.Numerals
import ClusterAgent.Proofs.CommandLine.Prefixes
import ClusterAgent.Proofs.CommandLine.Validation
import ClusterAgent.Proofs.Run.Detail

/-!
Contract: which options of a command line make a configuration, and which one.

A host and a token have to be given, and neither they nor the prefix of the
address may be empty. A port, if there is one, has to be written as a whole number
from 1 to 65535. Everything else about options that were read is accepted.

Owns: options that suit each field, what a configuration is made of, the field
that is told where one does not suit.
Does not own: which options a command line spells, which texts spell a number.
-/

namespace ClusterAgent

/-- A text that is written as the number of a port. -/
structure IsPort (text : String) (port : Nat) : Prop where
  spells : Numeral.Spells (trimBlanks text.toList) (.ofNat port)
  positive : 1 ≤ port
  small : port ≤ 65535

theorem isPort_iff {text : String} {port : Nat} :
    IsPort text port ↔
      (Numeral.read text).toInt? = some (port : Int) ∧ 1 ≤ port ∧ port ≤ 65535 := by
  have isExact (small : port ≤ 65535) : (Number.ofNat port).toInt? = some (port : Int) :=
    Number.toInt?_ofNat_of_lt (by omega)
  have isNumber (small : port ≤ 65535) : Number.ofNat port ≠ .nan := by
    intro isNan
    have whole := isExact small
    rw [isNan] at whole
    cases whole
  constructor
  · rintro ⟨spells, positive, small⟩
    rw [(Numeral.read_eq_iff (isNumber small)).2 spells]
    exact ⟨isExact small, positive, small⟩
  · rintro ⟨isWhole, positive, small⟩
    have isRead := Number.eq_ofNat_of_toInt? positive isWhole
    exact ⟨(Numeral.read_eq_iff (isNumber small)).1 isRead, positive, small⟩

/-- A text is written as one port at most. -/
theorem IsPort.unique {text : String} {port other : Nat} (isPort : IsPort text port)
    (isOther : IsPort text other) : port = other := by
  have same := (isPort_iff.1 isPort).1.symm.trans (isPort_iff.1 isOther).1
  exact_mod_cast Option.some.inj same

namespace Options

/-- The port that options ask for, if there is a right one. -/
def AsksForPort (options : Options) (port : Nat) : Prop :=
  (options.port = none ∧ port = 443) ∨
    ∃ text, options.port = some (.text text) ∧ IsPort text port

/-- Whether options have what a field of the configuration needs. -/
def Suits (options : Options) : ConfigField → Prop
  | .host => ∃ host, options.host = some host ∧ host ≠ ""
  | .port => ∃ port, options.AsksForPort port
  | .token => ∃ token, options.token = some (.text token) ∧ token ≠ ""
  | .urlPrefix => options.urlPrefix ≠ some (.text "")
  | _ => True

/-- The fields that options may not suit, in the order in which they are looked at. -/
def fieldsInOrder : List ConfigField := [.host, .port, .token, .urlPrefix]

/-- The first field that options do not suit. -/
def FirstUnsuited (options : Options) (field : ConfigField) : Prop :=
  ∃ before after, fieldsInOrder = before ++ field :: after ∧
    (∀ earlier ∈ before, options.Suits earlier) ∧ ¬ options.Suits field

open Classical in
theorem FirstUnsuited.unique {options : Options} {field other : ConfigField}
    (first : options.FirstUnsuited field) (firstOther : options.FirstUnsuited other) :
    field = other := by
  have found {field : ConfigField} (first : options.FirstUnsuited field) :
      fieldsInOrder.find? (fun field => ¬ options.Suits field) = some field := by
    obtain ⟨before, after, isOrder, suited, unsuited⟩ := first
    refine List.find?_eq_some_iff_append.2 ⟨decide_eq_true unsuited, before, after, isOrder, ?_⟩
    intro earlier isBefore
    simpa using suited earlier isBefore
  exact Option.some.inj ((found first).symm.trans (found firstOther))

/-- Options whose values are texts. -/
structure HaveTexts (options : Options) : Prop where
  port : ∃ given : Option String, options.port = given.map .text
  token : ∃ given : Option String, options.token = given.map .text
  urlPrefix : ∃ given : Option String, options.urlPrefix = given.map .text
  pathPrefix : ∃ given : Option String, options.pathPrefix = given.map .text

theorem haveTexts_of_parse {texts : List String} {options : Options}
    (parsed : parse (texts.map .text) = .ok options) : options.HaveTexts := by
  obtain ⟨units, -, -, rfl⟩ := exists_units_of_parse parsed
  exact ⟨⟨_, rfl⟩, ⟨_, rfl⟩, ⟨_, rfl⟩, ⟨_, rfl⟩⟩

end Options

/-- A configuration that holds what options and the environment give. A verbosity is the whole number
nearest to the one that was asked for. -/
structure Config.IsMadeOf (options : Options) (bundle : Option String) (config : Config) : Prop where
  host : options.host = some config.host
  port : options.AsksForPort config.port
  token : options.token = some (.text config.token)
  urlPrefix : options.urlPrefix = config.urlPrefix.map .text
  pathPrefix : (options.pathPrefix = none ∧ config.pathPrefix = "") ∨
    ∃ path, options.pathPrefix = some (.text path) ∧
      config.pathPrefix = normalizePathPrefix path
  noCertCheck : config.noCertCheck = options.noCertCheck
  caFile : config.caFile = bundle.filter (· ≠ "")
  debug : config.debug = options.debug
  verbose : (Number.ofNat options.verbose).toInt? = some (config.verbose : Int)
  verbose_eq : options.verbose < 2 ^ 53 → config.verbose = options.verbose

/-! ## Checks -/

section Checks

variable {options : Options} {settings : Settings} (spelled : settings.AreSpelledBy options)

include spelled

theorem decides_host :
    ConfigField.host.Decides (fun host => options.host = some host ∧ host ≠ "")
      (ConfigField.host.required .hostMissing settings.host) := by
  rw [spelled.host]
  exact ConfigField.decides_required _ _ _

theorem decides_port (haveTexts : options.HaveTexts) :
    ConfigField.port.Decides options.AsksForPort
      (ConfigField.port.whole 1 (some 65535) (settings.port.getD (.ofNat Config.defaultPort))) := by
  obtain ⟨given, isGiven⟩ := haveTexts.port
  have isPort : settings.port = given.map Numeral.read := by
    have read := spelled.port
    rw [isGiven] at read
    cases given with
    | none => exact (Except.ok.inj read).symm
    | some text => exact (Except.ok.inj read).symm
  refine (ConfigField.decides_whole _ _ _ _).congr fun port => ?_
  rw [isPort]
  unfold Options.AsksForPort
  rw [isGiven]
  cases given with
  | none =>
    rw [Option.map_none, Option.map_none, Option.getD_none,
      Number.toInt?_ofNat_of_lt (by decide), Option.some.injEq]
    constructor
    · rintro ⟨isDefault, -, -⟩
      exact .inl ⟨rfl, by unfold Config.defaultPort at isDefault; omega⟩
    · rintro (⟨-, rfl⟩ | ⟨text, given, -⟩)
      · exact ⟨rfl, by decide, by decide⟩
      · cases given
  | some text =>
    rw [Option.map_some, Option.map_some, Option.getD_some]
    have inRange : (∀ most ∈ some 65535, port ≤ most) ↔ port ≤ 65535 := by simp
    rw [inRange, ← isPort_iff]
    constructor
    · intro isPort
      exact .inr ⟨text, rfl, isPort⟩
    · rintro (⟨missing, -⟩ | ⟨other, same, isPort⟩)
      · cases missing
      · cases same
        exact isPort

theorem decides_token (haveTexts : options.HaveTexts) :
    ConfigField.token.Decides (fun token => options.token = some (.text token) ∧ token ≠ "")
      (ConfigField.token.required .tokenMissing settings.token) := by
  obtain ⟨given, isGiven⟩ := haveTexts.token
  rw [spelled.token, isGiven]
  refine (ConfigField.decides_required _ _ _).congr fun token => ?_
  cases given <;> simp

theorem decides_urlPrefix (haveTexts : options.HaveTexts) :
    ConfigField.urlPrefix.Decides
      (fun url => options.urlPrefix = url.map .text ∧ options.urlPrefix ≠ some (.text ""))
      (ConfigField.urlPrefix.optional settings.urlPrefix) := by
  obtain ⟨given, isGiven⟩ := haveTexts.urlPrefix
  rw [spelled.urlPrefix, isGiven]
  refine (ConfigField.decides_optional _ _).congr fun url => ?_
  cases given <;> cases url <;> simp [eq_comm]

theorem exists_checkPathPrefix (haveTexts : options.HaveTexts) :
    ∃ path, Config.checkPathPrefix settings.pathPrefix = .ok path := by
  obtain ⟨given, isGiven⟩ := haveTexts.pathPrefix
  rw [spelled.pathPrefix, isGiven]
  cases given with
  | none => exact ⟨_, rfl⟩
  | some path => exact ⟨_, rfl⟩

end Checks

/-- A bundle of certificates counts if its name is not empty. -/
theorem optional_caBundle (bundle : Option String) :
    ConfigField.caFile.optional ((bundle.map Value.text).filter Value.isGiven) =
      .ok (bundle.filter (· ≠ "")) := by
  have isFiltered : (bundle.map Value.text).filter Value.isGiven =
      (bundle.filter (· ≠ "")).map .text := by
    cases bundle with
    | none => rfl
    | some name => by_cases isEmpty : name = "" <;> simp [Option.filter, Value.isGiven, isEmpty]
  have notEmpty : bundle.filter (· ≠ "") ≠ some "" := by
    intro isEmpty
    have nonempty := (Option.filter_eq_some_iff.1 isEmpty).2
    exact of_decide_eq_true nonempty rfl
  rw [isFiltered]
  exact ((ConfigField.decides_optional .caFile _).passes _).2 ⟨rfl, notEmpty⟩

namespace Config

variable {options : Options} {settings : Settings} {bundle : Option String}

/-- What is loaded is made of options that suit every field. -/
theorem isMadeOf_of_load (haveTexts : options.HaveTexts) (small : options.verbose < 2 ^ 85)
    {config : Config} (loaded : load options ⟨bundle.map .text⟩ = .ok config) :
    IsMadeOf options bundle config ∧ ∀ field, options.Suits field := by
  obtain ⟨settings, made, valid⟩ := load_eq_ok.1 loaded
  have spelled := Settings.areSpelledBy_of_ofOptions made
  obtain ⟨isHost, hostNonempty⟩ := ((decides_host spelled).passes _).1 valid.host
  have isPort := ((decides_port spelled haveTexts).passes _).1 valid.port
  obtain ⟨isToken, tokenNonempty⟩ := ((decides_token spelled haveTexts).passes _).1 valid.token
  obtain ⟨isUrl, urlNonempty⟩ := ((decides_urlPrefix spelled haveTexts).passes _).1 valid.urlPrefix
  obtain ⟨whole, verbosePasses, isWhole, kept⟩ := exists_checkVerbosity_eq_ok small
  have isNoCertCheck := valid.noCertCheck.symm.trans spelled.noCertCheck
  have isCaFile := valid.caFile.symm.trans (optional_caBundle bundle)
  have isDebug := valid.debug.symm.trans spelled.debug
  have isVerbose := valid.verbose
  rw [spelled.verbose, verbosePasses, Except.ok.injEq] at isVerbose
  subst isVerbose
  constructor
  · refine ⟨isHost, isPort, isToken, isUrl, pathPrefix_of_load loaded,
      Except.ok.inj isNoCertCheck, Except.ok.inj isCaFile, Except.ok.inj isDebug, isWhole, ?_⟩
    intro short
    rw [Number.toInt?_ofNat_of_lt short, Option.some.injEq] at isWhole
    omega
  · intro field
    cases field with
    | host => exact ⟨config.host, isHost, hostNonempty⟩
    | port => exact ⟨config.port, isPort⟩
    | token => exact ⟨config.token, isToken, tokenNonempty⟩
    | urlPrefix => exact urlNonempty
    | _ => trivial

/-- What is told where the validation fails is the first field that the options do not suit. -/
theorem exists_firstUnsuited_of_validate (haveTexts : options.HaveTexts)
    (small : options.verbose < 2 ^ 85) (spelled : settings.AreSpelledBy options)
    {error : ConfigurationError}
    (refused : validate settings ⟨bundle.map .text⟩ = .error error) :
    ∃ field fault, error = .invalidField field fault ∧ options.FirstUnsuited field := by
  obtain ⟨path, pathPasses⟩ := exists_checkPathPrefix spelled haveTexts
  obtain ⟨whole, verbosePasses, -, -⟩ := exists_checkVerbosity_eq_ok small
  rw [← spelled.verbose] at verbosePasses
  have hostCheck := decides_host spelled
  have portCheck := decides_port spelled haveTexts
  have tokenCheck := decides_token spelled haveTexts
  have urlCheck := decides_urlPrefix spelled haveTexts
  unfold validate at refused
  -- Only the first four checks can fail.
  simp only [pathPasses, spelled.noCertCheck, optional_caBundle, spelled.debug, verbosePasses,
    Outcome.ok_bind, Outcome.bind_eq_error] at refused
  rcases refused with refused | ⟨host, hostPasses, refused⟩
  · obtain ⟨fault, rfl⟩ := hostCheck.refuses refused
    exact ⟨.host, fault, rfl, [], _, rfl, by simp, hostCheck.unfit refused⟩
  have hostSuits : options.Suits .host := ⟨host, (hostCheck.passes host).1 hostPasses⟩
  rcases refused with refused | ⟨port, portPasses, refused⟩
  · obtain ⟨fault, rfl⟩ := portCheck.refuses refused
    exact ⟨.port, fault, rfl, [.host], _, rfl, by simpa using hostSuits, portCheck.unfit refused⟩
  have portSuits : options.Suits .port := ⟨port, (portCheck.passes port).1 portPasses⟩
  rcases refused with refused | ⟨token, tokenPasses, refused⟩
  · obtain ⟨fault, rfl⟩ := tokenCheck.refuses refused
    exact ⟨.token, fault, rfl, [.host, .port], _, rfl, by simpa using ⟨hostSuits, portSuits⟩,
      tokenCheck.unfit refused⟩
  have tokenSuits : options.Suits .token := ⟨token, (tokenCheck.passes token).1 tokenPasses⟩
  rcases refused with refused | ⟨url, urlPasses, impossible⟩
  · obtain ⟨fault, rfl⟩ := urlCheck.refuses refused
    refine ⟨.urlPrefix, fault, rfl, [.host, .port, .token], _, rfl,
      by simpa using ⟨hostSuits, portSuits, tokenSuits⟩, fun nonempty => ?_⟩
    obtain ⟨given, isGiven⟩ := haveTexts.urlPrefix
    exact urlCheck.unfit refused ⟨given, isGiven, nonempty⟩
  · cases impossible

theorem exists_ofOptions (haveTexts : options.HaveTexts) :
    ∃ settings, Settings.ofOptions options = .ok settings := by
  obtain ⟨given, isGiven⟩ := haveTexts.port
  obtain ⟨port, isRead⟩ : ∃ port, options.port.mapM Numeral.readValue = .ok port := by
    rw [isGiven]
    cases given with
    | none => exact ⟨none, rfl⟩
    | some text => exact ⟨some (Numeral.read text), rfl⟩
  exact ⟨_, Outcome.bind_eq_ok.2 ⟨port, isRead, rfl⟩⟩

theorem exists_firstUnsuited_of_load (haveTexts : options.HaveTexts)
    (small : options.verbose < 2 ^ 85) {failure : Failure}
    (failed : load options ⟨bundle.map .text⟩ = .error failure) :
    ∃ field fault, failure = .configuration (.invalidField field fault) ∧
      options.FirstUnsuited field := by
  obtain ⟨settings, made⟩ := exists_ofOptions haveTexts
  unfold load at failed
  rw [made, Outcome.mapError_ok, Outcome.ok_bind, Outcome.mapError_eq_error] at failed
  obtain ⟨error, refused, rfl⟩ := failed
  obtain ⟨field, fault, rfl, first⟩ :=
    exists_firstUnsuited_of_validate haveTexts small (Settings.areSpelledBy_of_ofOptions made) refused
  exact ⟨field, fault, rfl, first⟩

/-- Options that a command line spells make a configuration exactly if they suit every field, and it
is made of them. Otherwise the message begins with the name of the first field that they do not
suit. -/
theorem load_accepts_suitable_options {texts : List String} (given : CanBeGiven (texts.map .text))
    {options : Options} (parsed : Options.parse (texts.map .text) = .ok options)
    (bundle : Option String) :
    ((∃ config, load options ⟨bundle.map .text⟩ = .ok config) ↔
        ∀ field, options.Suits field) ∧
      (∀ config, load options ⟨bundle.map .text⟩ = .ok config → IsMadeOf options bundle config) ∧
      ∀ failure, load options ⟨bundle.map .text⟩ = .error failure →
        ∃ field fault, failure = .configuration (.invalidField field fault) ∧
          failure.message? = some (field.name ++ ": " ++ fault.message) ∧
          options.FirstUnsuited field := by
  have haveTexts := Options.haveTexts_of_parse parsed
  have small := Options.verbose_lt_of_parse given parsed
  refine ⟨⟨?_, fun suits => ?_⟩, ?_, ?_⟩
  · rintro ⟨config, loaded⟩
    exact (isMadeOf_of_load haveTexts small loaded).2
  · cases loading : load options ⟨bundle.map .text⟩ with
    | ok config => exact ⟨config, rfl⟩
    | error failure =>
      obtain ⟨field, _, _, _, _, _, _, unsuited⟩ :=
        exists_firstUnsuited_of_load haveTexts small loading
      exact absurd (suits field) unsuited
  · intro config loaded
    exact (isMadeOf_of_load haveTexts small loaded).1
  · intro failure failed
    obtain ⟨field, fault, rfl, first⟩ := exists_firstUnsuited_of_load haveTexts small failed
    exact ⟨field, fault, rfl, rfl, first⟩

/-- Two switches of detail, and a port in the base sixteen between blanks. -/
def blankPortArguments : List String := ["host", "--token=secret", "--port", " 0x1bB ", "-vv"]

/-- No host, an empty token, and a port that is too large by one. -/
def hostlessArguments : List String := ["--token=", "--port=65536"]

theorem load_accepts_suitable_options_of_ports :
    (∃ options config, Options.parse (blankPortArguments.map .text) = .ok options ∧
        load options ⟨some (.text "")⟩ = .ok config ∧ config.port = 443 ∧ config.verbose = 2 ∧
          config.caFile = none) ∧
      ∃ options failure fault, Options.parse (hostlessArguments.map .text) = .ok options ∧
        load options ⟨none⟩ = .error failure ∧
        failure.message? = some ("host: " ++ FieldFault.message fault) := by
  constructor
  · have given : CanBeGiven (blankPortArguments.map .text) :=
      canBeGiven_map_text (by decide) (by decide)
    have parsed : Options.parse (blankPortArguments.map .text) =
        .ok ⟨some "host", some (.text " 0x1bB "), some (.text "secret"), none, none, false, false,
          2, false⟩ := rfl
    obtain ⟨accepts, isMadeOf, -⟩ := load_accepts_suitable_options given parsed (some "")
    have isPort : IsPort " 0x1bB " 443 := by
      refine ⟨?_, by decide, by decide⟩
      have trimmed : trimBlanks " 0x1bB ".toList = ['0', 'x', '1', 'b', 'B'] := by decide
      have first : Numeral.AreDigits 16 ['1'] 1 := .single (by decide) (by decide)
      have second : Numeral.AreDigits 16 (['1'] ++ ['b']) (1 * 16 + 11) :=
        .append first (by decide) (by decide)
      have areDigits : Numeral.AreDigits 16 (['1'] ++ ['b'] ++ ['B']) ((1 * 16 + 11) * 16 + 11) :=
        .append second (by decide) (by decide)
      rw [trimmed]
      exact .based (.sixteen (.inl rfl)) areDigits
    obtain ⟨config, loaded⟩ := accepts.2 fun field => by
      cases field with
      | host => exact ⟨"host", rfl, by decide⟩
      | port => exact ⟨443, .inr ⟨" 0x1bB ", rfl, isPort⟩⟩
      | token => exact ⟨"secret", rfl, by decide⟩
      | urlPrefix => exact nofun
      | _ => trivial
    have made := isMadeOf config loaded
    refine ⟨_, config, parsed, loaded, ?_, made.verbose_eq (by decide), made.caFile⟩
    rcases made.port with ⟨missing, _⟩ | ⟨text, same, isOther⟩
    · cases missing
    · cases same
      exact isOther.unique isPort
  · have given : CanBeGiven (hostlessArguments.map .text) :=
      canBeGiven_map_text (by decide) (by decide)
    have parsed : Options.parse (hostlessArguments.map .text) =
        .ok ⟨none, some (.text "65536"), some (.text ""), none, none, false, false, 0, false⟩ := rfl
    obtain ⟨accepts, -, refuses⟩ := load_accepts_suitable_options given parsed none
    have hostMissing : ¬ Options.Suits
        ⟨none, some (.text "65536"), some (.text ""), none, none, false, false, 0, false⟩ .host := by
      rintro ⟨host, isHost, _⟩
      cases isHost
    obtain ⟨failure, failed⟩ := Outcome.exists_error_of_not_ok fun loads =>
      hostMissing (accepts.1 loads .host)
    obtain ⟨field, fault, -, told, first⟩ := refuses failure failed
    have isHost : field = .host :=
      first.unique ⟨[], _, rfl, fun _ => nofun, hostMissing⟩
    rw [isHost] at told
    exact ⟨_, failure, fault, parsed, failed, told⟩

end Config

end ClusterAgent
