import ClusterAgent.Proofs.CommandLine.Words
import ClusterAgent.Proofs.Outcome
import Mathlib.Algebra.GroupWithZero.Nat
import Mathlib.Data.List.Induction

/-!
Contract: the command lines that are accepted, and what is told of the others.

A command line is accepted exactly if it can be split from the left into units of
which at most one is a positional argument. The options are then those that the
units spell. Otherwise it is refused where it cannot be split any further.

Owns: the grammar of command lines, the options that units spell, the first word
that no unit begins with.
Does not own: the words, and which options make a configuration.
-/

namespace ClusterAgent

open CommandUnit (IsWord Awaits)

/-- Argument lists that can be split into units, from the left. -/
inductive SplitsInto : List String → List CommandUnit → Prop where
  | nil : SplitsInto [] []
  | word {unit : CommandUnit} {text : String} {rest : List String} {units : List CommandUnit}
      (isWord : unit.IsWord text) (later : SplitsInto rest units) :
      SplitsInto (text :: rest) (unit :: units)
  | withValue {unit : String → CommandUnit} {flag : String} {rest : List String}
      {units : List CommandUnit} (awaits : Awaits flag unit) (value : String)
      (later : SplitsInto rest units) : SplitsInto (flag :: value :: rest) (unit value :: units)

namespace CommandUnit

def positional? : CommandUnit → Option String
  | .positional text => some text
  | _ => none

/-- The value that a unit gives an option. -/
def kept? (option : ValueOption) : CommandUnit → Option String
  | .keeps other value => if other = option then some value else none
  | _ => none

/-- How much detail a unit asks for. -/
def detail : CommandUnit → Nat
  | .verbose count => count
  | _ => 0

def positionals (units : List CommandUnit) : List String := units.filterMap positional?

def lastKept? (option : ValueOption) (units : List CommandUnit) : Option String :=
  (units.filterMap (kept? option)).getLast?

end CommandUnit

open CommandUnit (positionals lastKept? detail)

/-- The options that units spell: the last value of each option, the switches that occur, all the
detail that is asked for, and the positional argument as the host. -/
def Options.ofUnits (units : List CommandUnit) : Options where
  host := (positionals units).head?
  port := (lastKept? .port units).map .text
  token := (lastKept? .token units).map .text
  urlPrefix := (lastKept? .urlPrefix units).map .text
  pathPrefix := (lastKept? .pathPrefix units).map .text
  noCertCheck := .noCertCheck ∈ units
  debug := .debug ∈ units
  verbose := (units.map detail).sum
  help := .help ∈ units

/-- What stands where an argument list cannot be split any further, behind the given positional
arguments, and what is told. -/
inductive StopsAt (hosts : List String) : List String → ConfigurationError → Prop where
  | missingValue {unit : String → CommandUnit} {flag : String} (awaits : Awaits flag unit) :
      StopsAt hosts [flag] (.missingValue flag)
  | secondHost {text : String} (isWord : IsWord (.positional text) text) (given : hosts ≠ [])
      (rest : List String) : StopsAt hosts (text :: rest) (.unrecognized text)
  | refused {text : String} {error : ConfigurationError} (isRefused : IsRefusedWord text error)
      (rest : List String) : StopsAt hosts (text :: rest) error

/-! ## Splitting -/

theorem CommandUnit.positionals_cons (unit : CommandUnit) (units : List CommandUnit) :
    positionals (unit :: units) = unit.positional?.toList ++ positionals units := by
  unfold positionals
  rw [List.filterMap_cons]
  cases unit.positional? <;> rfl

theorem CommandUnit.positionals_append_singleton (units : List CommandUnit) (unit : CommandUnit) :
    positionals (units ++ [unit]) = positionals units ++ unit.positional?.toList := by
  unfold positionals
  rw [List.filterMap_append, List.filterMap_cons]
  cases unit.positional? <;> rfl

theorem length_le_of_append {hosts others : List String} {bound : Nat}
    (few : (hosts ++ others).length ≤ bound) : hosts.length ≤ bound :=
  Nat.le_trans (List.sublist_append_left hosts others).length_le few

theorem CommandUnit.positional?_of_awaits {flag : String} {unit : String → CommandUnit}
    (awaits : Awaits flag unit) (value : String) : (unit value).positional? = none := by
  cases awaits <;> rfl

/-- Either an argument list is split to its end with at most one host in all, or it is split up to
where it stops. -/
def SplitsOrStops (hosts arguments : List String) : Prop :=
  (∃ units, SplitsInto arguments units ∧ (hosts ++ positionals units).length ≤ 1) ∨
    ∃ front units rest error, arguments = front ++ rest ∧ SplitsInto front units ∧
      (hosts ++ positionals units).length ≤ 1 ∧ StopsAt (hosts ++ positionals units) rest error

namespace SplitsOrStops

variable {hosts rest : List String} {unit : CommandUnit}

theorem stop {arguments : List String} {error : ConfigurationError} (few : hosts.length ≤ 1)
    (stops : StopsAt hosts arguments error) : SplitsOrStops hosts arguments := by
  refine .inr ⟨[], [], arguments, error, rfl, .nil, ?_, ?_⟩
  · rwa [positionals, List.filterMap_nil, List.append_nil]
  · rwa [positionals, List.filterMap_nil, List.append_nil]

/-- A unit in front changes nothing but that it may be the host. -/
theorem after (first : List String)
    (splits : ∀ {later units}, SplitsInto later units → SplitsInto (first ++ later) (unit :: units))
    (ends : SplitsOrStops (hosts ++ unit.positional?.toList) rest) :
    SplitsOrStops hosts (first ++ rest) := by
  have same (units : List CommandUnit) : hosts ++ unit.positional?.toList ++ positionals units =
      hosts ++ positionals (unit :: units) := by
    rw [CommandUnit.positionals_cons, List.append_assoc]
  rcases ends with ⟨units, later, few⟩ | ⟨front, units, last, error, rfl, later, few, stops⟩
  · exact .inl ⟨unit :: units, splits later, same units ▸ few⟩
  · exact .inr ⟨first ++ front, unit :: units, last, error, (List.append_assoc ..).symm,
      splits later, same units ▸ few, same units ▸ stops⟩

end SplitsOrStops

theorem splitsOrStops (hosts : List String) (few : hosts.length ≤ 1) :
    (arguments : List String) → SplitsOrStops hosts arguments
  | [] => .inl ⟨[], .nil, (List.append_nil hosts).symm ▸ few⟩
  | text :: rest => by
    rcases exists_word text with ⟨unit, isWord⟩ | ⟨unit, awaits⟩ | ⟨error, isRefused⟩
    · by_cases fits : (hosts ++ unit.positional?.toList).length ≤ 1
      · exact .after [text] (.word isWord) (splitsOrStops _ fits rest)
      · -- Only a host can be one too many.
        cases isWord with
        | positional noDash notDropping =>
          have given : hosts ≠ [] := by
            rintro rfl
            exact fits (Nat.le_refl 1)
          exact .stop few (.secondHost (.positional noDash notDropping) given rest)
        | _ => exact absurd ((List.append_nil hosts).symm ▸ few) fits
    · match rest with
      | [] => exact .stop few (.missingValue awaits)
      | value :: rest =>
        have noHost := CommandUnit.positional?_of_awaits awaits value
        have fits : (hosts ++ (unit value).positional?.toList).length ≤ 1 := by
          rw [noHost]
          exact (List.append_nil hosts).symm ▸ few
        exact .after [text, value] (.withValue awaits value) (splitsOrStops _ fits rest)
    · exact .stop few (.refused isRefused rest)

/-! ## Reading -/

namespace Options

variable {options : Options}

/-- The options with what a unit asks for. -/
def take (options : Options) : CommandUnit → Options
  | .keeps option value => options.set option (.text value)
  | .drops _ _ => options
  | .noCertCheck => { options with noCertCheck := true }
  | .debug => { options with debug := true }
  | .verbose count => { options with verbose := options.verbose + count }
  | .help => { options with help := true }
  | .positional text => { options with host := some text }

theorem host_set (option : ValueOption) (value : Value) : (options.set option value).host = options.host := by
  cases option <;> rfl

theorem host_eq_none {text : String}
    (fits : (options.host.toList ++ (CommandUnit.positional text).positional?.toList).length ≤ 1) :
    options.host = none := by
  cases given : options.host with
  | none => rfl
  | some host => simp [given, CommandUnit.positional?] at fits

theorem toList_host_take {unit : CommandUnit}
    (fits : (options.host.toList ++ unit.positional?.toList).length ≤ 1) :
    (options.take unit).host.toList = options.host.toList ++ unit.positional?.toList := by
  cases unit with
  | positional text =>
    rw [host_eq_none fits]
    rfl
  | keeps option value =>
    rw [take, host_set]
    exact (List.append_nil _).symm
  | _ => exact (List.append_nil _).symm

theorem read_word {unit : CommandUnit} {text : String} (isWord : unit.IsWord text)
    (fits : (options.host.toList ++ unit.positional?.toList).length ≤ 1) :
    Progress.read ⟨options, none⟩ (.text text) = .ok ⟨options.take unit, none⟩ := by
  change (options.readNext (Argument.ofText text)).mapError _ = _
  cases isWord with
  | attached option value => rw [Argument.ofText_attached]; rfl
  | noCertCheck | debug | verbose | shortHelp | help => rfl
  | letters more => rw [Argument.ofText_letters]; rfl
  | positional noDash notDropping =>
    rw [Argument.ofText_positional noDash notDropping, readNext, if_pos (host_eq_none fits)]
    rfl

theorem read_flag (options : Options) {flag : String} {unit : String → CommandUnit}
    (awaits : Awaits flag unit) :
    ∃ keeps, Progress.read ⟨options, none⟩ (.text flag) = .ok ⟨options, some (flag, keeps)⟩ ∧
      ∀ value, options.keep keeps (.text value) = options.take (unit value) := by
  cases awaits with
  | option option =>
    refine ⟨some option, ?_, fun _ => rfl⟩
    change (options.readNext (Argument.ofText option.flag)).mapError _ = _
    rw [Argument.ofText_flag]
    rfl
  | dropping isDropping =>
    refine ⟨none, ?_, fun _ => rfl⟩
    change (options.readNext (Argument.ofText flag)).mapError _ = _
    rw [Argument.ofText_of_mem_droppingNames isDropping]
    rfl

/-- Units are read one after the other, as long as there is at most one host. -/
theorem foldlM_of_splitsInto {arguments : List String} {units : List CommandUnit}
    (splits : SplitsInto arguments units)
    (few : (options.host.toList ++ positionals units).length ≤ 1) :
    (arguments.map Value.text).foldlM Progress.read ⟨options, none⟩ =
      .ok ⟨units.foldl take options, none⟩ := by
  induction splits generalizing options with
  | nil => rfl
  | @word unit text rest units isWord _ inductionHypothesis =>
    rw [CommandUnit.positionals_cons, ← List.append_assoc] at few
    have fits : (options.host.toList ++ unit.positional?.toList).length ≤ 1 :=
      length_le_of_append few
    rw [List.map_cons, List.foldlM_cons, read_word isWord fits, Outcome.ok_bind,
      inductionHypothesis (toList_host_take fits ▸ few), List.foldl_cons]
  | @withValue unit flag rest units awaits value _ inductionHypothesis =>
    rw [CommandUnit.positionals_cons, ← List.append_assoc] at few
    have fits : (options.host.toList ++ (unit value).positional?.toList).length ≤ 1 :=
      length_le_of_append few
    obtain ⟨keeps, read, kept⟩ := read_flag options awaits
    rw [List.map_cons, List.map_cons, List.foldlM_cons, read, Outcome.ok_bind, List.foldlM_cons]
    change (List.foldlM Progress.read ⟨options.keep keeps (.text value), none⟩ _ :
      Except Failure Progress) = _
    rw [kept, inductionHypothesis (toList_host_take fits ▸ few), List.foldl_cons]

/-- Where an argument list stops, reading it stops with what is told there. -/
theorem foldlM_of_stopsAt {rest : List String} {error : ConfigurationError}
    (stops : StopsAt options.host.toList rest error) :
    (rest.map Value.text).foldlM Progress.read ⟨options, none⟩ >>= Progress.finish =
      .error (.configuration error) := by
  cases stops with
  | missingValue awaits =>
    obtain ⟨keeps, read, _⟩ := read_flag options awaits
    rw [List.map_singleton, List.foldlM_cons, read]
    rfl
  | @secondHost text isWord given rest =>
    cases isWord with
    | positional noDash notDropping =>
    have taken : options.host ≠ none := by
      intro free
      rw [free] at given
      exact given rfl
    have read : Progress.read ⟨options, none⟩ (.text text) =
        .error (.configuration (.unrecognized text)) := by
      change (options.readNext (Argument.ofText text)).mapError _ = _
      rw [Argument.ofText_positional noDash notDropping, readNext, if_neg taken]
      rfl
    rw [List.map_cons, List.foldlM_cons, read]
    rfl
  | @refused text error isRefused rest =>
    have read : Progress.read ⟨options, none⟩ (.text text) = .error (.configuration error) := by
      change (options.readNext (Argument.ofText text)).mapError _ = _
      rw [Argument.ofText_of_isRefusedWord isRefused]
      rfl
    rw [List.map_cons, List.foldlM_cons, read]
    rfl

/-! ## What units come to -/

theorem ofUnits_append_singleton {units : List CommandUnit} {unit : CommandUnit}
    (fits : (positionals units ++ unit.positional?.toList).length ≤ 1) :
    ofUnits (units ++ [unit]) = (ofUnits units).take unit := by
  unfold ofUnits
  rw [CommandUnit.positionals_append_singleton]
  cases unit with
  | positional text =>
    have free : positionals units = [] := by
      simpa [CommandUnit.positional?] using fits
    simp [take, lastKept?, CommandUnit.kept?, detail, CommandUnit.positional?, free]
  | keeps option value =>
    cases option <;>
      simp [take, set, lastKept?, CommandUnit.kept?, detail, CommandUnit.positional?]
  | _ => simp [take, lastKept?, CommandUnit.kept?, detail, CommandUnit.positional?]

/-- Taking units one after the other comes to what they spell together. -/
theorem foldl_take {units : List CommandUnit} (few : (positionals units).length ≤ 1) :
    units.foldl take empty = ofUnits units := by
  induction units using List.reverseRecOn with
  | nil => rfl
  | append_singleton units unit inductionHypothesis =>
    rw [CommandUnit.positionals_append_singleton] at few
    rw [List.foldl_append, List.foldl_cons, List.foldl_nil,
      inductionHypothesis (length_le_of_append few), ofUnits_append_singleton few]

theorem toList_host_ofUnits {units : List CommandUnit} (few : (positionals units).length ≤ 1) :
    (ofUnits units).host.toList = positionals units := by
  change (positionals units).head?.toList = positionals units
  match isList : positionals units with
  | [] => rfl
  | [host] => rfl
  | host :: other :: rest => simp [isList] at few

theorem foldlM_empty_of_splitsInto {arguments : List String} {units : List CommandUnit}
    (splits : SplitsInto arguments units) (few : (positionals units).length ≤ 1) :
    (arguments.map Value.text).foldlM Progress.read ⟨empty, none⟩ = .ok ⟨ofUnits units, none⟩ := by
  rw [← foldl_take few]
  exact foldlM_of_splitsInto splits few

theorem parse_of_splitsInto {arguments : List String} {units : List CommandUnit}
    (splits : SplitsInto arguments units) (few : (positionals units).length ≤ 1) :
    parse (arguments.map .text) = .ok (ofUnits units) := by
  rw [parse, foldlM_empty_of_splitsInto splits few]
  rfl

theorem parse_of_stopsAt {front rest : List String} {units : List CommandUnit}
    {error : ConfigurationError} (splits : SplitsInto front units)
    (few : (positionals units).length ≤ 1) (stops : StopsAt (positionals units) rest error) :
    parse ((front ++ rest).map .text) = .error (.configuration error) := by
  rw [← toList_host_ofUnits few] at stops
  rw [parse, List.map_append, List.foldlM_append, foldlM_empty_of_splitsInto splits few,
    Outcome.ok_bind]
  exact foldlM_of_stopsAt stops

/-- Options that are read are those that the units of the argument list spell. -/
theorem exists_units_of_parse {arguments : List String} {options : Options}
    (parsed : parse (arguments.map .text) = .ok options) :
    ∃ units, SplitsInto arguments units ∧ (positionals units).length ≤ 1 ∧
      options = ofUnits units := by
  rcases splitsOrStops [] (by decide) arguments with
    ⟨units, splits, few⟩ | ⟨front, units, rest, error, rfl, splits, few, stops⟩
  · rw [parse_of_splitsInto splits few] at parsed
    exact ⟨units, splits, few, (Except.ok.inj parsed).symm⟩
  · rw [parse_of_stopsAt splits few stops] at parsed
    cases parsed

/-- An argument list is accepted exactly if it can be split into units of which at most one is a
positional argument, and the options are those that the units spell. Every other argument list can
be split up to a place where no unit begins, or a second host, and is refused with what is told
there, whatever follows. -/
theorem parse_accepts_grammar :
    (∀ (arguments : List String) (options : Options),
      parse (arguments.map .text) = .ok options ↔
        ∃ units, SplitsInto arguments units ∧ (positionals units).length ≤ 1 ∧
          options = ofUnits units) ∧
      ∀ arguments : List String,
        (¬ ∃ units, SplitsInto arguments units ∧ (positionals units).length ≤ 1) →
          ∃ front units rest error, arguments = front ++ rest ∧ SplitsInto front units ∧
            (positionals units).length ≤ 1 ∧ StopsAt (positionals units) rest error ∧
            parse (arguments.map .text) = .error (.configuration error) := by
  constructor
  · intro arguments options
    constructor
    · exact exists_units_of_parse
    · rintro ⟨units, splits, few, rfl⟩
      exact parse_of_splitsInto splits few
  · intro arguments outside
    rcases splitsOrStops [] (by decide) arguments with
      ⟨units, splits, few⟩ | ⟨front, units, rest, error, rfl, splits, few, stops⟩
    · exact absurd ⟨units, splits, few⟩ outside
    · exact ⟨front, units, rest, error, rfl, splits, few, stops, parse_of_stopsAt splits few stops⟩

/-- Flags that are the value of a flag, values with equals signs and without characters, a name that
drops its value, and an empty host. -/
def crossedArguments : List String :=
  ["--token", "--port", "-vv", "toString", "--debug", "--port=", "", "--port=6=4", "-h", "--verbose"]

theorem splitsInto_crossedArguments :
    SplitsInto crossedArguments
      [.keeps .token "--port", .verbose 2, .drops "toString" "--debug", .keeps .port "",
        .positional "", .keeps .port "6=4", .help, .verbose 1] :=
  .withValue (.option .token) "--port" <| .word (.letters 1) <|
    .withValue (.dropping (by decide)) "--debug" <| .word (.attached .port "") <|
      .word (.positional (by decide) (by decide)) <| .word (.attached .port "6=4") <|
        .word .shortHelp <| .word .verbose .nil

theorem parse_accepts_grammar_of_crossedArguments :
    parse (crossedArguments.map .text) =
        .ok ⟨some "", some (.text "6=4"), some (.text "--port"), none, none, false, false, 3, true⟩ ∧
      ∃ front units rest error, crossedArguments ++ ["--token"] = front ++ rest ∧
        SplitsInto front units ∧ (positionals units).length ≤ 1 ∧
        StopsAt (positionals units) rest error ∧
        parse ((crossedArguments ++ ["--token"]).map .text) = .error (.configuration error) := by
  obtain ⟨accepts, refuses⟩ := parse_accepts_grammar
  constructor
  · exact (accepts _ _).2 ⟨_, splitsInto_crossedArguments, by decide, by decide⟩
  · apply refuses
    rintro ⟨units, splits, few⟩
    have parsed := (accepts _ _).2 ⟨units, splits, few, rfl⟩
    have failed : ¬ (parse ((crossedArguments ++ ["--token"]).map .text)).isOk := by decide
    rw [parsed] at failed
    exact failed rfl

end Options

end ClusterAgent
