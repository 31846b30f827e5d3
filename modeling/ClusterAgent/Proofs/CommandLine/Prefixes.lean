import ClusterAgent.Proofs.CommandLine.Validation
import Mathlib.Data.List.DropRight

/-!
Contract: path prefixes, and addresses that end in one.

A path prefix is put behind one slash, without the slashes at its own two ends.
Slashes inside it stay. A text of nothing but slashes is not meant as a prefix,
yet one slash is left of it, at the end of the address as well.

Owns: what stands between the slashes of a text, the form of path prefixes, how
addresses end.
Does not own: the other fields of a configuration.
-/

namespace ClusterAgent.Config

/-- A text of slashes only. The empty text is one. -/
def AreSlashes (text : List Char) : Prop := ∀ c ∈ text, c = '/'

instance : DecidablePred AreSlashes := fun text => List.decidableBAll (· = '/') text

/-- A text and what stands between the slashes at its two ends. -/
inductive HasCore : List Char → List Char → Prop where
  | intro {leading core trailing : List Char} (opens : AreSlashes leading)
      (first : core.head? ≠ some '/') (last : core.getLast? ≠ some '/')
      (closes : AreSlashes trailing) : HasCore (leading ++ (core ++ trailing)) core

/-- What a path prefix is meant to be: nothing, or a text with exactly one slash in front and none
at the end. -/
def IsNormalPrefix (text : List Char) : Prop :=
  text = [] ∨
    (∃ rest, text = '/' :: rest ∧ rest.head? ≠ some '/') ∧ text.getLast? ≠ some '/'

/-! ## Slashes at the ends of a text -/

theorem dropWhile_slashes_append {slashes : List Char} (areSlashes : AreSlashes slashes)
    (rest : List Char) :
    (slashes ++ rest).dropWhile (· = '/') = rest.dropWhile (· = '/') :=
  List.dropWhile_append_of_pos fun c member => decide_eq_true (areSlashes c member)

theorem dropWhile_slash_of_head? {text : List Char} (first : text.head? ≠ some '/') :
    text.dropWhile (· = '/') = text := by
  cases text with
  | nil => rfl
  | cons c rest =>
    apply List.dropWhile_cons_of_neg
    rw [decide_eq_true_eq]
    rintro rfl
    exact first rfl

/-- What is left when the slashes at both ends are removed. -/
theorem HasCore.dropWhile_eq {path core : List Char} (hasCore : HasCore path core) :
    ((path.dropWhile (· = '/')).reverse.dropWhile (· = '/')).reverse = core := by
  cases hasCore with
  | @intro leading core trailing opens first last closes =>
    have closesReversed : AreSlashes trailing.reverse :=
      fun c member => closes c (List.mem_reverse.1 member)
    rw [dropWhile_slashes_append opens]
    cases core with
    | nil =>
      -- With nothing between them, the slashes of both ends are one run.
      have allDropped : trailing.dropWhile (· = '/') = [] := by
        rw [List.dropWhile_eq_nil_iff]
        exact fun c member => decide_eq_true (closes c member)
      rw [List.nil_append, allDropped]
      rfl
    | cons c rest =>
      have firstStays : (c :: rest ++ trailing).head? ≠ some '/' := first
      have lastStays : (c :: rest).reverse.head? ≠ some '/' := by
        rw [List.head?_reverse]
        exact last
      rw [dropWhile_slash_of_head? firstStays, List.reverse_append,
        dropWhile_slashes_append closesReversed, dropWhile_slash_of_head? lastStays,
        List.reverse_reverse]

theorem head?_dropWhile_slash (text : List Char) :
    (text.dropWhile (· = '/')).head? ≠ some '/' := by
  have stops := List.head?_dropWhile_not (· = '/') text
  intro isSlash
  rw [isSlash] at stops
  exact absurd stops (by decide)

theorem exists_hasCore (path : List Char) : ∃ core, HasCore path core := by
  let rest := path.dropWhile (· = '/')
  let core := rest.rdropWhile (· = '/')
  have split : rest = core ++ rest.rtakeWhile (· = '/') := List.rdropWhile_append_rtakeWhile.symm
  have opens : AreSlashes (path.takeWhile (· = '/')) := by
    intro c member
    simpa using List.mem_takeWhile_imp member
  have closes : AreSlashes (rest.rtakeWhile (· = '/')) := by
    intro c member
    simpa using List.mem_rtakeWhile_imp member
  have first : core.head? ≠ some '/' := by
    have restFirst : rest.head? ≠ some '/' := head?_dropWhile_slash path
    intro isSlash
    apply restFirst
    rw [split, List.head?_append, isSlash]
    rfl
  have last : core.getLast? ≠ some '/' := by
    show (rest.reverse.dropWhile (· = '/')).reverse.getLast? ≠ some '/'
    rw [List.getLast?_reverse]
    exact head?_dropWhile_slash rest.reverse
  have hasCore := HasCore.intro opens first last closes
  rw [← split, List.takeWhile_append_dropWhile] at hasCore
  exact ⟨core, hasCore⟩

/-! ## Path prefixes -/

theorem toList_normalizePathPrefix {path : String} {core : List Char}
    (hasCore : HasCore path.toList core) :
    (normalizePathPrefix path).toList = if path = "" then [] else '/' :: core := by
  unfold normalizePathPrefix
  dsimp only
  rw [hasCore.dropWhile_eq]
  by_cases isEmpty : path = ""
  · rw [if_pos isEmpty, isEmpty]
    rfl
  · have nonempty : ¬ path.toList.isEmpty := by
      rw [List.isEmpty_iff, String.toList_eq_nil_iff]
      exact isEmpty
    rw [if_neg isEmpty, if_neg nonempty, String.toList_ofList]

/-- Only where there are no other characters is nothing between the slashes. -/
theorem HasCore.eq_nil_iff {path core : List Char} (hasCore : HasCore path core) :
    core = [] ↔ AreSlashes path := by
  constructor
  · rintro rfl
    cases hasCore with
    | intro opens _ _ closes =>
      intro c member
      rcases List.mem_append.1 member with before | after
      · exact opens c before
      · exact closes c after
  · intro areSlashes
    cases hasCore with
    | @intro leading core trailing _ first _ _ =>
      cases core with
      | nil => rfl
      | cons c rest =>
        have isSlash : c = '/' := areSlashes c (by simp)
        exact absurd (congrArg some isSlash) first

theorem HasCore.isNormalPrefix_iff {path core : List Char} (hasCore : HasCore path core) :
    IsNormalPrefix ('/' :: core) ↔ ¬ AreSlashes path := by
  rw [← hasCore.eq_nil_iff]
  cases hasCore with
  | @intro leading core trailing _ first last _ =>
    constructor
    · rintro (isEmpty | ⟨_, endsOther⟩) rfl
      · cases isEmpty
      · exact endsOther rfl
    · intro nonempty
      refine .inr ⟨⟨core, rfl, first⟩, ?_⟩
      rw [List.getLast?_cons_of_ne_nil nonempty]
      exact last

theorem isNormalPrefix_normalizePathPrefix_iff (path : String) :
    IsNormalPrefix (normalizePathPrefix path).toList ↔
      ¬ (path ≠ "" ∧ AreSlashes path.toList) := by
  obtain ⟨core, hasCore⟩ := exists_hasCore path.toList
  rw [toList_normalizePathPrefix hasCore]
  by_cases isEmpty : path = ""
  · rw [if_pos isEmpty]
    exact ⟨fun _ isSlashed => isSlashed.1 isEmpty, fun _ => .inl rfl⟩
  · rw [if_neg isEmpty, hasCore.isNormalPrefix_iff, not_and]
    exact ⟨fun foreign _ => foreign, fun foreign => foreign isEmpty⟩

/-- What stands between slashes stands behind a single one too. -/
theorem HasCore.behind_slash {path core : List Char} (hasCore : HasCore path core) :
    HasCore ('/' :: core) core := by
  cases hasCore with
  | @intro leading core trailing _ first last _ =>
    have opens : AreSlashes ['/'] := by decide
    have closes : AreSlashes [] := by decide
    have behind := HasCore.intro opens first last closes
    rwa [List.append_nil] at behind

theorem normalizePathPrefix_normalizePathPrefix (path : String) :
    normalizePathPrefix (normalizePathPrefix path) = normalizePathPrefix path := by
  obtain ⟨core, hasCore⟩ := exists_hasCore path.toList
  have once := toList_normalizePathPrefix hasCore
  by_cases isEmpty : path = ""
  · rw [isEmpty]
    rfl
  · rw [if_neg isEmpty] at once
    have nonempty : normalizePathPrefix path ≠ "" := by
      intro isNothing
      rw [isNothing] at once
      cases once
    have twice := toList_normalizePathPrefix (once ▸ hasCore.behind_slash)
    rw [if_neg nonempty, ← once] at twice
    exact String.toList_injective twice

/-! ## Addresses -/

/-- A configuration holds the path prefix of the options, if it has one, in the form of one. -/
theorem pathPrefix_of_load {options : Options} {environment : Environment} {config : Config}
    (loaded : load options environment = .ok config) :
    (options.pathPrefix = none ∧ config.pathPrefix = "") ∨
      ∃ path, options.pathPrefix = some (.text path) ∧
        config.pathPrefix = normalizePathPrefix path := by
  obtain ⟨settings, made, valid⟩ := load_eq_ok.1 loaded
  have checked := valid.pathPrefix
  rw [(Settings.areSpelledBy_of_ofOptions made).pathPrefix] at checked
  cases given : options.pathPrefix with
  | none =>
    rw [given] at checked
    exact .inl ⟨rfl, (Except.ok.inj checked).symm⟩
  | some value =>
    rw [given] at checked
    cases value with
    | text path => exact .inr ⟨path, rfl, (Except.ok.inj checked).symm⟩
    | _ => cases checked

/-- An address ends as the path prefix does. Without one it ends in a digit of the port. -/
theorem getLast?_serverUrl (config : Config) :
    (serverUrl config).toList.getLast? = some '/' ↔
      config.pathPrefix.toList.getLast? = some '/' := by
  let base := config.urlPrefix.getD s!"https://{config.host}"
  have isUrl : (serverUrl config).toList =
      (base.toList ++ ':' :: Nat.toDigits 10 config.port) ++ config.pathPrefix.toList := by
    change (base ++ ":" ++ String.ofList (Nat.toDigits 10 config.port) ++
      config.pathPrefix).toList = _
    simp only [String.toList_append, String.toList_ofList, List.append_assoc]
    rfl
  have endsInDigit : (base.toList ++ ':' :: Nat.toDigits 10 config.port).getLast? ≠ some '/' := by
    have port : (Nat.toDigits 10 config.port) ≠ [] := Nat.toDigits_ne_nil
    rw [List.getLast?_append_cons, List.getLast?_cons_of_ne_nil port]
    intro isSlash
    have isDigit := isDigit_toDigits '/' (List.mem_of_getLast? isSlash)
    exact absurd isDigit (by decide)
  rw [isUrl]
  cases isPrefix : config.pathPrefix.toList with
  | nil =>
    rw [List.append_nil]
    exact ⟨fun isSlash => absurd isSlash endsInDigit, fun isSlash => by cases isSlash⟩
  | cons c rest => rw [List.getLast?_append_of_ne_nil _ (List.cons_ne_nil c rest)]

theorem normalizePathPrefix_of_areSlashes {path : String} (nonempty : path ≠ "")
    (areSlashes : AreSlashes path.toList) : normalizePathPrefix path = "/" := by
  obtain ⟨core, hasCore⟩ := exists_hasCore path.toList
  have isPrefix := toList_normalizePathPrefix hasCore
  rw [if_neg nonempty, hasCore.eq_nil_iff.2 areSlashes] at isPrefix
  exact String.toList_injective isPrefix

theorem getLast?_normalizePathPrefix (path : String) :
    (normalizePathPrefix path).toList.getLast? = some '/' ↔
      path ≠ "" ∧ AreSlashes path.toList := by
  constructor
  · intro isSlash
    by_contra foreign
    rcases (isNormalPrefix_normalizePathPrefix_iff path).2 foreign with isEmpty | ⟨_, noSlash⟩
    · rw [isEmpty] at isSlash
      cases isSlash
    · exact noSlash isSlash
  · rintro ⟨nonempty, areSlashes⟩
    rw [normalizePathPrefix_of_areSlashes nonempty areSlashes]
    rfl

/-- A path prefix keeps what stands between the slashes at its two ends, behind exactly one slash
and without one at the end, and making it one again changes nothing. So it is with every text but
those of nothing but slashes, of which one slash is left. Only such a prefix makes the address of an
accepted configuration end in a slash. -/
theorem path_prefixes_are_normal (path : String) :
    (∃ core, HasCore path.toList core) ∧
      (∀ core : List Char, HasCore path.toList core →
        (normalizePathPrefix path).toList = if path = "" then [] else '/' :: core) ∧
      (IsNormalPrefix (normalizePathPrefix path).toList ↔
        ¬ (path ≠ "" ∧ AreSlashes path.toList)) ∧
      (path ≠ "" → AreSlashes path.toList → normalizePathPrefix path = "/") ∧
      normalizePathPrefix (normalizePathPrefix path) = normalizePathPrefix path ∧
      ∀ (options : Options) (environment : Environment) (config : Config),
        load options environment = .ok config →
          ((serverUrl config).toList.getLast? = some '/' ↔
            ∃ given, options.pathPrefix = some (.text given) ∧ given ≠ "" ∧
              AreSlashes given.toList) := by
  refine ⟨exists_hasCore path.toList, fun _ => toList_normalizePathPrefix,
    isNormalPrefix_normalizePathPrefix_iff path, normalizePathPrefix_of_areSlashes,
    normalizePathPrefix_normalizePathPrefix path, ?_⟩
  intro options environment config loaded
  rw [getLast?_serverUrl]
  rcases pathPrefix_of_load loaded with ⟨notGiven, isEmpty⟩ | ⟨other, given, isPrefix⟩
  · rw [isEmpty, notGiven]
    constructor
    · intro isSlash
      cases isSlash
    · rintro ⟨_, given, _⟩
      cases given
  · rw [isPrefix, getLast?_normalizePathPrefix, given]
    constructor
    · rintro ⟨nonempty, areSlashes⟩
      exact ⟨other, rfl, nonempty, areSlashes⟩
    · rintro ⟨_, same, nonempty, areSlashes⟩
      cases same
      exact ⟨nonempty, areSlashes⟩

/-- The options of a token, a host and a path prefix. -/
def prefixedOptions (path : String) : Options :=
  ⟨some "host", none, some (.text "secret"), none, some (.text path), false, false, 0, false⟩

theorem path_prefixes_are_normal_of_slashes :
    normalizePathPrefix "//k8s//api/" = "/k8s//api" ∧ normalizePathPrefix "//" = "/" ∧
      ∃ config, load (prefixedOptions "//k8s//api/") ⟨none⟩ = .ok config ∧
        (serverUrl config).toList.getLast? ≠ some '/' := by
  obtain ⟨-, keepsCore, -, -, -, endsIn⟩ := path_prefixes_are_normal "//k8s//api/"
  obtain ⟨-, -, -, ofSlashes, -, -⟩ := path_prefixes_are_normal "//"
  have hasCore : HasCore "//k8s//api/".toList "k8s//api".toList := by
    have opens : AreSlashes "//".toList := by decide
    have first : "k8s//api".toList.head? ≠ some '/' := by decide
    have last : "k8s//api".toList.getLast? ≠ some '/' := by decide
    have closes : AreSlashes "/".toList := by decide
    exact .intro opens first last closes
  obtain ⟨config, loaded⟩ : ∃ config, load (prefixedOptions "//k8s//api/") ⟨none⟩ = .ok config :=
    Outcome.exists_ok_of_isOk (by decide +kernel)
  refine ⟨String.toList_injective (keepsCore _ hasCore), ofSlashes (by decide) (by decide),
    config, loaded, ?_⟩
  rw [ne_eq, endsIn _ _ _ loaded]
  rintro ⟨path, given, _, areSlashes⟩
  cases given
  exact absurd areSlashes (by decide)

/-- A single slash is kept as a path prefix, and an address ends in it. -/
theorem slash_kept_at_end :
    ¬ IsNormalPrefix (normalizePathPrefix "/").toList ∧
      ∃ config, load (prefixedOptions "/") ⟨none⟩ = .ok config ∧
        (serverUrl config).toList.getLast? = some '/' := by
  obtain ⟨config, loaded⟩ : ∃ config, load (prefixedOptions "/") ⟨none⟩ = .ok config :=
    Outcome.exists_ok_of_isOk (by decide +kernel)
  have areSlashes : AreSlashes "/".toList := by decide
  have nonempty : "/" ≠ "" := by decide
  refine ⟨?_, config, loaded, ?_⟩
  · rw [isNormalPrefix_normalizePathPrefix_iff, not_not]
    exact ⟨nonempty, areSlashes⟩
  · rw [getLast?_serverUrl]
    rcases pathPrefix_of_load loaded with ⟨notGiven, _⟩ | ⟨path, given, isPrefix⟩
    · cases notGiven
    · cases given
      rw [isPrefix, getLast?_normalizePathPrefix]
      exact ⟨nonempty, areSlashes⟩

end ClusterAgent.Config
