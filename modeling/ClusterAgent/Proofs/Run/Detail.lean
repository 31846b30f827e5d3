import ClusterAgent.Proofs.CommandLine.Words
import ClusterAgent.Proofs.Run.Stages

/-!
Contract: arguments that ask for more detail.

Such an argument adds to the verbosity and does nothing else, and nothing that is
read after it looks at the verbosity. No argument adds more to it than it has
characters.

Owns: arguments that ask for more detail, options with a greater verbosity, how
much detail can be asked for.
Does not own: what a configuration makes of the verbosity.
-/

namespace ClusterAgent

/-! ## Arguments that ask for more detail -/

/-- Arguments that ask for more detail: the long switch, and a dash with letters `v`. -/
inductive AsksForDetail : Value → Prop where
  | long : AsksForDetail (.text "--verbose")
  | letters (more : Nat) :
      AsksForDetail (.text (String.ofList ('-' :: List.replicate (more + 1) 'v')))

namespace Argument

theorem le_length_of_verboseCount? {flag : String} {count : Nat}
    (counted : verboseCount? flag = some count) : count ≤ flag.length := by
  unfold verboseCount? at counted
  split at counted
  · rename_i rest text
    split at counted
    · cases counted
      rw [← String.length_toList, text, List.length_cons, List.length_cons]
      omega
    · cases counted
  · cases counted

theorem le_length_of_ofSwitch {flag : String} {count : Nat}
    (reads : ofSwitch flag = .verbose count) : count ≤ flag.length := by
  unfold ofSwitch at reads
  split at reads
  · cases reads
  split at reads
  · cases reads
  split at reads
  · rename_i isLong
    cases reads
    rw [isLong]
    decide
  split at reads
  · rename_i counted
    cases reads
    exact le_length_of_verboseCount? counted
  · split_ifs at reads

theorem length_splitAttached (text : String) : (splitAttached text).1.length ≤ text.length := by
  unfold splitAttached
  dsimp only
  split
  · rw [String.length_ofList, ← String.length_toList]
    exact (List.takeWhile_sublist _).length_le
  · exact Nat.le_refl _

/-- An argument asks for at most as much detail as it has characters. -/
theorem le_length_of_ofText {text : String} {count : Nat} (reads : ofText text = .verbose count) :
    count ≤ text.length := by
  have bounded := length_splitAttached text
  unfold ofText at reads
  generalize splitAttached text = split at reads bounded
  obtain ⟨flag, attached⟩ := split
  dsimp only at reads bounded
  split at reads
  · cases reads
  split at reads
  · cases reads
  split at reads
  · split at reads
    · cases reads
    · exact (le_length_of_ofSwitch reads).trans bounded
  · exact (le_length_of_ofSwitch reads).trans bounded

end Argument

theorem AsksForDetail.exists_ofText {argument : Value} (asks : AsksForDetail argument) :
    ∃ text count, argument = .text text ∧ Argument.ofText text = .verbose count := by
  cases asks with
  | long => exact ⟨_, 1, rfl, by decide⟩
  | letters more => exact ⟨_, _, rfl, Argument.ofText_letters more⟩

/-! ## Options -/

namespace Options

/-- Options with a greater verbosity. -/
def withMore (count : Nat) (options : Options) : Options :=
  { options with verbose := options.verbose + count }

def Progress.withMore (count : Nat) (progress : Progress) : Progress :=
  { progress with options := progress.options.withMore count }

variable {count : Nat} {options : Options}

theorem keep_withMore (keeps : Option ValueOption) (value : Value) :
    (options.withMore count).keep keeps value = (options.keep keeps value).withMore count := by
  match keeps with
  | none => rfl
  | some .port => rfl
  | some .token => rfl
  | some .urlPrefix => rfl
  | some .pathPrefix => rfl

theorem readNext_withMore (argument : Argument) :
    (options.withMore count).readNext argument =
      Progress.withMore count <$> options.readNext argument := by
  cases argument with
  | option flag keeps attached =>
    cases attached with
    | none => rfl
    | some value =>
      rw [readNext, keep_withMore]
      rfl
  | verbose more =>
    have added : options.verbose + count + more = options.verbose + more + count :=
      Nat.add_right_comm _ _ _
    unfold readNext Progress.withMore withMore
    dsimp only
    rw [added]
    rfl
  | positional text =>
    unfold readNext withMore
    dsimp only
    split <;> rfl
  | noCertCheck | debug | help | refused error => rfl

/-- No argument is read in another way because of the verbosity before it. -/
theorem Progress.read_withMore (progress : Progress) (argument : Value) :
    (progress.withMore count).read argument = withMore count <$> progress.read argument := by
  obtain ⟨options, awaited⟩ := progress
  cases awaited with
  | some awaited =>
    change Except.ok _ = Except.ok _
    congr 2
    exact keep_withMore _ _
  | none =>
    unfold Progress.read
    change (do
      let text ← (requireArgument argument).mapError Failure.undeclared
      ((options.withMore count).readNext (Argument.ofText text)).mapError .configuration) = _
    cases requireArgument argument with
    | error cause => rfl
    | ok text =>
      change ((options.withMore count).readNext (Argument.ofText text)).mapError _ = _
      rw [readNext_withMore]
      change _ = withMore count <$> (options.readNext (Argument.ofText text)).mapError _
      cases options.readNext (Argument.ofText text) <;> rfl

theorem foldlM_withMore (arguments : List Value) (progress : Progress) :
    arguments.foldlM Progress.read (progress.withMore count) =
      Progress.withMore count <$> arguments.foldlM Progress.read progress := by
  induction arguments generalizing progress with
  | nil => rfl
  | cons argument rest inductionHypothesis =>
    rw [List.foldlM_cons, List.foldlM_cons, Progress.read_withMore]
    cases progress.read argument with
    | error failure => rfl
    | ok next => exact inductionHypothesis next

theorem finish_withMore (progress : Progress) :
    (progress.withMore count).finish = withMore count <$> progress.finish := by
  obtain ⟨options, awaited⟩ := progress
  cases awaited <;> rfl

/-- Arguments that ask for more detail add to the verbosity, and leave no option without value. -/
theorem exists_foldlM_of_asks {inserted : List Value}
    (asks : ∀ argument ∈ inserted, AsksForDetail argument) (options : Options) :
    ∃ count, inserted.foldlM Progress.read ⟨options, none⟩ =
      .ok ⟨options.withMore count, none⟩ := by
  induction inserted generalizing options with
  | nil => exact ⟨0, rfl⟩
  | cons argument rest inductionHypothesis =>
    obtain ⟨asksFirst, asksRest⟩ := List.forall_mem_cons.1 asks
    obtain ⟨text, added, rfl, reads⟩ := asksFirst.exists_ofText
    obtain ⟨more, folded⟩ := inductionHypothesis asksRest (options.withMore added)
    have first : Progress.read ⟨options, none⟩ (.text text) =
        .ok ⟨options.withMore added, none⟩ := by
      change (options.readNext (Argument.ofText text)).mapError _ = _
      rw [reads]
      rfl
    refine ⟨added + more, ?_⟩
    rw [List.foldlM_cons, first, Outcome.ok_bind, folded]
    unfold withMore
    rw [Nat.add_assoc]

/-- Behind arguments that are accepted, asking for more detail adds to the verbosity, and changes
nothing else about what is read. -/
theorem exists_parse_of_asks {front inserted : List Value}
    (accepted : ∃ options, parse front = .ok options)
    (asks : ∀ argument ∈ inserted, AsksForDetail argument) (back : List Value) :
    ∃ count, parse (front ++ inserted ++ back) = withMore count <$> parse (front ++ back) := by
  obtain ⟨options, parsed⟩ := accepted
  obtain ⟨count, folded⟩ := exists_foldlM_of_asks asks options
  refine ⟨count, ?_⟩
  have given : parse (front ++ inserted ++ back) =
      back.foldlM Progress.read (Progress.withMore count ⟨options, none⟩) >>= Progress.finish := by
    rw [List.append_assoc, parse_append parsed, List.foldlM_append, folded]
    rfl
  rw [given, parse_append parsed, foldlM_withMore]
  cases back.foldlM Progress.read ⟨options, none⟩ with
  | error failure => rfl
  | ok progress => exact finish_withMore progress

/-! ### How much detail can be asked for -/

theorem verbose_keep (keeps : Option ValueOption) (value : Value) :
    (options.keep keeps value).verbose = options.verbose := by
  match keeps with
  | none => rfl
  | some .port => rfl
  | some .token => rfl
  | some .urlPrefix => rfl
  | some .pathPrefix => rfl

theorem verbose_le_of_readNext {argument : Argument} {next : Progress} {most : Nat}
    (isRead : options.readNext argument = .ok next)
    (bounded : ∀ count, argument = .verbose count → count ≤ most) :
    next.options.verbose ≤ options.verbose + most := by
  cases argument with
  | option flag keeps attached =>
    cases attached with
    | none =>
      cases isRead
      exact Nat.le_add_right _ _
    | some value =>
      cases isRead
      rw [verbose_keep]
      exact Nat.le_add_right _ _
  | verbose count =>
    cases isRead
    exact Nat.add_le_add_left (bounded count rfl) _
  | positional text =>
    unfold readNext at isRead
    dsimp only at isRead
    split at isRead
    · cases isRead
      exact Nat.le_add_right _ _
    · cases isRead
  | noCertCheck | debug | help =>
    cases isRead
    exact Nat.le_add_right _ _
  | refused error => cases isRead

/-- No argument adds more to the verbosity than it has characters. -/
theorem Progress.verbose_le_of_read {progress next : Progress} {argument : Value} {most : Nat}
    (isRead : progress.read argument = .ok next)
    (bounded : ∀ text, argument = .text text → text.length ≤ most) :
    next.options.verbose ≤ progress.options.verbose + most := by
  unfold Progress.read at isRead
  cases awaited : progress.awaited with
  | some awaited =>
    rw [awaited] at isRead
    cases isRead
    rw [verbose_keep]
    exact Nat.le_add_right _ _
  | none =>
    rw [awaited] at isRead
    obtain ⟨text, required, reads⟩ := Outcome.bind_eq_ok.1 isRead
    have isText : argument = .text text := by
      cases argument with
      | text argument =>
        cases required
        rfl
      | _ => cases required
    exact verbose_le_of_readNext (Outcome.mapError_eq_ok.1 reads) fun count counted =>
      (Argument.le_length_of_ofText counted).trans (bounded text isText)

theorem verbose_le_of_foldlM {arguments : List Value} {progress last : Progress} {most : Nat}
    (folded : arguments.foldlM Progress.read progress = .ok last)
    (bounded : ∀ text, .text text ∈ arguments → text.length ≤ most) :
    last.options.verbose ≤ progress.options.verbose + arguments.length * most := by
  induction arguments generalizing progress with
  | nil =>
    cases folded
    exact Nat.le_add_right _ _
  | cons argument rest inductionHypothesis =>
    rw [List.foldlM_cons] at folded
    obtain ⟨next, isRead, later⟩ := Outcome.bind_eq_ok.1 folded
    have first := Progress.verbose_le_of_read isRead fun text isText =>
      bounded text (isText ▸ List.mem_cons_self)
    have others := inductionHypothesis later fun text member =>
      bounded text (List.mem_cons_of_mem argument member)
    rw [List.length_cons, Nat.succ_mul]
    omega

end Options

/-- Argument lists of a size that can be given at all. No list holds `2 ^ 32` arguments or more, and
no text `2 ^ 53` characters or more. -/
structure CanBeGiven (arguments : List Value) : Prop where
  few : arguments.length < 2 ^ 32
  short : ∀ text, .text text ∈ arguments → text.length < 2 ^ 53

theorem canBeGiven_map_text {texts : List String} (few : texts.length < 2 ^ 32)
    (short : ∀ text ∈ texts, text.length < 2 ^ 53) : CanBeGiven (texts.map .text) := by
  refine ⟨by rwa [List.length_map], fun text member => ?_⟩
  obtain ⟨other, isMember, same⟩ := List.mem_map.1 member
  cases same
  exact short text isMember

/-- A verbosity that can be asked for is far from the largest number. -/
theorem Options.verbose_lt_of_parse {arguments : List Value} (given : CanBeGiven arguments)
    {options : Options} (parsed : parse arguments = .ok options) : options.verbose < 2 ^ 85 := by
  have bounded := verbose_le_of_foldlM (foldlM_of_parse parsed) fun text member =>
    (given.short text member).le
  have product : arguments.length * 2 ^ 53 < 2 ^ 32 * 2 ^ 53 :=
    Nat.mul_lt_mul_of_pos_right given.few (by decide)
  have start : empty.verbose = 0 := rfl
  dsimp only at bounded
  omega

end ClusterAgent
