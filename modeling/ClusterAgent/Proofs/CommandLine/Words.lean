import ClusterAgent.Config.Arguments
import Mathlib.Data.List.Basic

/-!
Contract: the words of a command line.

A word is a unit of its own, or it awaits a value, or it is refused. The grammar
says which it is without a look at how arguments are classified, and the
classification is as the grammar says.

Owns: the units of a command line, words and how they are classified.
Does not own: command lines of several words.
-/

namespace ClusterAgent

/-- What one part of a command line asks for. -/
inductive CommandUnit where
  | keeps (option : ValueOption) (value : String)
  | drops (name value : String)
  | noCertCheck
  | debug
  | verbose (count : Nat)
  | help
  | positional (text : String)
deriving DecidableEq, Repr

/-- The flag that an option is given by. -/
def ValueOption.flag : ValueOption → String
  | port => "--port"
  | token => "--token"
  | urlPrefix => "--url-prefix"
  | pathPrefix => "--path-prefix"

/-- Flags to which a value may be attached by an equals sign. -/
structure IsLongFlag (flag : String) : Prop where
  dashes : "--".toList <+: flag.toList
  plain : '=' ∉ flag.toList

/-- A flag with a value attached to it. -/
def attached (flag value : String) : String := flag ++ "=" ++ value

/-- A dash and so many letters. -/
def letters (count : Nat) : String := String.ofList ('-' :: List.replicate count 'v')

/-- Words that are a unit of their own. What starts with a dash is no positional argument, nor is a
name that awaits a value. -/
inductive CommandUnit.IsWord : CommandUnit → String → Prop where
  | attached (option : ValueOption) (value : String) :
      IsWord (.keeps option value) (attached option.flag value)
  | noCertCheck : IsWord .noCertCheck "--no-cert-check"
  | debug : IsWord .debug "--debug"
  | verbose : IsWord (.verbose 1) "--verbose"
  | letters (more : Nat) : IsWord (.verbose (more + 1)) (letters (more + 1))
  | shortHelp : IsWord .help "-h"
  | help : IsWord .help "--help"
  | positional {text : String} (noDash : text.toList.head? ≠ some '-')
      (notDropping : text ∉ Argument.droppingNames) : IsWord (.positional text) text

/-- Words that await a value, and the unit that they are with it. -/
inductive CommandUnit.Awaits : String → (String → CommandUnit) → Prop where
  | option (option : ValueOption) : Awaits option.flag (.keeps option)
  | dropping {name : String} (isDropping : name ∈ Argument.droppingNames) : Awaits name (.drops name)

/-- Words that are refused wherever they are not the value of an option, and what is told. -/
inductive IsRefusedWord : String → ConfigurationError → Prop where
  | needlessValue {flag : String} (isSwitch : flag ∈ Argument.longSwitches) (value : String) :
      IsRefusedWord (attached flag value) (.needlessValue flag value)
  | unknownAttached {flag : String} (isLong : IsLongFlag flag) (noSwitch : flag ∉ Argument.longSwitches)
      (noOption : ∀ option : ValueOption, flag ≠ option.flag) (value : String) :
      IsRefusedWord (attached flag value) (.unrecognized flag)
  | unknown {text : String} (dash : text.toList.head? = some '-')
      (notAttached : ∀ flag value, IsLongFlag flag → text ≠ attached flag value)
      (noWord : ∀ unit : CommandUnit, ¬ unit.IsWord text)
      (noFlag : ∀ unit, ¬ CommandUnit.Awaits text unit) : IsRefusedWord text (.unrecognized text)

open CommandUnit (IsWord Awaits)

/-! ## Long flags -/

theorem ValueOption.isLongFlag_flag (option : ValueOption) : IsLongFlag option.flag := by
  cases option <;> exact ⟨by decide, by decide⟩

theorem isLongFlag_of_mem_longSwitches {flag : String} (isSwitch : flag ∈ Argument.longSwitches) :
    IsLongFlag flag := by
  have dashes : ∀ name ∈ Argument.longSwitches, "--".toList <+: name.toList := by decide
  have plain : ∀ name ∈ Argument.longSwitches, '=' ∉ name.toList := by decide
  exact ⟨dashes flag isSwitch, plain flag isSwitch⟩

theorem head?_of_dashes {text : String} (dashes : "--".toList <+: text.toList) :
    text.toList.head? = some '-' := by
  obtain ⟨rest, isText⟩ := dashes
  rw [← isText]
  rfl

theorem head?_ne_of_mem_droppingNames {name : String} (isDropping : name ∈ Argument.droppingNames) :
    name.toList.head? ≠ some '-' := by
  have opens : ∀ name ∈ Argument.droppingNames, name.toList.head? ≠ some '-' := by decide
  exact opens name isDropping

theorem toList_attached (flag value : String) :
    (attached flag value).toList = flag.toList ++ '=' :: value.toList := by
  rw [attached, String.toList_append, String.toList_append, List.append_assoc]
  rfl

theorem toList_letters (more : Nat) :
    (letters (more + 1)).toList = '-' :: 'v' :: List.replicate more 'v' := by
  rw [letters, String.toList_ofList, List.replicate_succ]

theorem head?_letters (more : Nat) : (letters (more + 1)).toList.head? = some '-' := by
  rw [toList_letters]
  rfl

theorem not_dashes_letters (more : Nat) : ¬ "--".toList <+: (letters (more + 1)).toList := by
  rw [toList_letters]
  rintro ⟨rest, same⟩
  cases same

/-- A text with two dashes in front and an equals sign has a value attached to a long flag. -/
theorem exists_attached {text : String} (dashes : "--".toList <+: text.toList)
    (marked : '=' ∈ text.toList) :
    ∃ flag value, IsLongFlag flag ∧ text = attached flag value := by
  obtain ⟨before, after, isText, plain⟩ := List.eq_append_cons_of_mem marked
  have isFlag : (String.ofList before).toList = before := String.toList_ofList
  have stillDashes : "--".toList <+: before := by
    rw [isText] at dashes
    -- The two dashes are no equals sign, so both stand before the first one.
    match before with
    | [] => simp at dashes
    | [first] => simp at dashes
    | first :: second :: rest =>
      obtain ⟨tail, same⟩ := dashes
      cases same
      exact ⟨rest, rfl⟩
  refine ⟨String.ofList before, String.ofList after, ⟨?_, ?_⟩, String.toList_injective ?_⟩
  · rw [isFlag]
    exact stillDashes
  · rw [isFlag]
    exact plain
  · rw [toList_attached, isFlag, String.toList_ofList, isText]

namespace Argument

/-! ## How words are classified -/

theorem splitAttached_attached {flag : String} (isLong : IsLongFlag flag) (value : String) :
    splitAttached (attached flag value) = (flag, some value) := by
  have keeps : ∀ c ∈ flag.toList, decide (c ≠ '=') = true := by
    intro c member
    rw [decide_eq_true_eq]
    rintro rfl
    exact isLong.plain member
  have dashes : "--".toList.isPrefixOf (flag.toList ++ '=' :: value.toList) :=
    List.isPrefixOf_iff_prefix.2 (isLong.dashes.trans (List.prefix_append _ _))
  unfold splitAttached
  dsimp only
  rw [toList_attached, if_pos ⟨dashes, by simp⟩, List.takeWhile_append_of_pos keeps,
    List.dropWhile_append_of_pos keeps]
  simp

theorem splitAttached_of_not_attached {text : String}
    (notAttached : ∀ flag value, IsLongFlag flag → text ≠ attached flag value) :
    splitAttached text = (text, none) := by
  unfold splitAttached
  dsimp only
  rw [if_neg]
  rintro ⟨dashes, marked⟩
  obtain ⟨flag, value, isLong, isAttached⟩ :=
    exists_attached (List.isPrefixOf_iff_prefix.1 dashes) marked
  exact notAttached flag value isLong isAttached

theorem lookup_valueFlags {flag : String} {option : ValueOption} :
    valueFlags.lookup flag = some option ↔ flag = option.flag := by
  constructor
  · intro found
    obtain ⟨before, after, isList, _⟩ := List.lookup_eq_some_iff.1 found
    have member : (flag, option) ∈ valueFlags := isList ▸ by simp
    have named : ∀ entry ∈ valueFlags, entry.1 = entry.2.flag := by decide
    exact named _ member
  · rintro rfl
    cases option <;> decide

theorem lookup_valueFlags_eq_none {flag : String} (noOption : ∀ option : ValueOption, flag ≠ option.flag) :
    valueFlags.lookup flag = none := by
  rw [Option.eq_none_iff_forall_not_mem]
  exact fun option found => noOption option (lookup_valueFlags.1 found)

theorem verboseCount?_eq_some {flag : String} {count : Nat}
    (counted : verboseCount? flag = some count) : ∃ more, count = more + 1 ∧ flag = letters count := by
  unfold verboseCount? at counted
  split at counted
  · rename_i rest text
    split at counted
    · rename_i allLetters
      cases counted
      refine ⟨rest.length, rfl, String.toList_injective ?_⟩
      have same : rest = List.replicate rest.length 'v' :=
        List.eq_replicate_iff.2 ⟨rfl, by simpa using allLetters⟩
      rw [text, toList_letters, ← same]
    · cases counted
  · cases counted

theorem verboseCount?_eq_none {flag : String} (noLetters : ∀ more, flag ≠ letters (more + 1)) :
    verboseCount? flag = none := by
  rw [Option.eq_none_iff_forall_not_mem]
  intro count counted
  obtain ⟨more, rfl, isLetters⟩ := verboseCount?_eq_some counted
  exact noLetters more isLetters

theorem verboseCount?_letters (more : Nat) : verboseCount? (letters (more + 1)) = some (more + 1) := by
  unfold verboseCount?
  rw [toList_letters]
  simp

theorem ofText_of_not_attached {text : String}
    (notAttached : ∀ flag value, IsLongFlag flag → text ≠ attached flag value)
    (noOption : ∀ option : ValueOption, text ≠ option.flag) (notDropping : text ∉ droppingNames) :
    ofText text = ofSwitch text := by
  rw [ofText, splitAttached_of_not_attached notAttached]
  dsimp only
  rw [lookup_valueFlags_eq_none noOption]
  dsimp only
  rw [if_neg notDropping]

/-- What no switch is called is refused if it starts with a dash, and a positional argument if not. -/
theorem ofSwitch_of_no_switch {flag : String} (noLong : flag ∉ longSwitches)
    (noCount : verboseCount? flag = none) (noShort : flag ≠ "-h") :
    ofSwitch flag =
      if flag.toList.head? = some '-' then .refused (.unrecognized flag) else .positional flag := by
  simp only [longSwitches, List.mem_cons, List.not_mem_nil, or_false, not_or] at noLong
  obtain ⟨noCertCheck, noDebug, noVerbose, noHelp⟩ := noLong
  rw [ofSwitch, if_neg noCertCheck, if_neg noDebug, if_neg noVerbose, noCount]
  dsimp only
  rw [if_neg (not_or.2 ⟨noShort, noHelp⟩)]

section Whole

variable {text : String} (noDashes : ¬ "--".toList <+: text.toList)
include noDashes

theorem not_attached_of_not_dashes : ∀ flag value, IsLongFlag flag → text ≠ attached flag value := by
  rintro flag value isLong rfl
  rw [toList_attached] at noDashes
  exact noDashes (isLong.dashes.trans (List.prefix_append _ _))

theorem ne_flag_of_not_dashes (option : ValueOption) : text ≠ option.flag := by
  rintro rfl
  exact noDashes option.isLongFlag_flag.dashes

theorem not_mem_longSwitches_of_not_dashes : text ∉ longSwitches :=
  fun isSwitch => noDashes (isLongFlag_of_mem_longSwitches isSwitch).dashes

end Whole

theorem ofText_attached (option : ValueOption) (value : String) :
    ofText (attached option.flag value) = .option option.flag (some option) (some value) := by
  rw [ofText, splitAttached_attached option.isLongFlag_flag]
  dsimp only
  rw [lookup_valueFlags.2 rfl]

theorem ofText_flag (option : ValueOption) :
    ofText option.flag = .option option.flag (some option) none := by
  cases option <;> decide

theorem ofText_of_mem_droppingNames {name : String} (isDropping : name ∈ droppingNames) :
    ofText name = .option name none none := by
  have noDashes : ¬ "--".toList <+: name.toList :=
    fun dashes => head?_ne_of_mem_droppingNames isDropping (head?_of_dashes dashes)
  rw [ofText, splitAttached_of_not_attached (not_attached_of_not_dashes noDashes)]
  dsimp only
  rw [lookup_valueFlags_eq_none (ne_flag_of_not_dashes noDashes)]
  dsimp only
  rw [if_pos isDropping]

theorem ofText_letters (more : Nat) : ofText (letters (more + 1)) = .verbose (more + 1) := by
  have noDashes := not_dashes_letters more
  have notDropping : letters (more + 1) ∉ droppingNames :=
    fun isDropping => head?_ne_of_mem_droppingNames isDropping (head?_letters more)
  have noLong := not_mem_longSwitches_of_not_dashes noDashes
  simp only [longSwitches, List.mem_cons, List.not_mem_nil, or_false, not_or] at noLong
  obtain ⟨noCertCheck, noDebug, noVerbose, _⟩ := noLong
  rw [ofText_of_not_attached (not_attached_of_not_dashes noDashes) (ne_flag_of_not_dashes noDashes)
    notDropping, ofSwitch, if_neg noCertCheck, if_neg noDebug, if_neg noVerbose,
    verboseCount?_letters]

theorem ofText_positional {text : String} (noDash : text.toList.head? ≠ some '-')
    (notDropping : text ∉ droppingNames) : ofText text = .positional text := by
  have noDashes : ¬ "--".toList <+: text.toList := fun dashes => noDash (head?_of_dashes dashes)
  have noCount : verboseCount? text = none := by
    apply verboseCount?_eq_none
    rintro more rfl
    exact noDash (head?_letters more)
  have noShort : text ≠ "-h" := by
    rintro rfl
    exact noDash rfl
  rw [ofText_of_not_attached (not_attached_of_not_dashes noDashes) (ne_flag_of_not_dashes noDashes)
    notDropping, ofSwitch_of_no_switch (not_mem_longSwitches_of_not_dashes noDashes) noCount noShort,
    if_neg noDash]

theorem ofText_attached_of_no_option {flag : String} (isLong : IsLongFlag flag)
    (noOption : ∀ option : ValueOption, flag ≠ option.flag) (value : String) :
    ofText (attached flag value) =
      if flag ∈ longSwitches then .refused (.needlessValue flag value) else ofSwitch flag := by
  have notDropping : flag ∉ droppingNames :=
    fun isDropping => head?_ne_of_mem_droppingNames isDropping (head?_of_dashes isLong.dashes)
  rw [ofText, splitAttached_attached isLong]
  dsimp only
  rw [lookup_valueFlags_eq_none noOption]
  dsimp only
  rw [if_neg notDropping]

theorem ofSwitch_of_isLongFlag {flag : String} (isLong : IsLongFlag flag)
    (noLong : flag ∉ longSwitches) : ofSwitch flag = .refused (.unrecognized flag) := by
  have noCount : verboseCount? flag = none := by
    apply verboseCount?_eq_none
    rintro more rfl
    exact not_dashes_letters more isLong.dashes
  have noShort : flag ≠ "-h" := by
    rintro rfl
    exact absurd isLong.dashes (by decide)
  rw [ofSwitch_of_no_switch noLong noCount noShort, if_pos (head?_of_dashes isLong.dashes)]

/-- A word is refused in the classification too, with what the grammar tells. -/
theorem ofText_of_isRefusedWord {text : String} {error : ConfigurationError}
    (refused : IsRefusedWord text error) : ofText text = .refused error := by
  cases refused with
  | @needlessValue flag isSwitch value =>
    have noOption : ∀ option : ValueOption, flag ≠ option.flag := by
      have apart : ∀ option : ValueOption, option.flag ∉ longSwitches := by
        intro option
        cases option <;> decide
      rintro option rfl
      exact apart option isSwitch
    rw [ofText_attached_of_no_option (isLongFlag_of_mem_longSwitches isSwitch) noOption,
      if_pos isSwitch]
  | unknownAttached isLong noSwitch noOption value =>
    rw [ofText_attached_of_no_option isLong noOption, if_neg noSwitch,
      ofSwitch_of_isLongFlag isLong noSwitch]
  | unknown dash notAttached noWord noFlag =>
    have noOption : ∀ option : ValueOption, text ≠ option.flag := by
      rintro option rfl
      exact noFlag _ (.option option)
    have notDropping : text ∉ droppingNames := fun isDropping => noFlag _ (.dropping isDropping)
    have noLong : text ∉ longSwitches := by
      simp only [longSwitches, List.mem_cons, List.not_mem_nil, or_false]
      rintro (rfl | rfl | rfl | rfl)
      · exact noWord _ .noCertCheck
      · exact noWord _ .debug
      · exact noWord _ .verbose
      · exact noWord _ .help
    have noCount : verboseCount? text = none := by
      apply verboseCount?_eq_none
      rintro more rfl
      exact noWord _ (.letters more)
    have noShort : text ≠ "-h" := by
      rintro rfl
      exact noWord _ .shortHelp
    rw [ofText_of_not_attached notAttached noOption notDropping,
      ofSwitch_of_no_switch noLong noCount noShort, if_pos dash]

end Argument

/-! ## Every word -/

/-- Every word is a unit, awaits a value, or is refused. -/
theorem exists_word (text : String) :
    (∃ unit : CommandUnit, unit.IsWord text) ∨ (∃ unit, Awaits text unit) ∨
      ∃ error, IsRefusedWord text error := by
  by_cases isWord : ∃ unit : CommandUnit, unit.IsWord text
  · exact .inl isWord
  by_cases awaits : ∃ unit, Awaits text unit
  · exact .inr (.inl awaits)
  refine .inr (.inr ?_)
  rw [not_exists] at isWord awaits
  have dash : text.toList.head? = some '-' := by
    by_contra noDash
    exact isWord _ (.positional noDash fun isDropping => awaits _ (.dropping isDropping))
  by_cases isAttached : ∃ flag value, IsLongFlag flag ∧ text = attached flag value
  · obtain ⟨flag, value, isLong, rfl⟩ := isAttached
    by_cases isSwitch : flag ∈ Argument.longSwitches
    · exact ⟨_, .needlessValue isSwitch value⟩
    · refine ⟨_, .unknownAttached isLong isSwitch ?_ value⟩
      rintro option rfl
      exact isWord _ (.attached option value)
  · refine ⟨_, .unknown dash ?_ isWord awaits⟩
    intro flag value isLong same
    exact isAttached ⟨flag, value, isLong, same⟩

end ClusterAgent
