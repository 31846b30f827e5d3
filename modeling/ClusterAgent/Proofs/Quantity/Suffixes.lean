import ClusterAgent.Proofs.Quantity.Numerals
import Mathlib.Data.List.Pairwise

/-!
Contract: a quantity is a number, or a number and one suffix of a table.

No suffix of a table ends another one, so a text has one suffix at most and the
order of the table does not matter. No number ends as a suffix does, so every
number is read alike with a table and without.

Owns: the grammar of quantities with suffixes, exactness of the four readers.
Does not own: the grammar of numbers.
-/

namespace ClusterAgent.Quantity

/-! ## Tables of suffixes -/

/-- The suffix of processor time, as a table. -/
def cpuSuffixes : List (String × Number) := [("m", milli)]

/-- Reads a number that may end in a suffix of a table. -/
def readSuffixed (table : List (String × Number)) (text : List Char) : Option Number :=
  match table.find? fun entry => entry.1.toList.isSuffixOf text with
  | some (suffix, factor) => (readNumber? (dropEnd suffix.length text)).map factor.mul
  | none => readNumber? text

theorem readMemory?_eq (text : List Char) : readMemory? text = readSuffixed memorySuffixes text :=
  rfl

theorem readCpu?_eq (text : List Char) : readCpu? text = readSuffixed cpuSuffixes text := by
  unfold readCpu? readSuffixed cpuSuffixes
  rw [List.find?_singleton]
  by_cases isSuffix : ['m'] <:+ text
  · have found : "m".toList.isSuffixOf text := List.isSuffixOf_iff_suffix.2 isSuffix
    rw [if_pos isSuffix, if_pos found]
    rfl
  · have passed : ¬ "m".toList.isSuffixOf text := mt List.isSuffixOf_iff_suffix.1 isSuffix
    rw [if_neg isSuffix, if_neg passed]

/-- A letter that no number ends in, whatever its case, and that is no blank. -/
def ClosesSuffix (c : Char) : Prop := isBlank c = false ∧ ¬ EndsNumeral c.toLower

instance (c : Char) : Decidable (ClosesSuffix c) := by
  unfold ClosesSuffix
  infer_instance

/-- Neither of two suffixes ends the other. -/
def EndApart (first second : String × Number) : Prop :=
  ¬ first.1.toList <:+ second.1.toList ∧ ¬ second.1.toList <:+ first.1.toList

instance (first second : String × Number) : Decidable (EndApart first second) := by
  unfold EndApart
  infer_instance

instance : Std.Symm EndApart := ⟨fun _ _ apart => ⟨apart.2, apart.1⟩⟩

/-- A table whose suffixes can be told from each other and from the ends of numbers. -/
structure IsSuffixTable (table : List (String × Number)) : Prop where
  apart : table.Pairwise EndApart
  closes : ∀ entry ∈ table, entry.1.toList.getLast?.any (ClosesSuffix ·)

theorem isSuffixTable_cpu : IsSuffixTable cpuSuffixes := ⟨by decide, by decide⟩

theorem isSuffixTable_memory : IsSuffixTable memorySuffixes := ⟨by decide, by decide⟩

/-- A text that no suffix of a table ends. -/
def IsBare (table : List (String × Number)) (text : List Char) : Prop :=
  ∀ entry ∈ table, ¬ entry.1.toList <:+ text

theorem isBare_or_exists (table : List (String × Number)) (text : List Char) :
    IsBare table text ∨ ∃ entry ∈ table, ∃ stem, stem ++ entry.1.toList = text := by
  by_cases isBare : IsBare table text
  · exact .inl isBare
  · right
    by_contra none
    exact isBare fun entry inTable isSuffix => none ⟨entry, inTable, isSuffix⟩

namespace IsSuffixTable

variable {table : List (String × Number)} {text : List Char}

/-- One suffix of a table ends a text at most. -/
theorem unique (isTable : IsSuffixTable table) {entry other : String × Number}
    (inTable : entry ∈ table) (otherInTable : other ∈ table) (isSuffix : entry.1.toList <:+ text)
    (otherIsSuffix : other.1.toList <:+ text) : entry = other := by
  by_contra distinct
  have apart := isTable.apart.forall inTable otherInTable distinct
  rcases List.suffix_or_suffix_of_suffix isSuffix otherIsSuffix with endsOther | endsEntry
  · exact apart.1 endsOther
  · exact apart.2 endsEntry

theorem perm (isTable : IsSuffixTable table) {reordered : List (String × Number)}
    (isPerm : reordered.Perm table) : IsSuffixTable reordered :=
  ⟨(isPerm.pairwise_iff symm).2 isTable.apart,
    fun entry inTable => isTable.closes entry (isPerm.mem_iff.1 inTable)⟩

/-- A text with a suffix is read as what stands before it, times the factor. -/
theorem readSuffixed_append (isTable : IsSuffixTable table) {entry : String × Number}
    (inTable : entry ∈ table) (stem : List Char) :
    readSuffixed table (stem ++ entry.1.toList) = (readNumber? stem).map entry.2.mul := by
  have isSuffix : entry.1.toList <:+ stem ++ entry.1.toList := List.suffix_append _ _
  have found : table.find? (fun other => other.1.toList.isSuffixOf (stem ++ entry.1.toList)) =
      some entry := by
    cases looked : table.find? (fun other =>
        other.1.toList.isSuffixOf (stem ++ entry.1.toList)) with
    | none =>
      have passed := List.find?_eq_none.1 looked entry inTable
      exact absurd (List.isSuffixOf_iff_suffix.2 isSuffix) passed
    | some other =>
      have otherInTable := List.mem_of_find?_eq_some looked
      have otherFound := List.find?_some looked
      have otherIsSuffix := List.isSuffixOf_iff_suffix.1 otherFound
      rw [isTable.unique inTable otherInTable isSuffix otherIsSuffix]
  have cut : dropEnd entry.1.length (stem ++ entry.1.toList) = stem := by
    rw [dropEnd, List.length_append, String.length_toList, Nat.add_sub_cancel,
      List.take_left]
  unfold readSuffixed
  rw [found]
  dsimp only
  rw [cut]

end IsSuffixTable

theorem readSuffixed_of_isBare {table : List (String × Number)} {text : List Char}
    (isBare : IsBare table text) : readSuffixed table text = readNumber? text := by
  have passed : table.find? (fun entry => entry.1.toList.isSuffixOf text) = none := by
    rw [List.find?_eq_none]
    intro entry inTable found
    exact isBare entry inTable (List.isSuffixOf_iff_suffix.1 found)
  unfold readSuffixed
  rw [passed]

/-- What is read as a number has no suffix. -/
theorem IsSuffixTable.isBare_of_readNumber? {table : List (String × Number)} {text : List Char}
    (isTable : IsSuffixTable table) {number : Number} (isRead : readNumber? text = some number) :
    IsBare table text := by
  rintro entry inTable ⟨front, split⟩
  obtain ⟨c, isLast, closes⟩ := (Option.any_eq_true _ _).1 (isTable.closes entry inTable)
  obtain ⟨notBlank, foreign⟩ := of_decide_eq_true closes
  obtain ⟨init, isConcat⟩ := List.getLast?_eq_some_iff.1 isLast
  rw [isConcat, ← List.append_assoc] at split
  obtain ⟨kept, trimmed⟩ := exists_trimBlanks_concat (front ++ init) notBlank
  have isNumeral := readNumber?_eq_some.1 isRead
  have endsText : (normalized text).getLast? = some c.toLower := by
    rw [normalized, ← split, trimmed, List.map_append, List.map_singleton, List.getLast?_concat]
  exact foreign (isNumeral.last endsText)

/-- The order of a table does not matter. -/
theorem IsSuffixTable.readSuffixed_perm {table reordered : List (String × Number)}
    (isTable : IsSuffixTable table) (isPerm : reordered.Perm table) (text : List Char) :
    readSuffixed reordered text = readSuffixed table text := by
  rcases isBare_or_exists table text with isBare | ⟨entry, inTable, stem, rfl⟩
  · have reorderedBare : IsBare reordered text :=
      fun entry inTable => isBare entry (isPerm.mem_iff.1 inTable)
    rw [readSuffixed_of_isBare isBare, readSuffixed_of_isBare reorderedBare]
  · rw [isTable.readSuffixed_append inTable,
      (isTable.perm isPerm).readSuffixed_append (isPerm.mem_iff.2 inTable)]

/-! ## The grammars of the readers -/

/-- A number that no suffix ends, or a number and a suffix, with what the quantity is read as. -/
inductive IsScaled (table : List (String × Number)) : String → Number → Prop
  | bare {quantity : String} {result : Number} : IsBare table quantity.toList →
      number quantity = .ok result → IsScaled table quantity result
  | suffixed {stem : String} {entry : String × Number} {result : Number} : entry ∈ table →
      number stem = .ok result → IsScaled table (stem ++ entry.1) (entry.2.mul result)

theorem IsSuffixTable.readSuffixed_eq_some {table : List (String × Number)}
    (isTable : IsSuffixTable table) {quantity : String} {result : Number} :
    readSuffixed table quantity.toList = some result ↔ IsScaled table quantity result := by
  constructor
  · intro isRead
    rcases isBare_or_exists table quantity.toList with isBare | ⟨entry, inTable, stem, split⟩
    · rw [readSuffixed_of_isBare isBare] at isRead
      exact .bare isBare (number_eq_ok.2 isRead)
    · rw [← split, isTable.readSuffixed_append inTable, Option.map_eq_some_iff] at isRead
      obtain ⟨number, stemRead, rfl⟩ := isRead
      have isQuantity : quantity = String.ofList stem ++ entry.1 := by
        apply String.toList_injective
        rw [String.toList_append, String.toList_ofList, split]
      rw [isQuantity]
      exact .suffixed inTable (number_eq_ok.2 (by rw [String.toList_ofList, stemRead]))
  · intro isScaled
    cases isScaled with
    | bare isBare isRead => rw [readSuffixed_of_isBare isBare, number_eq_ok.1 isRead]
    | suffixed inTable stemRead =>
      rw [String.toList_append, isTable.readSuffixed_append inTable, number_eq_ok.1 stemRead]
      rfl

/-- A reader that accepts exactly a grammar, and refuses anything else by naming all of it. -/
structure AcceptsExactly (reader : String → Except AggregationError Number)
    (grammar : String → Number → Prop) : Prop where
  accepts : ∀ quantity result, reader quantity = .ok result ↔ grammar quantity result
  refuses : ∀ quantity error, reader quantity = .error error → error = .malformedQuantity quantity

theorem acceptsExactly_of_refusesMalformed {reader : String → Except AggregationError Number}
    {grammar : String → Number → Prop} (refuses : RefusesMalformed reader)
    (accepts : ∀ quantity result, reader quantity = .ok result ↔ grammar quantity result) :
    AcceptsExactly reader grammar := by
  refine ⟨accepts, ?_⟩
  intro quantity error failed
  rcases refuses quantity with ⟨number, succeeded⟩ | refused
  · cases succeeded.symm.trans failed
  · cases refused.symm.trans failed
    rfl

theorem acceptsExactly_cpu : AcceptsExactly cpu (IsScaled cpuSuffixes) := by
  refine acceptsExactly_of_refusesMalformed refusesMalformed_cpu ?_
  intro quantity result
  rw [cpu_eq_ok, readCpu?_eq, isSuffixTable_cpu.readSuffixed_eq_some]

theorem acceptsExactly_memory : AcceptsExactly memory (IsScaled memorySuffixes) := by
  refine acceptsExactly_of_refusesMalformed refusesMalformed_memory ?_
  intro quantity result
  rw [memory_eq_ok, readMemory?_eq, isSuffixTable_memory.readSuffixed_eq_some]

/-- The readers of quantities accept exactly their grammars, with the number each text spells:
numbers and counts blanks aside, processor time and memory with one suffix at most, whatever the
order of the suffixes. A number has no suffix, and is read alike by the three readers. -/
theorem readers_accept_exactly_grammars :
    AcceptsExactly number (fun quantity => IsNumeral (normalized quantity.toList)) ∧
    AcceptsExactly cpu (IsScaled cpuSuffixes) ∧
    AcceptsExactly memory (IsScaled memorySuffixes) ∧
    AcceptsExactly count (fun quantity => IsInteger (trimBlanks quantity.toList)) ∧
    (∀ text : List Char, ∀ entry ∈ memorySuffixes, ∀ other ∈ memorySuffixes,
      entry.1.toList <:+ text → other.1.toList <:+ text → entry = other) ∧
    (∀ reordered : List (String × Number), reordered.Perm memorySuffixes →
      ∀ text, readSuffixed reordered text = readMemory? text) ∧
    ∀ quantity result, number quantity = .ok result →
      IsBare cpuSuffixes quantity.toList ∧ IsBare memorySuffixes quantity.toList ∧
        cpu quantity = .ok result ∧ memory quantity = .ok result := by
  refine ⟨?_, acceptsExactly_cpu, acceptsExactly_memory, ?_, ?_, ?_, ?_⟩
  · refine acceptsExactly_of_refusesMalformed refusesMalformed_number ?_
    intro quantity result
    rw [number_eq_ok, readNumber?_eq_some]
  · refine acceptsExactly_of_refusesMalformed refusesMalformed_count ?_
    intro quantity result
    rw [count_eq_ok, readCount?_eq_some]
  · intro text entry inTable other otherInTable
    exact isSuffixTable_memory.unique inTable otherInTable
  · intro reordered isPerm text
    exact isSuffixTable_memory.readSuffixed_perm isPerm text
  · intro quantity result isRead
    have cpuBare := isSuffixTable_cpu.isBare_of_readNumber? (number_eq_ok.1 isRead)
    have memoryBare := isSuffixTable_memory.isBare_of_readNumber? (number_eq_ok.1 isRead)
    exact ⟨cpuBare, memoryBare, (acceptsExactly_cpu.accepts _ _).2 (.bare cpuBare isRead),
      (acceptsExactly_memory.accepts _ _).2 (.bare memoryBare isRead)⟩

/-- An `E` after digits is a suffix and an `E` before digits is an exponent, in the same quantity
too; a blank after a suffix leaves no number, and the error names the blank as well. -/
theorem readers_accept_exactly_grammars_of_exponents :
    number "1E3" = .ok (.ofNat 1000) ∧ memory "1E3" = .ok (.ofNat 1000) ∧
    memory (" 1E3" ++ "E") = .ok ((decimalStep 6).mul (.ofNat 1000)) ∧
    memory "4Ki " = .error (.malformedQuantity "4Ki ") := by
  obtain ⟨_, _, isMemory, _, _, _, agree⟩ := readers_accept_exactly_grammars
  have isRead : number "1E3" = .ok (.ofNat 1000) := number_eq_ok.2 (by decide +kernel)
  have stemRead : number " 1E3" = .ok (.ofNat 1000) := number_eq_ok.2 (by decide +kernel)
  have inTable : ("E", decimalStep 6) ∈ memorySuffixes := by simp [memorySuffixes]
  have scaled := IsScaled.suffixed inTable stemRead
  dsimp only at scaled
  obtain ⟨error, refused⟩ : ∃ error, memory "4Ki " = .error error := ⟨_, rfl⟩
  refine ⟨isRead, (agree "1E3" _ isRead).2.2.2, (isMemory.accepts _ _).2 scaled, ?_⟩
  rw [refused, isMemory.refuses _ _ refused]

end ClusterAgent.Quantity
