import ClusterAgent.Report

/-!
Contract: texts that are put together from lines.

Lines that hold no line break are found again by splitting at line breaks. A
block of at least one line ends with a break when it is written, so the pieces of
several blocks are their lines, and an empty piece after the last break.

Owns: splitting texts, blocks of lines in a row.
Does not own: which lines a block has.
-/

namespace ClusterAgent

/-- The pieces of a text between line breaks. -/
def splitLines (text : String) : List String := (text.toList.splitOn '\n').map String.ofList

/-- A text without a line break. -/
def IsLine (text : String) : Prop := '\n' ∉ text.toList

instance (text : String) : Decidable (IsLine text) := by
  unfold IsLine
  infer_instance

theorem IsLine.append {left right : String} (leftLine : IsLine left) (rightLine : IsLine right) :
    IsLine (left ++ right) := by
  unfold IsLine
  rw [String.toList_append, List.mem_append, not_or]
  exact ⟨leftLine, rightLine⟩

/-- Lines are found again in the text that joins them. -/
theorem splitLines_intercalate {lines : List String} (nonempty : lines ≠ [])
    (areLines : ∀ line ∈ lines, IsLine line) :
    splitLines ("\n".intercalate lines) = lines := by
  have unbroken : ∀ piece ∈ lines.map String.toList, '\n' ∉ piece := by
    rw [List.forall_mem_map]
    exact areLines
  have split : ("\n".intercalate lines).toList.splitOn '\n' = lines.map String.toList := by
    rw [String.toList_intercalate]
    exact List.splitOn_intercalate '\n' unbroken (by simpa using nonempty)
  rw [splitLines, split, List.map_map]
  simp [Function.comp_def]

/-- Lines that are not empty are told by the text that joins them, even if there are none. -/
theorem intercalate_lines_inj {left right : List String}
    (leftLines : ∀ line ∈ left, IsLine line ∧ line ≠ "")
    (rightLines : ∀ line ∈ right, IsLine line ∧ line ≠ "")
    (same : "\n".intercalate left = "\n".intercalate right) : left = right := by
  have pieces {lines : List String} (areLines : ∀ line ∈ lines, IsLine line ∧ line ≠ "") :
      (splitLines ("\n".intercalate lines)).filter (· ≠ "") = lines := by
    cases lines with
    | nil => rfl
    | cons line rest =>
      rw [splitLines_intercalate (by simp) fun line member => (areLines line member).1]
      exact List.filter_eq_self.2 fun line member => by simpa using (areLines line member).2
  rw [← pieces leftLines, ← pieces rightLines, same]

/-- Blocks that are written one after the other, a break after each, join their lines. -/
theorem join_blocks {blocks : List (List String)} (nonempty : ∀ lines ∈ blocks, lines ≠ []) :
    String.join (blocks.map fun lines => Inventory.block lines ++ "\n") =
      "\n".intercalate (blocks.flatten ++ [""]) := by
  induction blocks with
  | nil => rfl
  | cons lines rest inductionHypothesis =>
    obtain ⟨linesNonempty, restNonempty⟩ := List.forall_mem_cons.1 nonempty
    rw [List.map_cons, String.join_cons, inductionHypothesis restNonempty, List.flatten_cons,
      List.append_assoc, String.intercalate_append_of_ne_nil linesNonempty (by simp)]
    rfl

/-- What is written of several blocks is split into their lines and one empty piece. -/
theorem splitLines_join_blocks {blocks : List (List String)}
    (nonempty : ∀ lines ∈ blocks, lines ≠ []) (areLines : ∀ line ∈ blocks.flatten, IsLine line) :
    splitLines (String.join (blocks.map fun lines => Inventory.block lines ++ "\n")) =
      blocks.flatten ++ [""] := by
  rw [join_blocks nonempty]
  apply splitLines_intercalate (by simp)
  refine List.forall_mem_append.2 ⟨areLines, ?_⟩
  intro line isLast
  rw [List.mem_singleton.1 isLast]
  exact List.not_mem_nil

end ClusterAgent
