/-!
Contract: the white space that readers of texts skip.

Owns: the class of blank characters and trimming.
Does not own: the blanks that a payload may hold between its tokens.
-/

namespace ClusterAgent

/-- White space and line ends: the ASCII controls from tab to carriage return, the space
separators of Unicode, the line and paragraph separators, and the byte order mark. -/
def isBlank (c : Char) : Bool :=
  let code := c.toNat
  (0x09 ≤ code && code ≤ 0x0d) || code == 0x20 || code == 0xa0 || code == 0x1680 ||
    (0x2000 ≤ code && code ≤ 0x200a) || code == 0x2028 || code == 0x2029 || code == 0x202f ||
    code == 0x205f || code == 0x3000 || code == 0xfeff

/-- A text without the blanks at its two ends. -/
def trimBlanks (text : List Char) : List Char :=
  ((text.dropWhile isBlank).reverse.dropWhile isBlank).reverse

/-- A last character that is no blank is kept last. -/
theorem exists_trimBlanks_concat (front : List Char) {c : Char} (notBlank : isBlank c = false) :
    ∃ kept, trimBlanks (front ++ [c]) = kept ++ [c] := by
  have keptLast : (front ++ [c]).dropWhile isBlank = front.dropWhile isBlank ++ [c] := by
    induction front with
    | nil => exact List.dropWhile_cons_of_neg (by simp [notBlank])
    | cons first front inductionHypothesis =>
      rw [List.cons_append, List.dropWhile_cons, List.dropWhile_cons, inductionHypothesis]
      split
      · rfl
      · rfl
  refine ⟨(front.dropWhile isBlank), ?_⟩
  unfold trimBlanks
  rw [keptLast, List.reverse_append, List.reverse_singleton, List.singleton_append,
    List.dropWhile_cons_of_neg (by simp [notBlank]), List.reverse_cons, List.reverse_reverse]

end ClusterAgent
