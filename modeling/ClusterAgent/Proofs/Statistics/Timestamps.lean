import ClusterAgent.Cluster.Metadata
import ClusterAgent.Cluster.NodeStats
import ClusterAgent.Proofs.Calendar
import Mathlib.Data.List.Count

/-!
Contract: timestamps of samples and times of creation.

Samples and entities may tell a time by the same text. The one is read without the
fraction of its second, the other is read as a whole and rounded down. Both come
to the same whole seconds.

Owns: what a timestamp without its fraction is, agreement of both readers.
Does not own: the grammar of times, samples and metadata apart from the time.
-/

namespace ClusterAgent.NodeStats

open Calendar

/-! ## Dropping the fraction -/

theorem dropFraction_cons_of_ne {c : Char} (noPoint : c ≠ '.') (rest : List Char) :
    dropFraction (c :: rest) = c :: dropFraction rest := by
  conv_lhs => unfold dropFraction
  split
  · next same => exact absurd (List.cons.inj same).1 noPoint
  · next same =>
    cases same
    rfl
  · next same => cases same

/-- In front of the first point, nothing is dropped. -/
theorem dropFraction_append {front : List Char} (noPoint : '.' ∉ front) (rest : List Char) :
    dropFraction (front ++ rest) = front ++ dropFraction rest := by
  induction front with
  | nil => rfl
  | cons c front inductionHypothesis =>
    obtain ⟨notPoint, frontFree⟩ := not_or.1 (mt List.mem_cons.2 noPoint)
    rw [List.cons_append, dropFraction_cons_of_ne (Ne.symm notPoint),
      inductionHypothesis frontFree, List.cons_append]

theorem dropFraction_of_not_mem {text : List Char} (noPoint : '.' ∉ text) :
    dropFraction text = text := by
  have dropped := dropFraction_append noPoint []
  rwa [List.append_nil, dropFraction, List.append_nil] at dropped

/-- The first point that digits follow is dropped with all the digits. -/
theorem dropFraction_of_areDecimals {digits : List Char} (areDecimals : AreDecimals digits)
    (rest : List Char) : dropFraction ('.' :: (digits ++ rest)) = rest.dropWhile Char.isDigit := by
  obtain ⟨nonempty, allDigits⟩ := areDecimals
  match digits with
  | c :: digits =>
    obtain ⟨isDigit, laterDigits⟩ := List.forall_mem_cons.1 allDigits
    rw [List.cons_append, dropFraction, if_pos isDigit, List.dropWhile_append_of_pos laterDigits]

theorem dropFraction_of_isFraction {front fraction zone : List Char} {added : Nat}
    (frontFree : '.' ∉ front) (zoneFree : '.' ∉ zone) (isFraction : IsFraction fraction zone added) :
    dropFraction (front ++ fraction ++ zone) = front ++ zone := by
  rw [List.append_assoc, dropFraction_append frontFree]
  cases isFraction with
  | none => rw [List.nil_append, dropFraction_of_not_mem zoneFree]
  | decimals areDecimals ends =>
    rw [List.cons_append, dropFraction_of_areDecimals areDecimals, ends]

/-- Whatever decimals stand behind a point, dropping them leaves the same. -/
theorem dropFraction_congr {front digits others : List Char} (frontFree : '.' ∉ front)
    (areDecimals : AreDecimals digits) (areOthers : AreDecimals others) (rest : List Char) :
    dropFraction (front ++ '.' :: (others ++ rest)) =
      dropFraction (front ++ '.' :: (digits ++ rest)) := by
  rw [dropFraction_append frontFree, dropFraction_append frontFree,
    dropFraction_of_areDecimals areDecimals, dropFraction_of_areDecimals areOthers]

/-! ## Agreement -/

/-- A text that names a time has one point at most. -/
theorem count_point_le {zone : LocalZone} {text : List Char} {millis : Int}
    (accepted : millis? zone text = some millis) : text.count '.' ≤ 1 := by
  obtain ⟨front, fraction, rest, added, rfl, frontFree, restFree, isFraction, -⟩ :=
    exists_isFraction_of_millis? accepted
  rw [List.count_append, List.count_append, List.count_eq_zero.2 frontFree,
    List.count_eq_zero.2 restFree]
  cases isFraction with
  | none => decide
  | decimals areDecimals ends =>
    have noPoint := not_mem_point_of_digits areDecimals.allDigits
    rw [List.count_cons_self, List.count_eq_zero.2 noPoint]

theorem millis?_dropFraction {zone : LocalZone} {text : List Char} {millis : Int}
    (accepted : millis? zone text = some millis) :
    millis? zone (dropFraction text) = some (wholeSeconds millis * 1000) := by
  obtain ⟨front, fraction, rest, added, rfl, frontFree, restFree, isFraction, whole⟩ :=
    exists_isFraction_of_millis? accepted
  rw [dropFraction_of_isFraction frontFree restFree isFraction, whole]

section Platform

variable [Platform]

theorem readTimestamp_of_millis? {timestamp : String} {text : List Char} {millis : Int}
    (accepted : millis? Platform.zone text = some millis)
    (same : dropFraction timestamp.toList = dropFraction text) :
    readTimestamp timestamp = .ok (wholeSeconds millis) := by
  have whole : wholeSeconds (wholeSeconds millis * 1000) = wholeSeconds millis := by
    rw [wholeSeconds_eq_iff]
    omega
  unfold readTimestamp
  rw [Textual.chars_string, same, Platform.readsCalendar _ _ (millis?_dropFraction accepted)]
  dsimp only
  rw [whole]

theorem exists_metadata_read {timestamp : String} {millis : Int} (position : Nat) {members : Members}
    (accepted : millis? Platform.zone timestamp.toList = some millis)
    (told : members.lookup "creationTimestamp" = some (.text timestamp)) :
    ∃ metadata, Metadata.read position (some (.object members)) = .ok metadata ∧
      metadata.creation? = some (.seconds (wholeSeconds millis)) := by
  have given : timestamp ≠ "" := by
    rintro rfl
    cases accepted
  have isRead : Creation.read? (some (.text timestamp)) =
      .ok (some (.seconds (wholeSeconds millis))) := by
    have isGiven : (some (Value.text timestamp)).filter Value.isGiven = some (.text timestamp) :=
      Option.filter_eq_some_iff.2 ⟨rfl, decide_eq_true given⟩
    unfold Creation.read?
    rw [isGiven]
    change Except.ok (some (Creation.ofMillis (Platform.millis? timestamp.toList))) = _
    rw [Platform.readsCalendar _ _ accepted]
    rfl
  refine ⟨⟨.ofField (.item position) (members.lookup "name"), members.lookup "namespace",
    some (.seconds (wholeSeconds millis))⟩, ?_, rfl⟩
  change (Creation.read? (members.lookup "creationTimestamp") >>= fun creation => _) = _
  rw [told, isRead]
  rfl

/-- A timestamp of a sample comes to the last whole second of the time that its text names, as does
the time of creation that is told by the same text. So it is with any other fraction of the second as
well. -/
theorem readTimestamp_agrees_with_creation {timestamp : String} {millis : Int}
    (accepted : millis? Platform.zone timestamp.toList = some millis) :
    ∃ seconds : Int, seconds * 1000 ≤ millis ∧ millis < seconds * 1000 + 1000 ∧
      readTimestamp timestamp = .ok seconds ∧
      (∀ (position : Nat) (members : Members),
        members.lookup "creationTimestamp" = some (.text timestamp) →
          ∃ metadata, Metadata.read position (some (.object members)) = .ok metadata ∧
            metadata.creation? = some (.seconds seconds)) ∧
      ∀ front digits others rest : List Char,
        timestamp.toList = front ++ '.' :: (digits ++ rest) → AreDecimals digits →
          AreDecimals others →
            readTimestamp (String.ofList (front ++ '.' :: (others ++ rest))) = .ok seconds := by
  obtain ⟨fromBelow, fromAbove⟩ := wholeSeconds_eq_iff.1 (rfl : wholeSeconds millis = _)
  refine ⟨wholeSeconds millis, fromBelow, fromAbove, readTimestamp_of_millis? accepted rfl,
    fun position members told => exists_metadata_read position accepted told, ?_⟩
  intro front digits others rest isTimestamp areDecimals areOthers
  have frontFree : '.' ∉ front := by
    intro member
    have few := count_point_le accepted
    have inFront := List.count_pos_iff.2 member
    rw [isTimestamp, List.count_append, List.count_cons_self] at few
    omega
  apply readTimestamp_of_millis? accepted
  rw [String.toList_ofList, isTimestamp]
  exact dropFraction_congr frontFree areDecimals areOthers rest

end Platform

section Universal

attribute [local instance] Platform.universal

/-- Half a second before the start of 1970, in another zone. -/
theorem readTimestamp_agrees_with_creation_of_early :
    readTimestamp "1970-01-01T05:59:59.5+06:00" = .ok (-1) ∧
      readTimestamp "1970-01-01T05:59:59.0123456789012+06:00" = .ok (-1) ∧
      ∃ metadata, Metadata.read 0
          (some (.object [("creationTimestamp", .text "1970-01-01T05:59:59.5+06:00")])) =
            .ok metadata ∧ metadata.creation? = some (.seconds (-1)) := by
  have accepted : millis? .universal "1970-01-01T05:59:59.5+06:00".toList = some (-500) := by
    decide
  obtain ⟨seconds, fromBelow, fromAbove, isRead, created, withOthers⟩ :=
    readTimestamp_agrees_with_creation accepted
  have isSecond : seconds = -1 := by omega
  rw [isSecond] at isRead created withOthers
  have half : AreDecimals ['5'] := ⟨by decide, List.all_eq_true.1 (by decide)⟩
  have longer : AreDecimals "0123456789012".toList := ⟨by decide, List.all_eq_true.1 (by decide)⟩
  have others := withOthers "1970-01-01T05:59:59".toList _ _ "+06:00".toList (by decide) half longer
  exact ⟨isRead, others, created 0 _ rfl⟩

end Universal

end ClusterAgent.NodeStats
