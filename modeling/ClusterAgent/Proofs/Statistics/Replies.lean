import ClusterAgent.Proofs.Payload.Decoding
import ClusterAgent.Proofs.Statistics.Samples
import ClusterAgent.Value.Equality

/-!
Contract: replies that are reduced to their last sample.

A reply is accepted if it tells a list of samples, the last one at a time that can
be read. All samples have to be well formed, but only the last one tells what the
snapshot is. Every other reply is refused as malformed statistics. It makes no
difference what kind the texts are of, and which times the platform reads.

Owns: what a reply is decoded to, accepted replies, the snapshot of a reply.
Does not own: how a value is checked and kept, and which times can be read.
-/

namespace ClusterAgent.NodeStats

open Textual (literal)

variable {τ : Type} [DecidableEq τ] [Textual τ]

/-- What a reply is decoded to: a text is read as JSON, and any other value stands as it is. -/
inductive Decodes : Field τ → Value τ → Prop where
  | text {text : τ} {value : Value τ} (parsed : Json.parse? text = some value) :
      Decodes (some (.text text)) value
  | value {value : Value τ} (notText : ∀ text, value ≠ .text text) : Decodes (some value) value

/-- Values that are a well-formed sample: an object with a text for its time, and otherwise without
undefined numbers. -/
inductive IsSample : Value τ → Prop where
  | object {members : Members τ} {timestamp : τ}
      (timed : members.lookup (literal "timestamp") = some (.text timestamp))
      (defined : ∀ member ∈ members, member.1 ≠ literal "timestamp" → member.2.IsDefined) :
      IsSample (.object members)

/-- Statistics that list well-formed samples, of which the last one was taken at a time that can be
read, in seconds. -/
structure Accepts [Platform] (statistics : Value τ) (last : Members τ) (seconds : Int) :
    Prop where
  listed : ∃ members earlier, statistics = .object members ∧
    members.lookup (literal "stats") = some (.list (earlier ++ [.object last])) ∧
    ∀ sample ∈ earlier ++ [.object last], IsSample sample
  timed : ∃ timestamp, last.lookup (literal "timestamp") = some (.text timestamp) ∧
    readTimestamp timestamp = .ok seconds

/-! ## Checking -/

theorem decode_eq_ok [Platform] {reply : Field τ} {node : τ} {value : Value τ} :
    decode reply node = .ok (some value) ↔ Decodes reply value := by
  constructor
  · intro decoded
    match reply with
    | none => cases decoded
    | some (.text text) =>
      unfold decode at decoded
      dsimp only at decoded
      split at decoded
      · rename_i parsed
        cases decoded
        exact .text parsed
      · cases decoded
    | some .null | some (.bool _) | some (.number _) | some (.list _) | some (.object _) =>
      cases decoded
      exact .value nofun
  · intro decodes
    cases decodes with
    | text parsed => rw [decode, parsed]
    | value notText => exact decode_of_not_text notText node

theorem checkSample_eq_ok {sample : Value τ} {checked : Sample τ} :
    checkSample sample = .ok checked ↔
      ∃ members, sample = .object members ∧
        members.lookup (literal "timestamp") = some (.text checked.timestamp) ∧
        (∀ member ∈ members, member.1 ≠ literal "timestamp" → member.2.IsDefined) ∧
        checked.others = keptBesides members := by
  have defined (members : Members τ) : allMembersDefined (besidesTime members) ↔
      ∀ member ∈ members, member.1 ≠ literal "timestamp" → member.2.IsDefined := by
    rw [allMembersDefined_eq, List.all_eq_true]
    simp only [besidesTime, List.mem_filter, decide_eq_true_eq, isDefined_iff, and_imp]
  constructor
  · intro accepted
    unfold checkSample at accepted
    split at accepted
    · rename_i members
      split at accepted
      · rename_i timestamp timed
        dsimp only at accepted
        split at accepted
        · rename_i allDefined
          cases accepted
          exact ⟨members, rfl, timed, (defined members).1 allDefined, rfl⟩
        · cases accepted
      · cases accepted
    · cases accepted
  · rintro ⟨members, rfl, timed, allDefined, kept⟩
    unfold checkSample
    dsimp only
    rw [timed]
    dsimp only
    rw [← besidesTime, if_pos ((defined members).2 allDefined), ← keptBesides, ← kept]

theorem isSample_iff {sample : Value τ} :
    IsSample sample ↔ ∃ checked, checkSample sample = .ok checked := by
  constructor
  · rintro ⟨timed, defined⟩
    exact ⟨⟨_, _⟩, checkSample_eq_ok.2 ⟨_, rfl, timed, defined, rfl⟩⟩
  · rintro ⟨checked, accepted⟩
    obtain ⟨members, rfl, timed, defined, _⟩ := checkSample_eq_ok.1 accepted
    exact .object timed defined

theorem checkReply_eq_ok {decoded : Field τ} {checked : List (Sample τ)} :
    checkReply decoded = .ok checked ↔
      ∃ members samples, decoded = some (.object members) ∧
        members.lookup (literal "stats") = some (.list samples) ∧
          samples.mapM checkSample = .ok checked := by
  constructor
  · intro accepted
    unfold checkReply at accepted
    split at accepted
    · rename_i members
      split at accepted
      · rename_i samples listed
        exact ⟨members, samples, rfl, listed, accepted⟩
      · cases accepted
    · cases accepted
  · rintro ⟨members, samples, rfl, listed, accepted⟩
    unfold checkReply
    dsimp only
    rw [listed]
    exact accepted

/-- The last of the samples that are checked comes from the last one that is listed, and all
others have passed too. -/
theorem mapM_checkSample_getLast? {samples : List (Value τ)} {last : Sample τ} :
    (∃ checked, samples.mapM checkSample = .ok checked ∧ checked.getLast? = some last) ↔
      ∃ earlier sample, samples = earlier ++ [sample] ∧ (∀ item ∈ earlier, IsSample item) ∧
        checkSample sample = .ok last := by
  -- Samples are checked from the front, but split at the end, where the one stands that is kept.
  rcases List.eq_nil_or_concat samples with rfl | ⟨earlier, sample, rfl⟩
  · simp
  · have earlierPass : (∀ item ∈ earlier, IsSample item) ↔
        ∃ others, earlier.mapM checkSample = .ok others := by
      simp only [Outcome.exists_mapM_ok, isSample_iff]
    rw [List.concat_eq_append]
    constructor
    · rintro ⟨checked, accepted, isLast⟩
      obtain ⟨others, next, othersOk, nextOk, rfl⟩ := Outcome.mapM_concat_eq_ok.1 accepted
      rw [List.getLast?_concat, Option.some.injEq] at isLast
      exact ⟨earlier, sample, rfl, earlierPass.2 ⟨others, othersOk⟩, isLast ▸ nextOk⟩
    · rintro ⟨front, final, same, passed, accepted⟩
      obtain ⟨rfl, isFinal⟩ := List.append_inj' same rfl
      obtain ⟨others, othersOk⟩ := earlierPass.1 passed
      cases isFinal
      exact ⟨others ++ [last],
        Outcome.mapM_concat_eq_ok.2 ⟨others, last, othersOk, accepted, rfl⟩, List.getLast?_concat⟩

theorem lastSample_eq_ok [Platform] {reply : Field τ} {node : τ} {last : Sample τ} :
    lastSample reply node = .ok last ↔
      ∃ members earlier sample, Decodes reply (.object members) ∧
        members.lookup (literal "stats") = some (.list (earlier ++ [sample])) ∧
        (∀ item ∈ earlier, IsSample item) ∧ checkSample sample = .ok last := by
  unfold lastSample
  simp only [Outcome.bind_eq_ok, Outcome.mapError_eq_ok]
  constructor
  · rintro ⟨decoded, decodes, checked, accepted, chosen⟩
    obtain ⟨members, samples, rfl, listed, traversed⟩ := checkReply_eq_ok.1 accepted
    split at chosen
    · rename_i isLast
      cases chosen
      obtain ⟨earlier, sample, rfl, passed, sampleOk⟩ :=
        mapM_checkSample_getLast?.1 ⟨checked, traversed, isLast⟩
      exact ⟨members, earlier, sample, decode_eq_ok.1 decodes, listed, passed, sampleOk⟩
    · cases chosen
  · rintro ⟨members, earlier, sample, decodes, listed, passed, sampleOk⟩
    obtain ⟨checked, traversed, isLast⟩ :=
      mapM_checkSample_getLast?.2 ⟨earlier, sample, rfl, passed, sampleOk⟩
    refine ⟨_, decode_eq_ok.2 decodes, checked,
      checkReply_eq_ok.2 ⟨members, _, rfl, listed, traversed⟩, ?_⟩
    rw [isLast]

/-! ## Snapshots of replies -/

theorem latest_eq_ok [Platform] {reply : Field τ} {node : τ} {snapshot : Members τ} :
    latest reply node = .ok snapshot ↔
      ∃ statistics last seconds, Decodes reply statistics ∧ Accepts statistics last seconds ∧
        snapshot = snapshotOf last seconds := by
  unfold latest
  simp only [Outcome.bind_eq_ok, Outcome.mapError_eq_ok, lastSample_eq_ok, Outcome.pure_eq_ok,
    Except.ok.injEq]
  constructor
  · rintro ⟨checked, ⟨members, earlier, sample, decodes, listed, passed, accepted⟩, seconds, read,
      isSnapshot⟩
    obtain ⟨last, rfl, timed, defined, others⟩ := checkSample_eq_ok.1 accepted
    have accepts : Accepts (.object members) last seconds := by
      refine ⟨⟨members, earlier, rfl, listed, ?_⟩, checked.timestamp, timed, read⟩
      rw [List.forall_mem_append, List.forall_mem_singleton]
      exact ⟨passed, .object timed defined⟩
    refine ⟨_, last, seconds, decodes, accepts, ?_⟩
    rw [← isSnapshot, Sample.snapshot, others]
    rfl
  · rintro ⟨_, last, seconds, decodes, ⟨⟨members, earlier, rfl, listed, wellFormed⟩, timestamp,
      timed, read⟩, rfl⟩
    rw [List.forall_mem_append, List.forall_mem_singleton] at wellFormed
    obtain ⟨checked, accepted⟩ := isSample_iff.1 wellFormed.2
    obtain ⟨_, same, checkedTime, _, others⟩ := checkSample_eq_ok.1 accepted
    cases same
    have sameTime : some (Value.text checked.timestamp) = some (.text timestamp) :=
      checkedTime.symm.trans timed
    cases sameTime
    refine ⟨checked, ⟨members, earlier, _, decodes, listed, wellFormed.1, accepted⟩, seconds, read,
      ?_⟩
    rw [Sample.snapshot, others]
    rfl

theorem latest_eq_error [Platform] {reply : Field τ} {node : τ} {error : AggregationError τ}
    (failed : latest reply node = .error error) : ∃ fault, error = .malformedStats fault := by
  rcases Outcome.bind_eq_error.1 failed with unsampled | ⟨checked, _, undated⟩
  · obtain ⟨fault, _, rfl⟩ := Outcome.mapError_eq_error.1 unsampled
    exact ⟨fault, rfl⟩
  · rcases Outcome.bind_eq_error.1 undated with unreadable | ⟨seconds, _, returned⟩
    · unfold readTimestamp at unreadable
      split at unreadable
      · cases unreadable
      · cases unreadable
        exact ⟨_, rfl⟩
    · cases returned

theorem Decodes.isCanonical {reply : Field τ} {statistics : Value τ}
    (decodes : Decodes reply statistics)
    (canonical : ∀ value, reply = some value → value.IsCanonical) : statistics.IsCanonical := by
  cases decodes with
  | text parsed => exact Json.isCanonical_of_parse? parsed
  | value _ => exact canonical statistics rfl

theorem Accepts.isCanonical [Platform] {statistics : Value τ} {last : Members τ} {seconds : Int}
    (accepts : Accepts statistics last seconds) (canonical : statistics.IsCanonical) :
    (Value.object last).IsCanonical := by
  obtain ⟨members, earlier, rfl, listed, _⟩ := accepts.listed
  cases canonical.of_mem (Table.mem_of_lookup listed) with
  | list each => exact each _ (List.mem_append_right earlier List.mem_cons_self)

/-- A reply is reduced to its last sample or refused as malformed statistics, and nothing else. It
is reduced exactly if it lists samples that are all well formed, the last one at a time that can be
read. The snapshot is the same for all replies with the same last sample, and holds all that this
sample holds, at every depth and in its order, the time in seconds in front of all that are no array
indices, but no member with the one reserved name. That holds for every kind of texts and on every
platform. -/
theorem latest_keeps_last_sample [Platform] :
    (∀ (reply : Field τ) (node : τ) error, latest reply node = .error error →
        ∃ fault, error = .malformedStats fault) ∧
      (∀ (reply : Field τ) (node : τ), (∃ snapshot, latest reply node = .ok snapshot) ↔
        ∃ statistics last seconds, Decodes reply statistics ∧ Accepts statistics last seconds) ∧
      ∀ (last : Members τ) seconds, ∃ snapshot, ∀ reply statistics node,
        (∀ value, reply = some value → value.IsCanonical) → Decodes reply statistics →
          Accepts statistics last seconds →
            latest reply node = .ok snapshot ∧ IsSnapshotOf last seconds snapshot := by
  refine ⟨fun _ _ _ => latest_eq_error, fun reply node => ?_, fun last seconds => ?_⟩
  · constructor
    · rintro ⟨snapshot, reduced⟩
      obtain ⟨statistics, last, seconds, decodes, accepts, _⟩ := latest_eq_ok.1 reduced
      exact ⟨statistics, last, seconds, decodes, accepts⟩
    · rintro ⟨statistics, last, seconds, decodes, accepts⟩
      exact ⟨_, latest_eq_ok.2 ⟨statistics, last, seconds, decodes, accepts, rfl⟩⟩
  · refine ⟨snapshotOf last seconds, fun reply statistics node canonical decodes accepts => ?_⟩
    have lastCanonical := accepts.isCanonical (decodes.isCanonical canonical)
    exact ⟨latest_eq_ok.2 ⟨statistics, last, seconds, decodes, accepts, rfl⟩,
      isSnapshotOf_snapshotOf lastCanonical.members seconds⟩

section Reported

/-- A time as the headers of answers have it. -/
def headerTime : String := "Mon, 01 Jan 2024 00:00:00 GMT"

/-- A platform that reads this time, too, which is none of the calendar. -/
@[reducible] def headerPlatform : Platform where
  zone := .universal
  millis? text :=
    if text = headerTime.toList then some 1704067200000 else Calendar.millis? .universal text
  jsonComplaint := Platform.universal.jsonComplaint
  readsCalendar text millis accepted := by
    have unread : Calendar.millis? .universal headerTime.toList = none := by decide
    rw [if_neg]
    · exact accepted
    · rintro rfl
      cases unread.symm.trans accepted

attribute [local instance] headerPlatform

/-- A key that is a surrogate on its own. -/
def surrogate (unit : UInt16) : UnitText := ⟨[unit]⟩

/-- Members of which one has the reserved name. -/
def reportedUsage : Members UnitText :=
  Members.ofList [(literal "__proto__", .null), (literal "usage", .list [.null])]

/-- A sample with a key that is an index, and with two keys that are surrogates. -/
def reportedSample : Members UnitText :=
  Members.ofList [
    (surrogate 0xd800, .object reportedUsage),
    (literal "timestamp", .text (literal headerTime)),
    (surrogate 0xdc00, .bool true),
    (literal "7", .text (literal "seventh"))]

/-- Statistics that list the sample after others. -/
def reportedAfter (earlier : List (Value UnitText)) : Value UnitText :=
  .object [(literal "stats", .list (earlier ++ [.object reportedSample]))]

/-- Statistics that list the sample alone, as a text. -/
def reportedText : UnitText :=
  literal ("\x7b\"stats\": [\x7b\"\\ud800\": \x7b\"__proto__\": null, \"usage\": [null]\x7d, " ++
    "\"timestamp\": \"" ++ headerTime ++
    "\", \"\\udc00\": true, \"7\": \"seventh\"\x7d]\x7d")

theorem parse?_reportedText : Json.parse? reportedText = some (reportedAfter []) := by
  decide +kernel

/-- A sample whose time cannot be read, but which is well formed. -/
def undatedSample : Value UnitText := .object [(literal "timestamp", .text (literal "long ago"))]

theorem isSample_undatedSample : IsSample undatedSample := isSample_iff.2 ⟨_, rfl⟩

theorem isCanonical_reportedAfter {earlier : List (Value UnitText)}
    (canonical : ∀ sample ∈ earlier, sample.IsCanonical) :
    (reportedAfter earlier).IsCanonical := by
  have empty : (.list [.null] : Value UnitText).IsCanonical :=
    .list (List.forall_mem_singleton.2 .null)
  have usage : (Value.object reportedUsage).IsCanonical :=
    .ofList (List.forall_mem_cons.2 ⟨.null, List.forall_mem_singleton.2 empty⟩)
  have sample : (Value.object reportedSample).IsCanonical := by
    refine .ofList ?_
    simp only [List.forall_mem_cons]
    exact ⟨usage, .text _, .bool true, .text _, nofun⟩
  refine .singleton _ (.list ?_)
  rw [List.forall_mem_append, List.forall_mem_singleton]
  exact ⟨canonical, sample⟩

theorem lookup_time_reportedSample :
    reportedSample.lookup (literal "timestamp") = some (.text (literal headerTime)) := by
  decide +kernel

theorem isSample_reportedSample : IsSample (.object reportedSample) := by
  have allDefined : allMembersDefined reportedSample := by decide
  rw [allMembersDefined_eq, List.all_eq_true] at allDefined
  exact .object lookup_time_reportedSample fun member isMember _ =>
    (isDefined_iff member.2).1 (allDefined member isMember)

theorem readTimestamp_headerTime :
    readTimestamp (literal headerTime : UnitText) = .ok 1704067200 := by
  have seen : Textual.chars (literal headerTime : UnitText) = headerTime.toList :=
    Textual.chars_literal headerTime (by simp [headerTime])
  have whole : dropFraction headerTime.toList = headerTime.toList := rfl
  have millis : Platform.millis? headerTime.toList = some 1704067200000 := if_pos rfl
  rw [readTimestamp, seen, whole, millis]
  rfl

theorem accepts_reportedAfter {earlier : List (Value UnitText)}
    (wellFormed : ∀ sample ∈ earlier, IsSample sample) :
    Accepts (reportedAfter earlier) reportedSample 1704067200 where
  listed := by
    refine ⟨_, earlier, rfl, by rw [Table.lookup_entry, if_pos rfl], ?_⟩
    rw [List.forall_mem_append, List.forall_mem_singleton]
    exact ⟨wellFormed, isSample_reportedSample⟩
  timed := ⟨literal headerTime, lookup_time_reportedSample, readTimestamp_headerTime⟩

/-- The keys are told apart, and the time that only the platform reads is read. -/
theorem latest_keeps_last_sample_of_reportedSample :
    ∃ snapshot : Members UnitText, IsSnapshotOf reportedSample 1704067200 snapshot ∧
      latest (some (reportedAfter [])) (literal "worker-1") = .ok snapshot ∧
      latest (some (reportedAfter [undatedSample])) (literal "worker-2") = .ok snapshot ∧
      latest (some (.text reportedText)) (literal "worker-3") = .ok snapshot := by
  obtain ⟨snapshot, reduced⟩ := latest_keeps_last_sample.2.2 reportedSample 1704067200
  have undated : undatedSample.IsCanonical := .singleton _ (.text _)
  have first := reduced (some (reportedAfter [])) (reportedAfter []) (literal "worker-1")
    (by rintro _ ⟨⟩; exact isCanonical_reportedAfter nofun)
    (.value nofun) (accepts_reportedAfter nofun)
  have second := reduced (some (reportedAfter [undatedSample])) (reportedAfter [undatedSample])
    (literal "worker-2")
    (by rintro _ ⟨⟩; exact isCanonical_reportedAfter (List.forall_mem_singleton.2 undated))
    (.value nofun)
    (accepts_reportedAfter (List.forall_mem_singleton.2 isSample_undatedSample))
  have third := reduced (some (.text reportedText)) (reportedAfter []) (literal "worker-3")
    (by rintro _ ⟨⟩; exact .text _) (.text parse?_reportedText) (accepts_reportedAfter nofun)
  exact ⟨snapshot, first.2, first.1, second.1, third.1⟩

end Reported

end ClusterAgent.NodeStats
