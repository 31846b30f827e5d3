import ClusterAgent.Proofs.Members
import ClusterAgent.Report.Section
import Mathlib.Data.List.Find
import Mathlib.Data.List.TakeWhile

/-!
Contract: what a section holds after any attempts to insert data.

A section takes the entries of an attempt up to the first one that it refuses,
and what it took it keeps. So it is told by the entries that it has accepted so
far: a key stands where it was first accepted, and holds either the one value
that it was given or the overlay of the objects that it was given.

Owns: accepted entries, what a section takes of an attempt, sections by their
history.
Does not own: which data is inserted.
-/

namespace ClusterAgent

def Value.isObject (value : Value) : Bool := value.members?.isSome

theorem Value.isObject_iff {value : Value} :
    value.isObject = true ↔ ∃ members, value = .object members := by
  cases value <;> simp [isObject, members?]

theorem takeWhile_congr {α : Type} {keep other : α → Bool} {items : List α}
    (same : ∀ item ∈ items, keep item = other item) :
    items.takeWhile keep = items.takeWhile other := by
  induction items with
  | nil => rfl
  | cons item rest inductionHypothesis =>
    obtain ⟨sameHere, sameLater⟩ := List.forall_mem_cons.1 same
    rw [List.takeWhile_cons, List.takeWhile_cons, sameHere, inductionHypothesis sameLater]

namespace Section

/-- Data as an object or a map of values holds it: no key stands twice, and the members of objects
stand in their canonical order. -/
structure IsFormed (data : List (Name × Value)) : Prop where
  distinct : (data.map Prod.fst).Nodup
  canonical : ∀ key members, (key, .object members) ∈ data → Members.IsCanonical members

/-! ## One attempt -/

/-- Whether a section refuses an entry: it holds something under the key, and not both values are
objects. -/
def refuses (target : Section) (entry : Name × Value) : Bool :=
  (target.content.get? entry.1).any fun held => !(held.isObject && entry.2.isObject)

/-- What a key holds after it is given a value. -/
def joined : Option Value → Value → Value
  | some (.object held), .object given => .object (Members.overlay held given)
  | _, given => given

/-- A section with entries that it does not refuse. -/
def extended (target : Section) (entries : List (Name × Value)) : Section :=
  ⟨entries.foldl (fun content entry =>
    content.set entry.1 (joined (content.get? entry.1) entry.2)) target.content⟩

theorem extended_append (target : Section) (earlier later : List (Name × Value)) :
    target.extended (earlier ++ later) = (target.extended earlier).extended later := by
  simp [extended]

theorem get?_extended (target : Section) (entries : List (Name × Value)) (key : Name) :
    (target.extended entries).content.get? key =
      ((entries.filter (·.1 = key)).map Prod.snd).foldl (fun held given => some (joined held given))
        (target.content.get? key) :=
  Table.get?_foldl_set_all joined entries target.content key

theorem insertOne_of_refused {target : Section} {key : Name} {value : Value}
    (refused : target.refuses (key, value)) :
    target.insertOne key value = .error (.duplicateKey key.label) := by
  unfold refuses at refused
  unfold insertOne
  dsimp only at refused
  cases held : target.content.get? key with
  | none => simp [held] at refused
  | some before => cases before <;> cases value <;> simp_all [Value.isObject, Value.members?]

theorem insertOne_of_taken {target : Section} {key : Name} {value : Value}
    (taken : target.refuses (key, value) = false) :
    target.insertOne key value = .ok (target.extended [(key, value)]) := by
  unfold refuses at taken
  unfold insertOne extended
  dsimp only [List.foldl_cons, List.foldl_nil] at taken ⊢
  cases held : target.content.get? key with
  | none => simp [joined]
  | some before =>
    cases before <;> cases value <;> simp_all [Value.isObject, Value.members?, joined]

/-- What a section takes under one key makes no difference to the others. -/
theorem refuses_extended_of_ne {target : Section} {taken entry : Name × Value}
    (differ : entry.1 ≠ taken.1) :
    (target.extended [taken]).refuses entry = target.refuses entry := by
  simp [refuses, get?_extended, Ne.symm differ]

/-- A section takes the entries before the first one that it refuses, and names the key of that
one. -/
theorem insert_eq {target : Section} {data : List (Name × Value)}
    (distinct : (data.map Prod.fst).Nodup) :
    target.insert data =
      ⟨target.extended (data.takeWhile fun entry => !target.refuses entry),
        (data.find? target.refuses).map fun entry => .duplicateKey entry.1.label⟩ := by
  induction data generalizing target with
  | nil => rfl
  | cons entry rest inductionHypothesis =>
    obtain ⟨key, value⟩ := entry
    rw [List.map_cons, List.nodup_cons] at distinct
    cases refused : target.refuses (key, value) with
    | true =>
      rw [insert, insertOne_of_refused refused]
      simp [refused, extended]
    | false =>
      -- Keys stand once, so the first entry does not decide whether a later one is refused.
      have unchanged : ∀ entry ∈ rest,
          (target.extended [(key, value)]).refuses entry = target.refuses entry :=
        fun entry member => refuses_extended_of_ne (fst_ne_of_not_mem distinct.1 entry member)
      have sameTaken :
          (rest.takeWhile fun entry => !(target.extended [(key, value)]).refuses entry) =
            rest.takeWhile fun entry => !target.refuses entry :=
        takeWhile_congr fun entry member => by rw [unchanged entry member]
      rw [insert, insertOne_of_taken refused]
      dsimp only
      rw [inductionHypothesis distinct.2, sameTaken, List.find?_congr unchanged,
        ← extended_append]
      simp [refused]

theorem insert_of_taken {target : Section} {data : List (Name × Value)}
    (distinct : (data.map Prod.fst).Nodup)
    (taken : ∀ entry ∈ data, target.refuses entry = false) :
    target.insert data = ⟨target.extended data, none⟩ := by
  have all : (data.takeWhile fun entry => !target.refuses entry) = data :=
    List.takeWhile_eq_self_iff.2 fun entry member => by simp [taken entry member]
  have noneFound : data.find? target.refuses = none :=
    List.find?_eq_none.2 fun entry member => by simp [taken entry member]
  rw [insert_eq distinct, all, noneFound, Option.map_none]

/-- An attempt leaves what an attempt with the entries that it takes would leave. -/
theorem insert_taken (target : Section) {data : List (Name × Value)}
    (distinct : (data.map Prod.fst).Nodup) :
    target.insert (data.takeWhile fun entry => !target.refuses entry) =
      ⟨(target.insert data).state, none⟩ := by
  have isPart : (data.takeWhile fun entry => !target.refuses entry).Sublist data :=
    List.takeWhile_sublist _
  have taken : ∀ entry ∈ data.takeWhile fun entry => !target.refuses entry,
      target.refuses entry = false :=
    fun entry member => by simpa using List.mem_takeWhile_imp member
  rw [insert_of_taken (distinct.sublist (isPart.map Prod.fst)) taken, insert_eq distinct]

/-- How an attempt ends: it takes everything if nothing is refused, and else it takes what comes
before the first entry that is refused and names that entry's key. -/
inductive Ends (target : Section) (data : List (Name × Value)) :
    List (Name × Value) → Option AggregationError → Prop where
  | through (taken : ∀ entry ∈ data, target.refuses entry = false) : Ends target data data none
  | stopped (before after : List (Name × Value)) (entry : Name × Value)
      (split : data = before ++ entry :: after)
      (taken : ∀ earlier ∈ before, target.refuses earlier = false)
      (refused : target.refuses entry = true) :
      Ends target data before (some (.duplicateKey entry.1.label))

theorem ends_insert (target : Section) {data : List (Name × Value)}
    (distinct : (data.map Prod.fst).Nodup) :
    Ends target data (data.takeWhile fun entry => !target.refuses entry)
      (target.insert data).fault := by
  rw [insert_eq distinct]
  cases found : data.find? target.refuses with
  | none =>
    have taken : ∀ entry ∈ data, target.refuses entry = false := by
      simpa using List.find?_eq_none.1 found
    have all : (data.takeWhile fun entry => !target.refuses entry) = data :=
      List.takeWhile_eq_self_iff.2 fun entry member => by simp [taken entry member]
    rw [all]
    exact .through taken
  | some entry =>
    obtain ⟨refused, before, after, rfl, taken⟩ := List.find?_eq_some_iff_append.1 found
    have stops : ((before ++ entry :: after).takeWhile fun entry => !target.refuses entry) =
        before := by
      rw [List.takeWhile_append_of_pos taken, List.takeWhile_cons]
      simp [refused]
    rw [stops]
    exact .stopped before after entry rfl (by simpa using taken) refused

/-- Nothing can be inserted under a key that holds a value that is no object. -/
theorem isSome_fault_of_plain {target : Section} {key : Name} {value : Value}
    (held : target.content.get? key = some value) (plain : value.isObject = false)
    {data : List (Name × Value)} (distinct : (data.map Prod.fst).Nodup)
    (given : key ∈ data.map Prod.fst) : (target.insert data).fault.isSome := by
  obtain ⟨entry, member, rfl⟩ := List.mem_map.1 given
  have refused : target.refuses entry = true := by simp [refuses, held, plain]
  rw [insert_eq distinct, Option.isSome_map, List.find?_isSome]
  exact ⟨entry, member, refused⟩

/-! ## Accepted entries -/

/-- Whether an entry may come after another one: under one key, both have to be objects. -/
def mayFollow (earlier later : Name × Value) : Bool :=
  earlier.1 ≠ later.1 || (earlier.2.isObject && later.2.isObject)

/-- Whether an entry may come after entries that were accepted. -/
def admits (past : List (Name × Value)) (entry : Name × Value) : Bool :=
  past.all fun earlier => mayFollow earlier entry

/-- The entries that a new section accepts of attempts, one attempt after the other: of each those
before the first one that may not come after what was accepted. -/
def accepted (attempts : List (List (Name × Value))) : List (Name × Value) :=
  attempts.foldl (fun past data => past ++ data.takeWhile (admits past)) []

/-- The section that attempts leave behind, whether they fail or not. -/
def ofAttempts (attempts : List (List (Name × Value))) : Section :=
  attempts.foldl (fun target data => (target.insert data).state) .empty

/-- Entries of which each may come after all before it. -/
def IsHistory (past : List (Name × Value)) : Prop :=
  past.Pairwise fun earlier later => mayFollow earlier later = true

theorem accepted_append_singleton (attempts : List (List (Name × Value)))
    (data : List (Name × Value)) :
    accepted (attempts ++ [data]) =
      accepted attempts ++ data.takeWhile (admits (accepted attempts)) := by
  simp [accepted]

theorem ofAttempts_append_singleton (attempts : List (List (Name × Value)))
    (data : List (Name × Value)) :
    ofAttempts (attempts ++ [data]) = ((ofAttempts attempts).insert data).state := by
  simp [ofAttempts]

/-- What data adds to a history is one with it. -/
theorem IsHistory.append_takeWhile {past data : List (Name × Value)} (history : IsHistory past)
    (distinct : (data.map Prod.fst).Nodup) : IsHistory (past ++ data.takeWhile (admits past)) := by
  have taken : (data.takeWhile (admits past)).Sublist data := List.takeWhile_sublist _
  refine List.pairwise_append.2 ⟨history, ?_, ?_⟩
  · have differ : (data.takeWhile (admits past)).Pairwise fun earlier later =>
        earlier.1 ≠ later.1 := List.pairwise_map.1 (distinct.sublist (taken.map Prod.fst))
    exact differ.imp fun differ => by simp [mayFollow, differ]
  · intro earlier member later isTaken
    have admitted : admits past later = true := List.mem_takeWhile_imp isTaken
    exact List.all_eq_true.1 admitted earlier member

theorem isHistory_accepted {attempts : List (List (Name × Value))}
    (distinct : ∀ data ∈ attempts, (data.map Prod.fst).Nodup) : IsHistory (accepted attempts) := by
  induction attempts using List.reverseRecOn with
  | nil => exact List.Pairwise.nil
  | append_singleton attempts data inductionHypothesis =>
    obtain ⟨earlier, last⟩ := List.forall_mem_append.1 distinct
    rw [accepted_append_singleton]
    exact (inductionHypothesis earlier).append_takeWhile (last data (List.mem_singleton_self data))

/-- The objects that were accepted under a key. -/
def objectsAt (key : Name) (past : List (Name × Value)) : List Members :=
  (past.filter (·.1 = key)).filterMap fun entry => entry.2.members?

section History

variable {past : List (Name × Value)} {key : Name}

/-- The entries under a key are the first one, and others only if all of them are objects. -/
theorem IsHistory.exists_filter (history : IsHistory past) {value : Value}
    (first : past.lookup key = some value) :
    ∃ others, past.filter (·.1 = key) = (key, value) :: others ∧
      ∀ entry ∈ others, value.isObject ∧ entry.2.isObject := by
  obtain ⟨before, after, rfl, notBefore⟩ := List.lookup_eq_some_iff.1 first
  refine ⟨after.filter (·.1 = key), ?_, ?_⟩
  · have noneBefore : before.filter (·.1 = key) = [] := by
      rw [List.filter_eq_nil_iff]
      intro entry member same
      simpa [of_decide_eq_true same] using notBefore entry member
    rw [List.filter_append, noneBefore, List.nil_append, List.filter_cons_of_pos (by simp)]
  · intro entry member
    obtain ⟨isAfter, same⟩ := List.mem_filter.1 member
    have follows := (List.pairwise_cons.1 (List.pairwise_append.1 history).2.1).1 entry isAfter
    simpa [mayFollow, of_decide_eq_true same] using follows

theorem get?_of_lookup_eq_none (first : past.lookup key = none) :
    (empty.extended past).content.get? key = none := by
  have noneGiven : past.filter (·.1 = key) = [] := by
    rw [List.filter_eq_nil_iff]
    intro entry member same
    have absent : key ∉ past.map Prod.fst := Table.lookup_eq_none_iff.1 first
    exact absent (of_decide_eq_true same ▸ List.mem_map_of_mem member)
  rw [get?_extended, noneGiven]
  rfl

/-- A value that is no object stays alone under its key. -/
theorem get?_of_lookup_plain (history : IsHistory past) {value : Value}
    (first : past.lookup key = some value) (plain : value.isObject = false) :
    (empty.extended past).content.get? key = some value := by
  obtain ⟨others, given, objects⟩ := history.exists_filter first
  have alone : others = [] := by
    rw [List.eq_nil_iff_forall_not_mem]
    intro entry member
    rw [plain] at objects
    exact absurd (objects entry member).1 (by simp)
  rw [get?_extended, given, alone]
  rfl

theorem foldl_joined_objects (held : Members) (objects : List Members) :
    (objects.map Value.object).foldl (fun held given => some (joined held given))
        (some (.object held)) = some (.object (Members.overlay held objects.flatten)) := by
  induction objects generalizing held with
  | nil => rfl
  | cons members rest inductionHypothesis =>
    rw [List.map_cons, List.foldl_cons, joined, inductionHypothesis]
    simp [Members.overlay]

/-- Objects under one key are overlaid, in the order in which they were accepted. -/
theorem exists_objects_of_lookup (history : IsHistory past) {members : Members}
    (first : past.lookup key = some (.object members)) :
    ∃ others, objectsAt key past = members :: others ∧
      (empty.extended past).content.get? key =
        some (.object (Members.overlay members others.flatten)) := by
  obtain ⟨others, given, objects⟩ := history.exists_filter first
  have areObjects : ∀ entry ∈ others, entry.2.members?.map Value.object = some entry.2 := by
    intro entry member
    obtain ⟨held, isObject⟩ := Value.isObject_iff.1 (objects entry member).2
    rw [isObject]
    rfl
  have otherObjects : (others.filterMap fun entry => entry.2.members?).map Value.object =
      others.map Prod.snd := by
    rw [List.map_filterMap, List.filterMap_congr areObjects, List.filterMap_eq_map']
  refine ⟨others.filterMap fun entry => entry.2.members?, ?_, ?_⟩
  · rw [objectsAt, given]
    rfl
  · rw [get?_extended, given, List.map_cons, ← otherObjects]
    exact foldl_joined_objects members _

/-- After an object, only objects are accepted under a key. -/
theorem IsHistory.isObject_of_lookup (history : IsHistory past) {members : Members}
    (first : past.lookup key = some (.object members)) :
    ∀ entry ∈ past, entry.1 = key → entry.2.isObject := by
  intro entry member same
  obtain ⟨others, given, objects⟩ := history.exists_filter first
  have isGiven : entry ∈ past.filter (·.1 = key) := List.mem_filter.2 ⟨member, by simpa using same⟩
  rw [given] at isGiven
  rcases List.mem_cons.1 isGiven with rfl | later
  · rfl
  · exact (objects entry later).2

/-- The section that accepted some entries refuses exactly those that may not come after them. -/
theorem refuses_extended (history : IsHistory past) (entry : Name × Value) :
    (empty.extended past).refuses entry = !admits past entry := by
  cases first : past.lookup entry.1 with
  | none =>
    have admitted : admits past entry = true := by
      refine List.all_eq_true.2 fun earlier member => ?_
      have absent : entry.1 ∉ past.map Prod.fst := Table.lookup_eq_none_iff.1 first
      have differ : earlier.1 ≠ entry.1 := fst_ne_of_not_mem absent earlier member
      simp [mayFollow, differ]
    rw [refuses, get?_of_lookup_eq_none first, admitted]
    rfl
  | some value =>
    have isPast : (entry.1, value) ∈ past := Table.mem_of_lookup first
    cases plain : value.isObject with
    | false =>
      have notAdmitted : admits past entry = false := by
        rw [Bool.eq_false_iff]
        intro admitted
        simpa [mayFollow, plain] using List.all_eq_true.1 admitted _ isPast
      rw [refuses, get?_of_lookup_plain history first plain, notAdmitted]
      simp [plain]
    | true =>
      obtain ⟨members, rfl⟩ := Value.isObject_iff.1 plain
      obtain ⟨others, _, held⟩ := exists_objects_of_lookup history first
      have admitsObjects : admits past entry = entry.2.isObject := by
        rw [Bool.eq_iff_iff, admits, List.all_eq_true]
        constructor
        · intro admitted
          have follows := admitted _ isPast
          simp only [mayFollow, ne_eq, not_true_eq_false, decide_false, Bool.false_or,
            Bool.and_eq_true] at follows
          exact follows.2
        · intro isObject earlier member
          by_cases same : earlier.1 = entry.1
          · simp [mayFollow, isObject, history.isObject_of_lookup first earlier member same]
          · simp [mayFollow, same]
      rw [refuses, held, admitsObjects]
      rfl

end History

/-! ## Runs of attempts -/

/-- A new section holds what it accepted of all attempts, and nothing else. -/
theorem ofAttempts_eq {attempts : List (List (Name × Value))}
    (distinct : ∀ data ∈ attempts, (data.map Prod.fst).Nodup) :
    ofAttempts attempts = empty.extended (accepted attempts) := by
  induction attempts using List.reverseRecOn with
  | nil => rfl
  | append_singleton attempts data inductionHypothesis =>
    obtain ⟨earlier, last⟩ := List.forall_mem_append.1 distinct
    have taken : (data.takeWhile fun entry => !(ofAttempts attempts).refuses entry) =
        data.takeWhile (admits (accepted attempts)) := by
      refine takeWhile_congr fun entry _ => ?_
      rw [inductionHypothesis earlier, refuses_extended (isHistory_accepted earlier), Bool.not_not]
    rw [ofAttempts_append_singleton, insert_eq (last data (List.mem_singleton_self data)), taken,
      inductionHypothesis earlier, accepted_append_singleton, extended_append]

theorem accepted_append (attempts later : List (List (Name × Value))) :
    ∃ more, accepted (attempts ++ later) = accepted attempts ++ more := by
  induction later using List.reverseRecOn with
  | nil => exact ⟨[], by simp⟩
  | append_singleton later data inductionHypothesis =>
    obtain ⟨more, grown⟩ := inductionHypothesis
    refine ⟨more ++ data.takeWhile (admits (accepted (attempts ++ later))), ?_⟩
    rw [← List.append_assoc attempts, accepted_append_singleton, ← List.append_assoc, ← grown]

theorem mem_accepted {attempts : List (List (Name × Value))} {entry : Name × Value}
    (member : entry ∈ accepted attempts) : ∃ data ∈ attempts, entry ∈ data := by
  induction attempts using List.reverseRecOn with
  | nil => simp [accepted] at member
  | append_singleton attempts data inductionHypothesis =>
    rw [accepted_append_singleton, List.mem_append] at member
    rcases member with earlier | last
    · obtain ⟨other, isAttempt, isIn⟩ := inductionHypothesis earlier
      exact ⟨other, List.mem_append_left _ isAttempt, isIn⟩
    · exact ⟨data, by simp, (List.takeWhile_sublist _).subset last⟩

theorem isOverlayOf_objectsAt {past : List (Name × Value)} (history : IsHistory past)
    (canonical : ∀ key members, (key, .object members) ∈ past → Members.IsCanonical members)
    {key : Name} {members : Members} (first : past.lookup key = some (.object members)) :
    ∃ result, (empty.extended past).content.get? key = some (.object result) ∧
      Members.IsOverlayOf (objectsAt key past).flatten result := by
  obtain ⟨others, objects, held⟩ := exists_objects_of_lookup history first
  have isPast : (key, .object members) ∈ past := Table.mem_of_lookup first
  refine ⟨Members.overlay members others.flatten, held, ?_⟩
  rw [objects, List.flatten_cons]
  exact Members.isOverlayOf_overlay (canonical key members isPast) others.flatten

/-- A new section after attempts, whether they fail or not, with data as objects and maps hold it.
Its keys stand once, in the order in which they were first accepted. A value that is no object stays
what it is whatever comes later, and whatever comes later under its key fails. A key that was given
an object first was given objects only, and holds their overlay. The next attempt takes the entries
before the first one that is refused, as if it had been given no others, fails if there is one, and
names its key. -/
theorem ofAttempts_tells_history {attempts : List (List (Name × Value))}
    (formed : ∀ data ∈ attempts, IsFormed data) :
    (ofAttempts attempts).content.keys = ((accepted attempts).map Prod.fst).eraseDups ∧
      (ofAttempts attempts).content.keys.Nodup ∧
      (∀ key value, (accepted attempts).lookup key = some value → value.isObject = false →
        ∀ later, (∀ data ∈ later, IsFormed data) →
          (ofAttempts (attempts ++ later)).content.get? key = some value ∧
            ∀ data, IsFormed data → key ∈ data.map Prod.fst →
              ((ofAttempts (attempts ++ later)).insert data).fault.isSome) ∧
      (∀ key members, (accepted attempts).lookup key = some (.object members) →
        (∀ entry ∈ accepted attempts, entry.1 = key → entry.2.isObject) ∧
          ∃ result, (ofAttempts attempts).content.get? key = some (.object result) ∧
            Members.IsOverlayOf (objectsAt key (accepted attempts)).flatten result) ∧
      ∀ data, IsFormed data →
        ∃ taken, accepted (attempts ++ [data]) = accepted attempts ++ taken ∧
          (ofAttempts attempts).insert taken =
            ⟨((ofAttempts attempts).insert data).state, none⟩ ∧
          Ends (ofAttempts attempts) data taken ((ofAttempts attempts).insert data).fault := by
  have distinct : ∀ data ∈ attempts, (data.map Prod.fst).Nodup :=
    fun data member => (formed data member).distinct
  have history : IsHistory (accepted attempts) := isHistory_accepted distinct
  have keys : (ofAttempts attempts).content.keys =
      ((accepted attempts).map Prod.fst).eraseDups := by
    rw [ofAttempts_eq distinct, extended, Table.keys_foldl_set joined]
    exact List.filter_eq_self.2 fun _ _ => by simp [empty]
  refine ⟨keys, ?_, ?_, ?_, ?_⟩
  · rw [keys]
    exact nodup_eraseDups _
  · intro key value first plain later laterFormed
    have allDistinct : ∀ data ∈ attempts ++ later, (data.map Prod.fst).Nodup :=
      List.forall_mem_append.2 ⟨distinct, fun data member => (laterFormed data member).distinct⟩
    obtain ⟨more, grown⟩ := accepted_append attempts later
    -- Whatever is accepted later comes after what is there, so the first value stays the first one.
    have stillFirst : (accepted (attempts ++ later)).lookup key = some value := by
      rw [grown, List.lookup_append, first, Option.some_or]
    have held : (ofAttempts (attempts ++ later)).content.get? key = some value := by
      rw [ofAttempts_eq allDistinct]
      exact get?_of_lookup_plain (isHistory_accepted allDistinct) stillFirst plain
    exact ⟨held, fun data isFormed given =>
      isSome_fault_of_plain held plain isFormed.distinct given⟩
  · intro key members first
    refine ⟨history.isObject_of_lookup first, ?_⟩
    rw [ofAttempts_eq distinct]
    refine isOverlayOf_objectsAt history (fun key members member => ?_) first
    obtain ⟨data, isAttempt, isIn⟩ := mem_accepted member
    exact (formed data isAttempt).canonical key members isIn
  · intro data isFormed
    have admitted : data.takeWhile (admits (accepted attempts)) =
        data.takeWhile fun entry => !(ofAttempts attempts).refuses entry := by
      refine takeWhile_congr fun entry _ => ?_
      rw [ofAttempts_eq distinct, refuses_extended history, Bool.not_not]
    refine ⟨_, accepted_append_singleton attempts data, ?_⟩
    rw [admitted]
    exact ⟨insert_taken (ofAttempts attempts) isFormed.distinct,
      ends_insert (ofAttempts attempts) isFormed.distinct⟩

/-- Attempts of which the second one stops at a key that holds no object. -/
def clashingAttempts : List (List (Name × Value)) :=
  [[("name", .text "a"),
    ("labels", .object (Members.ofList [("x", .bool true), ("7", .null), ("y", .null)]))],
   [("10", .null), ("name", .object []), ("2", .null)],
   [("9", .list []), ("labels", .object (Members.ofList [("z", .null), ("x", .object [])]))]]

theorem ofAttempts_tells_history_of_clashingAttempts :
    (∀ data ∈ clashingAttempts, IsFormed data) ∧
      (ofAttempts clashingAttempts).content.keys = ["name", "labels", "10", "9"].map Name.text ∧
      (∀ later, (∀ data ∈ later, IsFormed data) →
        (ofAttempts (clashingAttempts ++ later)).content.get? "name" = some (.text "a")) ∧
      ∃ result, (ofAttempts clashingAttempts).content.get? "labels" = some (.object result) ∧
        Members.plainKeys result = ["x", "y", "z"] := by
  have canonical : ∀ given : Members, Members.IsCanonical (Members.ofList given) :=
    Members.isCanonical_ofList
  have formed : ∀ data ∈ clashingAttempts, IsFormed data := by
    simp only [clashingAttempts, List.forall_mem_cons, List.not_mem_nil, false_imp_iff,
      forall_true_iff, and_true]
    refine ⟨⟨by decide, ?_⟩, ⟨by decide, ?_⟩, ⟨by decide, ?_⟩⟩ <;>
      rintro key members member <;>
      simp only [List.mem_cons, Prod.mk.injEq, Value.object.injEq, List.not_mem_nil, or_false,
        reduceCtorEq, and_false, false_or] at member
    · exact member.2 ▸ canonical _
    · exact member.2 ▸ List.Pairwise.nil
    · exact member.2 ▸ canonical _
  obtain ⟨keys, -, plain, overlaid, -⟩ := ofAttempts_tells_history formed
  have first : (accepted clashingAttempts).lookup (.text "labels") =
      some (.object (Members.ofList [("x", .bool true), ("7", .null), ("y", .null)])) := rfl
  obtain ⟨-, result, held, overlay⟩ := overlaid _ _ first
  refine ⟨formed, keys, fun later laterFormed => ?_, result, held, overlay.plain⟩
  exact (plain "name" (.text "a") rfl rfl later laterFormed).1

end Section

end ClusterAgent
