import ClusterAgent.Failure
import Mathlib.Data.List.Forall2

/-!
Contract: outcomes that are put together from outcomes.

A traversal stops at the first failure. It succeeds exactly if every step does,
and its failure is the failure of a step.

Owns: going on after an outcome, traversals and folds, outcomes with related values,
failures that have a text.
Does not own: what a step does.
-/

namespace ClusterAgent

namespace Outcome

variable {ε ε' α β : Type}

@[simp] theorem ok_bind (value : α) (next : α → Except ε β) :
    ((Except.ok value : Except ε α) >>= next) = next value := rfl

@[simp] theorem error_bind (failure : ε) (next : α → Except ε β) :
    ((Except.error failure : Except ε α) >>= next) = .error failure := rfl

@[simp] theorem pure_eq_ok (value : α) : (pure value : Except ε α) = .ok value := rfl

@[simp] theorem map_ok (f : α → β) (value : α) :
    f <$> (Except.ok value : Except ε α) = .ok (f value) := rfl

@[simp] theorem map_error (f : α → β) (failure : ε) :
    f <$> (Except.error failure : Except ε α) = .error failure := rfl

@[simp] theorem mapError_ok (f : ε → ε') (value : α) :
    (Except.ok value : Except ε α).mapError f = .ok value := rfl

@[simp] theorem mapError_error (f : ε → ε') (failure : ε) :
    (Except.error failure : Except ε α).mapError f = .error (f failure) := rfl

theorem bind_eq_ok {outcome : Except ε α} {next : α → Except ε β} {result : β} :
    outcome >>= next = .ok result ↔
      ∃ value, outcome = .ok value ∧ next value = .ok result := by
  cases outcome <;> simp

theorem bind_eq_error {outcome : Except ε α} {next : α → Except ε β} {failure : ε} :
    outcome >>= next = .error failure ↔
      outcome = .error failure ∨ ∃ value, outcome = .ok value ∧ next value = .error failure := by
  cases outcome <;> simp

/-- Only what a success holds matters for what goes on after it. -/
theorem bind_congr {outcome : Except ε α} {next other : α → Except ε β}
    (same : ∀ value, outcome = .ok value → next value = other value) :
    outcome >>= next = outcome >>= other := by
  cases outcome with
  | ok value => exact same value rfl
  | error failure => rfl

theorem map_eq_ok {f : α → β} {outcome : Except ε α} {result : β} :
    f <$> outcome = .ok result ↔ ∃ value, outcome = .ok value ∧ f value = result := by
  cases outcome <;> simp

theorem map_eq_error {f : α → β} {outcome : Except ε α} {failure : ε} :
    f <$> outcome = .error failure ↔ outcome = .error failure := by
  cases outcome <;> simp

theorem mapError_eq_ok {f : ε → ε'} {outcome : Except ε α} {value : α} :
    outcome.mapError f = .ok value ↔ outcome = .ok value := by
  cases outcome <;> simp

theorem mapError_eq_error {f : ε → ε'} {outcome : Except ε α} {failure : ε'} :
    outcome.mapError f = .error failure ↔ ∃ inner, outcome = .error inner ∧ f inner = failure := by
  cases outcome <;> simp

theorem exists_error_of_not_ok {outcome : Except ε α} (fails : ¬ ∃ value, outcome = .ok value) :
    ∃ failure, outcome = .error failure := by
  cases outcome with
  | ok value => exact absurd ⟨value, rfl⟩ fails
  | error failure => exact ⟨failure, rfl⟩

theorem exists_ok_of_isOk {outcome : Except ε α} (succeeds : outcome.isOk) :
    ∃ value, outcome = .ok value := by
  cases outcome with
  | ok value => exact ⟨value, rfl⟩
  | error failure => cases succeeds

theorem toOption_eq_some {outcome : Except ε α} {value : α} :
    outcome.toOption = some value ↔ outcome = .ok value := by
  cases outcome <;> simp [Except.toOption]

/-- A success is what it is known to hold. -/
theorem eq_ok_known {outcome : Except ε α} (succeeds : ∃ value, outcome = .ok value)
    (fallback : α) : outcome = .ok (outcome.toOption.getD fallback) := by
  obtain ⟨value, rfl⟩ := succeeds
  rfl

/-- What follows a success; nothing follows a failure. -/
def following (outcome : Except ε α) (next : α → List β) : List β :=
  match outcome with
  | .ok value => next value
  | .error _ => []

@[simp] theorem following_ok (value : α) (next : α → List β) :
    following (.ok value : Except ε α) next = next value := rfl

@[simp] theorem following_error (failure : ε) (next : α → List β) :
    following (.error failure : Except ε α) next = [] := rfl

@[simp] theorem following_nil (outcome : Except ε α) :
    following outcome (fun _ => ([] : List β)) = [] := by
  cases outcome <;> rfl

theorem following_bind {γ : Type} (outcome : Except ε α) (next : α → Except ε β)
    (last : β → List γ) :
    following (outcome >>= next) last =
      following outcome fun value => following (next value) last := by
  cases outcome <;> rfl

section Traversal

variable {f : α → Except ε β} {items : List α}

/-- A traversal succeeds with the results of its steps. -/
theorem mapM_eq_ok {results : List β} :
    items.mapM f = .ok results ↔
      List.Forall₂ (fun item result => f item = .ok result) items results := by
  induction items generalizing results with
  | nil =>
    rw [List.mapM_nil, List.forall₂_nil_left_iff, pure_eq_ok, Except.ok.injEq]
    exact eq_comm
  | cons item rest inductionHypothesis =>
    rw [List.mapM_cons, bind_eq_ok, List.forall₂_cons_left_iff]
    constructor
    · rintro ⟨result, stepped, tailBound⟩
      obtain ⟨others, traversed, rfl⟩ := map_eq_ok.1 tailBound
      exact ⟨result, others, stepped, inductionHypothesis.1 traversed, rfl⟩
    · rintro ⟨result, others, stepped, related, rfl⟩
      refine ⟨result, stepped, ?_⟩
      rw [inductionHypothesis.2 related]
      rfl

theorem mapM_concat_eq_ok {item : α} {results : List β} :
    (items ++ [item]).mapM f = .ok results ↔
      ∃ others result, items.mapM f = .ok others ∧ f item = .ok result ∧
        results = others ++ [result] := by
  rw [List.mapM_append, bind_eq_ok]
  refine exists_congr fun others => ?_
  rw [List.mapM_cons, List.mapM_nil]
  cases f item with
  | error failure => simp
  | ok result => simp [eq_comm]

theorem exists_mapM_ok :
    (∃ results, items.mapM f = .ok results) ↔ ∀ item ∈ items, ∃ result, f item = .ok result := by
  induction items with
  | nil => simp
  | cons item rest inductionHypothesis =>
    rw [List.forall_mem_cons, ← inductionHypothesis, List.mapM_cons]
    cases f item with
    | error failure => simp
    | ok result => cases rest.mapM f <;> simp

theorem mapM_eq_map {g : α → β} (stepped : ∀ item ∈ items, f item = .ok (g item)) :
    items.mapM f = .ok (items.map g) := by
  rw [mapM_eq_ok, List.forall₂_map_right_iff, List.forall₂_same]
  exact stepped

/-- The results of a traversal are all that its steps give. -/
theorem mapM_results_eq {results : List β} (traversed : items.mapM f = .ok results) :
    results = items.filterMap fun item => (f item).toOption := by
  have related := mapM_eq_ok.1 traversed
  clear traversed
  induction related with
  | nil => rfl
  | @cons item result items results stepped _ inductionHypothesis =>
    rw [List.filterMap_cons, stepped, inductionHypothesis]
    rfl

/-- Steps that agree on all items make the same traversal. -/
theorem mapM_congr {g : α → Except ε β} (same : ∀ item ∈ items, f item = g item) :
    items.mapM f = items.mapM g := by
  induction items with
  | nil => rfl
  | cons item rest inductionHypothesis =>
    rw [List.mapM_cons, List.mapM_cons, same item List.mem_cons_self,
      inductionHypothesis fun other member => same other (List.mem_cons_of_mem item member)]

theorem exists_of_mem_right {Related : α → β → Prop} {results : List β}
    (related : List.Forall₂ Related items results) :
    ∀ result ∈ results, ∃ item ∈ items, Related item result := by
  induction related with
  | nil => simp
  | @cons item result items results relatedHere _ inductionHypothesis =>
    intro other member
    rcases List.mem_cons.1 member with rfl | later
    · exact ⟨item, by simp, relatedHere⟩
    · obtain ⟨source, inItems, relatedLater⟩ := inductionHypothesis other later
      exact ⟨source, List.mem_cons_of_mem item inItems, relatedLater⟩

theorem exists_of_mem_left {Related : α → β → Prop} {results : List β}
    (related : List.Forall₂ Related items results) :
    ∀ item ∈ items, ∃ result ∈ results, Related item result :=
  exists_of_mem_right related.flip

theorem exists_of_mem_results {results : List β} (traversed : items.mapM f = .ok results) :
    ∀ result ∈ results, ∃ item ∈ items, f item = .ok result :=
  exists_of_mem_right (mapM_eq_ok.1 traversed)

/-- What every step keeps, a traversal keeps item by item. -/
theorem map_results_eq {γ : Type} {ofItem : α → γ} {ofResult : β → γ} {results : List β}
    (kept : ∀ item ∈ items, ∀ result, f item = .ok result → ofResult result = ofItem item)
    (traversed : items.mapM f = .ok results) : results.map ofResult = items.map ofItem := by
  have related := mapM_eq_ok.1 traversed
  clear traversed
  induction related with
  | nil => rfl
  | @cons item result items results stepped _ inductionHypothesis =>
    have keptLater : ∀ other ∈ items, ∀ result, f other = .ok result →
        ofResult result = ofItem other :=
      fun other member => kept other (List.mem_cons_of_mem item member)
    rw [List.map_cons, List.map_cons, kept item List.mem_cons_self result stepped,
      inductionHypothesis keptLater]

theorem exists_mapM_of_forall {IsGood : β → Prop}
    (stepped : ∀ item ∈ items, ∃ result, f item = .ok result ∧ IsGood result) :
    ∃ results, items.mapM f = .ok results ∧ ∀ result ∈ results, IsGood result := by
  obtain ⟨results, traversed⟩ := exists_mapM_ok.2 fun item member =>
    let ⟨result, stepOk, _⟩ := stepped item member
    ⟨result, stepOk⟩
  refine ⟨results, traversed, ?_⟩
  intro result member
  obtain ⟨item, inItems, stepOk⟩ := exists_of_mem_results traversed result member
  obtain ⟨good, goodOk, isGood⟩ := stepped item inItems
  rw [stepOk] at goodOk
  cases goodOk
  exact isGood

/-- A traversal with positions succeeds if every step does, whatever the positions are. -/
theorem exists_mapM_zipIdx {step : α × Nat → Except ε β} {Related : α → β → Prop}
    (stepped : ∀ item ∈ items, ∀ position, ∃ result,
      step (item, position) = .ok result ∧ Related item result) (start : Nat) :
    ∃ results, (items.zipIdx start).mapM step = .ok results ∧
      List.Forall₂ Related items results := by
  induction items generalizing start with
  | nil => exact ⟨[], rfl, .nil⟩
  | cons item rest inductionHypothesis =>
    obtain ⟨result, stepOk, related⟩ := stepped item List.mem_cons_self start
    obtain ⟨results, traversed, allRelated⟩ := inductionHypothesis
      (fun other member => stepped other (List.mem_cons_of_mem item member)) (start + 1)
    refine ⟨result :: results, ?_, .cons related allRelated⟩
    rw [List.zipIdx_cons, List.mapM_cons, stepOk, ok_bind, traversed]
    rfl

/-- What a traversal with positions does with each item, whatever its position. -/
theorem forall₂_of_mapM_zipIdx {step : α × Nat → Except ε β} {results : List β} {start : Nat}
    (traversed : (items.zipIdx start).mapM step = .ok results) :
    List.Forall₂ (fun item result => ∃ position, step (item, position) = .ok result)
      items results := by
  induction items generalizing start results with
  | nil =>
    cases traversed
    exact .nil
  | cons item rest inductionHypothesis =>
    rw [List.zipIdx_cons, List.mapM_cons] at traversed
    obtain ⟨result, stepOk, tailBound⟩ := bind_eq_ok.1 traversed
    obtain ⟨others, othersOk, rfl⟩ := map_eq_ok.1 tailBound
    exact .cons ⟨start, stepOk⟩ (inductionHypothesis othersOk)

/-- A traversal fails with the failure of the first step that fails. -/
theorem mapM_eq_error {failure : ε} :
    items.mapM f = .error failure ↔
      ∃ before item after, items = before ++ item :: after ∧
        (∀ earlier ∈ before, ∃ result, f earlier = .ok result) ∧ f item = .error failure := by
  constructor
  · intro failed
    induction items with
    | nil => cases failed
    | cons item rest inductionHypothesis =>
      rw [List.mapM_cons] at failed
      cases stepped : f item with
      | error stepFailure =>
        rw [stepped, error_bind] at failed
        cases failed
        exact ⟨[], item, rest, rfl, List.forall_mem_nil _, stepped⟩
      | ok result =>
        rw [stepped, ok_bind, bind_eq_error] at failed
        rcases failed with traversed | ⟨results, _, ends⟩
        · obtain ⟨before, other, after, rfl, passed, stopped⟩ := inductionHypothesis traversed
          exact ⟨item :: before, other, after, rfl,
            List.forall_mem_cons.2 ⟨⟨result, stepped⟩, passed⟩, stopped⟩
        · cases ends
  · rintro ⟨before, item, after, rfl, passed, stopped⟩
    obtain ⟨results, traversed⟩ := exists_mapM_ok.2 passed
    rw [List.mapM_append, traversed, ok_bind, List.mapM_cons, stopped]
    rfl

theorem exists_of_mapM_error {failure : ε} (failed : items.mapM f = .error failure) :
    ∃ item ∈ items, f item = .error failure := by
  obtain ⟨before, item, after, rfl, -, stopped⟩ := mapM_eq_error.1 failed
  exact ⟨item, by simp, stopped⟩

theorem forM_eq_ok {check : α → Except ε Unit} (passed : ∀ item ∈ items, check item = .ok ()) :
    items.forM check = .ok () := by
  induction items with
  | nil => rfl
  | cons item rest inductionHypothesis =>
    rw [List.forM_eq_forM, List.forM_cons, passed item (by simp), ok_bind]
    exact inductionHypothesis fun other member => passed other (List.mem_cons_of_mem item member)

theorem forall₂_comp {γ : Type} {First : α → β → Prop} {Second : β → γ → Prop}
    {results : List β} {others : List γ} (first : List.Forall₂ First items results)
    (second : List.Forall₂ Second results others) :
    List.Forall₂ (fun item other => ∃ result, First item result ∧ Second result other)
      items others := by
  induction first generalizing others with
  | nil =>
    cases second
    exact .nil
  | cons related _ inductionHypothesis =>
    cases second with
    | cons relatedNext later => exact .cons ⟨_, related, relatedNext⟩ (inductionHypothesis later)

end Traversal

/-- Outcomes that fail in the same way, or succeed with values that are related. -/
inductive Related (R : α → α → Prop) : Except ε α → Except ε α → Prop where
  | ok {left right : α} (related : R left right) : Related R (.ok left) (.ok right)
  | error (failure : ε) : Related R (.error failure) (.error failure)

namespace Related

variable {R : α → α → Prop} {S : β → β → Prop} {left right : Except ε α}

theorem refl (reflexive : ∀ value, R value value) (outcome : Except ε α) :
    Related R outcome outcome := by
  cases outcome with
  | ok value => exact .ok (reflexive value)
  | error failure => exact .error failure

theorem bind {next other : α → Except ε β} (related : Related R left right)
    (nextRelated : ∀ one two, R one two → Related S (next one) (other two)) :
    Related S (left >>= next) (right >>= other) := by
  cases related with
  | ok related => exact nextRelated _ _ related
  | error failure => exact .error failure

/-- Going on after the same outcome. -/
theorem after {next other : α → Except ε β} (outcome : Except ε α)
    (nextRelated : ∀ value, Related S (next value) (other value)) :
    Related S (outcome >>= next) (outcome >>= other) := by
  cases outcome with
  | ok value => exact nextRelated value
  | error failure => exact .error failure

theorem mapError (related : Related R left right) (f : ε → ε') :
    Related R (left.mapError f) (right.mapError f) := by
  cases related with
  | ok related => exact .ok related
  | error failure => exact .error (f failure)

/-- A step that keeps a relation keeps it along a list. -/
theorem foldlM {ι : Type} {step : α → ι → Except ε α}
    (stepRelated : ∀ one two item, R one two → Related R (step one item) (step two item))
    (items : List ι) {one two : α} (related : R one two) :
    Related R (items.foldlM step one) (items.foldlM step two) := by
  induction items generalizing one two with
  | nil => exact .ok related
  | cons item rest inductionHypothesis =>
    rw [List.foldlM_cons, List.foldlM_cons]
    exact (stepRelated one two item related).bind fun _ _ related => inductionHypothesis related

end Related

end Outcome

/-- Whether a failure has a text, as every failure has but a value without one. -/
def Failure.hasText (failure : Failure) : Bool := failure.plainText?.isSome

/-- Whether the failure of an outcome has a text, if the outcome is a failure. -/
def Outcome.isTold {α : Type} : Except Failure α → Bool
  | .ok _ => true
  | .error failure => failure.hasText

end ClusterAgent
