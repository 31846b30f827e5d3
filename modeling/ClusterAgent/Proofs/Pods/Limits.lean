import ClusterAgent.Proofs.Number.Nonnegative
import ClusterAgent.Proofs.Report.Quantities

/-!
Contract: how the limits of a container are read.

Each limit is read for itself. One that is not declared is infinite, whether all
limits are missing, none is declared or only this one is left out. Declaring one
limit leaves the other as it was.

Owns: resources that are limited, limits by resource, a clause with one more quantity declared.
Does not own: the grammar of quantities, and what limits of several containers come to.
-/

namespace ClusterAgent

/-- The resources that containers ask for. -/
inductive Resource where
  | cpu
  | memory
deriving DecidableEq, Repr

namespace Resource

def name : Resource → String
  | cpu => "cpu"
  | memory => "memory"

def reader : Resource → String → Except AggregationError Number
  | cpu => Quantity.cpu
  | memory => Quantity.memory

theorem reader_unlimited (resource : Resource) :
    resource.reader "inf" = .ok (.infinity false) := by
  cases resource <;> rfl

theorem reader_zero (resource : Resource) : resource.reader "0" = .ok .zero := by
  cases resource <;> rfl

end Resource

def Amounts.of (amounts : Amounts) : Resource → Number
  | .cpu => amounts.cpu
  | .memory => amounts.memory

/-! ## Declared quantities -/

/-- A quantity that is a number from zero to infinity, if it is declared. -/
def Declaration.IsNonneg (declaration : Declaration)
    (reader : String → Except AggregationError Number) : Prop :=
  ∀ quantity, declaration = .text quantity →
    ∃ number, reader quantity = .ok number ∧ number.IsNonneg

/-- What a limit is read as: infinite, if none is declared. -/
theorem Declaration.exists_limit {declaration : Declaration} {resource : Resource}
    (typed : declaration ≠ .other) (nonneg : declaration.IsNonneg resource.reader) :
    ∃ number, declaration.read resource.reader "inf" .amount = .ok number ∧ number.IsNonneg := by
  cases declaration with
  | other => exact absurd rfl typed
  | absent =>
    refine ⟨.infinity false, ?_, rfl⟩
    rw [read, resource.reader_unlimited, Outcome.mapError_ok]
  | text quantity =>
    obtain ⟨number, read, numberNonneg⟩ := nonneg quantity rfl
    refine ⟨number, ?_, numberNonneg⟩
    rw [Declaration.read, read, Outcome.mapError_ok]

namespace ResourceClause

/-- What a clause declares of a resource. -/
def declared (clause : ResourceClause) (resource : Resource) : Declaration :=
  match clause with
  | .absent => .absent
  | .refused _ => .other
  | .table quantities => quantities.declared resource.name

def IsNonneg (clause : ResourceClause) : Prop :=
  ∀ resource, (clause.declared resource).IsNonneg resource.reader

/-- The clause with a quantity declared. -/
def declaring (clause : ResourceClause) (resource : Resource) (quantity : String) :
    ResourceClause :=
  match clause with
  | .absent => .table ⟨[(resource.name, .text quantity)]⟩
  | .refused cause => .refused cause
  | .table quantities =>
    .table ⟨Table.setEntry resource.name (.text quantity) quantities.entries⟩

variable {clause : ResourceClause}

theorem IsNonneg.isAccepted (nonneg : clause.IsNonneg) : clause.IsAccepted := by
  rintro quantities rfl
  constructor
  · intro quantity declared
    obtain ⟨number, read, _⟩ := nonneg .cpu quantity declared
    exact ⟨number, read⟩
  · intro quantity declared
    obtain ⟨number, read, _⟩ := nonneg .memory quantity declared
    exact ⟨number, read⟩

theorem declared_ne_other (typed : clause.IsTyped) (resource : Resource) :
    clause.declared resource ≠ .other := by
  cases clause with
  | absent => exact Declaration.noConfusion
  | refused cause => exact typed.elim
  | table quantities => exact ResourceTable.declared_ne_other typed resource.name

/-- Limits are read resource by resource, whether a whole clause is missing, is empty or leaves one
resource out. -/
theorem limits_eq (typed : clause.IsTyped) :
    clause.amounts "inf" .unlimited = do
      let cpu ← (clause.declared .cpu).read Quantity.cpu "inf" .amount
      let memory ← (clause.declared .memory).read Quantity.memory "inf" .amount
      return ⟨cpu, memory⟩ := by
  cases clause with
  | absent => rfl
  | refused cause => exact typed.elim
  | table quantities =>
    unfold amounts
    dsimp only
    split
    · rename_i empty
      have nothing (resource : Resource) : (table quantities).declared resource = .absent := by
        rw [declared, ResourceTable.declared, List.isEmpty_iff.1 empty]
        rfl
      rw [nothing, nothing]
      rfl
    · rfl

theorem limits_eq_ok (typed : clause.IsTyped) {amounts : Amounts} :
    clause.amounts "inf" .unlimited = .ok amounts ↔
      ∀ resource, (clause.declared resource).read resource.reader "inf" .amount =
        .ok (amounts.of resource) := by
  rw [limits_eq typed]
  constructor
  · intro read
    obtain ⟨cpu, cpuRead, read⟩ := Outcome.bind_eq_ok.1 read
    obtain ⟨memory, memoryRead, isPair⟩ := Outcome.bind_eq_ok.1 read
    cases isPair
    intro resource
    cases resource
    · exact cpuRead
    · exact memoryRead
  · intro read
    exact Outcome.bind_eq_ok.2 ⟨amounts.cpu, read .cpu, Outcome.bind_eq_ok.2
      ⟨amounts.memory, read .memory, rfl⟩⟩

/-- Limits that are read from quantities that are not negative. -/
theorem exists_limits (typed : clause.IsTyped) (nonneg : clause.IsNonneg) :
    ∃ amounts, clause.amounts "inf" .unlimited = .ok amounts ∧
      ∀ resource, (amounts.of resource).IsNonneg := by
  have reads (resource : Resource) :=
    Declaration.exists_limit (declared_ne_other typed resource) (nonneg resource)
  obtain ⟨cpu, cpuRead, cpuNonneg⟩ := reads .cpu
  obtain ⟨memory, memoryRead, memoryNonneg⟩ := reads .memory
  refine ⟨⟨cpu, memory⟩, (limits_eq_ok typed).2 fun resource => ?_, fun resource => ?_⟩
  · cases resource
    · exact cpuRead
    · exact memoryRead
  · cases resource
    · exact cpuNonneg
    · exact memoryNonneg

theorem limit_of_undeclared (typed : clause.IsTyped) {resource : Resource}
    (undeclared : clause.declared resource = .absent) {amounts : Amounts}
    (read : clause.amounts "inf" .unlimited = .ok amounts) :
    amounts.of resource = .infinity false := by
  have readOne := (limits_eq_ok typed).1 read resource
  rw [undeclared, Declaration.read, resource.reader_unlimited, Outcome.mapError_ok] at readOne
  exact (Except.ok.inj readOne).symm

/-! ## Declaring a quantity -/

theorem declared_declaring (typed : clause.IsTyped) (resource other : Resource)
    (quantity : String) :
    (clause.declaring resource quantity).declared other =
      if other = resource then .text quantity else clause.declared other := by
  have sameName : other.name = resource.name ↔ other = resource := by
    cases other <;> cases resource <;> decide
  cases clause with
  | refused cause => exact typed.elim
  | absent =>
    change (List.lookup other.name [(resource.name, Declaration.text quantity)]).getD .absent = _
    rw [Table.lookup_entry]
    simp only [sameName]
    split <;> rfl
  | table quantities =>
    change (List.lookup other.name
      (Table.setEntry resource.name (.text quantity) quantities.entries)).getD .absent = _
    rw [Table.lookup_setEntry]
    simp only [sameName]
    split <;> rfl

theorem isTyped_declaring (typed : clause.IsTyped) (resource : Resource) (quantity : String) :
    (clause.declaring resource quantity).IsTyped := by
  cases clause with
  | refused cause => exact typed.elim
  | absent => exact List.forall_mem_singleton.2 Declaration.noConfusion
  | table quantities =>
    intro entry member
    rcases Table.mem_setEntry member with isNew | old
    · rw [isNew]
      exact Declaration.noConfusion
    · exact typed entry old

theorem isNonneg_declaring_zero (typed : clause.IsTyped) (nonneg : clause.IsNonneg)
    (resource : Resource) : (clause.declaring resource "0").IsNonneg := by
  intro other quantity declared
  rw [declared_declaring typed] at declared
  split at declared
  · cases declared
    exact ⟨.zero, other.reader_zero, .inl rfl⟩
  · exact nonneg other quantity declared

/-- Declaring the quantity of one resource leaves the limit of the other as it was. -/
theorem limits_declaring (typed : clause.IsTyped) {resource other : Resource}
    (differs : other ≠ resource) {quantity : String} {amounts bounded : Amounts}
    (read : clause.amounts "inf" .unlimited = .ok amounts)
    (readBounded : (clause.declaring resource quantity).amounts "inf" .unlimited = .ok bounded) :
    amounts.of other = bounded.of other := by
  have readOne := (limits_eq_ok typed).1 read other
  have readOther := (limits_eq_ok (isTyped_declaring typed resource quantity)).1 readBounded other
  rw [declared_declaring typed, if_neg differs, readOne] at readOther
  exact Except.ok.inj readOther

end ResourceClause

end ClusterAgent
