import CoordinatorGateway.Http.Request
import CoordinatorGateway.Launch.Order
import CoordinatorGateway.Proofs.Steps
import CoordinatorGateway.Proofs.Validation.Folders
import CoordinatorGateway.Proofs.Validation.Identifiers

namespace CoordinatorGateway

/-- The order is what the request asks for, and keeps to the policy. -/
structure LaunchRequest.Fits (r : LaunchRequest) (policy : OrderPolicy) (order : LaunchOrder) :
    Prop where
  blockId : order.blockId = r.blockId
  block_fit : Identifier.fault? r.blockId = none
  capacity : ∃ v x, r.capacity = some v ∧ Capacity.ofJson v = .ok x ∧
    x.toInt? = some (order.capacity : Int)
  capacity_fit : 1 ≤ order.capacity ∧ order.capacity ≤ policy.maxCapacity
  inputPath : order.inputPath = r.inputPath
  input_fit : Location.fault? r.inputPath .input policy.paths = none
  programPath : ∀ p, order.programPath = some p ↔ r.programPath = some p ∧ p ≠ ""
  program_fit : ∀ p, order.programPath = some p →
    Location.fault? p .program policy.paths = none

/-- The body comes in whole and is a request for the order. -/
def Body.Orders (body : Body) (policy : OrderPolicy) (order : LaunchOrder) : Prop :=
  body.bytes.length ≤ Body.maxLength ∧ body.broken = false ∧
    ∃ r, LaunchRequest.read body.bytes = .ok r ∧ r.Fits policy order

theorem Capacity.check_eq_ok_iff {x : Binary64} {max n : Nat} :
    Capacity.check x max = .ok n ↔ x.toInt? = some (n : Int) ∧ 1 ≤ n ∧ n ≤ max := by
  rw [Capacity.check]
  cases h : x.toInt? with
  | none => simp
  | some i =>
    by_cases hi : i < 1 ∨ (max : Int) < i
    · simp only [if_pos hi, reduceCtorEq, Option.some.injEq, false_iff]
      rintro ⟨rfl, hn⟩
      omega
    · simp only [if_neg hi, Except.ok.injEq, Option.some.injEq]
      constructor
      · rintro rfl
        omega
      · rintro ⟨rfl, -⟩
        exact Int.toNat_natCast n

namespace LaunchRequest

variable {r : LaunchRequest} {policy : OrderPolicy} {order order' : LaunchOrder}

theorem checkCapacity_eq_ok_iff {n : Nat} :
    r.checkCapacity policy = .ok n ↔
      (∃ v x, r.capacity = some v ∧ Capacity.ofJson v = .ok x ∧ x.toInt? = some (n : Int)) ∧
        1 ≤ n ∧ n ≤ policy.maxCapacity := by
  rw [checkCapacity]
  cases r.capacity with
  | none => simp
  | some v =>
    simp only [Except.bind_eq_ok_iff, Capacity.check_eq_ok_iff, Option.some.injEq]
    constructor
    · rintro ⟨x, hx, hn, hrange⟩
      exact ⟨⟨v, x, rfl, hx, hn⟩, hrange⟩
    · rintro ⟨⟨_, x, rfl, hx, hn⟩, hrange⟩
      exact ⟨x, hx, hn, hrange⟩

theorem programPath?_eq_some_iff {p : String} :
    r.programPath? = some p ↔ r.programPath = some p ∧ p ≠ "" := by
  simp [programPath?, Option.filter_eq_some_iff]

theorem program_check_eq_ok_iff {p? : Option String} :
    (match p? with
      | some path => do
        Location.check path .program policy.paths
        pure order'
      | _ => pure order') = (Except.ok order : Except Failure LaunchOrder) ↔
      (∀ p, p? = some p → Location.fault? p .program policy.paths = none) ∧ order' = order := by
  cases p? with
  | none => simp [pure, Except.pure]
  | some p => simp [Except.bind_eq_ok_iff, Location.check_eq_ok_iff, pure, Except.pure]

/-- A request becomes an order exactly when all of its values are fit. -/
theorem order_eq_ok_iff : r.order policy = .ok order ↔ r.Fits policy order := by
  simp only [LaunchRequest.order, Except.bind_eq_ok_iff, Identifier.check_eq_ok_iff,
    Location.check_eq_ok_iff, checkCapacity_eq_ok_iff]
  constructor
  · rintro ⟨_, hblock, n, ⟨hcapacity, hrange⟩, _, hinput, hrest⟩
    obtain ⟨hprogram, rfl⟩ := program_check_eq_ok_iff.1 hrest
    exact ⟨rfl, hblock, hcapacity, hrange, rfl, hinput, fun _ => programPath?_eq_some_iff, hprogram⟩
  · intro h
    have hpath : r.programPath? = order.programPath := by
      ext p
      rw [programPath?_eq_some_iff, h.programPath]
    obtain ⟨blockId, capacity, inputPath, programPath⟩ := order
    obtain ⟨rfl, hblock, hcapacity, hrange, rfl, hinput, -, hprogram⟩ := h
    refine ⟨(), hblock, capacity, ⟨hcapacity, hrange⟩, (), hinput, ?_⟩
    rw [hpath]
    exact program_check_eq_ok_iff.2 ⟨hprogram, rfl⟩

end LaunchRequest

namespace Body

variable {body : Body} {policy : OrderPolicy} {order order' : LaunchOrder}

theorem read_eq_ok_iff {bytes : Bytes} :
    body.read = .ok bytes ↔
      body.bytes.length ≤ maxLength ∧ body.broken = false ∧ body.bytes = bytes := by
  rw [read]
  split
  · next hlong => simp [Nat.not_le.2 hlong]
  · next hlong =>
    rw [Nat.not_lt] at hlong
    cases body.broken <;> simp [hlong]

def order? (body : Body) (policy : OrderPolicy) : Except Failure LaunchOrder := do
  (← body.read.bind LaunchRequest.read).order policy

theorem order?_eq_ok_iff : body.order? policy = .ok order ↔ body.Orders policy order := by
  have hbind {α β : Type} (x : Except Failure α) (f : α → Except Failure β) : x.bind f = x >>= f :=
    rfl
  simp only [order?, hbind, Except.bind_eq_ok_iff, read_eq_ok_iff, LaunchRequest.order_eq_ok_iff]
  constructor
  · rintro ⟨r, ⟨bytes, ⟨hlong, hwhole, rfl⟩, hread⟩, hfits⟩
    exact ⟨hlong, hwhole, r, hread, hfits⟩
  · rintro ⟨hlong, hwhole, r, hread, hfits⟩
    exact ⟨r, ⟨body.bytes, ⟨hlong, hwhole, rfl⟩, hread⟩, hfits⟩

theorem Orders.unique (h : body.Orders policy order) (h' : body.Orders policy order') :
    order = order' := by
  rw [← order?_eq_ok_iff] at h h'
  exact Except.ok.inj (h.symm.trans h')

end Body

end CoordinatorGateway
