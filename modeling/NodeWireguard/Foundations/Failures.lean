import Mathlib

/-!
# What a computation may throw

The counterpart of an inversion rule for success: a bound on the exceptions that a
computation, or a call that may still be running, can end with. A sequence throws what one
of its parts throws, and a loop over a list what the body throws on one of its items.
-/

namespace NodeWireguard.Failures

universe u v
variable {ε : Type u} {α β : Type v}

/-- Every exception of the computation has the property. It says nothing about what is returned. -/
def ThrowsOnly (property : ε → Prop) (computation : Except ε α) : Prop :=
  ∀ failure, computation = .error failure → property failure

/-- Every exception of a call has the property; a call without an outcome is running. -/
def EndsOnly (property : ε → Prop) (outcome : Option (Except ε α)) : Prop :=
  ∀ failure, outcome = some (.error failure) → property failure

variable {property : ε → Prop}

/-- A computation that returns throws nothing. -/
theorem throws_ok (value : α) : ThrowsOnly property (.ok value) := by
  intro failure threw
  cases threw

/-- One that throws must throw what is allowed. -/
theorem throws_error {failure : ε} (holds : property failure) :
    ThrowsOnly property (.error failure : Except ε α) := by
  intro other threw
  exact Except.error.inj threw ▸ holds

/-- A sequence throws what its first part throws, or what the rest throws on its value. -/
theorem throws_bind {first : Except ε α} {next : α → Except ε β}
    (here : ThrowsOnly property first) (there : ∀ value, ThrowsOnly property (next value)) :
    ThrowsOnly property (first >>= next) := by
  cases first with
  | error failure => exact throws_error (here failure rfl)
  | ok value => exact there value

/-- A loop over an accumulator throws what its body throws. -/
theorem throws_foldlM {σ : Type v} (step : σ → α → Except ε σ) (items : List α)
    (body : ∀ state, ∀ item ∈ items, ThrowsOnly property (step state item)) (state : σ) :
    ThrowsOnly property (items.foldlM step state) := by
  induction items generalizing state with
  | nil => exact throws_ok state
  | cons item rest inductionHypothesis =>
    rw [List.foldlM_cons]
    exact throws_bind (body state item List.mem_cons_self) (inductionHypothesis
      (fun state item member => body state item (List.mem_cons_of_mem _ member)))

/-- A loop that collects results throws what its body throws. -/
theorem throws_mapM (step : α → Except ε β) (items : List α)
    (body : ∀ item ∈ items, ThrowsOnly property (step item)) :
    ThrowsOnly property (items.mapM step) := by
  induction items with
  | nil => exact throws_ok []
  | cons item rest inductionHypothesis =>
    rw [List.mapM_cons]
    refine throws_bind (body item List.mem_cons_self) (fun result => ?_)
    exact throws_bind (inductionHypothesis (fun other member =>
      body other (List.mem_cons_of_mem _ member))) (fun results => throws_ok _)

/-- A loop throws what one of its steps does. The induction is on the items. -/
theorem throws_forM (step : α → Except ε PUnit) (items : List α)
    (body : ∀ item ∈ items, ThrowsOnly property (step item)) :
    ThrowsOnly property (items.forM step) := by
  induction items with
  | nil => exact throws_ok PUnit.unit
  | cons item rest inductionHypothesis =>
    exact throws_bind (body item List.mem_cons_self) (fun _ => inductionHypothesis
      (fun other member => body other (List.mem_cons_of_mem _ member)))

/-- What has not ended has not thrown. -/
theorem ends_running : EndsOnly property (none : Option (Except ε α)) := by
  intro failure ended
  cases ended

/-- What has ended throws as its computation does. -/
theorem ends_some_iff (computation : Except ε α) :
    EndsOnly property (some computation) ↔ ThrowsOnly property computation := by
  simp [EndsOnly, ThrowsOnly]

end NodeWireguard.Failures
