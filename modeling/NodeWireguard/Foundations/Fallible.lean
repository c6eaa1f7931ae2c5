import Mathlib
import NodeWireguard.Foundations.RelatedLists

/-!
# Computations that may throw

Inversion rules for `Except`: what a successful sequence or a successful loop over a
list says about its parts. A loop succeeds exactly when every element does, and its
results stand in the order of the elements.
-/

namespace NodeWireguard.Fallible

open RelatedLists

universe u v w
variable {ε : Type u} {α : Type v} {β γ : Type v}

/-- A sequence succeeds when its first part does and the rest succeeds on its value. -/
theorem bind_ok_iff (first : Except ε α) (next : α → Except ε β) (result : β) :
    (first >>= next) = .ok result ↔ ∃ value, first = .ok value ∧ next value = .ok result := by
  cases first with
  | error failure => simp [bind, Except.bind]
  | ok value => simp [bind, Except.bind]

/-- A throwing loop succeeds exactly with one result per element, in order. -/
theorem mapM_ok_iff (step : α → Except ε β) (items : List α) (results : List β) :
    items.mapM step = .ok results ↔ List.Forall₂ (fun item result => step item = .ok result)
      items results := by
  induction items generalizing results with
  | nil =>
    cases results with
    | nil => simp [pure, Except.pure]
    | cons result rest => simp [pure, Except.pure]
  | cons item rest inductionHypothesis =>
    simp only [List.mapM_cons, bind_ok_iff, inductionHypothesis]
    constructor
    · rintro ⟨result, taken, others, collected, same⟩
      obtain rfl := Except.ok.inj same
      exact .cons taken collected
    · rintro (_ | ⟨taken, collected⟩)
      exact ⟨_, taken, _, collected, rfl⟩

/-- A loop over optional results has a result as soon as every element has one. -/
theorem option_mapM_isSome {α β : Type} (step : α → Option β) (items : List α)
    (all : ∀ item ∈ items, (step item).isSome) : (items.mapM step).isSome := by
  induction items with
  | nil => rfl
  | cons item rest inductionHypothesis =>
    obtain ⟨result, taken⟩ := Option.isSome_iff_exists.mp (all item (by simp))
    obtain ⟨results, others⟩ := Option.isSome_iff_exists.mp
      (inductionHypothesis (fun other member => all other (by simp [member])))
    simp [List.mapM_cons, taken, others]

/-- A loop with a result has one for every element. -/
theorem option_mapM_each {α β : Type} (step : α → Option β) (items : List α) (results : List β)
    (collected : items.mapM step = some results) : ∀ item ∈ items, ∃ result, step item = some result := by
  induction items generalizing results with
  | nil => simp
  | cons item rest inductionHypothesis =>
    simp only [List.mapM_cons, Option.bind_eq_bind, Option.bind_eq_some_iff] at collected
    obtain ⟨result, taken, others, remaining, -⟩ := collected
    intro other member
    rcases List.mem_cons.mp member with rfl | later
    · exact ⟨result, taken⟩
    · exact inductionHypothesis others remaining other later

end NodeWireguard.Fallible
