import Mathlib

/-!
# Lists related element by element

Rules for `List.Forall₂` between the elements a loop takes and the results it gives: what
stands in one list has its counterpart in the other, a list is related to some results as
soon as every element is, and a cut of one list cuts the other.
-/

namespace NodeWireguard.RelatedLists

universe u v
variable {α : Type u} {β : Type v} {holds : α → β → Prop}

/-- A result belongs to one of the elements. -/
theorem result_related {items : List α} {results : List β} (each : List.Forall₂ holds items results)
    (result : β) (member : result ∈ results) : ∃ item ∈ items, holds item result := by
  induction each with
  | nil => cases member
  | cons first rest inductionHypothesis =>
    rcases List.mem_cons.mp member with rfl | later
    · exact ⟨_, List.mem_cons_self, first⟩
    · obtain ⟨item, listed, related⟩ := inductionHypothesis later
      exact ⟨item, List.mem_cons_of_mem _ listed, related⟩

/-- An element has one of the results. -/
theorem element_related {items : List α} {results : List β} (each : List.Forall₂ holds items results)
    (item : α) (member : item ∈ items) : ∃ result ∈ results, holds item result :=
  result_related each.flip item member

/-- There are results for a list exactly when there is one for every element. -/
theorem related_exists_iff (items : List α) :
    (∃ results, List.Forall₂ holds items results) ↔ ∀ item ∈ items, ∃ result, holds item result := by
  constructor
  · rintro ⟨results, each⟩ item member
    obtain ⟨result, -, related⟩ := element_related each item member
    exact ⟨result, related⟩
  · intro each
    induction items with
    | nil => exact ⟨[], .nil⟩
    | cons item rest inductionHypothesis =>
      obtain ⟨result, first⟩ := each item List.mem_cons_self
      obtain ⟨results, others⟩ := inductionHypothesis
        (fun other member => each other (List.mem_cons_of_mem _ member))
      exact ⟨result :: results, .cons first others⟩

/-- Where a further relation between related elements only asks something of the left one,
it holds of the lists exactly when all elements of the left list meet that. -/
theorem related_conditional {further : α → β → Prop} {condition : α → Prop} {items : List α}
    {results : List β} (each : List.Forall₂ holds items results)
    (same : ∀ item result, holds item result → (further item result ↔ condition item)) :
    List.Forall₂ further items results ↔ ∀ item ∈ items, condition item := by
  induction each with
  | nil => simp
  | cons first rest inductionHypothesis =>
    rw [List.forall₂_cons, inductionHypothesis, same _ _ first, List.forall_mem_cons]

/-- A cut of the left list cuts the right one. -/
theorem related_split (left right : List α) (results : List β)
    (related : List.Forall₂ holds (left ++ right) results) :
    ∃ first second, List.Forall₂ holds left first ∧ List.Forall₂ holds right second ∧
      results = first ++ second := by
  induction left generalizing results with
  | nil => exact ⟨[], results, .nil, related, rfl⟩
  | cons item rest inductionHypothesis =>
    obtain _ | ⟨own, others⟩ := related
    obtain ⟨first, second, leftRelated, rightRelated, rfl⟩ := inductionHypothesis _ others
    exact ⟨_ :: first, second, .cons own leftRelated, rightRelated, rfl⟩

end NodeWireguard.RelatedLists
