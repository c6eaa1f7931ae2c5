import Mathlib

/-!
# Keyed lists in any order

Lists of keyed entries that are meant as sets: where no key occurs twice, the entries may
stand in any order. A loop whose steps commute for different keys does not see the order,
and neither does a search for the entries of one key. With a repeated key nothing may
move.

A list of entries that hold nested lists is followed through two steps, the reordering of
the entries and a relation between the values of each.
-/

namespace NodeWireguard.KeyedOrder

universe u v w
variable {κ : Type u} {υ : Type v} {σ : Type w} [DecidableEq κ]

/-- The same entries, in another order only where every key occurs once. -/
def Reordered (left right : List (κ × υ)) : Prop :=
  left = right ∨ (left.Perm right ∧ (left.map Prod.fst).Nodup)

/-- The entries of one key. -/
def withKey (key : κ) (entries : List (κ × υ)) : List (κ × υ) :=
  entries.filter (fun entry => decide (entry.1 = key))

/-- The entries of all other keys. -/
def withoutKey (key : κ) (entries : List (κ × υ)) : List (κ × υ) :=
  entries.filter (fun entry => decide (entry.1 ≠ key))

/-- Where every key occurs once, a key has at most one entry. -/
theorem with_key_single (key : κ) (entries : List (κ × υ)) (distinct : (entries.map Prod.fst).Nodup) :
    withKey key entries = [] ∨ ∃ entry, withKey key entries = [entry] := by
  have keys : ((withKey key entries).map Prod.fst).Nodup :=
    distinct.sublist (List.filter_sublist.map Prod.fst)
  have same : ∀ entry ∈ withKey key entries, entry.1 = key := by
    intro entry member
    simpa [withKey] using (List.mem_filter.mp member).2
  cases shape : withKey key entries with
  | nil => exact .inl rfl
  | cons first rest =>
    cases rest with
    | nil => exact .inr ⟨first, rfl⟩
    | cons second others =>
      rw [shape] at keys same
      have firstKey := same first (by simp)
      have secondKey := same second (by simp)
      simp [firstKey, secondKey] at keys

/-- The entries of one key do not depend on the order. -/
theorem with_key_reordered (key : κ) (left right : List (κ × υ)) (reordered : Reordered left right) :
    withKey key left = withKey key right := by
  rcases reordered with rfl | ⟨order, distinct⟩
  · rfl
  · have filtered : (withKey key left).Perm (withKey key right) := order.filter _
    rcases with_key_single key left distinct with none | ⟨entry, one⟩
    · rw [none] at filtered ⊢
      exact (List.nil_perm.mp filtered).symm
    · rw [one] at filtered ⊢
      exact List.singleton_perm.mp filtered

/-- Leaving one key out of two reorderings leaves reorderings. -/
theorem without_key_reordered (key : κ) (left right : List (κ × υ)) (reordered : Reordered left right) :
    Reordered (withoutKey key left) (withoutKey key right) := by
  rcases reordered with rfl | ⟨order, distinct⟩
  · exact .inl rfl
  · exact .inr ⟨order.filter _, distinct.sublist (List.filter_sublist.map Prod.fst)⟩

/-- A loop whose steps commute for different keys does not see the order. -/
theorem fold_reordered (step : σ → κ × υ → σ)
    (commutes : ∀ state left right, left.1 ≠ right.1 →
      step (step state left) right = step (step state right) left)
    (left right : List (κ × υ)) (reordered : Reordered left right) (state : σ) :
    left.foldl step state = right.foldl step state := by
  rcases reordered with rfl | ⟨order, distinct⟩
  · rfl
  · apply order.foldl_eq'
    intro first inFirst second inSecond state
    by_cases same : first.1 = second.1
    · rw [List.inj_on_of_nodup_map distinct inFirst inSecond same]
    · exact commutes state first second same

/-- A loop that keeps the value of the last entry of one key ends with it, or where it
started when there is none. -/
theorem fold_keyed (key : κ) (value : υ → σ) (step : σ → κ × υ → σ)
    (keyed : ∀ state entry, step state entry = if entry.1 = key then value entry.2 else state)
    (entries : List (κ × υ)) (state : σ) :
    entries.foldl step state =
      ((withKey key entries).getLast?.map (fun entry => value entry.2)).getD state := by
  induction entries using List.reverseRecOn with
  | nil => rfl
  | append_singleton front last inductionHypothesis =>
    rw [List.foldl_append, List.foldl_cons, List.foldl_nil, keyed]
    by_cases same : last.1 = key
    · simp [withKey, same]
    · rw [if_neg same, inductionHypothesis]
      simp [withKey, same]

/-- Such a loop sees neither the order nor where it started, unless the key does not occur:
then two loops end alike exactly when they started alike. -/
theorem fold_keyed_reordered_iff (key : κ) (value : υ → σ) (step : σ → κ × υ → σ)
    (keyed : ∀ state entry, step state entry = if entry.1 = key then value entry.2 else state)
    (left right : List (κ × υ)) (reordered : Reordered left right) (start other : σ) :
    left.foldl step start = right.foldl step other ↔ (withKey key left = [] → start = other) := by
  rw [fold_keyed key value step keyed, fold_keyed key value step keyed,
    with_key_reordered key left right reordered]
  cases withKey key right using List.reverseRecOn with
  | nil => simp
  | append_singleton front last => simp

end NodeWireguard.KeyedOrder
