import Mathlib

/-!
# Loops that stop early

A loop over a list whose body updates a state and may end the loop with a result. Such
loops nest: a body that is itself a loop over a part of its item is, taken together, one
loop over all the parts. Items the body ignores can be dropped beforehand.

What the loop leaves unread is tracked apart from what it computes.
-/

namespace NodeWireguard.EarlyExit

variable {σ α β ρ : Type}

/-- The state the loop ends in, and the result of the item that ended it. -/
def scan (step : σ → α → σ × Option ρ) : σ → List α → σ × Option ρ
  | state, [] => (state, none)
  | state, item :: rest =>
      match step state item with
      | (after, some result) => (after, some result)
      | (after, none) => scan step after rest

/-- The items after the one that ended the loop. -/
def unread (step : σ → α → σ × Option ρ) : σ → List α → List α
  | _, [] => []
  | state, item :: rest =>
      match step state item with
      | (_, some _) => rest
      | (after, none) => unread step after rest

section Laws

variable (step : σ → α → σ × Option ρ)

/-- A step with a result ends the scan there. -/
theorem scan_stops (state after : σ) (item : α) (rest : List α) (result : ρ)
    (stops : step state item = (after, some result)) :
    scan step state (item :: rest) = (after, some result) := by
  simp [scan, stops]

/-- A step without one leaves the rest to be scanned. -/
theorem scan_continues (state after : σ) (item : α) (rest : List α)
    (continues : step state item = (after, none)) :
    scan step state (item :: rest) = scan step after rest := by
  simp [scan, continues]

/-- A loop over two lists one after the other. -/
theorem scan_append (state : σ) (left right : List α) :
    scan step state (left ++ right) =
      match scan step state left with
      | (after, some result) => (after, some result)
      | (after, none) => scan step after right := by
  induction left generalizing state with
  | nil => rfl
  | cons item rest inductionHypothesis =>
    cases outcome : step state item with
    | mk after result =>
      cases result with
      | some result => simp [scan, outcome]
      | none => simpa [scan, outcome] using inductionHypothesis after

/-- Scanning images is scanning with the image taken in each step. -/
theorem scan_map (view : β → α) (state : σ) (items : List β) :
    scan step state (items.map view) = scan (fun state item => step state (view item)) state items := by
  induction items generalizing state with
  | nil => rfl
  | cons item rest inductionHypothesis =>
    simp only [List.map_cons, scan]
    split <;> simp_all only

/-- Nested loops are one loop over all the inner items. -/
theorem scan_flat_map (parts : β → List α) (state : σ) (items : List β) :
    scan (fun state item => scan step state (parts item)) state items =
      scan step state (items.flatMap parts) := by
  induction items generalizing state with
  | nil => rfl
  | cons item rest inductionHypothesis =>
    rw [List.flatMap_cons, scan_append]
    cases outcome : scan step state (parts item) with
    | mk after result =>
      cases result with
      | some result => simp [scan, outcome]
      | none => simpa [scan, outcome] using inductionHypothesis after

/-- Items that neither change the state nor end the loop can be dropped. -/
theorem scan_filter (keep : α → Bool)
    (ignored : ∀ state item, keep item = false → step state item = (state, none))
    (state : σ) (items : List α) : scan step state (items.filter keep) = scan step state items := by
  induction items generalizing state with
  | nil => rfl
  | cons item rest inductionHypothesis =>
    cases kept : keep item with
    | false =>
      rw [List.filter_cons_of_neg (by simp [kept]), inductionHypothesis,
        scan_continues step state state item rest (ignored state item kept)]
    | true =>
      rw [List.filter_cons_of_pos kept]
      cases outcome : step state item with
      | mk after result =>
        cases result with
        | some result => simp [scan, outcome]
        | none => simpa [scan, outcome] using inductionHypothesis after

/-- What is left unread is an end of the list. -/
theorem unread_suffix (state : σ) (items : List α) : unread step state items <:+ items := by
  induction items generalizing state with
  | nil => exact List.suffix_rfl
  | cons item rest inductionHypothesis =>
    cases outcome : step state item with
    | mk after result =>
      cases result with
      | some result =>
        simp only [unread, outcome]
        exact List.suffix_cons item rest
      | none =>
        simp only [unread, outcome]
        exact (inductionHypothesis after).trans (List.suffix_cons item rest)

/-- A loop that ends in a first part of the list never looks at the rest. -/
theorem scan_append_ended (state : σ) (left right : List α) (result : ρ)
    (ended : (scan step state left).2 = some result) :
    scan step state (left ++ right) = scan step state left ∧
      unread step state (left ++ right) = unread step state left ++ right := by
  induction left generalizing state with
  | nil => cases ended
  | cons item rest inductionHypothesis =>
    cases outcome : step state item with
    | mk after found =>
      cases found with
      | some found => simp [scan, unread, outcome]
      | none =>
        rw [scan_continues step state after item rest outcome] at ended
        simpa [scan, unread, outcome] using inductionHypothesis after ended

/-- A loop ends with the result of one of its items. -/
theorem scan_result (state : σ) (items : List α) (result : ρ)
    (ended : (scan step state items).2 = some result) :
    ∃ before, ∃ item ∈ items, (step before item).2 = some result := by
  induction items generalizing state with
  | nil => cases ended
  | cons item rest inductionHypothesis =>
    cases outcome : step state item with
    | mk after found =>
      cases found with
      | some found =>
        rw [scan_stops step state after item rest found outcome] at ended
        exact ⟨state, item, List.mem_cons_self, by rw [outcome]; exact ended⟩
      | none =>
        rw [scan_continues step state after item rest outcome] at ended
        obtain ⟨before, later, member, stepped⟩ := inductionHypothesis after ended
        exact ⟨before, later, List.mem_cons_of_mem _ member, stepped⟩

end Laws

end NodeWireguard.EarlyExit
