import Mathlib

/-!
# Merging neighbours of one key

A list is collected one item at a time, and an item whose key is that of the last collected
one is merged into it. What is collected is one item for each maximal run of equal keys, with
the first item of the run first; no two neighbours of the result have the same key.
-/

namespace NodeWireguard.MergedRuns

variable {α κ : Type} [DecidableEq κ] (key : α → κ) (merge : α → α → α)

/-- One more item: it is merged into the last one where the keys agree, and otherwise put behind
it. -/
def gather (items : List α) (item : α) : List α :=
  match items.getLast? with
  | some last =>
      if key last = key item then items.dropLast ++ [merge last item] else items ++ [item]
  | none => items ++ [item]

/-- Whether two items belong to one run. -/
def sameKey (left right : α) : Bool := key left = key right

/-- A run as one item. -/
def merged : List α → Option α
  | [] => none
  | first :: rest => some (rest.foldl merge first)

/-- The maximal runs of equal keys, each as one item. -/
def runs (items : List α) : List α := (items.splitBy (sameKey key)).filterMap (merged merge)

section Gathering

variable {key} {merge}

/-- An item with another key than the last one starts a run, -/
theorem gather_new (items : List α) (item : α) (new : ∀ last ∈ items.getLast?, key last ≠ key item) :
    gather key merge items item = items ++ [item] := by
  unfold gather
  split
  · rename_i last found
    exact if_neg (new last found)
  · rfl

/-- and one with the same key is merged into it. -/
theorem gather_last (items : List α) (last item : α) (same : key last = key item) :
    gather key merge (items ++ [last]) item = items ++ [merge last item] := by
  simp [gather, same]

variable (kept : ∀ left right, key (merge left right) = key left)
include kept

omit [DecidableEq κ] in
/-- Merging keeps the key of the first item. -/
theorem fold_merge_key (rest : List α) (first : α) : key (rest.foldl merge first) = key first := by
  induction rest generalizing first with
  | nil => rfl
  | cons item rest inductionHypothesis => rw [List.foldl_cons, inductionHypothesis, kept]

/-- The rest of a run is merged into its first item. -/
theorem fold_rest (items : List α) (rest : List α) (first : α)
    (alike : ∀ item ∈ rest, key first = key item) :
    rest.foldl (gather key merge) (items ++ [first]) = items ++ [rest.foldl merge first] := by
  induction rest generalizing first with
  | nil => rfl
  | cons item rest inductionHypothesis =>
    obtain ⟨same, others⟩ := List.forall_mem_cons.mp alike
    rw [List.foldl_cons, gather_last items first item same, List.foldl_cons]
    refine inductionHypothesis (merge first item) (fun other member => ?_)
    rw [kept]
    exact others other member

/-- A list cut into runs whose neighbours have different keys, after items whose last one has
another key than the first of them. -/
theorem fold_runs (groups : List (List α)) (items : List α) (nonempty : [] ∉ groups)
    (alike : ∀ group ∈ groups, ∀ left ∈ group, ∀ right ∈ group, key left = key right)
    (apart : groups.IsChain (fun left right =>
      ∃ leftSome rightSome, key (left.getLast leftSome) ≠ key (right.head rightSome)))
    (start : ∀ group ∈ groups.head?, ∀ first ∈ group.head?, ∀ last ∈ items.getLast?,
      key last ≠ key first) :
    groups.flatten.foldl (gather key merge) items = items ++ groups.filterMap (merged merge) := by
  induction groups generalizing items with
  | nil => simp
  | cons group groups inductionHypothesis =>
    obtain ⟨here, later⟩ := not_or.mp (mt List.mem_cons.mpr nonempty)
    obtain ⟨own, others⟩ := List.forall_mem_cons.mp alike
    cases group with
    | nil => exact absurd rfl here
    | cons first rest =>
      have opened : gather key merge items first = items ++ [first] :=
        gather_new items first (start _ rfl first rfl)
      rw [List.flatten_cons, List.foldl_append, List.foldl_cons, opened,
        fold_rest kept items rest first
          (fun item member => own first List.mem_cons_self item (List.mem_cons_of_mem _ member)),
        inductionHypothesis _ later others apart.tail]
      · simp [merged]
      · -- The merged item has the key of the group's last one.
        intro next isNext item isFirst last isLast
        obtain rfl : rest.foldl merge first = last := by simpa using isLast
        obtain ⟨leftSome, rightSome, different⟩ := (List.isChain_cons.mp apart).1 next isNext
        rw [fold_merge_key kept, own first List.mem_cons_self _ (List.getLast_mem leftSome),
          ← List.head_of_mem_head? isFirst]
        exact different

omit kept in
/-- In a run of neighbours with equal keys all keys are equal. -/
theorem chain_alike (group : List α) (chain : group.IsChain (fun left right => sameKey key left right)) :
    ∀ left ∈ group, ∀ right ∈ group, key left = key right := by
  have transitive : IsTrans α (fun left right => sameKey key left right = true) :=
    ⟨fun left middle right first second => by simp_all [sameKey]⟩
  have symmetric : Std.Symm (fun left right => key left = key right) := ⟨fun _ _ same => same.symm⟩
  have pairs : group.Pairwise (fun left right => key left = key right) :=
    (List.isChain_iff_pairwise.mp chain).imp (fun same => by simpa [sameKey] using same)
  intro left leftMember right rightMember
  exact List.Pairwise.forall_of_forall (R := fun left right => key left = key right)
    (fun _ _ => rfl) pairs leftMember rightMember

/-- Collecting a list gives its runs. -/
theorem fold_gather (items : List α) : items.foldl (gather key merge) [] = runs key merge items := by
  have collected :
      (items.splitBy (sameKey key)).flatten.foldl (gather key merge) [] = [] ++ runs key merge items :=
    fold_runs kept (items.splitBy (sameKey key)) [] (List.nil_notMem_splitBy _ _)
      (fun group member => chain_alike group (List.isChain_of_mem_splitBy member))
      ((List.isChain_getLast_head_splitBy (sameKey key) items).imp
        (fun left right ⟨leftSome, rightSome, different⟩ =>
          ⟨leftSome, rightSome, by simpa [sameKey] using different⟩))
      (by simp)
  rwa [List.flatten_splitBy] at collected

/-- Neighbours stay of different keys. An item that is merged keeps the key of the run, and one
that is added has another key than the run before it. -/
theorem gather_apart (items : List α) (item : α)
    (apart : items.IsChain (fun left right => key left ≠ key right)) :
    (gather key merge items item).IsChain (fun left right => key left ≠ key right) := by
  cases items using List.reverseRecOn with
  | nil => simp [gather]
  | append_singleton front last =>
    obtain ⟨before, -, boundary⟩ := List.isChain_append.mp apart
    by_cases same : key last = key item
    · rw [gather_last front last item same]
      refine List.isChain_append.mpr ⟨before, .singleton _, ?_⟩
      intro left isLeft right isRight
      obtain rfl : merge last item = right := by simpa using isRight
      rw [kept]
      exact boundary left isLeft last rfl
    · rw [gather_new _ item (by simpa using same)]
      refine List.isChain_append.mpr ⟨apart, .singleton _, ?_⟩
      intro left isLeft right isRight
      obtain rfl : last = left := by simpa using isLeft
      obtain rfl : item = right := by simpa using isRight
      exact same

/-- Neighbouring runs have different keys. -/
theorem runs_apart (items : List α) :
    (runs key merge items).IsChain (fun left right => key left ≠ key right) := by
  rw [← fold_gather kept]
  induction items using List.reverseRecOn with
  | nil => exact .nil
  | append_singleton items item inductionHypothesis =>
    rw [List.foldl_append]
    exact gather_apart kept _ item inductionHypothesis

end Gathering

end NodeWireguard.MergedRuns
