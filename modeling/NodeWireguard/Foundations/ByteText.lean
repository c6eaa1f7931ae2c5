import Mathlib

/-!
# Byte text cut at a mark

A byte string is a list of octets. The operations here are the ones a C++ string
parser performs on it: the text before and after the first or the last occurrence
of a mark, the successive lines a line reader delivers, and the prefix that a
function taking a C string sees. Each is characterized by an equation on the
appended parts, so callers never unfold a search or an index.

The laws about marks hold over any element type with decidable equality.
-/

namespace NodeWireguard.ByteText

universe u

/-- A C++ `std::string`: arbitrary octets, including zero. -/
abbrev Bytes := List UInt8

/-- The octet of an ASCII character. -/
def byte (c : Char) : UInt8 := UInt8.ofNat c.toNat

/-- The octets of an ASCII literal. -/
def ascii (text : String) : Bytes := text.toList.map byte

/-- Line feed, the mark that ends a line. -/
def lineFeed : UInt8 := 10

section Marks

variable {α : Type u} [DecidableEq α]

/-- `find(mark)` with the two substrings around it; absence is `npos`. -/
def splitFirst (mark : α) : List α → Option (List α × List α)
  | [] => none
  | head :: rest =>
      if head = mark then some ([], rest)
      else (splitFirst mark rest).map (fun parts => (head :: parts.1, parts.2))

/-- `rfind(mark)` with the two substrings around it: the forward search from the
other end. -/
def splitLast (mark : α) (text : List α) : Option (List α × List α) :=
  (splitFirst mark text.reverse).map (fun parts => (parts.2.reverse, parts.1.reverse))

/-- Successive `std::getline` reads. The mark ends a line and is dropped; text
after the last mark is a final line unless it is empty. -/
def lines (mark : α) : List α → List (List α)
  | [] => []
  | head :: rest =>
      if head = mark then [] :: lines mark rest
      else match lines mark rest with
        | [] => [[head]]
        | first :: others => (head :: first) :: others

/-- The first cut is the one whose left part has no mark. The induction is on the text: a mark in
front cuts there, and any other octet belongs to the left part. -/
theorem split_first_iff (mark : α) (text before after : List α) :
    splitFirst mark text = some (before, after) ↔
      text = before ++ mark :: after ∧ mark ∉ before := by
  induction text generalizing before with
  | nil => simp [splitFirst]
  | cons head rest inductionHypothesis =>
    by_cases marked : head = mark
    · subst marked
      cases before with
      | nil => simp [splitFirst, eq_comm]
      | cons first tail =>
        simp only [splitFirst, ↓reduceIte, Option.some.injEq, Prod.mk.injEq, List.nil_eq,
          List.cons_ne_nil, false_and, List.cons_append, List.cons.injEq, List.mem_cons,
          not_or, false_iff, not_and]
        rintro ⟨rfl, -⟩ distinct
        exact absurd rfl distinct
    · cases before with
      | nil => simp [splitFirst, marked]
      | cons first tail =>
        have step := inductionHypothesis tail
        simp only [splitFirst, marked, ↓reduceIte, Option.map_eq_some_iff, Prod.mk.injEq,
          List.cons.injEq, Prod.exists, List.cons_append, List.mem_cons, not_or]
        constructor
        · rintro ⟨left, right, found, ⟨rfl, rfl⟩, rfl⟩
          obtain ⟨rfl, absent⟩ := step.mp found
          exact ⟨⟨rfl, rfl⟩, Ne.symm marked, absent⟩
        · rintro ⟨⟨rfl, rfl⟩, -, absent⟩
          exact ⟨tail, after, step.mpr ⟨rfl, absent⟩, ⟨rfl, rfl⟩, rfl⟩

/-- A failed search means the mark does not occur. -/
theorem split_first_none (mark : α) (text : List α) :
    splitFirst mark text = none ↔ mark ∉ text := by
  induction text with
  | nil => simp [splitFirst]
  | cons head rest inductionHypothesis =>
    by_cases marked : head = mark
    · simp [splitFirst, marked]
    · simp [splitFirst, marked, inductionHypothesis, Ne.symm marked]

/-- The last cut is the one whose right part has no mark. -/
theorem split_last_iff (mark : α) (text before after : List α) :
    splitLast mark text = some (before, after) ↔
      text = before ++ mark :: after ∧ mark ∉ after := by
  simp only [splitLast, Option.map_eq_some_iff, Prod.exists, split_first_iff, Prod.mk.injEq]
  constructor
  · rintro ⟨left, right, ⟨reversed, absent⟩, rfl, rfl⟩
    have forward := congrArg List.reverse reversed
    exact ⟨by simpa using forward, by simpa using absent⟩
  · rintro ⟨rfl, absent⟩
    exact ⟨after.reverse, before.reverse, ⟨by simp, by simpa using absent⟩, by simp, by simp⟩

/-- A marked line is delivered first, whatever follows it. -/
theorem lines_append (mark : α) (line rest : List α) (unmarked : mark ∉ line) :
    lines mark (line ++ mark :: rest) = line :: lines mark rest := by
  induction line with
  | nil => simp [lines]
  | cons head tail inductionHypothesis =>
    have different : head ≠ mark := fun same => unmarked (by simp [same])
    have tailUnmarked : mark ∉ tail := fun member => unmarked (by simp [member])
    simp [lines, different, inductionHypothesis tailUnmarked]

/-- Terminated lines are read back one by one. -/
theorem lines_terminated (mark : α) (parts : List (List α))
    (unmarked : ∀ part ∈ parts, mark ∉ part) :
    lines mark (parts.flatMap (· ++ [mark])) = parts := by
  induction parts with
  | nil => rfl
  | cons part rest inductionHypothesis =>
    have tail := inductionHypothesis (fun other member => unmarked other (by simp [member]))
    have split : (part :: rest).flatMap (· ++ [mark]) =
        part ++ mark :: rest.flatMap (· ++ [mark]) := by simp
    rw [split, lines_append mark part _ (unmarked part (by simp)), tail]

/-- No delivered line contains the mark. -/
theorem lines_unmarked (mark : α) (text : List α) :
    ∀ line ∈ lines mark text, mark ∉ line := by
  induction text with
  | nil => simp [lines]
  | cons head rest inductionHypothesis =>
    by_cases marked : head = mark
    · simpa [lines, marked] using inductionHypothesis
    · cases read : lines mark rest with
      | nil => simp [lines, marked, read, Ne.symm marked]
      | cons first others =>
        rw [read] at inductionHypothesis
        intro line member
        have cases : line = head :: first ∨ line ∈ others := by
          simpa [lines, marked, read] using member
        rcases cases with rfl | later
        · have clean := inductionHypothesis first (by simp)
          simp [clean, Ne.symm marked]
        · exact inductionHypothesis line (by simp [later])

end Marks

/-- What a libc function reads of a C++ string passed with `c_str()`. -/
def cString (text : Bytes) : Bytes := text.takeWhile (· ≠ 0)

/-- A string without a zero octet is read whole. -/
theorem c_string_whole (text : Bytes) (plain : 0 ∉ text) : cString text = text := by
  apply List.takeWhile_eq_self_iff.mpr
  intro octet member
  simp only [ne_eq, decide_not, Bool.not_eq_true', decide_eq_false_iff_not]
  rintro rfl
  exact plain member

end NodeWireguard.ByteText
