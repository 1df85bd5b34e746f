import Mathlib.Data.List.Forall2

namespace ServiceLang

/-!
# Positions with a property

* `indices P n`: the positions below `n` with a property, in increasing order;
* `forall₂_indices_succ`, `rel_getLast?_indices_succ`: what one more position does to a list of
  entries for them, and to the entry of the last one.
-/

/-- The positions below `n` with a property, in increasing order. -/
def indices (P : Nat → Prop) [DecidablePred P] (n : Nat) : List Nat :=
  (List.range n).filter (P ·)

section Indices

variable {P : Nat → Prop} [DecidablePred P] {i n : Nat}

/-- The positions are those below `n` that have the property. -/
theorem mem_indices : i ∈ indices P n ↔ i < n ∧ P i := by
  simp only [indices, List.mem_filter, List.mem_range, decide_eq_true_eq]

/-- A position with the property comes last. -/
theorem indices_succ_of_pos (h : P n) : indices P (n + 1) = indices P n ++ [n] := by
  simp [indices, List.range_succ, h]

/-- A position without the property adds nothing. -/
theorem indices_succ_of_neg (h : ¬P n) : indices P (n + 1) = indices P n := by
  simp [indices, List.range_succ, h]

variable {α : Type} {R : Nat → α → Prop} {found : Option α}

/-- Entries of the positions below `n`, and the entry of `n` if it has one. -/
theorem forall₂_indices_succ {entries : List α} (h : List.Forall₂ R (indices P n) entries)
    (hsome : ∀ entry, found = some entry → R n entry) (hiff : P n ↔ found.isSome) :
    List.Forall₂ R (indices P (n + 1)) (entries ++ found.toList) := by
  cases found with
  | none =>
    rw [indices_succ_of_neg (by simp [hiff])]
    simpa using h
  | some entry =>
    rw [indices_succ_of_pos (by simp [hiff])]
    exact List.rel_append h (.cons (hsome entry rfl) .nil)

/-- The entry of the last position below `n`, unless `n` itself has one. -/
theorem rel_getLast?_indices_succ {last : Option α}
    (h : Option.Rel R (indices P n).getLast? last)
    (hsome : ∀ entry, found = some entry → R n entry) (hiff : P n ↔ found.isSome) :
    Option.Rel R (indices P (n + 1)).getLast? (found <|> last) := by
  cases found with
  | none =>
    rw [indices_succ_of_neg (by simp [hiff])]
    exact h
  | some entry =>
    rw [indices_succ_of_pos (by simp [hiff]), List.getLast?_concat]
    exact .some (hsome entry rfl)

end Indices

end ServiceLang
