import ServiceLang.Text.Utf16
import ServiceLang.Proofs.Text.Number

namespace ServiceLang.Text

/-!
# UTF-16 offsets and character indices

An offset and the index of the character that covers it:

* `charIndex_append_of_le`, `charIndex_append_of_lt`: behind a part of the line, and inside it;
* `charIndex_unitLength`: the offset where a part of the line ends is the index where it ends;
* `CoversUnit`, `exists_coversUnit`: the offsets of a part of the line, and the character of one;
* `charIndex_length_eq_iff`: the number of characters of a part is that offset exactly when all of
  them lie in the basic plane;
* `isAstral_of_isSpace`: all blanks do.
-/

/-- A character outside the basic plane, which takes two units, is called astral. -/
def isAstral (c : Char) : Bool := 0x10000 ≤ c.toNat

theorem units_eq_one_iff {c : Char} : units c = 1 ↔ isAstral c = false := by
  rw [units, isAstral, decide_eq_false_iff_not, Nat.not_le]
  split
  case isTrue h => exact iff_of_true rfl h
  case isFalse h => exact iff_of_false (by decide) h

theorem units_pos (c : Char) : 0 < units c := by
  rw [units]
  split <;> decide

/-- Blanks lie in the basic plane. -/
theorem isAstral_of_isSpace {c : Char} (h : isSpace c = true) : isAstral c = false := by
  have htable : ∀ n ∈ blankPoints, n < 0x10000 := by decide
  have hlt := htable _ (toNat_mem_blankPoints h)
  rw [isAstral, decide_eq_false_iff_not, Nat.not_le]
  exact hlt

/-! ### Lengths -/

theorem unitLength_append (s t : List Char) :
    unitLength (s ++ t) = unitLength s + unitLength t := by
  induction s with
  | nil => exact (Nat.zero_add _).symm
  | cons c s ih => rw [List.cons_append, unitLength, unitLength, ih, Nat.add_assoc]

theorem length_le_unitLength (s : List Char) : s.length ≤ unitLength s := by
  induction s with
  | nil => exact Nat.le_refl 0
  | cons c s ih =>
    have hpos := units_pos c
    rw [List.length_cons, unitLength]
    omega

/-- A text has as many units as characters exactly when no character is astral. -/
theorem unitLength_eq_length_iff {s : List Char} :
    unitLength s = s.length ↔ ∀ c ∈ s, isAstral c = false := by
  induction s with
  | nil => simp [unitLength]
  | cons c s ih =>
    have hpos := units_pos c
    have hle := length_le_unitLength s
    rw [List.forall_mem_cons, ← units_eq_one_iff, ← ih, unitLength, List.length_cons]
    omega

/-! ### Indices -/

/-- Behind a part of the line the count starts anew. -/
theorem charIndex_append_of_le {lead : List Char} {offset : Nat} (h : unitLength lead ≤ offset)
    (s : List Char) :
    charIndex (lead ++ s) offset = lead.length + charIndex s (offset - unitLength lead) := by
  induction lead generalizing offset with
  | nil => simp [unitLength]
  | cons c lead ih =>
    rw [unitLength] at h
    have hrest : offset - units c - unitLength lead = offset - unitLength (c :: lead) := by
      rw [unitLength]
      omega
    rw [List.cons_append, charIndex, if_neg (by omega), ih (by omega), hrest, List.length_cons]
    omega

/-- What follows a part of the line does not count inside it. -/
theorem charIndex_append_of_lt {s : List Char} {offset : Nat} (h : offset < unitLength s)
    (rest : List Char) : charIndex (s ++ rest) offset = charIndex s offset := by
  induction s generalizing offset with
  | nil => exact absurd h (Nat.not_lt_zero offset)
  | cons c s ih =>
    rw [unitLength] at h
    rw [List.cons_append, charIndex, charIndex]
    by_cases hc : offset < units c
    · rw [if_pos hc, if_pos hc]
    · rw [if_neg hc, if_neg hc, ih (by omega)]

/-- An offset in a text is covered by one of its characters. -/
theorem charIndex_lt_length {s : List Char} {offset : Nat} (h : offset < unitLength s) :
    charIndex s offset < s.length := by
  induction s generalizing offset with
  | nil => exact absurd h (Nat.not_lt_zero offset)
  | cons c s ih =>
    rw [unitLength] at h
    rw [charIndex, List.length_cons]
    by_cases hc : offset < units c
    · rw [if_pos hc]
      exact Nat.succ_pos _
    · rw [if_neg hc]
      exact Nat.succ_lt_succ (ih (by omega))

theorem charIndex_zero (s : List Char) : charIndex s 0 = 0 := by
  cases s with
  | nil => rfl
  | cons c s => rw [charIndex, if_pos (units_pos c)]

/-- **Ends.** The offset where a part of the line ends belongs to the index where it ends. -/
theorem charIndex_unitLength (lead s : List Char) :
    charIndex (lead ++ s) (unitLength lead) = lead.length := by
  rw [charIndex_append_of_le (Nat.le_refl _), Nat.sub_self, charIndex_zero, Nat.add_zero]

/-- An offset past the end gives the number of characters. -/
theorem charIndex_of_unitLength_le {s : List Char} {offset : Nat} (h : unitLength s ≤ offset) :
    charIndex s offset = s.length := by
  have hend := charIndex_append_of_le h []
  rwa [List.append_nil, charIndex, Nat.add_zero] at hend

/-- Whether a part of a line, behind a given lead, covers a UTF-16 offset of the line. -/
def CoversUnit (lead part : List Char) (offset : Nat) : Prop :=
  unitLength lead ≤ offset ∧ offset < unitLength (lead ++ part)

/-- The index of an offset lies in every part that covers it. -/
theorem CoversUnit.charIndex_bounds {lead part : List Char} {offset : Nat}
    (h : CoversUnit lead part offset) (rest : List Char) :
    lead.length ≤ charIndex (lead ++ part ++ rest) offset ∧
      charIndex (lead ++ part ++ rest) offset < lead.length + part.length := by
  obtain ⟨hlo, hhi⟩ := h
  rw [unitLength_append] at hhi
  have hinside : offset - unitLength lead < unitLength part := by omega
  have hlt := charIndex_lt_length hinside
  rw [List.append_assoc, charIndex_append_of_le hlo, charIndex_append_of_lt hinside]
  omega

/-- **Covering.** Every offset of a line is covered by one of its characters. -/
theorem exists_coversUnit {line : List Char} {offset : Nat} (h : offset < unitLength line) :
    ∃ lead c rest, line = lead ++ [c] ++ rest ∧ CoversUnit lead [c] offset := by
  induction line generalizing offset with
  | nil => exact absurd h (Nat.not_lt_zero offset)
  | cons c line ih =>
    rw [unitLength] at h
    by_cases hc : offset < units c
    · exact ⟨[], c, line, rfl, Nat.zero_le offset, hc⟩
    · have hrest : offset - units c < unitLength line := by omega
      obtain ⟨lead, d, rest, rfl, hlo, hhi⟩ := ih hrest
      refine ⟨c :: lead, d, rest, rfl, ?_, ?_⟩
      · rw [unitLength]
        omega
      · rw [List.cons_append, unitLength]
        omega

/-- **Characters taken for units.** The number of characters of a part of the line is an offset
    that belongs to the index where the part ends exactly when no character of the part is
    astral. -/
theorem charIndex_length_eq_iff (lead s : List Char) :
    charIndex (lead ++ s) lead.length = lead.length ↔ ∀ c ∈ lead, isAstral c = false := by
  rw [← unitLength_eq_length_iff]
  constructor
  · intro h
    obtain heq | hlt := Nat.eq_or_lt_of_le (length_le_unitLength lead)
    · exact heq.symm
    · -- the offset still lies inside the part, where indices are smaller
      have hinside := charIndex_lt_length hlt
      rw [charIndex_append_of_lt hlt] at h
      omega
  · intro h
    have hend := charIndex_unitLength lead s
    rwa [h] at hend

end ServiceLang.Text
