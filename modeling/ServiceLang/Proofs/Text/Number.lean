import ServiceLang.Proofs.Text.Scan
import ServiceLang.Text.Number

namespace ServiceLang.Text

/-!
# Decimal digits of numbers

* `isAsciiDigit_of_mem_digits`, `blankFree_digits`: what the digits of a number are;
* `head?_digits`: no number but zero starts with a zero;
* `readDigits_digits`, `readBounded_digits`: numbers are read back from their digits;
* `isDecimal_of_isAsciiDigit`, `isDecimal_of_isSpace`: what patterns take for a digit.
-/

theorem isAsciiDigit_of_mem_digits {n : Nat} {c : Char} (h : c ∈ digits n) :
    isAsciiDigit c = true := by
  have hc : c.isDigit = true := Nat.isDigit_of_mem_toDigits (by decide) (by decide) h
  rw [Char.isDigit, Bool.and_eq_true, decide_eq_true_eq, decide_eq_true_eq] at hc
  rw [isAsciiDigit, Bool.and_eq_true, decide_eq_true_eq, decide_eq_true_eq]
  exact hc

/-- No blank occurs in the digits of a number. -/
theorem blankFree_digits (n : Nat) : BlankFree (digits n) := by
  intro c hc
  have hdigit : isIdentChar c = true := by
    rw [isIdentChar, Bool.or_eq_true]
    exact .inr (isAsciiDigit_of_mem_digits hc)
  exact isSpace_of_isIdentChar hdigit

/-- A number other than zero does not start with a zero. -/
theorem head?_digits {n : Nat} (h : n ≠ 0) : (digits n).head? ≠ some '0' := by
  induction n using Nat.strongRecOn with
  | ind n ih =>
    rw [digits]
    obtain hlt | hge := Nat.lt_or_ge n 10
    · have htable : ∀ d < 10, d ≠ 0 → Nat.digitChar d ≠ '0' := by decide
      rw [Nat.toDigits_of_lt_base hlt, List.head?_cons, Ne, Option.some.injEq]
      exact htable n hlt h
    · -- the last digit does not count, since others stand before it
      rw [Nat.toDigits_of_base_le (by decide) hge, List.head?_append]
      have hfront := ih (n / 10) (by omega) (by omega)
      cases hhead : (digits (n / 10)).head? with
      | none => exact absurd (List.head?_eq_none_iff.mp hhead) Nat.toDigits_ne_nil
      | some c =>
        rw [digits] at hhead
        rw [digits, hhead] at hfront
        rwa [hhead, Option.some_or]

/-- A number is read back from its decimal digits. -/
theorem readDigits_digits (n : Nat) : readDigits (digits n) = n := by
  have h10 := @Nat.ofDigitChars_ten_toDigits n
  rw [Nat.ofDigitChars_eq_foldl] at h10
  simpa [readDigits, digits, digitValue, Nat.mul_comm] using h10

/-- A number within the limit is read from its decimal digits. -/
theorem readBounded_digits {limit n : Nat} (h : n ≤ limit) :
    readBounded limit (digits n) = some n := by
  have hplus : dropPlus (digits n) = digits n := by
    unfold dropPlus
    split
    case h_1 s heq =>
      have hsign : isAsciiDigit '+' = true :=
        isAsciiDigit_of_mem_digits (n := n) (heq ▸ List.mem_cons_self)
      exact absurd hsign (by decide)
    case h_2 => rfl
  have hall : (digits n).all isAsciiDigit = true :=
    List.all_eq_true.mpr fun _ hc => isAsciiDigit_of_mem_digits hc
  unfold readBounded
  simp only [hplus, readDigits_digits]
  rw [if_pos ⟨Nat.toDigits_ne_nil, hall, h⟩]

/-! ### Digits for patterns -/

/-- The code points of the blank characters. -/
def blankPoints : List Nat :=
  [9, 10, 11, 12, 13, 32, 133, 160, 5760, 8192, 8193, 8194, 8195, 8196, 8197, 8198, 8199, 8200,
    8201, 8202, 8232, 8233, 8239, 8287, 12288]

theorem toNat_mem_blankPoints {c : Char} (h : isSpace c = true) : c.toNat ∈ blankPoints := by
  simp only [isSpace, Bool.or_eq_true, Bool.and_eq_true, decide_eq_true_eq, beq_iff_eq] at h
  simp only [blankPoints, List.mem_cons, List.not_mem_nil, or_false]
  omega

/-- No word goes on with a blank. -/
theorem isWordChar_of_isSpace {c : Char} (h : isSpace c = true) : isWordChar c = false := by
  have htable : ∀ n ∈ blankPoints, (withinBounds alphabetic.bounds n ||
      withinBounds decimalDigits.bounds n || withinBounds wordMarks.bounds n) = false := by
    decide +kernel
  have hc := htable _ (toNat_mem_blankPoints h)
  rw [isWordChar, CharSet.contains, CharSet.contains, CharSet.contains, hc, Bool.false_and]

/-- Decimal digits belong to words. -/
theorem isDecimal_of_isWordChar_eq_false {c : Char} (h : isWordChar c = false) :
    isDecimal c = false := by
  rw [isWordChar] at h
  rw [isDecimal]
  cases hdigit : decimalDigits.contains c with
  | false => rfl
  | true =>
    rw [hdigit, Bool.or_true, Bool.true_or] at h
    exact h

/-- ASCII digits are decimal digits for patterns too. -/
theorem isDecimal_of_isAsciiDigit {c : Char} (h : isAsciiDigit c = true) : isDecimal c = true := by
  have htable : ∀ n < 58, 48 ≤ n → (withinBounds decimalDigits.bounds n &&
      !withinBounds recent.bounds n) = true := by
    decide
  simp only [isAsciiDigit, Bool.and_eq_true, decide_eq_true_eq, Char.le_def,
    UInt32.le_iff_toNat_le] at h
  exact htable c.toNat (Nat.lt_succ_of_le h.2) h.1

/-- No blank is a decimal digit. -/
theorem isDecimal_of_isSpace {c : Char} (h : isSpace c = true) : isDecimal c = false :=
  isDecimal_of_isWordChar_eq_false (isWordChar_of_isSpace h)

end ServiceLang.Text
