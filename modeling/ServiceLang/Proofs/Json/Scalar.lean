import ServiceLang.Json.Parse
import ServiceLang.Json.Render
import ServiceLang.Proofs.Text.Number

namespace ServiceLang.Json

open Text (StopsAt stopsAt_cons takeWhile_dropWhile_iff)

/-!
# Strings and integers read back

* `readText_escapeChar`, `readText_quoted`: a written string is read back up to its closing quote;
* `InWord64`: the integers that fit into 64 bits, with or without a sign;
* `Ends`: the texts that no number goes on with;
* `readNumber_intDigits`: a written integer is read back before such a text.
-/

/-! ### Strings -/

theorem hexValue?_hexDigit (n : Nat) : hexValue? (hexDigit n) = some (n % 16) := by
  have htable : ∀ d < 16, hexValue? (Nat.digitChar d) = some d := by decide
  exact htable (n % 16) (Nat.mod_lt n (by decide))

theorem readText_short {c d : Char} (h : shortEscape? d = some c) (reversed s : List Char) :
    readText .plain reversed ('\\' :: d :: s) = readText .plain (c :: reversed) s := by
  have hquote : '\\' ≠ '"' := by decide
  rw [readText, if_neg hquote, if_pos rfl, readText, h]

/-- A code unit below the surrogates stands for its character. -/
theorem closeUnit_of_lt {n : Nat} (h : n < 0xD800) :
    closeUnit none n = some (.inl (Char.ofNat n)) := by
  have htrailing : isTrailing n = false := by
    rw [isTrailing, Bool.and_eq_false_iff]
    exact Or.inl (decide_eq_false (by omega))
  have hleading : isLeading n = false := by
    rw [isLeading, Bool.and_eq_false_iff]
    exact Or.inl (decide_eq_false (by omega))
  simp only [closeUnit, htrailing, hleading, Bool.false_eq_true, if_false]

theorem readText_control {c : Char} (h : c.toNat < 32) (reversed s : List Char) :
    readText .plain reversed
        ('\\' :: 'u' :: '0' :: '0' :: hexDigit (c.toNat / 16) :: hexDigit c.toNat :: s) =
      readText .plain (c :: reversed) s := by
  have hu : shortEscape? 'u' = none := by decide
  have hzero : hexValue? '0' = some 0 := by decide
  have hvalue : c.toNat / 16 % 16 * 16 + c.toNat % 16 = c.toNat := by omega
  have hunit := @closeUnit_of_lt c.toNat (by omega)
  rw [Char.ofNat_toNat] at hunit
  simp [readText, hu, hzero, hexValue?_hexDigit, hvalue, hunit]

/-- A character is written behind a backslash, by its code point, or as it is. -/
theorem escapeChar_cases (c : Char) :
    (∃ d, escapeChar c = ['\\', d] ∧ shortEscape? d = some c) ∨
      (c.toNat < 32 ∧ escapeChar c =
        ['\\', 'u', '0', '0', hexDigit (c.toNat / 16), hexDigit c.toNat]) ∨
      (c ≠ '"' ∧ c ≠ '\\' ∧ ¬c.toNat < 32 ∧ escapeChar c = [c]) := by
  by_cases hshort : c ∈ ['"', '\\', '\x08', '\t', '\n', '\x0c', '\r']
  · simp only [List.mem_cons, List.not_mem_nil, or_false] at hshort
    obtain rfl | rfl | rfl | rfl | rfl | rfl | rfl := hshort <;> exact Or.inl ⟨_, rfl, rfl⟩
  · simp only [List.mem_cons, List.not_mem_nil, or_false, not_or] at hshort
    obtain ⟨hquote, hbackslash, hback, htab, hline, hform, hreturn⟩ := hshort
    by_cases hcontrol : c.toNat < 32
    · refine Or.inr (Or.inl ⟨hcontrol, ?_⟩)
      simp [escapeChar, hquote, hbackslash, hback, htab, hline, hform, hreturn, hcontrol]
    · refine Or.inr (Or.inr ⟨hquote, hbackslash, hcontrol, ?_⟩)
      simp [escapeChar, hquote, hbackslash, hback, htab, hline, hform, hreturn, hcontrol]

/-- **One character.** A written character is read back, whatever follows it. -/
theorem readText_escapeChar (c : Char) (reversed s : List Char) :
    readText .plain reversed (escapeChar c ++ s) = readText .plain (c :: reversed) s := by
  obtain ⟨d, hc, hd⟩ | ⟨hcontrol, hc⟩ | ⟨hquote, hbackslash, hcontrol, hc⟩ := escapeChar_cases c
  · rw [hc]
    exact readText_short hd reversed s
  · rw [hc]
    exact readText_control hcontrol reversed s
  · rw [hc, List.singleton_append, readText, if_neg hquote, if_neg hbackslash, if_neg hcontrol]

/-- **Strings.** A written string is read back up to its closing quote. -/
theorem readText_quoted (text reversed rest : List Char) :
    readText .plain reversed (text.flatMap escapeChar ++ '"' :: rest) =
      some (reversed.reverse ++ text, rest) := by
  induction text generalizing reversed with
  | nil => simp [readText]
  | cons c text ih =>
    rw [List.flatMap_cons, List.append_assoc, readText_escapeChar, ih, List.reverse_cons,
      List.append_assoc]
    rfl

/-! ### Integers -/

/-- The integers that fit into 64 bits, with or without a sign. -/
def InWord64 (n : Int) : Prop := -9223372036854775808 ≤ n ∧ n ≤ 18446744073709551615

instance (n : Int) : Decidable (InWord64 n) := inferInstanceAs (Decidable (_ ∧ _))

/-- Whether a number may go on with the character. -/
def continuesNumber (c : Char) : Bool :=
  Text.isAsciiDigit c || c == '.' || c == 'e' || c == 'E'

/-- A text that no number goes on with. -/
def Ends (s : List Char) : Prop := StopsAt continuesNumber s

theorem ends_cons {c : Char} {s : List Char} : Ends (c :: s) ↔ continuesNumber c = false :=
  stopsAt_cons

theorem readFraction_of_ends {s : List Char} (h : Ends s) : readFraction s = some ([], s) := by
  rw [readFraction]
  rintro rest rfl
  exact absurd (ends_cons.mp h) (by simp [continuesNumber])

theorem readExponent_of_ends {s : List Char} (h : Ends s) : readExponent s = some (none, s) := by
  cases s with
  | nil => rfl
  | cons c s =>
    have hc : ¬(c = 'e' ∨ c = 'E') := by
      rintro (rfl | rfl) <;> exact absurd (ends_cons.mp h) (by simp [continuesNumber])
    rw [readExponent, if_neg hc]

/-- The value of a run of digits behind those that were read. -/
theorem le_foldl_digits (ds : List Char) (n : Nat) :
    n ≤ ds.foldl (fun n c => n * 10 + Text.digitValue c) n := by
  induction ds generalizing n with
  | nil => exact Nat.le_refl n
  | cons d ds ih =>
    have hnext := ih (n * 10 + Text.digitValue d)
    rw [List.foldl_cons]
    omega

/-- Digits are absorbed as long as their value fits into 64 bits. -/
theorem absorb_of_le {ds : List Char} {n : Nat}
    (h : ds.foldl (fun n c => n * 10 + Text.digitValue c) n ≤ Text.maxWord64) :
    absorb n ds = (ds.foldl (fun n c => n * 10 + Text.digitValue c) n, []) := by
  induction ds generalizing n with
  | nil => rfl
  | cons d ds ih =>
    rw [List.foldl_cons] at h ⊢
    have hnext := Nat.le_trans (le_foldl_digits ds _) h
    rw [absorb, if_pos hnext, ih h]

theorem wellFormedInteger_digits (n : Nat) : wellFormedInteger (Text.digits n) = true := by
  by_cases hn : n = 0
  · subst hn
    rfl
  · have hhead := Text.head?_digits hn
    cases hdigits : Text.digits n with
    | nil => exact absurd hdigits Nat.toDigits_ne_nil
    | cons d ds =>
      rw [hdigits, List.head?_cons] at hhead
      rw [wellFormedInteger]
      all_goals simp_all

/-- Digits with a value that fits into 64 bits are read as an integer. -/
theorem readUnsigned_digits {n : Nat} {rest : List Char} (negative : Bool)
    (hn : n ≤ Text.maxWord64) (hrest : Ends rest) :
    readUnsigned negative (Text.digits n ++ rest) = some (integerValue negative n, rest) := by
  have hcut : (Text.digits n ++ rest).takeWhile Text.isAsciiDigit = Text.digits n ∧
      (Text.digits n ++ rest).dropWhile Text.isAsciiDigit = rest := by
    refine takeWhile_dropWhile_iff.mpr
      ⟨rfl, fun c hc => Text.isAsciiDigit_of_mem_digits hc, fun c hc => ?_⟩
    have hends := hrest c hc
    simp only [continuesNumber, Bool.or_eq_false_iff] at hends
    exact hends.1.1.1
  have hvalue := Text.readDigits_digits n
  rw [Text.readDigits] at hvalue
  have habsorb : absorb 0 (Text.digits n) = (n, []) := by
    have habsorb := @absorb_of_le (Text.digits n) 0
    rw [hvalue] at habsorb
    exact habsorb hn
  simp [readUnsigned, hcut.1, hcut.2, wellFormedInteger_digits, readFraction_of_ends hrest,
    readExponent_of_ends hrest, habsorb]

/-- The digits of a number do not start with a minus sign. -/
theorem readNumber_digits (n : Nat) (rest : List Char) :
    readNumber (Text.digits n ++ rest) = readUnsigned false (Text.digits n ++ rest) := by
  rw [readNumber]
  intro s hs
  cases hdigits : Text.digits n with
  | nil => exact absurd hdigits Nat.toDigits_ne_nil
  | cons d ds =>
    rw [hdigits, List.cons_append] at hs
    have hd : Text.isAsciiDigit d = true :=
      Text.isAsciiDigit_of_mem_digits (n := n) (hdigits ▸ List.mem_cons_self)
    rw [(List.cons.inj hs).1] at hd
    exact absurd hd (by decide)

/-- **Integers.** A written integer of 64 bits is read back before a text that no number goes on
    with. -/
theorem readNumber_intDigits {n : Int} {rest : List Char} (hn : InWord64 n) (hrest : Ends rest) :
    readNumber (Text.intDigits n ++ rest) = some (.int n, rest) := by
  obtain ⟨hlow, hhigh⟩ := hn
  have hword : n.natAbs ≤ Text.maxWord64 := by
    rw [Text.maxWord64]
    omega
  rw [Text.intDigits]
  split
  case isTrue hneg =>
    have hvalue : integerValue true n.natAbs = .int n := by
      have hlimit : ¬(n.natAbs = 0 ∨ Nat.pow 2 63 < n.natAbs) := by
        have hpow : Nat.pow 2 63 = 9223372036854775808 := by decide
        omega
      rw [integerValue, if_pos rfl, if_neg hlimit, Int.ofNat_natAbs_of_nonpos (by omega),
        Int.neg_neg]
    rw [List.cons_append, readNumber, readUnsigned_digits true hword hrest, hvalue]
  case isFalse hnonneg =>
    have hvalue : integerValue false n.natAbs = .int n := by
      rw [integerValue, if_neg Bool.false_ne_true, Int.natAbs_of_nonneg (by omega)]
    rw [readNumber_digits, readUnsigned_digits false hword hrest, hvalue]

end ServiceLang.Json
