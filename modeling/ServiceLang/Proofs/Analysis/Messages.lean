import Mathlib.Data.List.Induction
import Mathlib.Data.Nat.Digits.Defs
import ServiceLang.Proofs.Analysis.Located

namespace ServiceLang

open Text

/-!
# Messages of any parser

A parser other than that of the language may report anything. A message in the agreed shape is
placed by the line number that it starts with, and any other message is kept as it is.

* `decimalValue`, `readDigits_eq_decimalValue`: the number that digits stand for is what is read;
* `LocatedMessage`: the agreed shape;
* `Analyzer.exists_located_of_splitLocated`: only messages that begin with a line number are taken
  apart;
* `Analyzer.readLocated_eq_some_iff`: so a line is read exactly from the messages of the shape;
* `Analyzer.parseDiagnostic_of_shape`: where every message is placed and what is kept of it.
-/

/-! ### Numbers -/

/-- The number that decimal digits stand for, the most significant one first. -/
def decimalValue (number : List Char) : Nat := Nat.ofDigits 10 (number.map digitValue).reverse

theorem decimalValue_concat (number : List Char) (c : Char) :
    decimalValue (number ++ [c]) = decimalValue number * 10 + digitValue c := by
  unfold decimalValue
  rw [List.map_append, List.map_singleton, List.reverse_concat, Nat.ofDigits_cons, Nat.mul_comm,
    Nat.add_comm]

/-- The digits of a number are read from left to right, and give the number. -/
theorem readDigits_eq_decimalValue (number : List Char) :
    readDigits number = decimalValue number := by
  induction number using List.reverseRecOn with
  | nil => rfl
  | append_singleton number c ih =>
    rw [decimalValue_concat, ← ih]
    exact List.foldl_concat ..

/-- Among the digits of all scripts only ASCII digits make a number that is read. -/
theorem readBounded_of_isDecimal {number : List Char} {limit n : Nat}
    (h : ∀ c ∈ number, isDecimal c = true) :
    readBounded limit number = some n ↔ number ≠ [] ∧ (∀ c ∈ number, isAsciiDigit c = true) ∧
      decimalValue number = n ∧ n ≤ limit := by
  have hplus : dropPlus number = number := by
    rw [dropPlus]
    intro rest hs
    exact absurd (h '+' (hs ▸ List.mem_cons_self)) (by decide)
  simp only [readBounded, hplus, List.all_eq_true, readDigits_eq_decimalValue]
  constructor
  · intro hread
    split at hread
    case isTrue hcond =>
      obtain rfl := Option.some.inj hread
      exact ⟨hcond.1, hcond.2.1, rfl, hcond.2.2⟩
    case isFalse => cases hread
  · rintro ⟨hne, hdigits, rfl, hle⟩
    exact if_pos ⟨hne, hdigits, hle⟩

/-! ### The agreed shape -/

/-- A message in the agreed shape: the word `Line`, a number in ASCII digits that fits into 32 bits
    and a colon, with blanks around each part and at least one behind the word, and then any text,
    which may go over several lines. -/
structure LocatedMessage where
  lead : List Char
  gap : List Char
  number : List Char
  behind : List Char
  rest : List Char
  blank_lead : Blank lead
  blank_gap : Blank gap
  gap_ne_nil : gap ≠ []
  digits_number : ∀ c ∈ number, isAsciiDigit c = true
  number_ne_nil : number ≠ []
  value_le : decimalValue number ≤ maxWord32
  blank_behind : Blank behind

namespace LocatedMessage

/-- The characters of a message. -/
def chars (l : LocatedMessage) : List Char :=
  l.lead ++ ("Line".toList ++ (l.gap ++ (l.number ++ (l.behind ++ ':' :: l.rest))))

/-- The line that a message names, counted from 1. -/
def value (l : LocatedMessage) : Nat := decimalValue l.number

end LocatedMessage

namespace Analyzer

/-- A message is taken apart only if it is `Line`, a number and a colon, with blanks around them. -/
theorem exists_located_of_splitLocated {s number text : List Char}
    (h : splitLocated s = some (number, text)) :
    ∃ lead gap behind rest, Blank lead ∧ (Blank gap ∧ gap ≠ []) ∧
      ((∀ c ∈ number, isDecimal c = true) ∧ number ≠ []) ∧ Blank behind ∧ text = trim rest ∧
      s = lead ++ ("Line".toList ++ (gap ++ (number ++ (behind ++ ':' :: rest)))) := by
  obtain ⟨afterWord, hword, h⟩ := Option.bind_eq_some_iff.mp h
  simp only [List.span_eq_takeWhile_dropWhile] at h
  split at h
  case h_2 => cases h
  case h_1 b blanks d digits rest hblanks hdigits hcolon =>
    obtain ⟨rfl, rfl⟩ := Prod.mk.inj (Option.some.inj h)
    rw [hdigits]
    -- each scanner gives back what it has taken and what it has left
    obtain ⟨hgap_eq, hgap, -⟩ := takeWhile_dropWhile_iff.mp ⟨hblanks, rfl⟩
    obtain ⟨hnumber_eq, hnumber, -⟩ := takeWhile_dropWhile_iff.mp ⟨hdigits, rfl⟩
    obtain ⟨behind, hbehind, hrest⟩ := (trimStart_eq_cons_iff (by decide)).mp hcolon
    obtain ⟨hlead_eq, hlead, -⟩ :=
      takeWhile_dropWhile_iff.mp ⟨rfl, strip?_eq_some_iff.mp hword⟩
    refine ⟨_, b :: blanks, behind, rest, hlead, ⟨hgap, List.cons_ne_nil b blanks⟩,
      ⟨hnumber, List.cons_ne_nil d digits⟩, hbehind, rfl, ?_⟩
    rw [hrest] at hnumber_eq
    rw [hnumber_eq] at hgap_eq
    rw [hgap_eq] at hlead_eq
    exact hlead_eq

/-- **Located messages.** A line and a text are read exactly from the messages in the agreed shape:
    the line that the message names, counted from 0, and what follows the colon, trimmed. -/
theorem readLocated_eq_some_iff {s text : List Char} {line : UInt32} :
    readLocated s = some (line, text) ↔ ∃ l : LocatedMessage, s = l.chars ∧
      line = UInt32.ofNat (l.value - 1) ∧ text = trim l.rest := by
  constructor
  · intro h
    obtain ⟨split, hsplit, h⟩ := Option.bind_eq_some_iff.mp h
    obtain ⟨n, hn, h⟩ := Option.bind_eq_some_iff.mp h
    obtain ⟨rfl, rfl⟩ := Prod.mk.inj (Option.some.inj h)
    obtain ⟨lead, gap, behind, rest, hlead, ⟨hgap, hgap_ne⟩, ⟨hdecimal, hnumber_ne⟩, hbehind, htext,
      rfl⟩ := exists_located_of_splitLocated hsplit
    obtain ⟨-, hdigits, rfl, hle⟩ := (readBounded_of_isDecimal hdecimal).mp hn
    exact ⟨⟨lead, gap, split.1, behind, rest, hlead, hgap, hgap_ne, hdigits, hnumber_ne, hle,
      hbehind⟩, rfl, rfl, htext⟩
  · rintro ⟨l, rfl, rfl, rfl⟩
    have hdecimal : ∀ c ∈ l.number, isDecimal c = true := fun c hc =>
      isDecimal_of_isAsciiDigit (l.digits_number c hc)
    have hsplit : splitLocated l.chars = some (l.number, trim l.rest) :=
      splitLocated_of_located l.blank_lead l.blank_gap l.gap_ne_nil hdecimal l.number_ne_nil
        l.blank_behind
    have hvalue : readBounded maxWord32 l.number = some l.value :=
      (readBounded_of_isDecimal hdecimal).mpr ⟨l.number_ne_nil, l.digits_number, rfl, l.value_le⟩
    unfold readLocated
    simp only [hsplit, hvalue, Option.bind_eq_bind, Option.bind_some]
    rfl

end Analyzer

/-- The line of a message in the agreed shape fits into 32 bits. -/
theorem LocatedMessage.toNat_line (l : LocatedMessage) :
    (UInt32.ofNat (l.value - 1)).toNat = max l.value 1 - 1 := by
  have hle : l.value ≤ maxWord32 := l.value_le
  have hlt : l.value - 1 < UInt32.size := by
    unfold maxWord32 at hle
    unfold UInt32.size
    omega
  rw [UInt32.toNat_ofNat_of_lt' hlt]
  omega

namespace Analyzer

/-- **Messages of any parser.** Whatever a parser reports, the diagnostic is an error of the
    analyzer's source. A message in the agreed shape is placed on the line that it names, counted
    from 1, where line 0 counts as line 1, and keeps what follows its colon, trimmed, or all of it
    if nothing follows. Every other message is kept as it is, at the first column of the text. -/
theorem parseDiagnostic_of_shape (a : Analyzer) (message : String) :
    (a.parseDiagnostic message).severity = .error ∧
    (a.parseDiagnostic message).source = a.source ∧
    (∀ l : LocatedMessage, message.toList = l.chars →
      ∃ line : UInt32, line.toNat = max l.value 1 - 1 ∧
        (a.parseDiagnostic message).range = ⟨⟨line, 0⟩, ⟨line, a.width⟩⟩ ∧
        (a.parseDiagnostic message).message =
          if trim l.rest = [] then message else String.ofList (trim l.rest)) ∧
    ((∀ l : LocatedMessage, message.toList ≠ l.chars) →
      (a.parseDiagnostic message).range = ⟨⟨0, 0⟩, ⟨0, 1⟩⟩ ∧
      (a.parseDiagnostic message).message = message) := by
  refine ⟨?_, ?_, ?_, ?_⟩
  · unfold parseDiagnostic
    split <;> rfl
  · unfold parseDiagnostic
    split <;> rfl
  · intro l hl
    have hread : readLocated message.toList = some (UInt32.ofNat (l.value - 1), trim l.rest) :=
      readLocated_eq_some_iff.mpr ⟨l, hl, rfl, rfl⟩
    refine ⟨UInt32.ofNat (l.value - 1), l.toNat_line, ?_, ?_⟩
    · rw [parseDiagnostic, hread]
      rfl
    · rw [parseDiagnostic, hread]
      simp only [List.isEmpty_iff]
  · intro hshape
    have hread : readLocated message.toList = none := by
      refine Option.eq_none_iff_forall_ne_some.mpr fun found hfound => ?_
      obtain ⟨l, hl, -⟩ := readLocated_eq_some_iff.mp hfound
      exact hshape l hl
    rw [parseDiagnostic, hread]
    exact ⟨rfl, rfl⟩

/-- Leading zeros, an em space and a text of two lines are no obstacle. A number of 33 bits is one,
    and so is a digit that is not ASCII: such messages are kept as they are. -/
theorem parseDiagnostic_of_shape_lines :
    (((standard "webdsl" 80).parseDiagnostic "\u2003Line\t 007 :\n odd\nend ").range =
        ⟨⟨6, 0⟩, ⟨6, 80⟩⟩ ∧
      ((standard "webdsl" 80).parseDiagnostic "\u2003Line\t 007 :\n odd\nend ").message =
        "odd\nend") ∧
    ((standard "webdsl" 80).parseDiagnostic "Line 4294967296: x").message =
      "Line 4294967296: x" ∧
    ((standard "webdsl" 80).parseDiagnostic "Line ٣: x").message = "Line ٣: x" := by
  have hnot : ∀ s : String, readLocated s.toList = none →
      ∀ l : LocatedMessage, s.toList ≠ l.chars := by
    intro s hs l hl
    rw [readLocated_eq_some_iff.mpr ⟨l, hl, rfl, rfl⟩] at hs
    cases hs
  refine ⟨?_, ?_, ?_⟩
  · obtain ⟨line, hline, hrange, hmessage⟩ :=
      (parseDiagnostic_of_shape (standard "webdsl" 80)
        "\u2003Line\t 007 :\n odd\nend ").2.2.1
        ⟨['\u2003'], ['\t', ' '], ['0', '0', '7'], [' '], "\n odd\nend ".toList,
          List.all_eq_true.mp (by decide), List.all_eq_true.mp (by decide), by decide,
          List.all_eq_true.mp (by decide), by decide, by decide, List.all_eq_true.mp (by decide)⟩
        (by decide)
    have hsix : line = 6 := UInt32.toNat_inj.mp (hline.trans (by decide))
    rw [hrange, hmessage, hsix]
    exact ⟨by decide, by decide⟩
  · exact ((parseDiagnostic_of_shape (standard "webdsl" 80) "Line 4294967296: x").2.2.2
      (hnot _ (by decide +kernel))).2
  · exact ((parseDiagnostic_of_shape (standard "webdsl" 80) "Line ٣: x").2.2.2
      (hnot _ (by decide +kernel))).2

end Analyzer

end ServiceLang
