import Mathlib.Data.List.TakeWhile
import ServiceLang.Proofs.Settings.Layers
import ServiceLang.Proofs.Text.Lines
import ServiceLang.Settings.Load

namespace ServiceLang

open Text TomlText

/-!
# Texts without settings

Whether a text has settings is seen from its lines alone: one of them holds something besides
blanks and a comment. Here blanks are those of all scripts, while documents know only spaces and
tabs, and no control characters in comments.

* `SilentLine`: a line that a document passes over;
* `readStatements_lineEnd`, `readStatements_eq_none`: such a line is passed over, and any other
  line without settings is refused;
* `parse_of_hasSettings_eq_false`: the document of a text without settings is empty, if it has one;
* `Settings.layer_of_hasSettings_eq_false`: such a text leaves all settings as they are.
-/

/-- A line that a document passes over: blanks, and nothing or a comment behind them. -/
def SilentLine (line : List Char) : Prop :=
  ∃ blanks comment, line = blanks ++ comment ∧ (∀ c ∈ blanks, isBlankChar c = true) ∧
    (comment = [] ∨ ∃ text, comment = '#' :: text ∧ ∀ c ∈ text, isTextChar c = true)

/-! ### Lines of a document -/

/-- Behind blanks and a comment nothing is left of the line. -/
theorem silentLine_iff {line : List Char} :
    SilentLine line ↔ skipComment (skipBlanks line) = [] := by
  constructor
  · rintro ⟨blanks, comment, rfl, hblanks, rfl | ⟨text, rfl, htext⟩⟩
    · rw [List.append_nil, skipBlanks, List.dropWhile_eq_nil_iff.mpr hblanks]
      rfl
    · rw [skipBlanks, List.dropWhile_append_of_pos hblanks]
      show text.dropWhile isTextChar = []
      exact List.dropWhile_eq_nil_iff.mpr htext
  · intro h
    refine ⟨line.takeWhile isBlankChar, skipBlanks line, List.takeWhile_append_dropWhile.symm,
      List.all_eq_true.mp List.all_takeWhile, ?_⟩
    rw [skipComment.eq_def] at h
    split at h
    case h_1 text heq => exact .inr ⟨text, heq, List.dropWhile_eq_nil_iff.mp h⟩
    case h_2 => exact .inl h

instance (line : List Char) : Decidable (SilentLine line) := decidable_of_iff _ silentLine_iff.symm

theorem dropWhile_append_of_stopsAt {p : Char → Bool} {behind : List Char} (h : StopsAt p behind)
    (s : List Char) : (s ++ behind).dropWhile p = s.dropWhile p ++ behind := by
  cases behind with
  | nil => simp
  | cons c behind => exact dropWhile_append_cons (stopsAt_cons.mp h) s behind

section LineEnd

variable {line behind rest : List Char} (hend : LineEnd line behind rest)
include hend

/-- A class of characters without line ends stops at the end of a line. -/
theorem Text.LineEnd.stopsAt {p : Char → Bool} (hreturn : p '\r' = false) (hfeed : p '\n' = false) :
    StopsAt p behind := by
  cases hend with
  | text => simp [StopsAt]
  | feed => exact stopsAt_cons.mpr hfeed
  | both => exact stopsAt_cons.mpr hreturn

/-- Inside a line there is no line end. -/
theorem Text.LineEnd.lineEnd?_eq_none {front more : List Char} {c : Char} (hline : '\n' ∉ line)
    (hsplit : line = front ++ c :: more) : lineEnd? (c :: more ++ behind) = none := by
  subst hsplit
  rw [List.mem_append, List.mem_cons, not_or, not_or] at hline
  obtain ⟨-, hc, hmore⟩ := hline
  rw [lineEnd?.eq_def]
  split
  case h_1 heq => exact absurd (List.cons.inj heq).1.symm hc
  case h_2 after heq =>
    -- the carriage return is the last character of the line, and no line feed follows
    obtain ⟨rfl, hnext⟩ := List.cons.inj heq
    cases more with
    | cons d more =>
      obtain ⟨rfl, -⟩ := List.cons.inj hnext
      exact absurd List.mem_cons_self hmore
    | nil =>
      cases hend with
      | text => cases hnext
      | feed _ h => exact absurd (by simp) h
      | both => simp at hnext
  case h_3 => rfl

theorem Text.LineEnd.skipBlanks_append : skipBlanks (line ++ behind) = skipBlanks line ++ behind :=
  dropWhile_append_of_stopsAt (hend.stopsAt (by decide) (by decide)) line

theorem Text.LineEnd.skipLineRest_comment (comment : List Char) :
    skipLineRest ('#' :: (comment ++ behind)) =
      if comment.dropWhile isTextChar ++ behind = [] then some []
      else lineEnd? (comment.dropWhile isTextChar ++ behind) := by
  have hskip : skipComment (skipBlanks ('#' :: (comment ++ behind))) =
      comment.dropWhile isTextChar ++ behind :=
    dropWhile_append_of_stopsAt (hend.stopsAt (by decide) (by decide)) comment
  rw [skipLineRest, hskip]
  split
  case h_1 hnil => rw [if_pos hnil]
  case h_2 hcons => rw [if_neg fun hnil => hcons hnil]

end LineEnd

/-! ### Lines without settings -/

theorem isSpace_of_isBlankChar {c : Char} (h : isBlankChar c = true) : isSpace c = true := by
  simp only [isBlankChar, Bool.or_eq_true, beq_iff_eq] at h
  obtain rfl | rfl := h <;> decide

/-- Behind its spaces and tabs a line without settings goes on with a comment or another blank. -/
theorem hash_or_isSpace_of_skipBlanks {line more : List Char} {c : Char}
    (hsetting : isSettingLine line = false) (hskip : skipBlanks line = c :: more) :
    c = '#' ∨ isSpace c = true := by
  cases hspace : isSpace c with
  | true => exact .inr rfl
  | false =>
    obtain ⟨hsplit, hblanks, -⟩ := takeWhile_dropWhile_iff.mp ⟨rfl, hskip⟩
    have htrim : trimStart line = c :: more :=
      (trimStart_eq_cons_iff hspace).mpr
        ⟨_, fun d hd => isSpace_of_isBlankChar (hblanks d hd), hsplit⟩
    have hhead : (trim line).head? = some c := by rw [head?_trim, htrim]; rfl
    rw [isSettingLine.eq_def] at hsetting
    split at hsetting
    case h_1 hnil =>
      rw [hnil] at hhead
      cases hhead
    case h_2 d rest htrimmed =>
      rw [htrimmed] at hhead
      obtain rfl := Option.some.inj hhead
      exact .inl (by simpa using hsetting)

namespace Toml

/-- **Silent lines.** A document goes on behind a line that it passes over. -/
theorem readStatements_lineEnd {line behind rest : List Char} (hend : LineEnd line behind rest)
    (hsilent : SilentLine line) (fuel : Nat) :
    readStatements (fuel + 2) (line ++ behind) = readStatements (fuel + 1) rest := by
  rw [silentLine_iff, skipComment.eq_def] at hsilent
  rw [readStatements, hend.skipBlanks_append]
  split at hsilent
  case h_1 comment hcomment =>
    rw [hcomment]
    show skipLineRest ('#' :: (comment ++ behind)) >>= readStatements (fuel + 1) = _
    rw [hend.skipLineRest_comment, hsilent]
    cases hend <;> rfl
  case h_2 =>
    rw [hsilent]
    cases hend <;> rfl

theorem isBareChar_of_isSpace {c : Char} (h : isSpace c = true) : isBareChar c = false := by
  rw [← Bool.not_eq_true]
  intro hbare
  have hident : isIdentChar c = true ∨ c = '-' := by
    simp only [isBareChar, isIdentChar, isIdentStart, isAsciiLetter, Bool.or_eq_true,
      beq_iff_eq] at hbare ⊢
    tauto
  obtain hident | rfl := hident
  · rw [isSpace_of_isIdentChar hident] at h
    cases h
  · exact absurd h (by decide)

/-- No part of a key begins with a blank. -/
theorem readKeyPart_of_isSpace {c : Char} (h : isSpace c = true) (s : List Char) :
    readKeyPart (c :: s) = none := by
  rw [readKeyPart.eq_def]
  split
  case h_1 heq => exact absurd (List.cons.inj heq).1 (ne_of_isSpace h (by decide))
  case h_2 heq => exact absurd (List.cons.inj heq).1 (ne_of_isSpace h (by decide))
  case h_3 =>
    have hstop : StopsAt isBareChar (c :: s) := stopsAt_cons.mpr (isBareChar_of_isSpace h)
    rw [List.span_eq_takeWhile_dropWhile, takeWhile_of_stopsAt hstop]

/-- No assignment begins with a blank that documents do not know. -/
theorem readAssignment_of_isSpace {c : Char} (hspace : isSpace c = true)
    (hblank : isBlankChar c = false) (s : List Char) : readAssignment (c :: s) = none := by
  have hskip : skipBlanks (c :: s) = c :: s := dropWhile_of_stopsAt (stopsAt_cons.mpr hblank)
  have hkey : readKey (c :: s) = none := by
    show readKeyParts (78 + 1) (c :: s) = none
    rw [readKeyParts, hskip, readKeyPart_of_isSpace hspace]
    rfl
  rw [readAssignment, hkey]
  rfl

/-- **Other lines without settings** are refused. -/
theorem readStatements_eq_none {line behind rest : List Char} (hend : LineEnd line behind rest)
    (hline : '\n' ∉ line) (hsetting : isSettingLine line = false) (hsilent : ¬SilentLine line)
    (fuel : Nat) : readStatements fuel (line ++ behind) = none := by
  rw [silentLine_iff] at hsilent
  cases fuel with
  | zero => rfl
  | succ fuel =>
    cases hskip : skipBlanks line with
    | nil => exact absurd (by rw [hskip]; rfl) hsilent
    | cons c more =>
      obtain ⟨hsplit, -, hstop⟩ := takeWhile_dropWhile_iff.mp ⟨rfl, hskip⟩
      have hinside := hend.lineEnd?_eq_none hline hsplit
      rw [readStatements.eq_def]
      dsimp only
      rw [hend.skipBlanks_append, hskip]
      obtain rfl | hspace := hash_or_isSpace_of_skipBlanks hsetting hskip
      · -- a comment with a character that comments do not know
        show skipLineRest ('#' :: (more ++ behind)) >>= readStatements fuel = none
        rw [hend.skipLineRest_comment]
        cases htext : more.dropWhile isTextChar with
        | nil =>
          refine absurd ?_ hsilent
          rw [hskip]
          exact htext
        | cons d after =>
          obtain ⟨hmore, -, -⟩ := takeWhile_dropWhile_iff.mp ⟨rfl, htext⟩
          have hwhole : line = (line.takeWhile isBlankChar ++ '#' :: more.takeWhile isTextChar) ++
              d :: after := by
            rw [List.append_assoc, List.cons_append, ← hmore, ← hsplit]
          rw [if_neg (by simp), hend.lineEnd?_eq_none hline hwhole]
          rfl
      · -- a blank that documents do not know
        split
        case h_1 heq => cases heq
        case h_2 heq => exact absurd (List.cons.inj heq).1 (ne_of_isSpace hspace (by decide))
        case h_3 heq =>
          rw [heq] at hinside
          cases hinside
        case h_4 heq =>
          rw [heq] at hinside
          cases hinside
        case h_5 heq => exact absurd (List.cons.inj heq).1 (ne_of_isSpace hspace (by decide))
        case h_6 heq => exact absurd (List.cons.inj heq).1 (ne_of_isSpace hspace (by decide))
        case h_7 =>
          rw [List.cons_append, readAssignment_of_isSpace hspace (stopsAt_cons.mp hstop)]
          rfl

/-- **Lines.** A text without settings has no statements; it can be read exactly when all its lines
    are passed over. -/
theorem readStatements_of_lines {s : List Char} (h : ∀ line ∈ lines s, isSettingLine line = false)
    {fuel : Nat} (hfuel : s.length < fuel) :
    readStatements fuel s = if ∀ line ∈ lines s, SilentLine line then some [] else none := by
  -- one step of fuel for each line, which takes at least one character with its end
  induction fuel generalizing s with
  | zero => exact absurd hfuel (Nat.not_lt_zero _)
  | succ fuel ih =>
    by_cases hne : s = []
    · subst hne
      rw [if_pos (by simp [lines, linesFrom])]
      rfl
    · obtain ⟨line, behind, rest, rfl, hline, hend, hlines, hlength⟩ := exists_lineEnd hne
      rw [hlines, List.forall_mem_cons] at h
      rw [hlines]
      by_cases hsilent : SilentLine line
      · obtain ⟨fuel, rfl⟩ : ∃ k, fuel = k + 1 := ⟨fuel - 1, by omega⟩
        rw [readStatements_lineEnd hend hsilent, ih h.2 (by omega)]
        simp [hsilent]
      · rw [readStatements_eq_none hend hline h.1 hsilent]
        simp [hsilent]

/-- A text without settings has no byte order mark. -/
theorem dropMark_of_lines {s : List Char} (h : ∀ line ∈ lines s, isSettingLine line = false) :
    dropMark s = s := by
  rw [dropMark.eq_def]
  split
  case h_2 => rfl
  case h_1 after =>
    obtain ⟨line, behind, rest, hsplit, hline, hend, hlines, -⟩ :=
      exists_lineEnd (List.cons_ne_nil '\ufeff' after)
    have hfirst := h line (by rw [hlines]; exact List.mem_cons_self)
    cases line with
    | nil => cases hend <;> simp at hsplit
    | cons c line =>
      -- the mark is no blank, so a line that begins with it has something besides blanks
      obtain ⟨rfl, -⟩ := List.cons.inj hsplit
      obtain heq | hspace := hash_or_isSpace_of_skipBlanks hfirst rfl
      · cases heq
      · exact absurd hspace (by decide)

/-- **Documents.** The document of a text without settings is empty, if the text is one at all. -/
theorem parse_of_hasSettings_eq_false {text : String} (h : hasSettings text = false) :
    Toml.parse text =
      if ∀ line ∈ lines text.toList, SilentLine line then some (.table []) else none := by
  have hlines : ∀ line ∈ lines text.toList, isSettingLine line = false := by
    intro line hline
    exact Bool.eq_false_iff.mpr fun hsetting =>
      Bool.eq_false_iff.mp h (List.any_eq_true.mpr ⟨line, hline, hsetting⟩)
  rw [Toml.parse, dropMark_of_lines hlines, readStatements_of_lines hlines (Nat.lt_succ_self _)]
  split <;> rfl

end Toml

namespace Settings

theorem overlaid_empty (base : Settings) : base.overlaid {} = base := rfl

/-- **Nothing is lost.** A text without settings is not even parsed when the user's settings are
    loaded. Laid over any settings it would leave them as they are, or it is not a document. -/
theorem layer_of_hasSettings_eq_false {text : String} (h : hasSettings text = false) :
    ofUser text = .ok {} ∧ ∀ base : Settings,
      (∀ line ∈ lines text.toList, SilentLine line) ∧ base.layer text = .ok base ∨
        (∃ line ∈ lines text.toList, ¬SilentLine line) ∧ base.layer text = .error notToml := by
  refine ⟨by simp [ofUser, h], fun base => ?_⟩
  have hparse := Toml.parse_of_hasSettings_eq_false h
  by_cases hsilent : ∀ line ∈ lines text.toList, SilentLine line
  · rw [if_pos hsilent] at hparse
    have hgiven : Layer.GivenBy {} (.table []) := by decide
    have hundated : (Toml.table []).Undated := by decide
    refine .inl ⟨hsilent, ?_⟩
    rw [layer_of_undated base hparse hgiven hundated, overlaid_empty]
  · rw [if_neg hsilent] at hparse
    refine .inr ⟨by simpa using hsilent, ?_⟩
    rw [layer, hparse]
    rfl

/-- Comments and blank lines with both kinds of line ends keep the settings. A blank line that is
    not made of spaces and tabs is no part of a document, though it holds no setting. -/
theorem layer_of_hasSettings_eq_false_blank :
    Settings.layer { server := { args := ["-a"] } } "\t# a\r\n\r\n \n#b" =
        .ok { server := { args := ["-a"] } } ∧
      ofUser "# a\n\u00a0\n" = .ok {} ∧ Settings.layer {} "# a\n\u00a0\n" = .error notToml := by
  have hkept := (@layer_of_hasSettings_eq_false "\t# a\r\n\r\n \n#b" (by decide)).2
  obtain ⟨hskipped, hrefused⟩ := @layer_of_hasSettings_eq_false "# a\n\u00a0\n" (by decide)
  refine ⟨?_, hskipped, ?_⟩
  · obtain ⟨-, hlayer⟩ | ⟨hloud, -⟩ := hkept { server := { args := ["-a"] } }
    · exact hlayer
    · exact absurd hloud (by decide)
  · obtain ⟨hsilent, -⟩ | ⟨-, hlayer⟩ := hrefused {}
    · exact absurd hsilent (by decide)
    · exact hlayer

end Settings

end ServiceLang
