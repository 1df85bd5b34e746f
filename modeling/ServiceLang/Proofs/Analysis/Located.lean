import ServiceLang.Analyzer
import ServiceLang.Proofs.Agreement.Margin
import ServiceLang.Proofs.Service.Faults
import ServiceLang.Proofs.Text.Number

namespace ServiceLang

open Text

/-!
# Diagnostics of syntax errors

The line of a syntax error is written into its message, and read back out of the message when the
diagnostic is placed.

* `Analyzer.splitLocated_of_located`: a message that begins with a line number is taken apart;
* `SyntaxError.readLocated_message`: from the message of a syntax error its line and its fault are
  read back;
* `Analyzer.analyze_of_syntaxError`: a text that does not parse has one diagnostic, which lies on
  the line of the error.
-/

namespace Analyzer

/-- **Located messages.** A message that is `Line`, a number and a colon, with blanks around them,
    is taken apart into the number and the trimmed text behind the colon. -/
theorem splitLocated_of_located {lead gap number behind text : List Char} (hlead : Blank lead)
    (hgap : Blank gap) (hgap_ne : gap ≠ []) (hnumber : ∀ c ∈ number, isDecimal c = true)
    (hnumber_ne : number ≠ []) (hbehind : Blank behind) :
    splitLocated (lead ++ ("Line".toList ++ (gap ++ (number ++ (behind ++ ':' :: text)))))
      = some (number, trim text) := by
  -- each scanner stops where the next part begins
  have hword : strip? "Line".toList
      (trimStart (lead ++ ("Line".toList ++ (gap ++ (number ++ (behind ++ ':' :: text))))))
        = some (gap ++ (number ++ (behind ++ ':' :: text))) := by
    rw [trimStart_append hlead, strip?_eq_some_iff]
    exact dropWhile_of_stopsAt (stopsAt_cons.mpr (by decide))
  have hblanks : (gap ++ (number ++ (behind ++ ':' :: text))).span isSpace
      = (gap, number ++ (behind ++ ':' :: text)) := by
    refine span_of_stopsAt hgap ?_
    obtain ⟨d, digits, rfl⟩ := List.exists_cons_of_ne_nil hnumber_ne
    refine stopsAt_cons.mpr ?_
    rw [← Bool.not_eq_true]
    intro hspace
    have hdecimal := hnumber d List.mem_cons_self
    rw [isDecimal_of_isSpace hspace] at hdecimal
    contradiction
  have hdigits : (number ++ (behind ++ ':' :: text)).span isDecimal
      = (number, behind ++ ':' :: text) := by
    refine span_of_stopsAt hnumber ?_
    cases behind with
    | nil => exact stopsAt_cons.mpr (by decide)
    | cons b rest => exact stopsAt_cons.mpr (isDecimal_of_isSpace (hbehind b List.mem_cons_self))
  have hcolon : trimStart (behind ++ ':' :: text) = ':' :: text :=
    (trimStart_eq_cons_iff (by decide)).mpr ⟨behind, hbehind, rfl⟩
  obtain ⟨b, blanks, rfl⟩ := List.exists_cons_of_ne_nil hgap_ne
  obtain ⟨d, digits, rfl⟩ := List.exists_cons_of_ne_nil hnumber_ne
  simp only [splitLocated, hword, hblanks, hdigits, hcolon, Option.bind_eq_bind, Option.bind_some]

end Analyzer

/-- The message of a syntax error, as characters. -/
theorem SyntaxError.toList_message (e : SyntaxError) :
    e.message.toList = [] ++ ("Line".toList ++ ([' '] ++ (digits e.line ++ ([] ++
      ':' :: (' ' :: e.fault.text.toList))))) := by
  simp [SyntaxError.message, toString, digits]

/-- **The way back.** The line of a syntax error, counted from 0, and its fault are read back from
    its message. -/
theorem SyntaxError.readLocated_message {e : SyntaxError} (h : e.line ≤ maxWord32) :
    Analyzer.readLocated e.message.toList
      = some (UInt32.ofNat (e.line - 1), e.fault.text.toList) := by
  have hblank : Blank [' '] := by
    intro c hc
    rw [List.mem_singleton.mp hc]
    decide
  have hdigits : ∀ c ∈ digits e.line, isDecimal c = true := fun c hc =>
    isDecimal_of_isAsciiDigit (isAsciiDigit_of_mem_digits hc)
  have htext : trim (' ' :: e.fault.text.toList) = e.fault.text.toList := by
    show trim ([' '] ++ e.fault.text.toList) = _
    rw [trim_blank_append hblank, e.fault.isTrimmed_text.trim_eq]
  have hsplit : Analyzer.splitLocated e.message.toList
      = some (digits e.line, e.fault.text.toList) := by
    rw [e.toList_message, Analyzer.splitLocated_of_located (by simp [Blank]) hblank (by decide)
      hdigits Nat.toDigits_ne_nil (by simp [Blank]), htext]
  unfold Analyzer.readLocated
  simp only [hsplit, readBounded_digits h, Option.bind_eq_bind, Option.bind_some]
  rfl

namespace Analyzer

theorem toNat_width_standard (source : String) (width : UInt32) :
    (standard source width).width.toNat = max 1 width.toNat := by
  show (if width ≤ 1 then 1 else width).toNat = max 1 width.toNat
  split
  · rename_i hle
    have hle : width.toNat ≤ 1 := hle
    show 1 = _
    omega
  · rename_i hgt
    have hgt : ¬ width.toNat ≤ 1 := hgt
    omega

/-- The diagnostic of a syntax error: it covers the first columns of the line of the error, and its
    text is the fault in words. -/
theorem parseDiagnostic_message (a : Analyzer) {e : SyntaxError} (h : e.line ≤ maxWord32) :
    a.parseDiagnostic e.message =
      { range := .onLine (UInt32.ofNat (e.line - 1)) 0 a.width
        severity := .error
        message := e.fault.text
        source := a.source } := by
  have htext : e.fault.text.toList.isEmpty = false := by
    simpa using e.fault.isTrimmed_text.ne_nil
  unfold parseDiagnostic
  rw [SyntaxError.readLocated_message h]
  simp only [htext, Bool.false_eq_true, if_false, String.ofList_toList]

/-- **Diagnostics of syntax errors.** A text that does not parse has one diagnostic, an error of
    the configured source and width. It lies on the line that the error names, which is a line of
    the text that is neither blank nor a comment, and it says what the message of the error says
    behind its line number. -/
theorem analyze_of_syntaxError {text : String} {e : SyntaxError} (source : String)
    (width : UInt32) (h : Service.parse text = .error e)
    (hlines : (lines text.toList).length ≤ maxWord32) :
    ∃ d, (standard source width).analyze text = ⟨[d], none⟩ ∧
      d.severity = .error ∧ d.source = source ∧
      d.range.start.line.toNat + 1 = e.line ∧ d.range.start.character = 0 ∧
      d.range.stop.line = d.range.start.line ∧
      d.range.stop.character.toNat = max 1 width.toNat ∧
      e.message = s!"Line {e.line}: " ++ d.message ∧
      e.line ≤ (lines text.toList).length ∧
      isSignificant (lineAt (lines text.toList) (e.line - 1)) = true := by
  obtain ⟨line, hline, hnumber⟩ := Service.liesOn_of_parse h
  obtain ⟨i, hi, hsignificant, rfl⟩ := mem_sourceLines_iff.mp hline
  have hindex : e.line = i + 1 := hnumber.symm
  have hbound : e.line ≤ maxWord32 := by omega
  have hanalyze : (standard source width).analyze text =
      ⟨[(standard source width).parseDiagnostic e.message], none⟩ := by
    have hparse : (standard source width).parse text = .error e.message := by
      show (Service.parse text).mapError _ = _
      rw [h]
      rfl
    rw [analyze, hparse]
  rw [parseDiagnostic_message _ hbound] at hanalyze
  refine ⟨_, hanalyze, rfl, rfl, ?_, rfl, rfl, toNat_width_standard source width, ?_, ?_, ?_⟩
  · -- the line fits into 32 bits, so nothing is cut off
    have hlt : e.line - 1 < UInt32.size := by
      unfold maxWord32 at hbound
      unfold UInt32.size
      omega
    show (UInt32.ofNat (e.line - 1)).toNat + 1 = e.line
    rw [UInt32.toNat_ofNat_of_lt' hlt]
    omega
  · simp only [SyntaxError.message, toString, String.append_assoc]
  · omega
  · rw [hindex]
    exact hsignificant

/-- The second method of a class has no body. This shows only when the class ends, three lines
    later, and is reported on the line of the method. -/
theorem analyze_of_syntaxError_late :
    ∃ d, ((standard "webdsl" 0).analyze
        "class A:\n  func f(): 1\n  func g(x):\n\n# note\nserver 80").diagnostics = [d] ∧
      d.range.start.line.toNat = 2 ∧ d.range.stop.character.toNat = 1 ∧
      "Line 3: method has no body" = "Line 3: " ++ d.message := by
  have hparse : Service.parse "class A:\n  func f(): 1\n  func g(x):\n\n# note\nserver 80" =
      .error ⟨3, .missingBody .method⟩ := by
    decide +kernel
  obtain ⟨d, hd, -, -, hline, -, -, hwidth, hmessage, -⟩ :=
    analyze_of_syntaxError "webdsl" 0 hparse (by decide +kernel)
  exact ⟨d, by rw [hd], Nat.succ.inj hline, hwidth, hmessage⟩

end Analyzer

end ServiceLang
