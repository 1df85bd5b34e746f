import ServiceLang.Protocol.Diagnostic
import ServiceLang.Service.Check
import ServiceLang.Service.Parse
import ServiceLang.Text.Quoted
import ServiceLang.Text.Word

namespace ServiceLang

/-!
# Diagnostics of a text

* `Analyzer`: a parser and a checker, with the name and the width that their messages get;
* `Analyzer.parseDiagnostic`: the diagnostic of a parser's message, placed by the line number
  that the message starts with;
* `Analyzer.findingDiagnostic`: the diagnostic of a checker's finding;
* `Analyzer.analyze`: the diagnostics of a text, and what it declares.
-/

/-- A parser and a checker; `source` names the tool in each diagnostic, and a parse error covers
    the first `width` columns of its line. -/
structure Analyzer where
  parse : String → Except String Service
  check : Service → Report
  source : String
  width : UInt32

/-- What an analysis gives: the diagnostics, and what the text declares if it parses. -/
structure Analysis where
  diagnostics : List Diagnostic
  service : Option Service

namespace Analyzer

/-- An analyzer whose parse errors are at least one column wide. -/
def make (parse : String → Except String Service) (check : Service → Report) (source : String)
    (width : UInt32) : Analyzer :=
  ⟨parse, check, source, max width 1⟩

/-- The parser of the language, its errors as messages. -/
def parseService (text : String) : Except String Service :=
  (Service.parse text).mapError (·.message)

/-- The analyzer of the language. -/
def standard (source : String) (width : UInt32) : Analyzer :=
  make parseService Service.check source width

/-- A message that starts with a line number, as `Line 7: text`, in its digits and its text.
    Blanks may stand around each part, and at least one behind the first word. -/
def splitLocated (message : List Char) : Option (List Char × List Char) := do
  let rest ← Text.strip? "Line".toList (Text.trimStart message)
  let (blanks, rest) := rest.span Text.isSpace
  let (number, rest) := rest.span Text.isDecimal
  match blanks, number, Text.trimStart rest with
  | _ :: _, _ :: _, ':' :: text => some (number, Text.trim text)
  | _, _, _ => none

/-- The line of a located message, counted from 0, and its text. -/
def readLocated (message : List Char) : Option (UInt32 × List Char) := do
  let (number, text) ← splitLocated message
  let line ← Text.readBounded Text.maxWord32 number
  return (UInt32.ofNat (line - 1), text)

/-- The diagnostic of a parser's message. A message without a usable line number is kept as it
    is, at the first column of the text, and so is the wording of one that has nothing behind
    its number. -/
def parseDiagnostic (a : Analyzer) (message : String) : Diagnostic :=
  match readLocated message.toList with
  | some (line, text) =>
    { range := .onLine line 0 a.width
      severity := .error
      message := if text.isEmpty then message else String.ofList text
      source := a.source }
  | none => { range := .origin, severity := .error, message, source := a.source }

/-- The severity of a finding. -/
def findingSeverity (kind : String) : Severity := if kind = "error" then .error else .warning

/-- The diagnostic of a finding, at the first column of the text. -/
def findingDiagnostic (a : Analyzer) (f : Finding) : Diagnostic :=
  { range := .origin, severity := findingSeverity f.kind, message := f.message, source := a.source }

/-- Parses a text and checks it. A text that does not parse has one diagnostic and is not
    checked; otherwise the errors come before the warnings. -/
def analyze (a : Analyzer) (text : String) : Analysis :=
  match a.parse text with
  | .error message => ⟨[a.parseDiagnostic message], none⟩
  | .ok service =>
    let report := a.check service
    ⟨(report.errors ++ report.warnings).map a.findingDiagnostic, some service⟩

/-- The analyzer in words. -/
def describe (a : Analyzer) : String :=
  s!"Analyzer \x7b source: {Text.quoted a.source}, parse_error_width: {a.width.toNat}, .. \x7d"

end Analyzer

end ServiceLang
