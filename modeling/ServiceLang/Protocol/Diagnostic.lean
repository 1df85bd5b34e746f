import ServiceLang.Protocol.Place

namespace ServiceLang

/-!
# Diagnostics

* `Severity`, `Diagnostic`: a message about a range of a document;
* `DiagnosticSet`: all diagnostics of one document, which replace earlier ones.
-/

/-- How serious a diagnostic is. -/
inductive Severity where
  | error
  | warning
  | information
  | hint
  deriving DecidableEq, Repr

namespace Severity

/-- The code of a severity. -/
def code : Severity → UInt8
  | .error => 1
  | .warning => 2
  | .information => 3
  | .hint => 4

/-- The severity of a code. -/
def ofCode? : UInt8 → Option Severity
  | 1 => some .error
  | 2 => some .warning
  | 3 => some .information
  | 4 => some .hint
  | _ => none

/-- The severity as JSON. -/
def toJson (s : Severity) : Json := .ofNat s.code.toNat

/-- The decoder of severities. -/
def decode : Decode Severity := .code "invalid diagnostic severity" ofCode?

end Severity

/-- A message about a range of a document, from the tool that `source` names. -/
structure Diagnostic where
  range : Range
  severity : Severity
  message : String
  source : String
  deriving DecidableEq, Repr

namespace Diagnostic

/-- The diagnostic as JSON. -/
def toJson (d : Diagnostic) : Json :=
  .obj [("message", .str d.message), ("range", d.range.toJson), ("severity", d.severity.toJson),
    ("source", .str d.source)]

/-- The decoder of diagnostics. -/
def decode : Decode Diagnostic :=
  (Record.start mk)
    |>.required "range" Range.decode
    |>.required "severity" Severity.decode
    |>.required "message" .string
    |>.required "source" .string
    |>.decode "Diagnostic"

end Diagnostic

/-- All diagnostics of one document. -/
structure DiagnosticSet where
  uri : String
  diagnostics : List Diagnostic
  deriving DecidableEq, Repr

namespace DiagnosticSet

/-- The set as JSON. -/
def toJson (s : DiagnosticSet) : Json :=
  .obj [("diagnostics", .arr (s.diagnostics.map (·.toJson))), ("uri", .str s.uri)]

/-- The decoder of diagnostic sets. -/
def decode : Decode DiagnosticSet :=
  (Record.start mk)
    |>.required "uri" .string
    |>.required "diagnostics" (.list Diagnostic.decode)
    |>.decode "PublishDiagnosticsParams"

end DiagnosticSet

end ServiceLang
