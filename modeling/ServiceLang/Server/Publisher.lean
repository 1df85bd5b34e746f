import ServiceLang.Analyzer
import ServiceLang.Server.Documents
import ServiceLang.Server.Outbox

namespace ServiceLang

/-!
# Publishing diagnostics

A set of diagnostics is published only while the revision that it was made from is the stored
one and is newer than what was last published for the document. So the analysis of an old text
neither replaces newer diagnostics nor brings back those of a closed document.

The decision is made while the entry of the document is held, and a document without an entry gets
a placeholder for that time. A placeholder that nothing was published for is dropped again.
-/

/-- The set last published for a document, and the revision that it was made from. -/
structure Published where
  revision : Nat
  diagnostics : List Diagnostic
  deriving DecidableEq, Repr

/-- The entry of a document that nothing has been published for. -/
def Published.placeholder : Published := ⟨0, []⟩

/-- The analyzer, the set last published for each document, and the outbox. -/
structure Publisher where
  analyzer : Analyzer
  published : List (String × Published) := []
  outbox : Outbox := {}

namespace Publisher

/-- The revision last published for a document, or 0. -/
def lastRevision (p : Publisher) (uri : String) : Nat :=
  ((p.published.lookup uri).getD .placeholder).revision

/-- Holds the entry of a document, which is a placeholder if it had none. -/
def hold (p : Publisher) (uri : String) : Publisher :=
  { p with
    published :=
      if (p.published.lookup uri).isSome then p.published
      else setKey uri .placeholder p.published }

/-- Lets the entry of a document go: it is dropped if it is a placeholder. -/
def release (p : Publisher) (uri : String) : Publisher :=
  { p with
    published := if p.lastRevision uri = 0 then eraseKey uri p.published else p.published }

/-- Whether a set made from this revision is still to be published. -/
def isCurrent (p : Publisher) (documents : Documents) (uri : String) (revision : Nat) : Bool :=
  p.lastRevision uri < revision && documents.revision? uri == some revision

/-- Publishes a set if it is current and can be sent, and says whether it did. -/
def publish (p : Publisher) (documents : Documents) (uri : String) (revision : Nat)
    (diagnostics : List Diagnostic) : Bool × Publisher :=
  let held := p.hold uri
  if held.isCurrent documents uri revision then
    match held.outbox.send (publication uri diagnostics) with
    | .ok outbox =>
      (true, { held with published := setKey uri ⟨revision, diagnostics⟩ held.published, outbox })
    | .error _ => (false, held.release uri)
  else (false, held.release uri)

/-- Analyzes a snapshot and publishes the result if it is current. -/
def refresh (p : Publisher) (documents : Documents) (s : Snapshot) : Bool × Publisher :=
  p.publish documents s.uri s.revision (p.analyzer.analyze s.text).diagnostics

/-- Publishes the empty set for a closed document and forgets the document. A clearing that comes
    too late leaves the entry held. -/
def clear (p : Publisher) (uri : String) (revision : Nat) : Publisher :=
  let held := p.hold uri
  if held.lastRevision uri < revision then
    { held with
      published := eraseKey uri held.published
      outbox := held.outbox.post [publication uri []] }
  else held

end Publisher

end ServiceLang
