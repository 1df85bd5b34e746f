import ServiceLang.Keyed

namespace ServiceLang

/-!
# Open documents

Each stored text carries a revision, and one counter numbers the revisions of all documents, so
they grow across opening, changing, saving and closing. Revisions are 64-bit numbers.

* `Snapshot`: a document at one revision;
* `revisionAfter`: the revision that follows another one;
* `Documents`: the open documents, and the next revision.
-/

/-- A document at one revision. -/
structure Snapshot where
  uri : String
  text : String
  revision : Nat
  deriving DecidableEq, Repr

/-- The current text of a document and its revision. -/
structure StoredText where
  text : String
  revision : Nat
  deriving DecidableEq, Repr

/-- The number of 64-bit numbers. -/
def revisionCount : Nat := 18446744073709551616

/-- The revision that follows another one; 0 follows the largest. -/
def revisionAfter (revision : Nat) : Nat := (revision + 1) % revisionCount

/-- The open documents, each once. -/
structure Documents where
  entries : List (String × StoredText) := []
  nextRevision : Nat := 1
  deriving DecidableEq, Repr

namespace Documents

/-- The current snapshot of an open document. -/
def get? (d : Documents) (uri : String) : Option Snapshot :=
  (d.entries.lookup uri).map fun entry => ⟨uri, entry.text, entry.revision⟩

/-- The current revision of an open document. -/
def revision? (d : Documents) (uri : String) : Option Nat :=
  (d.entries.lookup uri).map (·.revision)

/-- The number of open documents. -/
def size (d : Documents) : Nat := d.entries.length

/-- Stores a text under the next revision. Opening a document and changing it are the same: an
    unknown document is taken as opened. -/
def store (d : Documents) (uri text : String) : Snapshot × Documents :=
  (⟨uri, text, d.nextRevision⟩,
    ⟨setKey uri ⟨text, d.nextRevision⟩ d.entries, revisionAfter d.nextRevision⟩)

/-- Takes a save: the text that comes with it is stored, and without one the current text gets
    the next revision. Saving an unknown document without a text does nothing. -/
def save (d : Documents) (uri : String) : Option String → Option Snapshot × Documents
  | some text => ((d.store uri text).1, (d.store uri text).2)
  | none =>
    match d.entries.lookup uri with
    | some entry => ((d.store uri entry.text).1, (d.store uri entry.text).2)
    | none => (none, d)

/-- Closes a document, which takes the next revision even when it was not open. -/
def close (d : Documents) (uri : String) : Nat × Documents :=
  (d.nextRevision, ⟨eraseKey uri d.entries, revisionAfter d.nextRevision⟩)

end Documents

end ServiceLang
