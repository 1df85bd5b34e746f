import ServiceLang.Proofs.Keyed
import ServiceLang.Proofs.Protocol.RoundTrip
import ServiceLang.Server.Publisher

namespace ServiceLang

/-!
# Documents and published revisions, operation by operation

What each operation does to the two views that everything else is said through:

* `Documents.get?`, the stored snapshot of a document, under `store`, `save` and `close`;
* `Publisher.lastRevision`, the revision last published for a document, under `publish`,
  `refresh` and `clear`, with the messages that these queue;
* `Outgoing.Carries`, the diagnostics that a client reads from a message.
-/

/-! ### Documents -/

namespace Documents

variable {d : Documents} {uri u text : String} {p : Snapshot}

/-- A stored snapshot bears the name that it is stored under. -/
theorem uri_of_get? (h : d.get? u = some p) : p.uri = u := by
  obtain ⟨entry, _, rfl⟩ := Option.map_eq_some_iff.mp h
  rfl

/-- The stored revision is that of the stored snapshot. -/
theorem revision?_eq_map (d : Documents) (u : String) :
    d.revision? u = (d.get? u).map (·.revision) := by
  rw [revision?, get?, Option.map_map]
  rfl

@[simp] theorem get?_empty (u : String) : ({} : Documents).get? u = none := rfl

/-- Storing a text changes the snapshot of its document only. -/
@[simp] theorem get?_store (d : Documents) (uri text u : String) :
    (d.store uri text).2.get? u = if u = uri then some (d.store uri text).1 else d.get? u := by
  rw [get?, store, lookup_setKey]
  by_cases h : u = uri
  · rw [if_pos h, if_pos h, h]
    rfl
  · rw [if_neg h, if_neg h]
    rfl

/-- Closing a document drops its snapshot only. -/
@[simp] theorem get?_close (d : Documents) (uri u : String) :
    (d.close uri).2.get? u = if u = uri then none else d.get? u := by
  rw [get?, close, lookup_eraseKey]
  by_cases h : u = uri
  · rw [if_pos h, if_pos h]
    rfl
  · rw [if_neg h, if_neg h]
    rfl

/-- A save stores the text that comes with it or, without one, the text that is there already;
    an unknown document stays unknown. -/
theorem save_cases (d : Documents) (uri : String) (text : Option String) :
    (∃ t, (text = some t ∨ ∃ p, d.get? uri = some p ∧ p.text = t) ∧
      d.save uri text = (some (d.store uri t).1, (d.store uri t).2)) ∨
    (text = none ∧ d.get? uri = none ∧ d.save uri text = (none, d)) := by
  cases text with
  | some t => exact .inl ⟨t, .inl rfl, rfl⟩
  | none =>
    cases h : d.entries.lookup uri with
    | some entry =>
      refine .inl ⟨entry.text, .inr ⟨⟨uri, entry.text, entry.revision⟩, ?_, rfl⟩, ?_⟩
      · rw [get?, h]
        rfl
      · rw [save, h]
    | none =>
      refine .inr ⟨rfl, ?_, ?_⟩
      · rw [get?, h]
        rfl
      · rw [save, h]

end Documents

/-! ### The outbox -/

namespace Outbox

variable {o : Outbox} {messages : List Outgoing}

/-- An open outbox takes every message. -/
theorem post_of_open (h : o.isOpen = true) :
    o.post messages = { o with queue := o.queue ++ messages } := by
  rw [post, sendAll, if_pos h]

/-- A closed outbox takes none. -/
theorem post_of_closed (h : o.isOpen = false) : o.post messages = o := by
  rw [post, sendAll, h]
  rfl

/-- Sending nothing changes nothing. -/
theorem post_nil (o : Outbox) : o.post [] = o := by
  cases ho : o.isOpen
  · rw [post_of_closed ho]
  · rw [post_of_open ho, List.append_nil]

/-- Sending succeeds exactly when the outbox is open, and then queues the message. -/
theorem send_eq (o : Outbox) (m : Outgoing) :
    o.send m = if o.isOpen then .ok (o.post [m]) else .error .channelClosed := by
  rw [send, sendAll]
  by_cases h : o.isOpen = true
  · rw [if_pos h, if_pos h, post_of_open h]
  · rw [if_neg h, if_neg h]

/-- Sending leaves an outbox as open or closed as it was. -/
@[simp] theorem isOpen_post (o : Outbox) (messages : List Outgoing) :
    (o.post messages).isOpen = o.isOpen := by
  cases h : o.isOpen
  · rw [post_of_closed h, h]
  · rw [post_of_open h, h]

end Outbox

/-! ### The publisher -/

namespace Publisher

variable {p : Publisher} {d : Documents} {s : Snapshot} {uri : String} {revision : Nat}

/-- A set is current when it was made from the stored revision and nothing as new was published
    for its document. -/
theorem isCurrent_iff :
    p.isCurrent d uri revision = true ↔
      p.lastRevision uri < revision ∧ ∃ s, d.get? uri = some s ∧ s.revision = revision := by
  rw [isCurrent, Bool.and_eq_true, decide_eq_true_iff, beq_iff_eq, d.revision?_eq_map,
    Option.map_eq_some_iff]

/-- Holding the entry of a document publishes nothing. -/
@[simp] theorem lastRevision_hold (p : Publisher) (uri u : String) :
    (p.hold uri).lastRevision u = p.lastRevision u := by
  rw [lastRevision, lastRevision, hold]
  by_cases h : (p.published.lookup uri).isSome = true
  · rw [if_pos h]
  · rw [if_neg h, lookup_setKey]
    by_cases hu : u = uri
    · rw [if_pos hu, hu, Option.not_isSome_iff_eq_none.mp h]
      rfl
    · rw [if_neg hu]

/-- Letting the entry of a document go forgets nothing that was published. -/
@[simp] theorem lastRevision_release (p : Publisher) (uri u : String) :
    (p.release uri).lastRevision u = p.lastRevision u := by
  by_cases h : p.lastRevision uri = 0
  · rw [release, if_pos h, lastRevision, lookup_eraseKey]
    by_cases hu : u = uri
    · rw [if_pos hu, hu, h]
      rfl
    · rw [if_neg hu]
      rfl
  · rw [release, if_neg h]

/-- An entry without a revision makes no revision outdated. -/
theorem isCurrent_hold (p : Publisher) (d : Documents) (uri : String) (revision : Nat) :
    (p.hold uri).isCurrent d uri revision = p.isCurrent d uri revision := by
  rw [isCurrent, isCurrent, lastRevision_hold]

/-- Setting the entry that is held sets the entry of the document. -/
theorem setKey_published_hold (p : Publisher) (uri : String) (entry : Published) :
    setKey uri entry (p.hold uri).published = setKey uri entry p.published := by
  rw [hold]
  by_cases h : (p.published.lookup uri).isSome = true
  · rw [if_pos h]
  · rw [if_neg h, setKey_setKey]

/-- Dropping the entry that is held drops the entry of the document. -/
theorem eraseKey_published_hold (p : Publisher) (uri : String) :
    eraseKey uri (p.hold uri).published = eraseKey uri p.published := by
  rw [hold]
  by_cases h : (p.published.lookup uri).isSome = true
  · rw [if_pos h]
  · rw [if_neg h, eraseKey_setKey]

/-- The publisher after publishing a set. -/
def withPublication (p : Publisher) (uri : String) (revision : Nat)
    (diagnostics : List Diagnostic) : Publisher :=
  { p with
    published := setKey uri ⟨revision, diagnostics⟩ p.published
    outbox := p.outbox.post [publication uri diagnostics] }

/-- The publisher after a set was not published: the entry of its document was held and let go. -/
def afterRefusal (p : Publisher) (uri : String) : Publisher := (p.hold uri).release uri

/-- **Publishing.** A set is published when it is current and the outbox is open. -/
theorem publish_eq (p : Publisher) (d : Documents) (uri : String) (revision : Nat)
    (diagnostics : List Diagnostic) :
    p.publish d uri revision diagnostics =
      if p.isCurrent d uri revision ∧ p.outbox.isOpen then
        (true, p.withPublication uri revision diagnostics)
      else (false, p.afterRefusal uri) := by
  rw [publish]
  simp only [isCurrent_hold]
  have hsend : (p.hold uri).outbox = p.outbox := rfl
  by_cases hc : p.isCurrent d uri revision = true
  · rw [if_pos hc, hsend, Outbox.send_eq]
    by_cases ho : p.outbox.isOpen = true
    · rw [if_pos ho, if_pos ⟨hc, ho⟩]
      simp only [setKey_published_hold]
      rfl
    · rw [if_neg ho, if_neg (fun h => ho h.2)]
      rfl
  · rw [if_neg hc, if_neg (fun h => hc h.1)]
    rfl

/-- The publisher after publishing the diagnostics of a snapshot. -/
def afterPublishing (p : Publisher) (s : Snapshot) : Publisher :=
  p.withPublication s.uri s.revision (p.analyzer.analyze s.text).diagnostics

/-- A refresh publishes when the set is current and the outbox is open, and is refused
    otherwise. -/
theorem refresh_eq (p : Publisher) (d : Documents) (s : Snapshot) :
    (p.refresh d s).2 =
      if p.isCurrent d s.uri s.revision ∧ p.outbox.isOpen then p.afterPublishing s
      else p.afterRefusal s.uri := by
  rw [refresh, publish_eq]
  split <;> rfl

@[simp] theorem lastRevision_afterPublishing (p : Publisher) (s : Snapshot) (u : String) :
    (p.afterPublishing s).lastRevision u = if u = s.uri then s.revision else p.lastRevision u := by
  rw [lastRevision, afterPublishing, withPublication, lookup_setKey]
  by_cases h : u = s.uri
  · rw [if_pos h, if_pos h]
    rfl
  · rw [if_neg h, if_neg h]
    rfl

@[simp] theorem lastRevision_afterRefusal (p : Publisher) (uri u : String) :
    (p.afterRefusal uri).lastRevision u = p.lastRevision u := by
  rw [afterRefusal, lastRevision_release, lastRevision_hold]

/-- **Clearing.** A document is cleared when its closure is newer than what was published for it,
    and its entry is held otherwise. -/
theorem clear_eq (p : Publisher) (uri : String) (revision : Nat) :
    p.clear uri revision =
      if p.lastRevision uri < revision then
        { p with
          published := eraseKey uri p.published
          outbox := p.outbox.post [publication uri []] }
      else p.hold uri := by
  rw [clear]
  simp only [lastRevision_hold, eraseKey_published_hold]
  rfl

/-- Clearing a document leaves the revisions of the others as they are. -/
theorem lastRevision_clear_of_ne (p : Publisher) (revision : Nat) {u : String} (h : u ≠ uri) :
    (p.clear uri revision).lastRevision u = p.lastRevision u := by
  rw [clear_eq]
  by_cases hlt : p.lastRevision uri < revision
  · rw [if_pos hlt, lastRevision, lookup_eraseKey, if_neg h]
    rfl
  · rw [if_neg hlt, lastRevision_hold]

/-- Clearing a document never raises the revision last published for any document. -/
theorem lastRevision_clear_le (p : Publisher) (uri : String) (revision : Nat) (u : String) :
    (p.clear uri revision).lastRevision u ≤ p.lastRevision u := by
  by_cases h : u = uri
  · subst h
    rw [clear_eq]
    by_cases hlt : p.lastRevision u < revision
    · rw [if_pos hlt, lastRevision, lookup_eraseKey, if_pos rfl]
      exact Nat.zero_le _
    · simp only [if_neg hlt, lastRevision_hold, Nat.le_refl]
  · exact Nat.le_of_eq (p.lastRevision_clear_of_ne revision h)

/-- A document that is cleared has nothing published. -/
theorem lastRevision_clear (h : p.lastRevision uri < revision) :
    (p.clear uri revision).lastRevision uri = 0 := by
  rw [clear_eq, if_pos h, lastRevision, lookup_eraseKey, if_pos rfl]
  rfl

/-- A clearing that is newer than what was published queues the empty set. -/
theorem outbox_clear (h : p.lastRevision uri < revision) :
    (p.clear uri revision).outbox = p.outbox.post [publication uri []] := by
  rw [clear_eq, if_pos h]

/-- A clearing that comes too late queues nothing. -/
theorem outbox_clear_of_le (h : ¬ p.lastRevision uri < revision) :
    (p.clear uri revision).outbox = p.outbox := by
  rw [clear_eq, if_neg h]
  rfl

@[simp] theorem analyzer_clear (p : Publisher) (uri : String) (revision : Nat) :
    (p.clear uri revision).analyzer = p.analyzer := by
  rw [clear_eq]
  split <;> rfl

end Publisher

/-! ### Publications -/

/-- The message carries the diagnostics of a document: it bears the method for that, and whoever
    decodes its parameters gets the document and the diagnostics. -/
def Outgoing.Carries (m : Outgoing) (uri : String) (diagnostics : List Diagnostic) : Prop :=
  ∃ params, m = .notify "textDocument/publishDiagnostics" params ∧
    DiagnosticSet.decode params = .ok ⟨uri, diagnostics⟩

/-- A publication carries what it is made from. -/
theorem carries_publication (uri : String) (diagnostics : List Diagnostic) :
    (publication uri diagnostics).Carries uri diagnostics :=
  ⟨_, rfl, travels_diagnosticSet.decoded ⟨uri, diagnostics⟩⟩

/-- A message carries the diagnostics of one document only. -/
theorem Outgoing.Carries.uri_eq {m : Outgoing} {uri u : String} {ds es : List Diagnostic}
    (h : m.Carries uri ds) (h' : m.Carries u es) : uri = u := by
  obtain ⟨params, rfl, hdecode⟩ := h
  obtain ⟨params', hparams, hdecode'⟩ := h'
  rw [Outgoing.notify.injEq] at hparams
  rw [← hparams.2, hdecode] at hdecode'
  exact congrArg DiagnosticSet.uri (Except.ok.inj hdecode')

end ServiceLang
