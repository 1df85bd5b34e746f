import ServiceLang.Proofs.Server.Lifecycle
import ServiceLang.Proofs.Server.Schedule

namespace ServiceLang

/-!
# Servers that are alike for one document

All documents share one counter, so two servers that have seen the same of one document but not of
the others give its texts different revisions. They still treat the document alike: the revisions
of one are those of the other up to a renaming that keeps their order.

* `Renaming`: such a renaming, with `Renaming.extend` for one more pair of revisions at its end;
* `Server.Alike`: two servers that are alike for a document, up to a renaming;
* `Server.Together`: what they do alike, by `Server.Alike.handle` and `Server.Alike.perform`;
* `Server.Apart`: what one of them does without touching the document, by `Server.apart_handle` and
  `Server.apart_perform`.
-/

/-! ### Renaming revisions -/

/-- A renaming of revisions below two bounds that keeps their order. The revision 0, which says that
    nothing is published, stays what it is. -/
structure Renaming (R : Nat → Nat → Prop) (n k : Nat) : Prop where
  zero : R 0 0
  lt_iff : ∀ {a b c d}, R a b → R c d → (a < c ↔ b < d)
  lt_left : ∀ {a b}, R a b → a < n
  lt_right : ∀ {a b}, R a b → b < k

/-- The renaming with one more pair. -/
def extended (R : Nat → Nat → Prop) (n k : Nat) (a b : Nat) : Prop := R a b ∨ (a = n ∧ b = k)

namespace Renaming

variable {R : Nat → Nat → Prop} {n k : Nat}

/-- Renamed revisions are equal exactly when they were. -/
theorem eq_iff (h : Renaming R n k) {a b c d : Nat} (hab : R a b) (hcd : R c d) :
    a = c ↔ b = d := by
  have hlt := h.lt_iff hab hcd
  have hgt := h.lt_iff hcd hab
  omega

/-- The bounds may grow. -/
theorem mono (h : Renaming R n k) {n' k' : Nat} (hn : n ≤ n') (hk : k ≤ k') : Renaming R n' k' where
  zero := h.zero
  lt_iff := h.lt_iff
  lt_left hab := Nat.lt_of_lt_of_le (h.lt_left hab) hn
  lt_right hab := Nat.lt_of_lt_of_le (h.lt_right hab) hk

/-- The bounds themselves can be paired, since they are above all revisions renamed so far. -/
theorem extend (h : Renaming R n k) : Renaming (extended R n k) (n + 1) (k + 1) where
  zero := .inl h.zero
  lt_iff := by
    -- the new pair is above all the others, on both sides
    rintro a b c d (hab | ⟨rfl, rfl⟩) (hcd | ⟨rfl, rfl⟩)
    · exact h.lt_iff hab hcd
    · exact iff_of_true (h.lt_left hab) (h.lt_right hab)
    · exact iff_of_false (Nat.lt_asymm (h.lt_left hcd)) (Nat.lt_asymm (h.lt_right hcd))
    · exact iff_of_false (Nat.lt_irrefl _) (Nat.lt_irrefl _)
  lt_left := by
    rintro a b (hab | ⟨rfl, -⟩)
    · exact Nat.lt_succ_of_lt (h.lt_left hab)
    · exact Nat.lt_succ_self _
  lt_right := by
    rintro a b (hab | ⟨-, rfl⟩)
    · exact Nat.lt_succ_of_lt (h.lt_right hab)
    · exact Nat.lt_succ_self _

end Renaming

/-! ### Being alike -/

/-- One text of one document, under revisions that are renamed. -/
structure Snapshot.Alike (R : Nat → Nat → Prop) (p q : Snapshot) : Prop where
  unrevised : p.unrevised = q.unrevised
  revision : R p.revision q.revision

namespace Snapshot.Alike

variable {R : Nat → Nat → Prop} {p q : Snapshot}

theorem uri (h : p.Alike R q) : p.uri = q.uri := (Snapshot.mk.inj h.unrevised).1

theorem text (h : p.Alike R q) : p.text = q.text := (Snapshot.mk.inj h.unrevised).2.1

end Snapshot.Alike

/-- Tasks that differ in revisions only. Those that analyze a text are about the document. -/
inductive Task.Alike (uri : String) (R : Nat → Nat → Prop) : Task → Task → Prop where
  | answer {id : Json} {p q : Query} (h : p.unrevised = q.unrevised) :
      Alike uri R (.answer id p) (.answer id q)
  | refresh {p q : Snapshot} (h : p.Alike R q) (huri : p.uri = uri) :
      Alike uri R (.refresh p) (.refresh q)

namespace Task.Alike

variable {uri : String} {R R' : Nat → Nat → Prop} {task other : Task}

/-- Tasks stay alike when more revisions are renamed. -/
theorem mono (hR : ∀ a b, R a b → R' a b) (h : task.Alike uri R other) :
    task.Alike uri R' other := by
  cases h with
  | answer h => exact .answer h
  | refresh h huri => exact .refresh ⟨h.unrevised, hR _ _ h.revision⟩ huri

/-- Tasks that are alike differ only in revisions. -/
theorem unrevised (h : task.Alike uri R other) : task.unrevised = other.unrevised := by
  cases h with
  | answer h => exact congrArg (Task.answer _) h
  | refresh h _ => exact congrArg Task.refresh h.unrevised

end Task.Alike

/-- Whether a message publishes the diagnostics of the document. -/
def Outgoing.publishes (uri : String) : Outgoing → Bool
  | .notify method params =>
    method == "textDocument/publishDiagnostics" &&
      match params.get? "uri" with
      | some (.str other) => other == uri
      | _ => false
  | _ => false

/-- A publication is for the document that it names. -/
@[simp] theorem publishes_publication (uri other : String) (diagnostics : List Diagnostic) :
    (publication other diagnostics).publishes uri = (other == uri) := by
  simp [Outgoing.publishes, publication, DiagnosticSet.toJson, Json.get?, lookup_cons_eq_ite]

/-- No other message publishes anything. -/
theorem publishes_of_not_isPublication {x : Outgoing} (h : x.isPublication = false) (uri : String) :
    x.publishes uri = false := by
  cases x with
  | notify method params =>
    simp only [Outgoing.isPublication] at h
    simp only [Outgoing.publishes, h, Bool.false_and]
  | result id value => rfl
  | failure id code message => rfl

namespace Server

variable {uri : String} {R R' : Nat → Nat → Prop} {s t s' t' : Server} {m : Message}

/-- Two servers that are alike for a document, up to a renaming of revisions. The second one has
    seen less. -/
structure Alike (uri : String) (R : Nat → Nat → Prop) (s t : Server) : Prop where
  revisions : Renaming R s.documents.nextRevision t.documents.nextRevision
  nextRevision_le : t.documents.nextRevision ≤ s.documents.nextRevision
  session : s.session = t.session
  analyzer : s.publisher.analyzer = t.publisher.analyzer
  isOpen_left : s.outbox.isOpen = true
  isOpen_right : t.outbox.isOpen = true
  stored : Option.Rel (Snapshot.Alike R) (s.documents.get? uri) (t.documents.get? uri)
  published : R (s.publisher.lastRevision uri) (t.publisher.lastRevision uri)

/-- Both servers send the same and defer tasks that are alike, and they are alike afterwards. -/
structure Together (uri : String) (R : Nat → Nat → Prop) (s s' t t' : Server) : Prop where
  alike : Alike uri R s' t'
  sends : ∃ messages, s'.outbox.queue = s.outbox.queue ++ messages ∧
    t'.outbox.queue = t.outbox.queue ++ messages
  defers : ∃ tasks others, s'.tasks = s.tasks ++ tasks ∧ t'.tasks = t.tasks ++ others ∧
    List.Forall₂ (Task.Alike uri R) tasks others

/-- A save stores the text that comes with it or, without one, the text that is there already. -/
theorem take_saved (s : Server) (uri : String) (text : Option String) :
    s.take (.saved uri text) =
      match text.or (s.documents.text? uri) with
      | some found => s.take (.opened uri found)
      | none => s := by
  cases text with
  | some text => rfl
  | none =>
    simp only [take, apply, Documents.save, Documents.text?, Documents.get?, Option.none_or]
    cases s.documents.entries.lookup uri <;> rfl

/-- Messages are queued in order while the client listens. -/
theorem queue_post (hopen : s.outbox.isOpen = true) (messages : List Outgoing) :
    (s.post messages).outbox.queue = s.outbox.queue ++ messages := by
  show (s.outbox.post messages).queue = _
  rw [Outbox.post_of_open hopen]

namespace Alike

/-- The initial state of one server is like that of another one. -/
theorem fresh (uri : String) (analyzer : Analyzer) :
    Alike uri (fun a b => a = 0 ∧ b = 0) (Server.fresh analyzer) (Server.fresh analyzer) where
  revisions := by
    refine ⟨⟨rfl, rfl⟩, ?_, ?_, ?_⟩
    · rintro a b c d ⟨rfl, rfl⟩ ⟨rfl, rfl⟩
      exact Iff.rfl
    · rintro a b ⟨rfl, -⟩
      exact Nat.one_pos
    · rintro a b ⟨-, rfl⟩
      exact Nat.one_pos
  nextRevision_le := Nat.le_refl _
  session := rfl
  analyzer := rfl
  isOpen_left := rfl
  isOpen_right := rfl
  stored := .none
  published := ⟨rfl, rfl⟩

/-- The tasks that are waiting do not count. -/
theorem withTasks (h : Alike uri R s t) (tasks others : List Task) :
    Alike uri R { s with tasks := tasks } { t with tasks := others } :=
  { h with }

/-- Servers stay alike when both change to the same session. -/
theorem withSession (h : Alike uri R s t) (session : Session) :
    Alike uri R { s with session := session } { t with session := session } :=
  { h with session := rfl }

/-! ### What both servers do -/

theorem stay (h : Alike uri R s t) : Together uri R s s t t where
  alike := h
  sends := ⟨[], (List.append_nil _).symm, (List.append_nil _).symm⟩
  defers := ⟨[], [], (List.append_nil _).symm, (List.append_nil _).symm, .nil⟩

/-- Both servers queue the same messages. -/
theorem post (h : Alike uri R s t) (messages : List Outgoing) :
    Together uri R s (s.post messages) t (t.post messages) where
  alike :=
    { h with
      isOpen_left := (Outbox.isOpen_post _ _).trans h.isOpen_left
      isOpen_right := (Outbox.isOpen_post _ _).trans h.isOpen_right }
  sends := ⟨messages, queue_post h.isOpen_left messages, queue_post h.isOpen_right messages⟩
  defers := h.stay.defers

/-- Both servers put tasks that are alike off. -/
theorem defer (h : Alike uri R s t) {task other : Task} (htask : task.Alike uri R other) :
    Together uri R s (s.defer task) t (t.defer other) where
  alike := h.withTasks _ _
  sends := h.stay.sends
  defers := ⟨[task], [other], rfl, rfl, .cons htask .nil⟩

/-- Storing a text of the document pairs the two revisions that come next. -/
theorem store (h : Alike uri R s t) (text : String)
    (hnext : s.documents.nextRevision + 1 < revisionCount) :
    Together uri (extended R s.documents.nextRevision t.documents.nextRevision)
      s (s.take (.opened uri text)) t (t.take (.opened uri text)) := by
  have hle := h.nextRevision_le
  have hs : (s.take (.opened uri text)).documents.nextRevision = s.documents.nextRevision + 1 :=
    Desk.revisionAfter_eq hnext
  have ht : (t.take (.opened uri text)).documents.nextRevision = t.documents.nextRevision + 1 :=
    Desk.revisionAfter_eq (by omega)
  have hsnapshot : (s.documents.store uri text).1.Alike
      (extended R s.documents.nextRevision t.documents.nextRevision)
      (t.documents.store uri text).1 := ⟨rfl, .inr ⟨rfl, rfl⟩⟩
  refine ⟨?_, h.stay.sends, ?_⟩
  · refine ⟨?_, ?_, h.session, h.analyzer, h.isOpen_left, h.isOpen_right, ?_, .inl h.published⟩
    · rw [hs, ht]
      exact h.revisions.extend
    · omega
    · show Option.Rel _ ((s.documents.store uri text).2.get? uri)
        ((t.documents.store uri text).2.get? uri)
      rw [Documents.get?_store, Documents.get?_store, if_pos rfl, if_pos rfl]
      exact .some hsnapshot
  · exact ⟨_, _, rfl, rfl, .cons (.refresh hsnapshot rfl) .nil⟩

/-- Closing the document clears it. What is published is always older than the next revision. -/
theorem close (h : Alike uri R s t) (hnext : s.documents.nextRevision + 1 < revisionCount) :
    Together uri R s (s.take (.closed uri)) t (t.take (.closed uri)) := by
  have hle := h.nextRevision_le
  have hs : (s.take (.closed uri)).documents.nextRevision = s.documents.nextRevision + 1 :=
    Desk.revisionAfter_eq hnext
  have ht : (t.take (.closed uri)).documents.nextRevision = t.documents.nextRevision + 1 :=
    Desk.revisionAfter_eq (by omega)
  -- the revision of the closure is not kept anywhere, so the renaming need not know it
  have hlast : s.publisher.lastRevision uri < (s.documents.close uri).1 :=
    h.revisions.lt_left h.published
  have hlast' : t.publisher.lastRevision uri < (t.documents.close uri).1 :=
    h.revisions.lt_right h.published
  have houtbox : (s.take (.closed uri)).outbox = s.outbox.post [publication uri []] :=
    Publisher.outbox_clear hlast
  have houtbox' : (t.take (.closed uri)).outbox = t.outbox.post [publication uri []] :=
    Publisher.outbox_clear hlast'
  refine ⟨⟨?_, ?_, h.session, ?_, ?_, ?_, ?_, ?_⟩, ?_, h.stay.defers⟩
  · rw [hs, ht]
    exact h.revisions.mono (Nat.le_succ _) (Nat.le_succ _)
  · omega
  · exact (Publisher.analyzer_clear _ _ _).trans
      (h.analyzer.trans (Publisher.analyzer_clear _ _ _).symm)
  · rw [houtbox, Outbox.isOpen_post, h.isOpen_left]
  · rw [houtbox', Outbox.isOpen_post, h.isOpen_right]
  · show Option.Rel _ ((s.documents.close uri).2.get? uri) ((t.documents.close uri).2.get? uri)
    rw [Documents.get?_close, Documents.get?_close, if_pos rfl, if_pos rfl]
    exact .none
  · show R ((s.publisher.clear uri _).lastRevision uri) ((t.publisher.clear uri _).lastRevision uri)
    rw [Publisher.lastRevision_clear hlast, Publisher.lastRevision_clear hlast']
    exact h.revisions.zero
  · refine ⟨[publication uri []], ?_, ?_⟩
    · rw [houtbox, Outbox.post_of_open h.isOpen_left]
    · rw [houtbox', Outbox.post_of_open h.isOpen_right]

/-- Both servers store the same snapshot of the document up to its revision, or none. -/
theorem unrevised_get? (h : Alike uri R s t) :
    (s.documents.get? uri).map Snapshot.unrevised =
      (t.documents.get? uri).map Snapshot.unrevised := by
  have hstored := h.stored
  generalize s.documents.get? uri = p at hstored
  generalize t.documents.get? uri = q at hstored
  cases hstored with
  | none => rfl
  | some halike => exact congrArg some halike.unrevised

/-- Both servers store the same text of the document, or none. -/
theorem text?_eq (h : Alike uri R s t) : s.documents.text? uri = t.documents.text? uri := by
  have htext : ∀ d : Documents,
      d.text? uri = ((d.get? uri).map Snapshot.unrevised).map (·.text) := by
    intro d
    rw [Option.map_map]
    rfl
  rw [htext, htext, h.unrevised_get?]

/-- **A change of the document.** The renaming grows by a pair of revisions where a text is
    stored. -/
theorem take (h : Alike uri R s t) (change : Mutation) (huri : change.uri = uri)
    (hnext : s.documents.nextRevision + 1 < revisionCount) :
    ∃ R', (∀ a b, R a b → R' a b) ∧
      Together uri R' s (s.take change) t (t.take change) := by
  have hstore : ∀ text, ∃ R', (∀ a b, R a b → R' a b) ∧
      Together uri R' s (s.take (.opened uri text)) t (t.take (.opened uri text)) :=
    fun text => ⟨_, fun _ _ => .inl, h.store text hnext⟩
  cases change with
  | opened u text =>
    obtain rfl : u = uri := huri
    exact hstore text
  | changed u text =>
    obtain rfl : u = uri := huri
    exact hstore text
  | saved u text =>
    obtain rfl : u = uri := huri
    rw [take_saved, take_saved, ← h.text?_eq]
    cases text.or (s.documents.text? u) with
    | some found => exact hstore found
    | none => exact ⟨R, fun _ _ => id, h.stay⟩
  | closed u =>
    obtain rfl : u = uri := huri
    exact ⟨R, fun _ _ => id, h.close hnext⟩

/-- A query about the document is read alike. -/
theorem read (h : Alike uri R s t) (method : QueryMethod) (params : Json)
    (hdocument : concerns uri (method.document? params) = true) :
    (Query.read s.documents method params).map Query.unrevised =
      (Query.read t.documents method params).map Query.unrevised := by
  have hget := h.unrevised_get?
  cases method with
  | hover =>
    unfold Query.read readParams
    cases hdecode : PositionParams.decode params with
    | error e => rfl
    | ok p =>
      have hp : p.document.uri = uri := by
        simpa [QueryMethod.document?, hdecode, concerns, Except.toOption] using hdocument
      rw [← hp] at hget
      exact congrArg (fun snapshot => Except.ok (Query.hover snapshot p.position)) hget
  | completion =>
    unfold Query.read readParams
    cases PositionParams.decode params <;> rfl
  | documentSymbol =>
    unfold Query.read readParams
    cases hdecode : SymbolParams.decode params with
    | error e => rfl
    | ok p =>
      have hp : p.document.uri = uri := by
        simpa [QueryMethod.document?, hdecode, concerns, Except.toOption] using hdocument
      rw [← hp] at hget
      exact congrArg (fun snapshot => Except.ok (Query.symbols snapshot)) hget

/-- A query about the document reads the same on both servers, revisions apart. -/
theorem capture (h : Alike uri R s t) (method : QueryMethod) (params : Json)
    (hdocument : concerns uri (method.document? params) = true) :
    (s.capture method params).map Query.unrevised =
      (t.capture method params).map Query.unrevised := by
  rw [capture_eq, capture_eq, h.session]
  cases t.session.check .query with
  | error e => rfl
  | ok _ => exact h.read method params hdocument

/-- A request, if it concerns the document. -/
theorem handleRequest (h : Alike uri R s t) (id : Json) (method : RequestMethod) (params : Json)
    (hdocument : ∀ q, method = .query q → concerns uri (q.document? params) = true) :
    Together uri R s (s.handleRequest id method params) t (t.handleRequest id method params) := by
  have hpost : ∀ session messages, Together uri R s ({ s with session }.post messages)
      t ({ t with session }.post messages) := by
    intro session messages
    have htogether := (h.withSession session).post messages
    exact ⟨htogether.alike, htogether.sends, htogether.defers⟩
  cases method with
  | setUp =>
    simp only [Server.handleRequest, h.session]
    cases t.session.setUp with
    | ok session => exact hpost session _
    | error e => exact h.post _
  | shutDown =>
    simp only [Server.handleRequest, h.session]
    exact hpost _ _
  | query method =>
    have hcapture := h.capture method params (hdocument method rfl)
    simp only [Server.handleRequest]
    -- The captured queries are equal or both are refused, for the same reason.
    cases hs : s.capture method params <;> cases ht : t.capture method params <;>
      rw [hs, ht] at hcapture
    · obtain rfl := Except.error.inj hcapture
      exact h.post _
    · cases hcapture
    · cases hcapture
    · exact h.defer (.answer (Except.ok.inj hcapture))
  | unknown name =>
    simp only [Server.handleRequest, h.session]
    exact h.post _

/-- **A message that concerns the document**, or no document at all, is handled alike. -/
theorem handle (h : Alike uri R s t) (hm : concerns uri m.document? = true)
    (hnext : (s.accepted m).isSome → s.documents.nextRevision + 1 < revisionCount) :
    ∃ R', (∀ a b, R a b → R' a b) ∧
      Together uri R' s (s.handle m).1 t (t.handle m).1 := by
  have hsame : ∀ {s' t'}, Together uri R s s' t t' →
      ∃ R', (∀ a b, R a b → R' a b) ∧ Together uri R' s s' t t' :=
    fun htogether => ⟨R, fun _ _ hab => hab, htogether⟩
  have hsession : ∀ session, Together uri R s { s with session } t { t with session } :=
    fun session => ⟨h.withSession session, h.stay.sends, h.stay.defers⟩
  cases m with
  | request id name params =>
    refine hsame (h.handleRequest id _ params fun q hq => ?_)
    simpa [Message.document?, hq] using hm
  | response id result error => exact hsame h.stay
  | notification name params =>
    simp only [Server.handle, handleNotification]
    cases hname : NotificationMethod.ofName name with
    | confirmed =>
      simp only [h.session]
      exact hsame (hsession _)
    | exit => exact hsame (hsession _)
    | configurationChanged => exact hsame (h.post _)
    | ignored => exact hsame h.stay
    | mutation method =>
      -- sessions that are equal accept the same changes
      simp only [handleMutation_eq, ← h.session]
      simp only [accepted, hname] at hnext
      simp only [Message.document?, hname] at hm
      cases hchange : (if s.session.acceptsMutation then
          (Mutation.read method params).toOption else none) with
      | none => exact hsame h.stay
      | some change =>
        have hread : (Mutation.read method params).toOption = some change :=
          (Option.ite_none_right_eq_some.mp hchange).2
        have huri : change.uri = uri := by simpa [hread, concerns] using hm
        exact h.take change huri (hnext (by rw [hchange]; rfl))

/-- Whether a set is still to be published depends on the order of revisions only. -/
theorem isCurrent_iff (h : Alike uri R s t) {p q : Snapshot} (hpq : p.Alike R q)
    (huri : p.uri = uri) :
    s.publisher.isCurrent s.documents p.uri p.revision = true ↔
      t.publisher.isCurrent t.documents q.uri q.revision = true := by
  have hstored := h.stored
  rw [Publisher.isCurrent_iff, Publisher.isCurrent_iff, ← hpq.uri, huri,
    h.revisions.lt_iff h.published hpq.revision]
  -- the document is open in both servers or in none
  generalize s.documents.get? uri = a at hstored
  generalize t.documents.get? uri = b at hstored
  cases hstored with
  | none => simp
  | some halike => simp [h.revisions.eq_iff halike.revision hpq.revision]

/-- Publishing what is current publishes the same diagnostics. -/
theorem afterPublishing (h : Alike uri R s t) {p q : Snapshot} (hpq : p.Alike R q)
    (huri : p.uri = uri) :
    Together uri R s { s with publisher := s.publisher.afterPublishing p }
      t { t with publisher := t.publisher.afterPublishing q } := by
  have hquri : q.uri = uri := hpq.uri.symm.trans huri
  have hmessage : publication p.uri (s.publisher.analyzer.analyze p.text).diagnostics =
      publication q.uri (t.publisher.analyzer.analyze q.text).diagnostics := by
    rw [hpq.uri, hpq.text, h.analyzer]
  have hsent := h.post [publication p.uri (s.publisher.analyzer.analyze p.text).diagnostics]
  refine ⟨⟨h.revisions, h.nextRevision_le, h.session, h.analyzer, hsent.alike.isOpen_left, ?_,
    h.stored, ?_⟩, ?_, h.stay.defers⟩
  · exact (Outbox.isOpen_post _ _).trans h.isOpen_right
  · show R ((s.publisher.afterPublishing p).lastRevision uri)
      ((t.publisher.afterPublishing q).lastRevision uri)
    rw [Publisher.lastRevision_afterPublishing, Publisher.lastRevision_afterPublishing,
      if_pos huri.symm, if_pos hquri.symm]
    exact hpq.revision
  · refine ⟨[_], queue_post h.isOpen_left _, ?_⟩
    rw [hmessage]
    exact queue_post h.isOpen_right _

/-- Sets that are refused leave the servers alike. -/
theorem afterRefusal (h : Alike uri R s t) (other other' : String) :
    Together uri R s { s with publisher := s.publisher.afterRefusal other }
      t { t with publisher := t.publisher.afterRefusal other' } := by
  refine ⟨{ h with published := ?_ }, h.stay.sends, h.stay.defers⟩
  show R ((s.publisher.afterRefusal other).lastRevision uri)
    ((t.publisher.afterRefusal other').lastRevision uri)
  rw [Publisher.lastRevision_afterRefusal, Publisher.lastRevision_afterRefusal]
  exact h.published

/-- **Tasks that are alike** are done alike. -/
theorem perform (h : Alike uri R s t) {task other : Task} (htask : task.Alike uri R other) :
    Together uri R s (s.perform task) t (t.perform other) := by
  cases htask with
  | @answer id p q hquery =>
    have hanswer : p.answer = q.answer := by
      rw [← p.answer_unrevised, hquery, q.answer_unrevised]
    simp only [Server.perform, hanswer]
    exact h.post _
  | @refresh p q hpq huri =>
    have hcurrent := h.isCurrent_iff hpq huri
    have hopen : s.publisher.outbox.isOpen = true := h.isOpen_left
    have hopen' : t.publisher.outbox.isOpen = true := h.isOpen_right
    simp only [Server.perform, Publisher.refresh_eq, hopen, hopen', and_true]
    by_cases hp : s.publisher.isCurrent s.documents p.uri p.revision = true
    · rw [if_pos hp, if_pos (hcurrent.mp hp)]
      exact h.afterPublishing hpq huri
    · rw [if_neg hp, if_neg (mt hcurrent.mpr hp)]
      exact h.afterRefusal p.uri q.uri

end Alike

/-! ### What one server does apart from a document -/

/-- The server does something that leaves the document as it is and sends nothing that is published
    for it. -/
structure Apart (uri : String) (s s' : Server) : Prop where
  nextRevision_le : s.documents.nextRevision ≤ s'.documents.nextRevision
  session : s'.session = s.session
  analyzer : s'.publisher.analyzer = s.publisher.analyzer
  isOpen : s'.outbox.isOpen = s.outbox.isOpen
  stored : s'.documents.get? uri = s.documents.get? uri
  published : s'.publisher.lastRevision uri = s.publisher.lastRevision uri
  sends : ∃ messages, s'.outbox.queue = s.outbox.queue ++ messages ∧
    ∀ x ∈ messages, x.publishes uri = false

/-- What is done apart from the document leaves the servers alike. -/
theorem Alike.of_apart (h : Alike uri R s t) (hapart : Apart uri s s') : Alike uri R s' t where
  revisions := h.revisions.mono hapart.nextRevision_le (Nat.le_refl _)
  nextRevision_le := Nat.le_trans h.nextRevision_le hapart.nextRevision_le
  session := hapart.session.trans h.session
  analyzer := hapart.analyzer.trans h.analyzer
  isOpen_left := hapart.isOpen.trans h.isOpen_left
  isOpen_right := h.isOpen_right
  stored := hapart.stored ▸ h.stored
  published := hapart.published ▸ h.published

theorem apart_stay (uri : String) (s : Server) : Apart uri s s :=
  ⟨Nat.le_refl _, rfl, rfl, rfl, rfl, rfl, [], (List.append_nil _).symm, by simp⟩

/-- Text for another document does nothing about this one. -/
theorem apart_store {other : String} (hne : other ≠ uri) (text : String)
    (hnext : s.documents.nextRevision + 1 < revisionCount) :
    Apart uri s (s.take (.opened other text)) := by
  have hs : (s.take (.opened other text)).documents.nextRevision = s.documents.nextRevision + 1 :=
    Desk.revisionAfter_eq hnext
  have hstay := apart_stay uri s
  refine ⟨?_, rfl, rfl, rfl, ?_, rfl, hstay.sends⟩
  · omega
  · exact (Documents.get?_store _ _ _ _).trans (if_neg hne.symm)

/-- Closing another document does nothing about this one. -/
theorem apart_close {other : String} (hne : other ≠ uri) (hopen : s.outbox.isOpen = true)
    (hnext : s.documents.nextRevision + 1 < revisionCount) :
    Apart uri s (s.take (.closed other)) := by
  have hs : (s.take (.closed other)).documents.nextRevision = s.documents.nextRevision + 1 :=
    Desk.revisionAfter_eq hnext
  -- the clearing may come too late to be published
  have houtbox : (s.take (.closed other)).outbox = s.outbox.post [publication other []] ∨
      (s.take (.closed other)).outbox = s.outbox := by
    by_cases hlast : s.publisher.lastRevision other < (s.documents.close other).1
    · exact .inl (Publisher.outbox_clear hlast)
    · refine .inr ?_
      exact Publisher.outbox_clear_of_le hlast
  refine ⟨?_, rfl, Publisher.analyzer_clear _ _ _, ?_, ?_, ?_, ?_⟩
  · omega
  · rcases houtbox with h | h <;> rw [h]
    exact Outbox.isOpen_post _ _
  · exact (Documents.get?_close _ _ _).trans (if_neg hne.symm)
  · exact Publisher.lastRevision_clear_of_ne _ _ hne.symm
  · rcases houtbox with h | h <;> rw [h]
    · refine ⟨[publication other []], queue_post hopen _, fun x hx => ?_⟩
      rw [List.mem_singleton.mp hx, publishes_publication]
      simpa using hne
    · exact (apart_stay uri s).sends

/-- **A change of another document** is made apart. -/
theorem apart_take (change : Mutation) (hne : change.uri ≠ uri) (hopen : s.outbox.isOpen = true)
    (hnext : s.documents.nextRevision + 1 < revisionCount) : Apart uri s (s.take change) := by
  cases change with
  | opened other text => exact apart_store hne text hnext
  | changed other text => exact apart_store hne text hnext
  | closed other => exact apart_close hne hopen hnext
  | saved other text =>
    rw [take_saved]
    cases text.or (s.documents.text? other) with
    | some found => exact apart_store hne found hnext
    | none => exact apart_stay uri s

/-- A step aside that leaves the session as it is happens apart from every document. -/
theorem Aside.apart {messages : List Outgoing} {answers : List Task}
    (h : Aside s s' messages answers) (hsession : s'.session = s.session)
    (hopen : s.outbox.isOpen = true) (uri : String) : Apart uri s s' where
  nextRevision_le := Nat.le_of_eq (by rw [h.documents])
  session := hsession
  analyzer := by rw [h.publisher]; rfl
  isOpen := by
    show s'.publisher.outbox.isOpen = _
    rw [h.publisher]
    exact Outbox.isOpen_post _ _
  stored := by rw [h.documents]
  published := by rw [h.publisher]; rfl
  sends := by
    refine ⟨messages, ?_, fun x hx => publishes_of_not_isPublication (h.not_publication x hx) uri⟩
    show s'.publisher.outbox.queue = _
    rw [h.publisher]
    exact queue_post hopen messages

/-- A message about a document does not move the session. -/
theorem session_handle_of_document {document : String} (h : m.document? = some document) :
    (s.handle m).1.session = s.session := by
  cases m with
  | request id name params =>
    show (s.handleRequest id _ params).session = _
    rw [session_handleRequest]
    simp only [Message.document?] at h
    split at h
    · next hname => rw [hname]
    · cases h
  | notification name params =>
    show (s.handleNotification _ params).1.session = _
    rw [session_handleNotification]
    simp only [Message.document?] at h
    split at h
    · next hname => rw [hname]
    · cases h
  | response id result error => cases h

/-- An accepted change is about its document. -/
theorem document?_of_accepted {change : Mutation} (h : s.accepted m = some change) :
    m.document? = some change.uri := by
  obtain ⟨-, method, params, rfl, hread⟩ := accepted_eq_some_iff.mp h
  simp only [Message.document?]
  rw [NotificationMethod.ofName_eq_mutation_iff.mpr rfl]
  simp only [hread]
  rfl

/-- **A message about another document** is handled apart. -/
theorem apart_handle (hm : concerns uri m.document? = false) (hopen : s.outbox.isOpen = true)
    (hnext : (s.accepted m).isSome → s.documents.nextRevision + 1 < revisionCount) :
    Apart uri s (s.handle m).1 := by
  obtain ⟨other, hother, hne⟩ : ∃ other, m.document? = some other ∧ other ≠ uri := by
    cases hdocument : m.document? with
    | none => rw [hdocument] at hm; cases hm
    | some other =>
      refine ⟨other, rfl, ?_⟩
      simpa [hdocument, concerns] using hm
  cases haccepted : s.accepted m with
  | some change =>
    have huri : change.uri = other :=
      Option.some.inj ((document?_of_accepted haccepted).symm.trans hother)
    rw [handle_of_accepted haccepted]
    exact apart_take change (huri ▸ hne) hopen (hnext (by rw [haccepted]; rfl))
  | none =>
    obtain ⟨messages, answers, haside⟩ := handle_of_not_accepted haccepted
    exact haside.apart (session_handle_of_document hother) hopen uri

/-- **An answer, or the analysis of another document**, is done apart. -/
theorem apart_perform {task : Task} (htask : ∀ p, task = .refresh p → p.uri ≠ uri)
    (hopen : s.outbox.isOpen = true) : Apart uri s (s.perform task) := by
  cases task with
  | answer id query =>
    have haside : Aside s (s.post [.result id query.answer]) [.result id query.answer] [] :=
      aside_post s s.session (isPublication_reply id (.ok query.answer))
    exact haside.apart rfl hopen uri
  | refresh p =>
    have hne : p.uri ≠ uri := htask p rfl
    simp only [perform, Publisher.refresh_eq]
    split_ifs
    · refine ⟨Nat.le_refl _, rfl, rfl, Outbox.isOpen_post _ _, rfl, ?_, ?_⟩
      · exact (Publisher.lastRevision_afterPublishing _ _ _).trans (if_neg hne.symm)
      · refine ⟨[_], queue_post hopen _, fun x hx => ?_⟩
        rw [List.mem_singleton.mp hx, publishes_publication]
        simpa using hne
    · exact ⟨Nat.le_refl _, rfl, rfl, rfl, rfl, Publisher.lastRevision_afterRefusal _ _ _,
        (apart_stay uri s).sends⟩

/-! ### Tasks and revisions of a message -/

/-- The analyses that a change defers are of its document. -/
theorem uri_of_refresh_mem_take {change : Mutation} {p : Snapshot}
    (h : Task.refresh p ∈ (s.take change).tasks) :
    Task.refresh p ∈ s.tasks ∨ p.uri = change.uri := by
  have hstore : ∀ uri text, Task.refresh p ∈ (s.take (.opened uri text)).tasks →
      Task.refresh p ∈ s.tasks ∨ p.uri = uri := by
    intro uri text hmem
    rcases List.mem_append.mp hmem with hold | hnew
    · exact .inl hold
    · obtain rfl := Task.refresh.inj (List.mem_singleton.mp hnew)
      exact .inr rfl
  cases change with
  | opened uri text => exact hstore uri text h
  | changed uri text => exact hstore uri text h
  | closed uri => exact .inl h
  | saved uri text =>
    rw [take_saved] at h
    split at h
    · exact hstore uri _ h
    · exact .inl h

/-- The analyses that a message defers are of its document. -/
theorem document?_of_refresh_mem {p : Snapshot} (h : Task.refresh p ∈ (s.handle m).1.tasks)
    (hidle : s.tasks = []) : m.document? = some p.uri := by
  cases haccepted : s.accepted m with
  | some change =>
    rw [handle_of_accepted haccepted] at h
    rcases uri_of_refresh_mem_take h with hold | hnew
    · rw [hidle] at hold
      cases hold
    · rw [document?_of_accepted haccepted, hnew]
  | none =>
    obtain ⟨messages, answers, haside⟩ := handle_of_not_accepted haccepted
    rw [haside.tasks, hidle, List.nil_append] at h
    cases haside.isAnswer _ h

/-- A message takes one revision at most, and none unless it is an accepted change. -/
theorem nextRevision_handle_le (s : Server) (m : Message) :
    (s.handle m).1.documents.nextRevision ≤
      s.documents.nextRevision + if (s.accepted m).isSome then 1 else 0 := by
  cases haccepted : s.accepted m with
  | some change =>
    rw [handle_of_accepted haccepted]
    by_cases hfinds : change.finds s.documents
    · rw [nextRevision_take hfinds]
      exact Nat.mod_le _ _
    · rw [take_of_not_finds hfinds]
      exact Nat.le_succ _
  | none =>
    obtain ⟨messages, answers, haside⟩ := handle_of_not_accepted haccepted
    rw [haside.documents]
    exact Nat.le_add_right _ _

end Server

end ServiceLang
