import ServiceLang.Proofs.Publishing.Latest
import ServiceLang.Proofs.Server.Run

namespace ServiceLang

/-!
# The desk of a server

As far as documents and diagnostics go, a server is a desk: its documents and its publisher, the
publications among its messages, and the analyses among its tasks. Every step of the server is a
run of its desk.

* `Server.desk`: the desk of a server;
* `Server.desk_step`: a step of the server as a run of its desk, of no step or of one, and of two
  when a document is closed;
* `Server.desk_of_run`: a whole run.
-/

/-- An outbox with the publications only. -/
def Outbox.publications (o : Outbox) : Outbox :=
  { o with queue := o.queue.filter (·.isPublication) }

/-- A publisher whose outbox holds the publications only. -/
def Publisher.publications (p : Publisher) : Publisher := { p with outbox := p.outbox.publications }

/-- The snapshot that a task analyzes. -/
def Task.snapshot? : Task → Option Snapshot
  | .answer _ _ => none
  | .refresh snapshot => some snapshot

/-- The desk of a server. -/
def Server.desk (s : Server) : Desk where
  documents := s.documents
  publisher := s.publisher.publications
  waiting := s.tasks.filterMap (·.snapshot?)

/-! ### Publications only -/

/-- Messages may be sent first and filtered then, or the other way round. -/
theorem Outbox.publications_post (o : Outbox) (messages : List Outgoing) :
    (o.post messages).publications = o.publications.post (messages.filter (·.isPublication)) := by
  cases ho : o.isOpen
  · rw [post_of_closed ho, post_of_closed (o := o.publications) ho]
  · rw [post_of_open ho, post_of_open (o := o.publications) ho, publications, List.filter_append]
    rfl

namespace Publisher

/-- Clearing a document needs the publications only. -/
theorem publications_clear (p : Publisher) (uri : String) (revision : Nat) :
    (p.clear uri revision).publications = p.publications.clear uri revision := by
  rw [clear_eq, clear_eq]
  by_cases h : p.lastRevision uri < revision
  · rw [if_pos h, if_pos (show p.publications.lastRevision uri < revision from h)]
    simp only [publications, Outbox.publications_post]
    rfl
  · rw [if_neg h, if_neg (show ¬ p.publications.lastRevision uri < revision from h)]
    rfl

/-- Analyzing a snapshot needs the publications only. -/
theorem publications_refresh (p : Publisher) (d : Documents) (s : Snapshot) :
    ((p.refresh d s).2).publications = (p.publications.refresh d s).2 := by
  rw [refresh_eq, refresh_eq]
  by_cases h : p.isCurrent d s.uri s.revision ∧ p.outbox.isOpen
  · rw [if_pos h, if_pos (show p.publications.isCurrent d s.uri s.revision ∧
      p.publications.outbox.isOpen from h)]
    simp only [publications, afterPublishing, withPublication, Outbox.publications_post]
    rfl
  · rw [if_neg h, if_neg (show ¬ (p.publications.isCurrent d s.uri s.revision ∧
      p.publications.outbox.isOpen) from h)]
    rfl

end Publisher

/-! ### Steps -/

namespace Server

variable {s s' : Server} {uri : String}

/-- A step aside does not touch the desk. -/
theorem Aside.desk_eq {messages : List Outgoing} {answers : List Task}
    (h : Aside s s' messages answers) : s'.desk = s.desk := by
  have hpublisher : s'.publisher.publications = s.publisher.publications := by
    have hnone : messages.filter (·.isPublication) = [] := by
      rw [List.filter_eq_nil_iff]
      intro x hx
      rw [h.not_publication x hx]
      exact Bool.false_ne_true
    rw [h.publisher, Publisher.publications,
      show (s.post messages).publisher.outbox = s.outbox.post messages from rfl,
      Outbox.publications_post, hnone, Outbox.post_nil]
    rfl
  have hwaiting : s'.tasks.filterMap (·.snapshot?) = s.tasks.filterMap (·.snapshot?) := by
    have hnone : answers.filterMap (·.snapshot?) = [] := by
      rw [List.filterMap_eq_nil_iff]
      intro task htask
      have hanswer := h.isAnswer task htask
      cases task with
      | answer id query => rfl
      | refresh snapshot => cases hanswer
    rw [h.tasks, List.filterMap_append, hnone, List.append_nil]
  rw [desk, desk, hpublisher, hwaiting, h.documents]

/-- A change that closes nothing is taken as the desk takes it. -/
theorem desk_take {change : Mutation} (h : ∀ uri, change ≠ .closed uri) :
    (s.take change).desk = s.desk.mutate change := by
  cases change with
  | opened uri text => simp [take, apply, desk, defer, Desk.mutate, Desk.store, Task.snapshot?]
  | changed uri text => simp [take, apply, desk, defer, Desk.mutate, Desk.store, Task.snapshot?]
  | closed uri => exact absurd rfl (h uri)
  | saved uri text =>
    rw [take, apply, Desk.mutate]
    rcases hsave : s.documents.save uri text with ⟨_ | snapshot, documents⟩ <;>
      simp [desk, defer, hsave, Task.snapshot?]

/-- A document is closed and cleared in one go. -/
theorem desk_take_closed (s : Server) (uri : String) :
    (s.take (.closed uri)).desk =
      (s.desk.close uri).clear uri (s.documents.close uri).1 := by
  simp only [take, apply, desk, Desk.close, Desk.clear, Publisher.publications_clear]

/-- A received message is a run of the desk, which takes the change of a document that the
    message makes. -/
theorem desk_received (s : Server) (m : Message) :
    ∃ moves, Run Desk.Step s.desk moves (s.handle m).1.desk ∧
      Desk.mutationCount moves = (if (s.accepted m).isSome then 1 else 0) ∧
      ∀ uri, s.accepted m = some (.closed uri) → Desk.Known moves uri := by
  cases h : s.accepted m with
  | none =>
    obtain ⟨messages, answers, haside⟩ := handle_of_not_accepted h
    rw [haside.desk_eq]
    exact ⟨[], .nil, rfl, fun _ h => by cases h⟩
  | some change =>
    rw [handle_of_accepted h]
    by_cases hclosed : ∃ uri, change = .closed uri
    · obtain ⟨uri, rfl⟩ := hclosed
      rw [desk_take_closed]
      -- the one message is two moves of the desk: the closure, and the clearing behind it
      have run := (Run.single (Desk.Step.mutation s.desk (.closed uri) rfl)).snoc
        (Desk.Step.cleared _ uri (s.documents.close uri).1 rfl)
      refine ⟨_, run, rfl, ?_⟩
      intro u hu
      rw [Option.some.injEq] at hu
      exact ⟨_, List.mem_cons_self, .inr (by rw [hu])⟩
    · rw [desk_take (fun uri hu => hclosed ⟨uri, hu⟩)]
      refine ⟨_, .single (.mutation s.desk change rfl), rfl, ?_⟩
      intro u hu
      exact absurd ⟨u, Option.some.inj hu⟩ hclosed

/-- A task that is done is a run of the desk. -/
theorem desk_performed {task : Task} {front back : List Task}
    (h : s.tasks = front ++ task :: back) :
    ∃ moves, Run Desk.Step s.desk moves ({ s with tasks := front ++ back }.perform task).desk ∧
      Desk.mutationCount moves = 0 := by
  have hwaiting : s.desk.waiting = front.filterMap (·.snapshot?) ++
      (task :: back).filterMap (·.snapshot?) := by
    rw [desk, h, List.filterMap_append]
  cases task with
  | answer id query =>
    have haside := aside_post { s with tasks := front ++ back } s.session
      (isPublication_reply id (.ok query.answer))
    have hdesk : ({ s with tasks := front ++ back }.perform (.answer id query)).desk = s.desk := by
      refine haside.desk_eq.trans ?_
      simp [desk, h, Task.snapshot?]
    rw [hdesk]
    exact ⟨[], .nil, rfl⟩
  | refresh snapshot =>
    rw [List.filterMap_cons_some (show (Task.refresh snapshot).snapshot? = some snapshot from rfl)]
      at hwaiting
    have hdesk : ({ s with tasks := front ++ back }.perform (.refresh snapshot)).desk =
        s.desk.refresh snapshot
          (front.filterMap (·.snapshot?) ++ back.filterMap (·.snapshot?)) := by
      simp only [perform, desk, Desk.refresh, Publisher.publications_refresh,
        List.filterMap_append]
    rw [hdesk]
    exact ⟨_, .single (.refreshed s.desk snapshot _ _ hwaiting), rfl⟩

/-- **One step.** A step of the server is a run of its desk, which takes the change of a document
    that the step makes. -/
theorem desk_step {e : Event} (h : Step s e s') :
    ∃ moves, Run Desk.Step s.desk moves s'.desk ∧
      Desk.mutationCount moves = (if (mutation? ⟨s, e, s'⟩).isSome then 1 else 0) ∧
      ∀ uri, mutation? ⟨s, e, s'⟩ = some (.closed uri) → Desk.Known moves uri := by
  cases h with
  | received m => exact desk_received s m
  | performed task front back h =>
    obtain ⟨moves, run, hcount⟩ := desk_performed h
    exact ⟨moves, run, hcount, fun _ h => by cases h⟩
  | hungUp => exact ⟨_, .single (.hungUp s.desk), rfl, fun _ h => by cases h⟩

/-! ### Whole runs -/

/-- A document that was open at some moment, or was closed. -/
def Known (trace : Trace) (uri : String) : Prop :=
  ∃ t ∈ trace, (t.after.documents.get? uri).isSome ∨ mutation? t = some (.closed uri)

/-- **A whole run.** A run of the server is a run of its desk, with as many changes and the same
    known documents. -/
theorem desk_of_run {analyzer : Analyzer} {trace : Trace}
    (run : Run Step (fresh analyzer) trace s) :
    ∃ moves, Run Desk.Step (Desk.fresh analyzer) moves s.desk ∧
      Desk.mutationCount moves = mutationCount trace ∧
      ∀ uri, Known trace uri → Desk.Known moves uri := by
  induction run with
  | nil => exact ⟨[], .nil, rfl, fun uri ⟨_, ht, _⟩ => by cases ht⟩
  | @snoc trace s s' e run h ih =>
    obtain ⟨moves, hmoves, hcount, hknown⟩ := ih
    obtain ⟨more, hmore, hone, hclosed⟩ := desk_step h
    refine ⟨moves ++ more, hmoves.trans hmore, ?_, ?_⟩
    · rw [Desk.mutationCount, List.countP_append, mutationCount, List.countP_append,
        List.countP_singleton]
      exact congrArg₂ _ hcount hone
    · rintro uri ⟨t, ht, hk⟩
      rcases List.mem_append.mp ht with ht | ht
      · obtain ⟨u, hu, hku⟩ := hknown uri ⟨t, ht, hk⟩
        exact ⟨u, List.mem_append_left _ hu, hku⟩
      · rw [List.mem_singleton] at ht
        subst ht
        rcases hk with hsome | hc
        · exact Desk.known_of_isSome (hmoves.trans hmore) hsome
        · obtain ⟨u, hu, hku⟩ := hclosed uri hc
          exact ⟨u, List.mem_append_right _ hu, hku⟩

end Server

end ServiceLang
