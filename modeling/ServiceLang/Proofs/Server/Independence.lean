import ServiceLang.Proofs.Server.Alike

namespace ServiceLang

/-!
# Documents do not influence each other

What happens to one document is the same with and without the messages about the others. The two
runs number their texts differently, since one counter serves all documents, so they are compared
up to revisions.

* `Agenda.Alike`: agendas that are alike for a document, the second one without the tasks of the
  others;
* `Agenda.Alike.occur`, `Agenda.Alike.occur_other`: what one occasion keeps;
* `Agenda.Alike.play`: what a whole schedule keeps;
* `Agenda.independent_of_run`: the run of a document among others and by itself.
-/

/-! ### Related lists -/

section Related

variable {α β : Type} {r : α → β → Prop} {p : α → Bool} {q : β → Bool} {xs : List α} {ys : List β}

theorem find?_of_forall₂ (h : List.Forall₂ r xs ys) (hpq : ∀ x y, r x y → p x = q y) :
    Option.Rel r (xs.find? p) (ys.find? q) := by
  induction h with
  | nil => exact .none
  | @cons x y xs ys hxy _ ih =>
    cases hx : p x with
    | true =>
      rw [List.find?_cons_of_pos hx, List.find?_cons_of_pos ((hpq x y hxy).symm.trans hx)]
      exact .some hxy
    | false =>
      have hy : q y = false := (hpq x y hxy).symm.trans hx
      rw [List.find?_cons_of_neg (by simp [hx]), List.find?_cons_of_neg (by simp [hy])]
      exact ih

theorem eraseP_of_forall₂ (h : List.Forall₂ r xs ys) (hpq : ∀ x y, r x y → p x = q y) :
    List.Forall₂ r (xs.eraseP p) (ys.eraseP q) := by
  induction h with
  | nil => exact .nil
  | @cons x y xs ys hxy hrest ih =>
    cases hx : p x with
    | true =>
      rw [List.eraseP_cons_of_pos hx, List.eraseP_cons_of_pos ((hpq x y hxy).symm.trans hx)]
      exact hrest
    | false =>
      have hy : q y = false := (hpq x y hxy).symm.trans hx
      rw [List.eraseP_cons_of_neg (by simp [hx]), List.eraseP_cons_of_neg (by simp [hy])]
      exact .cons hxy ih

end Related

namespace Agenda

open Server (Event Step Trace mutationCount)

variable {uri : String} {R R' : Nat → Nat → Prop} {a b : Agenda} {number : Nat} {m : Message}
  {ticket : Ticket}

/-! ### Tickets and revisions -/

/-- Each analysis that is waiting bears the ticket of a message about its document. -/
def Labelled (a : Agenda) : Prop :=
  ∀ entry ∈ a.pending, ∀ p, entry.2 = .refresh p → entry.1.document? = some p.uri

theorem Labelled.occur (h : a.Labelled) (o : Occasion) : (a.occur o).Labelled := by
  intro entry hentry p hp
  cases o with
  | arrives number m =>
    rcases List.mem_append.mp hentry with hold | hnew
    · exact h entry hold p hp
    · obtain ⟨task, htask, rfl⟩ := List.mem_map.mp hnew
      obtain rfl : task = .refresh p := hp
      exact Server.document?_of_refresh_mem htask a.idle
  | done ticket =>
    cases hfind : a.pending.find? (·.1 == ticket) with
    | none =>
      rw [(occur_done_of_none hfind).2] at hentry
      exact h entry hentry p hp
    | some done =>
      simp only [Agenda.occur, hfind] at hentry
      exact h entry (List.eraseP_subset hentry) p hp

/-- An arrival is a change if the server accepts its message as one. -/
theorem mutationCount_arrives (a : Agenda) (number : Nat) (m : Message) :
    mutationCount (a.steps (.arrives number m)) = if (a.server.accepted m).isSome then 1 else 0 := by
  have haccepted : a.whole.accepted m = a.server.accepted m := by cases m <;> rfl
  simp [steps, event?, mutationCount, Server.mutation?, haccepted]

/-- An occasion takes as many revisions as it changes documents, at most. -/
theorem nextRevision_occur_le (a : Agenda) (o : Occasion) :
    (a.occur o).server.documents.nextRevision ≤
      a.server.documents.nextRevision + mutationCount (a.steps o) := by
  cases o with
  | arrives number m =>
    rw [mutationCount_arrives]
    exact a.server.nextRevision_handle_le m
  | done ticket =>
    have hsame : (a.occur (.done ticket)).server.documents = a.server.documents := by
      cases hfind : a.pending.find? (·.1 == ticket) with
      | none => rw [(occur_done_of_none hfind).2]
      | some entry =>
        simp only [occur, hfind]
        cases entry.2 <;> rfl
    rw [hsame]
    exact Nat.le_add_right _ _

/-! ### Agendas that are alike -/

/-- Tasks that are alike, under one ticket. -/
structure Paired (uri : String) (R : Nat → Nat → Prop) (entry other : Ticket × Task) : Prop where
  ticket : entry.1 = other.1
  task : entry.2.Alike uri R other.2

/-- The tasks that matter to the document. -/
def kept (uri : String) (pending : List (Ticket × Task)) : List (Ticket × Task) :=
  pending.filter fun entry => concerns uri entry.1.document?

/-- A ticket that matters to the document is found among the tasks that do. -/
theorem find?_kept (hticket : concerns uri ticket.document? = true)
    (pending : List (Ticket × Task)) :
    (kept uri pending).find? (·.1 == ticket) = pending.find? (·.1 == ticket) := by
  rw [kept, List.find?_filter]
  congr 1
  funext entry
  rw [Bool.eq_iff_iff]
  simp only [decide_eq_true_iff, beq_iff_eq]
  refine ⟨And.right, fun h => ⟨?_, h⟩⟩
  rw [h, hticket]

theorem eraseP_kept (hticket : concerns uri ticket.document? = true)
    (pending : List (Ticket × Task)) :
    (kept uri pending).eraseP (·.1 == ticket) = kept uri (pending.eraseP (·.1 == ticket)) := by
  rw [kept, List.eraseP_filter, kept]
  congr 2
  funext entry
  rw [Bool.eq_iff_iff]
  simp only [Bool.and_eq_true, beq_iff_eq]
  refine ⟨And.left, fun h => ⟨h, ?_⟩⟩
  rw [h, hticket]

/-- Two agendas that are alike for a document: their servers are, they have published the same for
    it, and the second one has the tasks of the first that matter to the document. -/
structure Alike (uri : String) (R : Nat → Nat → Prop) (a b : Agenda) : Prop where
  server : a.server.Alike uri R b.server
  pending : List.Forall₂ (Paired uri R) (kept uri a.pending) b.pending
  publications : a.server.outbox.queue.filter (·.publishes uri) =
    b.server.outbox.queue.filter (·.publishes uri)

namespace Alike

theorem fresh (uri : String) (analyzer : Analyzer) :
    Alike uri (fun a b => a = 0 ∧ b = 0) (Agenda.fresh analyzer) (Agenda.fresh analyzer) :=
  ⟨.fresh uri analyzer, .nil, rfl⟩

/-- A message that matters to the document arrives at both. -/
theorem arrives (h : a.Alike uri R b) (hm : concerns uri m.document? = true)
    (hnext : (a.server.accepted m).isSome →
      a.server.documents.nextRevision + 1 < revisionCount) :
    a.account (.arrives number m) = b.account (.arrives number m) ∧
      ∃ R', (a.occur (.arrives number m)).Alike uri R' (b.occur (.arrives number m)) := by
  obtain ⟨R', hR, hboth⟩ := h.server.handle hm hnext
  obtain ⟨messages, hqueue, hqueue'⟩ := hboth.sends
  obtain ⟨tasks, others, htasks, hothers, halike⟩ := hboth.defers
  rw [a.idle, List.nil_append] at htasks
  rw [b.idle, List.nil_append] at hothers
  refine ⟨?_, R', hboth.alike.withTasks [] [], ?_, ?_⟩
  · show Account.mk _ _ ((a.server.handle m).1.outbox.queue.drop _) =
      Account.mk _ _ ((b.server.handle m).1.outbox.queue.drop _)
    rw [hqueue, hqueue', List.drop_left, List.drop_left]
    rfl
  · show List.Forall₂ _ (kept uri (a.pending ++ (a.server.handle m).1.tasks.map _))
      (b.pending ++ (b.server.handle m).1.tasks.map _)
    -- All new tasks have the ticket of the message, which matters to the document.
    have hnew : ∀ tasks : List Task, kept uri (tasks.map fun task => (⟨number, m.document?⟩, task)) =
        tasks.map fun task => (⟨number, m.document?⟩, task) := by
      intro tasks
      refine List.filter_eq_self.mpr fun entry hentry => ?_
      obtain ⟨task, -, rfl⟩ := List.mem_map.mp hentry
      exact hm
    rw [htasks, hothers, kept, List.filter_append]
    refine List.rel_append (h.pending.imp fun x y hxy => ⟨hxy.ticket, hxy.task.mono hR⟩) ?_
    show List.Forall₂ _ (kept uri _) _
    rw [hnew, List.forall₂_map_left_iff, List.forall₂_map_right_iff]
    exact halike.imp fun task other htask => ⟨rfl, htask⟩
  · show List.filter _ (a.server.handle m).1.outbox.queue =
      List.filter _ (b.server.handle m).1.outbox.queue
    rw [hqueue, hqueue', List.filter_append, List.filter_append, h.publications]

/-- The task of a ticket that matters to the document is done in both, or left in none. -/
theorem done (h : a.Alike uri R b) (hticket : concerns uri ticket.document? = true) :
    a.account (.done ticket) = b.account (.done ticket) ∧
      (a.occur (.done ticket)).Alike uri R (b.occur (.done ticket)) := by
  have hsame : ∀ x y : Ticket × Task, Paired uri R x y → (x.1 == ticket) = (y.1 == ticket) :=
    fun x y hxy => by rw [hxy.ticket]
  -- the ticket is looked up in related lists, so it is found in both or in none
  have hfound := find?_of_forall₂ h.pending hsame
  have hrest := eraseP_of_forall₂ h.pending hsame
  rw [find?_kept hticket] at hfound
  rw [eraseP_kept hticket] at hrest
  cases ha : a.pending.find? (·.1 == ticket) with
  | none =>
    have hb : b.pending.find? (·.1 == ticket) = none := by
      rw [ha] at hfound
      generalize b.pending.find? (·.1 == ticket) = found at hfound
      cases hfound
      rfl
    obtain ⟨hevent, hoccur⟩ := occur_done_of_none ha
    obtain ⟨hevent', hoccur'⟩ := occur_done_of_none hb
    refine ⟨?_, ?_⟩
    · rw [account, account, hevent, hevent', hoccur, hoccur', List.drop_length, List.drop_length]
    · rw [hoccur, hoccur']
      exact h
  | some entry =>
    obtain ⟨other, hb, hpaired⟩ : ∃ other, b.pending.find? (·.1 == ticket) = some other ∧
        Paired uri R entry other := by
      rw [ha] at hfound
      generalize b.pending.find? (·.1 == ticket) = found at hfound
      cases hfound with
      | some hpaired => exact ⟨_, rfl, hpaired⟩
    have hboth := h.server.perform hpaired.task
    obtain ⟨messages, hqueue, hqueue'⟩ := hboth.sends
    refine ⟨?_, ?_, ?_, ?_⟩
    · simp only [account, event?, Agenda.occur, ha, hb, hqueue, hqueue', List.drop_left,
        Option.map_some, Event.unrevised, hpaired.task.unrevised]
    · simp only [Agenda.occur, ha, hb]
      exact hboth.alike
    · simp only [Agenda.occur, ha, hb]
      exact hrest
    · simp only [Agenda.occur, ha, hb]
      rw [hqueue, hqueue', List.filter_append, List.filter_append, h.publications]

/-- **One occasion that matters to the document.** The same happens in both agendas, and they are
    alike afterwards. -/
theorem occur (h : a.Alike uri R b) {o : Occasion} (ho : o.concerns uri = true)
    (hnext : a.server.documents.nextRevision + mutationCount (a.steps o) < revisionCount) :
    a.account o = b.account o ∧ ∃ R', (a.occur o).Alike uri R' (b.occur o) := by
  cases o with
  | arrives number m =>
    refine h.arrives ho fun haccepted => ?_
    rw [mutationCount_arrives, if_pos haccepted] at hnext
    exact hnext
  | done ticket =>
    obtain ⟨haccount, halike⟩ := h.done ho
    exact ⟨haccount, R, halike⟩

/-- What the first agenda does apart from the document does not count. -/
theorem of_apart (h : a.Alike uri R b) {a' : Agenda}
    (hapart : Server.Apart uri a.server a'.server)
    (hpending : kept uri a'.pending = kept uri a.pending) : a'.Alike uri R b := by
  obtain ⟨messages, hqueue, hmessages⟩ := hapart.sends
  refine ⟨h.server.of_apart hapart, hpending ▸ h.pending, ?_⟩
  have hnone : messages.filter (·.publishes uri) = [] :=
    List.filter_eq_nil_iff.mpr fun x hx => by simp [hmessages x hx]
  rw [hqueue, List.filter_append, hnone, List.append_nil, h.publications]

/-- **One occasion about another document** leaves the agendas alike. -/
theorem occur_other (h : a.Alike uri R b) (hlabelled : a.Labelled) {o : Occasion}
    (ho : o.concerns uri = false)
    (hnext : a.server.documents.nextRevision + mutationCount (a.steps o) < revisionCount) :
    (a.occur o).Alike uri R b := by
  cases o with
  | arrives number m =>
    have hapart : Server.Apart uri a.server (a.server.handle m).1 := by
      refine Server.apart_handle ho h.server.isOpen_left fun haccepted => ?_
      rw [mutationCount_arrives, if_pos haccepted] at hnext
      exact hnext
    refine h.of_apart ⟨hapart.nextRevision_le, hapart.session, hapart.analyzer, hapart.isOpen,
      hapart.stored, hapart.published, hapart.sends⟩ ?_
    -- the task of the message bears its ticket
    have hnew : kept uri ((a.server.handle m).1.tasks.map
        fun task => (⟨number, m.document?⟩, task)) = [] := by
      refine List.filter_eq_nil_iff.mpr fun entry hentry => ?_
      obtain ⟨task, -, rfl⟩ := List.mem_map.mp hentry
      exact Bool.not_eq_true _ |>.mpr ho
    show kept uri (a.pending ++ _) = _
    rw [kept, List.filter_append]
    exact (congrArg (kept uri a.pending ++ ·) hnew).trans (List.append_nil _)
  | done ticket =>
    cases hfind : a.pending.find? (·.1 == ticket) with
    | none =>
      rw [(occur_done_of_none hfind).2]
      exact h
    | some entry =>
      obtain ⟨rfl, front, back, hpending, hfront⟩ := find?_ticket_iff.mp hfind
      obtain ⟨-, hserver, hrest⟩ := occur_done hpending hfront
      have hdropped : concerns uri entry.1.document? = false := ho
      refine h.of_apart ?_ ?_
      · rw [hserver]
        -- an analysis of the document itself would bear another ticket
        refine Server.apart_perform (fun p hp huri => ?_) h.server.isOpen_left
        have hdocument := hlabelled entry (by rw [hpending]; simp) p hp
        simp [hdocument, huri, concerns] at hdropped
      · rw [hrest, hpending, kept, kept, List.filter_append, List.filter_append,
          List.filter_cons_of_neg (by simp [hdropped])]

/-- **A whole schedule.** What happens on the occasions that matter to the document is what happens
    when they are the only ones. -/
theorem play (h : a.Alike uri R b) (hlabelled : a.Labelled) (schedule : List Occasion)
    (hnext : a.server.documents.nextRevision + mutationCount (a.trace schedule) < revisionCount) :
    (a.transcript schedule).filter (·.occasion.concerns uri) =
        b.transcript (schedule.filter (·.concerns uri)) ∧
      ∃ R', (a.play schedule).Alike uri R' (b.play (schedule.filter (·.concerns uri))) := by
  induction schedule generalizing a b R with
  | nil => exact ⟨rfl, R, h⟩
  | cons o schedule ih =>
    have hcount : mutationCount (a.trace (o :: schedule)) =
        mutationCount (a.steps o) + mutationCount ((a.occur o).trace schedule) :=
      List.countP_append
    -- the revisions of the longer run last, and the shorter one never needs more
    have hstep : a.server.documents.nextRevision + mutationCount (a.steps o) < revisionCount := by
      omega
    have hle := a.nextRevision_occur_le o
    have hrest : (a.occur o).server.documents.nextRevision +
        mutationCount ((a.occur o).trace schedule) < revisionCount := by
      omega
    cases ho : o.concerns uri with
    | true =>
      obtain ⟨haccount, R', halike⟩ := h.occur ho hstep
      obtain ⟨htranscript, hplay⟩ := ih halike (hlabelled.occur o) hrest
      rw [List.filter_cons_of_pos ho]
      refine ⟨?_, hplay⟩
      rw [transcript, transcript, ← htranscript, ← haccount]
      exact List.filter_cons_of_pos ho
    | false =>
      have halike := h.occur_other hlabelled ho hstep
      obtain ⟨htranscript, hplay⟩ := ih halike (hlabelled.occur o) hrest
      have hnot : ¬ o.concerns uri = true := by simp [ho]
      rw [List.filter_cons_of_neg hnot]
      refine ⟨?_, hplay⟩
      rw [transcript, ← htranscript]
      exact List.filter_cons_of_neg hnot

end Alike

/-! ### Independence -/

/-- **Documents are independent.** Every run of the server, as long as the client does not hang up
    and the revisions last, follows a schedule. Take any schedule that it follows, and any document,
    and leave out all messages about other documents together with their tasks. The server that
    follows what is left does the same on every occasion that is left, up to revisions: the same
    event, and the same messages sent, replies included. In both runs the same diagnostics are
    published for the document, in the same order. -/
theorem independent_of_run {analyzer : Analyzer} {trace : Trace} {s : Server}
    (run : Run Step (Server.fresh analyzer) trace s) (hopen : s.outbox.isOpen = true)
    (hn : mutationCount trace < revisionCount - 1) :
    (∃ schedule, (fresh analyzer).trace schedule = trace) ∧
      ∀ schedule, (fresh analyzer).trace schedule = trace → ∀ uri, ∃ alone,
        Run Step (Server.fresh analyzer)
          ((fresh analyzer).trace (schedule.filter (·.concerns uri))) alone ∧
        ((fresh analyzer).transcript schedule).filter (·.occasion.concerns uri) =
          (fresh analyzer).transcript (schedule.filter (·.concerns uri)) ∧
        s.outbox.queue.filter (·.publishes uri) = alone.outbox.queue.filter (·.publishes uri) := by
  refine ⟨exists_schedule run hopen, ?_⟩
  rintro schedule rfl uri
  have hnext : (fresh analyzer).server.documents.nextRevision +
      mutationCount ((fresh analyzer).trace schedule) < revisionCount := by
    have hone : (fresh analyzer).server.documents.nextRevision = 1 := rfl
    omega
  have hlabelled : (fresh analyzer).Labelled := by
    intro entry hentry
    cases hentry
  obtain ⟨htranscript, R, halike⟩ := (Alike.fresh uri analyzer).play hlabelled schedule hnext
  obtain rfl := run.unique (run_trace (fresh analyzer) schedule)
  exact ⟨_, run_trace (fresh analyzer) _, htranscript, halike.publications⟩

/-- A document is opened behind another one and saved when that one is closed again. The older of its
    two analyses is done last. -/
def interleaved : List Occasion :=
  [.arrives 0 (.request (.int 1) "initialize" .null),
    .arrives 1 (.notification "textDocument/didOpen" (OpenParams.toJson ⟨⟨"v", "", 0, "y"⟩⟩)),
    .arrives 2 (.notification "textDocument/didOpen" (OpenParams.toJson ⟨⟨"u", "", 0, "x"⟩⟩)),
    .arrives 3 (.request (.int 2) "textDocument/documentSymbol" (SymbolParams.toJson ⟨⟨"u"⟩⟩)),
    .arrives 4 (.notification "textDocument/didClose" (CloseParams.toJson ⟨⟨"v"⟩⟩)),
    .arrives 5 (.notification "textDocument/didSave" (SaveParams.toJson ⟨⟨"u"⟩, none⟩)),
    .done ⟨5, some "u"⟩, .done ⟨1, some "v"⟩, .done ⟨3, some "u"⟩, .done ⟨2, some "u"⟩]

/-- By itself the document `u` gets the revisions 1 and 2 instead of 2 and 4. Its diagnostics are
    published once either way. -/
theorem independent_of_run_renumbered :
    ∃ s alone,
      Run Step (Server.fresh (.standard "webdsl" 200))
        ((fresh (.standard "webdsl" 200)).trace interleaved) s ∧
      Run Step (Server.fresh (.standard "webdsl" 200))
        ((fresh (.standard "webdsl" 200)).trace (interleaved.filter (·.concerns "u"))) alone ∧
      s.documents.get? "u" = some ⟨"u", "x", 4⟩ ∧ alone.documents.get? "u" = some ⟨"u", "x", 2⟩ ∧
      ((fresh (.standard "webdsl" 200)).transcript interleaved).filter (·.occasion.concerns "u") =
        (fresh (.standard "webdsl" 200)).transcript (interleaved.filter (·.concerns "u")) ∧
      s.outbox.queue.filter (·.publishes "u") = alone.outbox.queue.filter (·.publishes "u") ∧
      (s.outbox.queue.filter (·.publishes "u")).length = 1 := by
  have run := run_trace (fresh (.standard "webdsl" 200)) interleaved
  obtain ⟨alone, hrun, htranscript, hpublications⟩ :=
    (independent_of_run run (by decide +kernel) (by decide +kernel)).2 interleaved rfl "u"
  obtain rfl := hrun.unique (run_trace (fresh (.standard "webdsl" 200)) _)
  exact ⟨_, _, run, hrun, by decide +kernel, by decide +kernel, htranscript, hpublications,
    by decide +kernel⟩

end Agenda

end ServiceLang
