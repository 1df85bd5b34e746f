import ServiceLang.Proofs.Server.Replies
import ServiceLang.Proofs.Server.Sent

namespace ServiceLang

/-!
# Schedules

A run of the server tells which task is done by the task itself, and so by revisions. A schedule
tells it by the message that deferred the task, so that the same schedule can be followed with some
of the messages left out.

* `Message.document?`: the document that a message is about;
* `Server.Event.unrevised`: an event without the revisions in it;
* `Occasion`: a message arrives, or the task of an earlier message is done;
* `Agenda`: a server whose tasks bear the tickets of their messages;
* `Agenda.play`, `Agenda.trace`, `Agenda.transcript`: following a schedule, with the run that this is
  and with what happens on each occasion;
* `Agenda.run_trace`, `Agenda.exists_schedule`: the runs of the server are those that follow
  schedules.
-/

/-! ### Documents of messages -/

/-- The document that a query is about. -/
def QueryMethod.document? (method : QueryMethod) (params : Json) : Option String :=
  match method with
  | .hover => (PositionParams.decode params).toOption.map (·.document.uri)
  | .completion => (PositionParams.decode params).toOption.map (·.document.uri)
  | .documentSymbol => (SymbolParams.decode params).toOption.map (·.document.uri)

/-- The document that a message is about, if it is a change or a query that can be read. -/
def Message.document? : Message → Option String
  | .request _ name params =>
    match RequestMethod.ofName name with
    | .query method => method.document? params
    | _ => none
  | .notification name params =>
    match NotificationMethod.ofName name with
    | .mutation method => (Mutation.read method params).toOption.map (·.uri)
    | _ => none
  | .response _ _ _ => none

/-- Whether something about a document, or about none, matters to the document `uri`. -/
def concerns (uri : String) : (document? : Option String) → Bool
  | some other => other == uri
  | none => true

/-! ### Events without revisions -/

/-- The snapshot without its revision. -/
def Snapshot.unrevised (p : Snapshot) : Snapshot := { p with revision := 0 }

/-- The query without the revision of its snapshot. -/
def Query.unrevised : Query → Query
  | .hover snapshot position => .hover (snapshot.map Snapshot.unrevised) position
  | .completion => .completion
  | .symbols snapshot => .symbols (snapshot.map Snapshot.unrevised)

/-- The task without the revision of its snapshot. -/
def Task.unrevised : Task → Task
  | .answer id query => .answer id query.unrevised
  | .refresh snapshot => .refresh snapshot.unrevised

/-- The event without the revision in it. -/
def Server.Event.unrevised : Server.Event → Server.Event
  | .received m => .received m
  | .performed task => .performed task.unrevised
  | .hungUp => .hungUp

/-- Answers do not depend on revisions. -/
theorem Query.answer_unrevised (q : Query) : q.unrevised.answer = q.answer := by
  cases q with
  | hover snapshot position => cases snapshot <;> rfl
  | completion => rfl
  | symbols snapshot => cases snapshot <;> rfl

/-! ### Occasions -/

/-- The name of an arrival: its number and the document of its message. -/
structure Ticket where
  number : Nat
  document? : Option String
  deriving DecidableEq, Repr

/-- What a schedule consists of: a message arrives under a number, or the task that an earlier
    message has deferred is done. -/
inductive Occasion where
  | arrives (number : Nat) (m : Message)
  | done (ticket : Ticket)

namespace Occasion

/-- The document that an occasion is about. -/
def document? : Occasion → Option String
  | .arrives _ m => m.document?
  | .done ticket => ticket.document?

/-- Whether an occasion is about the document, or about none. -/
def concerns (uri : String) (o : Occasion) : Bool := ServiceLang.concerns uri o.document?

end Occasion

/-- What happened on an occasion: the event that it was to the server, up to revisions, and the
    messages that were sent. -/
structure Account where
  occasion : Occasion
  event? : Option Server.Event
  sent : List Outgoing

/-- A server whose deferred tasks are kept apart, each under the ticket of its message. -/
structure Agenda where
  server : Server
  pending : List (Ticket × Task)
  idle : server.tasks = []

namespace Agenda

open Server (Event Step Trace)

/-- The agenda before the first message. -/
def fresh (analyzer : Analyzer) : Agenda := ⟨.fresh analyzer, [], rfl⟩

/-- The server with its deferred tasks. -/
def whole (a : Agenda) : Server := { a.server with tasks := a.pending.map Prod.snd }

/-- Takes an occasion. Nothing is done when no task is left for a ticket. -/
def occur (a : Agenda) : Occasion → Agenda
  | .arrives number m =>
    { server := { (a.server.handle m).1 with tasks := [] }
      pending := a.pending ++ (a.server.handle m).1.tasks.map fun task => (⟨number, m.document?⟩, task)
      idle := rfl }
  | .done ticket =>
    match a.pending.find? (·.1 == ticket) with
    | some entry =>
      { server := a.server.perform entry.2
        pending := a.pending.eraseP (·.1 == ticket)
        idle := (a.server.tasks_perform entry.2).trans a.idle }
    | none => a

/-- What an occasion is to the server. -/
def event? (a : Agenda) : Occasion → Option Event
  | .arrives _ m => some (.received m)
  | .done ticket => (a.pending.find? (·.1 == ticket)).map fun entry => .performed entry.2

/-- The step of the server that an occasion is, or none. -/
def steps (a : Agenda) (o : Occasion) : Trace :=
  (a.event? o).toList.map fun e => ⟨a.whole, e, (a.occur o).whole⟩

/-- What happens on an occasion. -/
def account (a : Agenda) (o : Occasion) : Account where
  occasion := o
  event? := (a.event? o).map Event.unrevised
  sent := (a.occur o).server.outbox.queue.drop a.server.outbox.queue.length

/-- Follows a schedule. -/
def play (a : Agenda) (schedule : List Occasion) : Agenda := schedule.foldl occur a

/-- The run that following a schedule is. -/
def trace : Agenda → List Occasion → Trace
  | _, [] => []
  | a, o :: schedule => a.steps o ++ (a.occur o).trace schedule

/-- What happens on the occasions of a schedule. -/
def transcript : Agenda → List Occasion → List Account
  | _, [] => []
  | a, o :: schedule => a.account o :: (a.occur o).transcript schedule

/-! ### Schedules are runs -/

variable {a : Agenda} {ticket : Ticket} {entry : Ticket × Task}

/-- An arrival is the arrival of its message at the server with all its tasks. -/
theorem whole_arrives (a : Agenda) (number : Nat) (m : Message) :
    (a.occur (.arrives number m)).whole = (a.whole.handle m).1 := by
  obtain ⟨messages, task?, hemits⟩ := a.server.exists_emits_handle m
  have htasks : (a.server.handle m).1.tasks = task?.toList := by
    rw [hemits.tasks_eq, a.idle, List.nil_append]
  have hwhole : (a.whole.handle m).1 = (a.server.handle m).1.loaded
      (a.server.outbox.queue ++ messages) (a.pending.map Prod.snd ++ task?.toList) :=
    hemits.apply_loaded _ _
  have hpending : (a.occur (.arrives number m)).pending.map Prod.snd =
      a.pending.map Prod.snd ++ (a.server.handle m).1.tasks := by
    simp [occur, Function.comp_def]
  rw [hwhole, ← hemits.queue_eq, ← htasks, ← hpending]
  rfl

/-- The task of a ticket is the first one that bears it. -/
theorem find?_ticket_iff :
    a.pending.find? (·.1 == ticket) = some entry ↔ entry.1 = ticket ∧ ∃ front back,
      a.pending = front ++ entry :: back ∧ ∀ other ∈ front, other.1 ≠ ticket := by
  simp [List.find?_eq_some_iff_append]

/-- Doing the task of a ticket takes it from the pending ones. -/
theorem occur_done {front back : List (Ticket × Task)} (h : a.pending = front ++ entry :: back)
    (hfront : ∀ other ∈ front, other.1 ≠ entry.1) :
    a.event? (.done entry.1) = some (.performed entry.2) ∧
      (a.occur (.done entry.1)).server = a.server.perform entry.2 ∧
      (a.occur (.done entry.1)).pending = front ++ back := by
  have hfind : a.pending.find? (·.1 == entry.1) = some entry :=
    find?_ticket_iff.mpr ⟨rfl, front, back, h, hfront⟩
  have herase : a.pending.eraseP (·.1 == entry.1) = front ++ back := by
    rw [h, List.eraseP_append_right _ (fun b hb => by simpa using hfront b hb),
      List.eraseP_cons_of_pos (by simp)]
  refine ⟨?_, ?_, ?_⟩
  · rw [event?, hfind]
    rfl
  · simp only [occur, hfind]
  · simp only [occur, hfind, herase]

theorem whole_done {front back : List (Ticket × Task)} (h : a.pending = front ++ entry :: back)
    (hfront : ∀ other ∈ front, other.1 ≠ entry.1) :
    (a.occur (.done entry.1)).whole =
      { a.whole with tasks := front.map Prod.snd ++ back.map Prod.snd }.perform entry.2 := by
  obtain ⟨-, hserver, hpending⟩ := occur_done h hfront
  have hperform : { a.whole with tasks := front.map Prod.snd ++ back.map Prod.snd }.perform entry.2 =
      { a.server.perform entry.2 with tasks := front.map Prod.snd ++ back.map Prod.snd } :=
    a.server.perform_with_tasks entry.2 _
  rw [hperform, whole, hserver, hpending, List.map_append]

/-- Nothing is done when no task is left for the ticket. -/
theorem occur_done_of_none (h : a.pending.find? (·.1 == ticket) = none) :
    a.event? (.done ticket) = none ∧ a.occur (.done ticket) = a := by
  refine ⟨?_, ?_⟩
  · rw [event?, h]
    rfl
  · simp only [occur, h]

/-- **One occasion** is one step of the server, or none. -/
theorem run_occur (a : Agenda) (o : Occasion) :
    Run Step a.whole (a.steps o) (a.occur o).whole := by
  cases o with
  | arrives number m =>
    refine Run.single ?_
    rw [whole_arrives]
    exact .received a.whole m
  | done ticket =>
    cases hfind : a.pending.find? (·.1 == ticket) with
    | none =>
      obtain ⟨hevent, hoccur⟩ := occur_done_of_none hfind
      rw [steps, hevent, hoccur]
      exact .nil
    | some entry =>
      obtain ⟨rfl, front, back, hpending, hfront⟩ := find?_ticket_iff.mp hfind
      have htasks : a.whole.tasks = front.map Prod.snd ++ entry.2 :: back.map Prod.snd := by
        simp [whole, hpending]
      rw [steps, (occur_done hpending hfront).1, whole_done hpending hfront]
      exact Run.single (.performed a.whole entry.2 _ _ htasks)

/-- **Following a schedule** is a run of the server. -/
theorem run_trace (a : Agenda) (schedule : List Occasion) :
    Run Step a.whole (a.trace schedule) (a.play schedule).whole := by
  induction schedule generalizing a with
  | nil => exact .nil
  | cons o schedule ih => exact (a.run_occur o).trans (ih (a.occur o))

theorem play_append (a : Agenda) (front back : List Occasion) :
    a.play (front ++ back) = (a.play front).play back :=
  List.foldl_append

theorem trace_append (a : Agenda) (front back : List Occasion) :
    a.trace (front ++ back) = a.trace front ++ (a.play front).trace back := by
  induction front generalizing a with
  | nil => rfl
  | cons o front ih =>
    rw [List.cons_append, trace, ih, trace, List.append_assoc]
    rfl

/-! ### Runs are schedules -/

/-- No two tasks bear one ticket, and all numbers are below a bound. -/
structure Numbered (a : Agenda) (bound : Nat) : Prop where
  nodup : (a.pending.map Prod.fst).Nodup
  lt_bound : ∀ entry ∈ a.pending, entry.1.number < bound

/-- An arrival under a new number gives one new ticket at most. -/
theorem Numbered.arrives {bound : Nat} (h : a.Numbered bound) (m : Message) :
    (a.occur (.arrives bound m)).Numbered (bound + 1) := by
  obtain ⟨messages, task?, hemits⟩ := a.server.exists_emits_handle m
  have htasks : (a.server.handle m).1.tasks = task?.toList := by
    rw [hemits.tasks_eq, a.idle, List.nil_append]
  have hpending : (a.occur (.arrives bound m)).pending =
      a.pending ++ task?.toList.map fun task => (⟨bound, m.document?⟩, task) := by
    rw [← htasks]
    rfl
  cases task? with
  | none =>
    rw [Option.toList_none, List.map_nil, List.append_nil] at hpending
    refine ⟨hpending ▸ h.nodup, fun entry hentry => ?_⟩
    rw [hpending] at hentry
    exact Nat.lt_succ_of_lt (h.lt_bound entry hentry)
  | some task =>
    rw [Option.toList_some, List.map_singleton] at hpending
    refine ⟨?_, ?_⟩
    · rw [hpending, List.map_append, List.map_singleton, List.nodup_append]
      refine ⟨h.nodup, by simp, ?_⟩
      rintro used hused new hnew rfl
      -- a ticket in use has a smaller number
      obtain ⟨entry, hentry, rfl⟩ := List.mem_map.mp hused
      have hlt := h.lt_bound entry hentry
      rw [List.mem_singleton.mp hnew] at hlt
      exact absurd hlt (Nat.lt_irrefl bound)
    · intro entry hentry
      rw [hpending] at hentry
      obtain hentry | hentry := List.mem_append.mp hentry
      · exact Nat.lt_succ_of_lt (h.lt_bound entry hentry)
      · rw [List.mem_singleton.mp hentry]
        exact Nat.lt_succ_self bound

theorem Numbered.done {bound : Nat} {front back : List (Ticket × Task)} (h : a.Numbered bound)
    (hpending : a.pending = front ++ entry :: back)
    (hfront : ∀ other ∈ front, other.1 ≠ entry.1) : (a.occur (.done entry.1)).Numbered bound := by
  have hsublist : (front ++ back).Sublist a.pending :=
    hpending ▸ (List.sublist_cons_self entry back).append_left front
  obtain ⟨-, -, herased⟩ := occur_done hpending hfront
  refine ⟨?_, fun other hother => ?_⟩
  · rw [herased]
    exact (hsublist.map Prod.fst).nodup h.nodup
  · rw [herased] at hother
    exact h.lt_bound other (hsublist.subset hother)

/-- A schedule that a run follows, with numbers below the bound. -/
structure Leads (analyzer : Analyzer) (schedule : List Occasion) (bound : Nat) (trace : Trace)
    (s : Server) : Prop where
  trace_eq : (fresh analyzer).trace schedule = trace
  whole_eq : ((fresh analyzer).play schedule).whole = s
  numbered : ((fresh analyzer).play schedule).Numbered bound

/-- One more occasion is one more step of the run. -/
theorem Leads.concat {analyzer : Analyzer} {schedule : List Occasion} {bound bound' : Nat}
    {trace : Trace} {s s' : Server} {o : Occasion} {e : Event}
    (h : Leads analyzer schedule bound trace s)
    (hevent : ((fresh analyzer).play schedule).event? o = some e)
    (hafter : (((fresh analyzer).play schedule).occur o).whole = s')
    (hbound : (((fresh analyzer).play schedule).occur o).Numbered bound') :
    Leads analyzer (schedule ++ [o]) bound' (trace ++ [⟨s, e, s'⟩]) s' := by
  refine ⟨?_, ?_, ?_⟩
  · rw [trace_append, h.trace_eq, Agenda.trace, steps, hevent, hafter, h.whole_eq]
    rfl
  · rw [play_append]
    exact hafter
  · rw [play_append]
    exact hbound

/-- A task that is done bears a ticket, which no task before it bears. -/
theorem Numbered.exists_entry {bound : Nat} {task : Task} {front back : List Task}
    (h : a.Numbered bound) (htasks : a.whole.tasks = front ++ task :: back) :
    ∃ entry before after, entry.2 = task ∧ before.map Prod.snd = front ∧
      after.map Prod.snd = back ∧ a.pending = before ++ entry :: after ∧
      ∀ other ∈ before, other.1 ≠ entry.1 := by
  have hpending : a.pending.map Prod.snd = front ++ task :: back := htasks
  obtain ⟨before, rest, hsplit, hbefore, hrest⟩ := List.map_eq_append_iff.mp hpending
  obtain ⟨entry, after, rfl, hentry, hafter⟩ := List.map_eq_cons_iff.mp hrest
  refine ⟨entry, before, after, hentry, hbefore, hafter, hsplit, fun other hother heq => ?_⟩
  have hnodup := h.nodup
  rw [hsplit, List.map_append, List.map_cons, List.nodup_append] at hnodup
  exact hnodup.2.2 _ (List.mem_map_of_mem hother) _ List.mem_cons_self heq

/-- **Every run follows a schedule**, as long as the client does not hang up. -/
theorem exists_schedule {analyzer : Analyzer} {trace : Trace} {s : Server}
    (run : Run Step (Server.fresh analyzer) trace s) (hopen : s.outbox.isOpen = true) :
    ∃ schedule, (fresh analyzer).trace schedule = trace := by
  suffices h : ∃ schedule bound, Leads analyzer schedule bound trace s by
    obtain ⟨schedule, bound, hleads⟩ := h
    exact ⟨schedule, hleads.trace_eq⟩
  induction run with
  | nil => exact ⟨[], 0, rfl, rfl, List.nodup_nil, by simp [play, fresh]⟩
  | @snoc trace s s' e run hstep ih =>
    obtain ⟨schedule, bound, hleads⟩ := ih (Server.isOpen_of_step hstep hopen)
    cases hstep with
    | received m =>
      -- the bound is a number that no ticket has yet
      refine ⟨_, bound + 1, hleads.concat rfl ?_ (hleads.numbered.arrives m)⟩
      rw [whole_arrives, hleads.whole_eq]
    | performed task front back htasks =>
      rw [← hleads.whole_eq] at htasks
      obtain ⟨entry, before, after, rfl, rfl, rfl, hsplit, hbefore⟩ :=
        hleads.numbered.exists_entry htasks
      refine ⟨_, bound, hleads.concat (occur_done hsplit hbefore).1 ?_
        (hleads.numbered.done hsplit hbefore)⟩
      rw [whole_done hsplit hbefore, hleads.whole_eq]
    | hungUp => cases hopen

end Agenda

end ServiceLang
