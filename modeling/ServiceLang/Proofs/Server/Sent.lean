import ServiceLang.Proofs.Server.Run

namespace ServiceLang

/-!
# What the server sends and defers

Whatever the server does, it only adds to its queue of messages and to its tasks. Neither what it
adds nor what else it does depends on what is there already.

* `Server.loaded`: the server with another queue and other tasks;
* `Server.Emits`: a function of this kind, with the messages that it sends and the tasks that it
  defers in a state;
* `Server.exists_emits_handle`, `Server.exists_emits_perform`: taking a message and doing a task;
* `Server.isOpen_settle`: doing all tasks.
-/

namespace Server

variable {s : Server} {f g : Server → Server} {messages more : List Outgoing} {tasks : List Task}

/-- The server with another queue and other tasks. -/
def loaded (s : Server) (queue : List Outgoing) (tasks : List Task) : Server :=
  { s.withOutbox { s.outbox with queue } with tasks }

/-- A server is loaded with its own messages and tasks. -/
theorem loaded_self (s : Server) : s.loaded s.outbox.queue s.tasks = s := rfl

/-- In this state the function sends these messages and defers these tasks, whatever is queued and
    deferred already. Nothing is sent once the outbox is closed. -/
structure Emits (f : Server → Server) (s : Server) (messages : List Outgoing) (tasks : List Task) :
    Prop where
  isOpen : (f s).outbox.isOpen = s.outbox.isOpen
  closed : s.outbox.isOpen = false → messages = []
  apply_loaded : ∀ queue pending,
    f (s.loaded queue pending) = (f s).loaded (queue ++ messages) (pending ++ tasks)

namespace Emits

/-- What is emitted comes behind what was there. -/
theorem eq_loaded (h : Emits f s messages tasks) :
    f s = (f s).loaded (s.outbox.queue ++ messages) (s.tasks ++ tasks) :=
  h.apply_loaded s.outbox.queue s.tasks

/-- The messages are queued behind those that are there. -/
theorem queue_eq (h : Emits f s messages tasks) :
    (f s).outbox.queue = s.outbox.queue ++ messages := by
  rw [h.eq_loaded]
  rfl

/-- The tasks are deferred behind those that are there. -/
theorem tasks_eq (h : Emits f s messages tasks) : (f s).tasks = s.tasks ++ tasks := by
  rw [h.eq_loaded]
  rfl

/-- A function that commutes with every change of queue and tasks emits nothing. -/
theorem nothing (hopen : (f s).outbox.isOpen = s.outbox.isOpen)
    (h : ∀ queue pending, f (s.loaded queue pending) = (f s).loaded queue pending) :
    Emits f s [] [] := by
  refine ⟨hopen, fun _ => rfl, fun queue pending => ?_⟩
  rw [List.append_nil, List.append_nil]
  exact h queue pending

/-- A function that does, from the state `s` with any queue and tasks, what another one does from
    the state `t` with these. -/
theorem of_eq {t : Server} (h : Emits g t messages tasks)
    (hopen : t.outbox.isOpen = s.outbox.isOpen)
    (heq : ∀ queue pending, f (s.loaded queue pending) = g (t.loaded queue pending)) :
    Emits f s messages tasks := by
  have hs : f s = (g t).loaded (s.outbox.queue ++ messages) (s.tasks ++ tasks) :=
    (heq s.outbox.queue s.tasks).trans (h.apply_loaded s.outbox.queue s.tasks)
  refine ⟨?_, fun hclosed => h.closed (hopen.trans hclosed), fun queue pending => ?_⟩
  · rw [hs]
    exact h.isOpen.trans hopen
  · rw [heq, h.apply_loaded, hs]
    rfl

end Emits

/-- Posting emits the messages, or nothing when the client has gone. -/
theorem exists_emits_post (s : Server) (messages : List Outgoing) :
    ∃ taken, Emits (fun s => s.post messages) s taken [] := by
  have hopen : (s.post messages).outbox.isOpen = s.outbox.isOpen := Outbox.isOpen_post _ _
  cases ho : s.outbox.isOpen with
  | false =>
    refine ⟨[], .nothing hopen fun queue pending => ?_⟩
    show (s.loaded queue pending).withOutbox ((s.loaded queue pending).outbox.post messages) =
      (s.withOutbox (s.outbox.post messages)).loaded queue pending
    rw [Outbox.post_of_closed (o := (s.loaded queue pending).outbox) ho, Outbox.post_of_closed ho]
    rfl
  | true =>
    refine ⟨messages, hopen, fun hclosed => absurd (ho.symm.trans hclosed) (by simp),
      fun queue pending => ?_⟩
    show (s.loaded queue pending).withOutbox ((s.loaded queue pending).outbox.post messages) =
      (s.withOutbox (s.outbox.post messages)).loaded (queue ++ messages) (pending ++ [])
    rw [Outbox.post_of_open (o := (s.loaded queue pending).outbox) ho, Outbox.post_of_open ho,
      List.append_nil]
    rfl

/-- Putting a task off emits only the task. -/
theorem emits_defer (s : Server) (task : Task) : Emits (fun s => s.defer task) s [] [task] := by
  refine ⟨rfl, fun _ => rfl, fun queue pending => ?_⟩
  rw [List.append_nil]
  rfl

/-! ### Taking a message -/

/-- A request emits its answer, or puts one task off. -/
theorem exists_emits_handleRequest (s : Server) (id : Json) (method : RequestMethod)
    (params : Json) :
    ∃ messages task?,
      Emits (fun s => s.handleRequest id method params) s messages (Option.toList task?) := by
  have hpost : ∀ (t : Server) (reply : Except ServerError Json),
      ∃ messages, Emits (fun s => s.post [replyTo id reply]) t messages [] :=
    fun t reply => exists_emits_post t [replyTo id reply]
  -- Neither the session nor a captured query depends on the queue and the tasks: each case emits
  -- the same with other ones.
  cases method with
  | setUp =>
    cases hsession : s.session.setUp with
    | ok session =>
      obtain ⟨messages, h⟩ := hpost { s with session } (.ok initializeResult)
      refine ⟨messages, none, h.of_eq rfl fun queue pending => ?_⟩
      simp only [handleRequest]
      rw [show (s.loaded queue pending).session.setUp = .ok session from hsession]
      rfl
    | error e =>
      obtain ⟨messages, h⟩ := hpost s (.error e)
      refine ⟨messages, none, h.of_eq rfl fun queue pending => ?_⟩
      simp only [handleRequest]
      rw [show (s.loaded queue pending).session.setUp = .error e from hsession]
  | shutDown =>
    obtain ⟨messages, h⟩ := hpost { s with session := s.session.shutDown } (.ok .null)
    exact ⟨messages, none, h.of_eq rfl fun queue pending => rfl⟩
  | query method =>
    cases hquery : s.capture method params with
    | ok query =>
      refine ⟨[], some (.answer id query), (emits_defer s _).of_eq rfl fun queue pending => ?_⟩
      simp only [handleRequest]
      rw [show (s.loaded queue pending).capture method params = .ok query from hquery]
    | error e =>
      obtain ⟨messages, h⟩ := hpost s (.error e)
      refine ⟨messages, none, h.of_eq rfl fun queue pending => ?_⟩
      simp only [handleRequest]
      rw [show (s.loaded queue pending).capture method params = .error e from hquery]
  | unknown name =>
    obtain ⟨messages, h⟩ := hpost s (.error (unknownMethod s.session name))
    exact ⟨messages, none, h.of_eq rfl fun queue pending => rfl⟩

/-- Clearing emits at most a publication. -/
theorem exists_emits_clear (s : Server) (uri : String) (revision : Nat) :
    ∃ messages, Emits (fun s => { s with publisher := s.publisher.clear uri revision }) s messages
      [] := by
  by_cases h : s.publisher.lastRevision uri < revision
  · obtain ⟨messages, hpost⟩ := exists_emits_post
      { s with publisher := { s.publisher with published := eraseKey uri s.publisher.published } }
      [publication uri []]
    refine ⟨messages, hpost.of_eq rfl fun queue pending => ?_⟩
    simp only [Publisher.clear_eq]
    rw [if_pos (show (s.loaded queue pending).publisher.lastRevision uri < revision from h)]
    rfl
  · refine ⟨[], .nothing ?_ fun queue pending => ?_⟩
    · exact congrArg Outbox.isOpen (Publisher.outbox_clear_of_le h)
    · simp only [Publisher.clear_eq]
      rw [if_neg (show ¬ (s.loaded queue pending).publisher.lastRevision uri < revision from h),
        if_neg h]
      rfl

/-- A change emits at most one message and one task. -/
theorem exists_emits_take (s : Server) (change : Mutation) :
    ∃ messages task?, Emits (fun s => s.take change) s messages (Option.toList task?) := by
  have hstore : ∀ uri text, Emits (fun s => s.take (.opened uri text)) s []
      [.refresh (s.documents.store uri text).1] := by
    intro uri text
    exact (emits_defer { s with documents := (s.documents.store uri text).2 } _).of_eq rfl
      fun queue pending => rfl
  cases change with
  | opened uri text => exact ⟨[], some _, hstore uri text⟩
  | changed uri text => exact ⟨[], some _, hstore uri text⟩
  | saved uri text =>
    have hdocuments : ∀ queue pending, (s.loaded queue pending).documents = s.documents :=
      fun _ _ => rfl
    obtain ⟨t, -, hsave⟩ | ⟨-, -, hsave⟩ := s.documents.save_cases uri text
    · refine ⟨[], some _, (hstore uri t).of_eq rfl fun queue pending => ?_⟩
      simp only [take, apply, hdocuments, hsave]
    · refine ⟨[], none, .nothing ?_ fun queue pending => ?_⟩
      · simp only [take, apply, hsave]
      · simp only [take, apply, hdocuments, hsave]
        rfl
  | closed uri =>
    obtain ⟨messages, h⟩ := exists_emits_clear { s with documents := (s.documents.close uri).2 } uri
      (s.documents.close uri).1
    exact ⟨messages, none, h.of_eq rfl fun queue pending => rfl⟩

/-- **Taking a message** sends and defers the same whatever is queued and deferred already. It defers
    one task at most. -/
theorem exists_emits_handle (s : Server) (m : Message) :
    ∃ messages task?, Emits (fun s => (s.handle m).1) s messages (Option.toList task?) := by
  cases m with
  | request id name params => exact exists_emits_handleRequest s id _ params
  | response id result error => exact ⟨[], none, .nothing rfl fun queue pending => rfl⟩
  | notification name params =>
    simp only [handle, handleNotification]
    cases NotificationMethod.ofName name with
    | confirmed => exact ⟨[], none, .nothing rfl fun queue pending => rfl⟩
    | exit => exact ⟨[], none, .nothing rfl fun queue pending => rfl⟩
    | configurationChanged =>
      exact (exists_emits_post s _).imp fun _ h => ⟨none, h⟩
    | ignored => exact ⟨[], none, .nothing rfl fun queue pending => rfl⟩
    | mutation method =>
      simp only [handleMutation_eq]
      have hsession : ∀ queue pending, (s.loaded queue pending).session = s.session :=
        fun _ _ => rfl
      cases haccepted : (if s.session.acceptsMutation then
          (Mutation.read method params).toOption else none) with
      | none =>
        refine ⟨[], none, .nothing (by rw [haccepted]) fun queue pending => ?_⟩
        simp only [hsession, haccepted]
      | some change =>
        obtain ⟨messages, task?, h⟩ := exists_emits_take s change
        refine ⟨messages, task?, h.of_eq rfl fun queue pending => ?_⟩
        simp only [hsession, haccepted]

/-! ### Doing tasks -/

/-- **Doing a task** sends the same whatever is queued and deferred already. -/
theorem exists_emits_perform (s : Server) (task : Task) :
    ∃ messages, Emits (fun s => s.perform task) s messages [] := by
  cases task with
  | answer id query => exact exists_emits_post s _
  | refresh snapshot =>
    simp only [perform, Publisher.refresh_eq]
    by_cases h : s.publisher.isCurrent s.documents snapshot.uri snapshot.revision ∧
      s.publisher.outbox.isOpen
    · obtain ⟨messages, hpost⟩ := exists_emits_post
        { s with publisher := { s.publisher with
            published := setKey snapshot.uri
              ⟨snapshot.revision, (s.publisher.analyzer.analyze snapshot.text).diagnostics⟩
              s.publisher.published } }
        [publication snapshot.uri (s.publisher.analyzer.analyze snapshot.text).diagnostics]
      refine ⟨messages, hpost.of_eq rfl fun queue pending => ?_⟩
      rw [if_pos (show (s.loaded queue pending).publisher.isCurrent (s.loaded queue pending).documents
        snapshot.uri snapshot.revision ∧ (s.loaded queue pending).publisher.outbox.isOpen from h)]
      rfl
    · refine ⟨[], .nothing (by rw [if_neg h]; rfl) fun queue pending => ?_⟩
      rw [if_neg (show ¬ ((s.loaded queue pending).publisher.isCurrent
        (s.loaded queue pending).documents snapshot.uri snapshot.revision ∧
          (s.loaded queue pending).publisher.outbox.isOpen) from h), if_neg h]
      rfl

/-- **Doing all tasks** leaves the outbox open or closed. -/
theorem isOpen_settle (s : Server) : s.settle.outbox.isOpen = s.outbox.isOpen := by
  have hfold : ∀ (order : List Task) (u : Server),
      (order.foldl perform u).outbox.isOpen = u.outbox.isOpen := by
    intro order
    induction order with
    | nil => exact fun _ => rfl
    | cons task rest ih =>
      intro u
      obtain ⟨messages, hemits⟩ := exists_emits_perform u task
      exact (ih _).trans hemits.isOpen
  exact hfold _ { s with tasks := [] }

end Server

end ServiceLang
