import ServiceLang.Proofs.Outcome
import ServiceLang.Proofs.Rpc.Frame
import ServiceLang.Proofs.Server.Lifecycle
import ServiceLang.Proofs.Server.Sent
import ServiceLang.Server.Serve

namespace ServiceLang

/-!
# Serving arbitrary bytes

Bytes that make no frame, or frames that hold no message, are complained about and leave the rest of
the session as it is.

* `FrameRead.message?`, `FrameRead.complaint?`, `FrameRead.stops`: what becomes of a read;
* `Outgoing.hasNullId`: the bodies that complaints consist of;
* `Server.Heard`: a server that has taken some reads, told by its complaints and by a run in which it
  received nothing but the messages;
* `Server.Heard.hear`, `Server.Heard.performed`, `Server.Heard.hungUp`: one more read, a task that is
  done, and a client that hangs up.
-/

/-! ### Reads -/

/-- Whether a message asks to shut the session down. -/
def Message.asksToShutDown : Message → Bool
  | .request _ name _ => name == "shutdown"
  | _ => false

/-- Whether a message tells the server to exit. -/
def Message.tellsToExit : Message → Bool
  | .notification name _ => name == "exit"
  | _ => false

namespace FrameRead

/-- The message in a read. -/
def message? : FrameRead → Option Message
  | .body text => (Message.parse text).toOption
  | _ => none

/-- Whether the server stops at a read: it tells to exit, or reading cannot go on. -/
def stops (read : FrameRead) : Bool := read.message?.any (·.tellsToExit) || !read.goesOn

/-- The complaint about a read: the code tells whether the frame or its text could not be read, or
    what the text says is no message. -/
def complaint? : FrameRead → Option Outgoing
  | .refused fault => some (.failure .null (-32700) fault.text)
  | .body text =>
    match Message.parse text with
    | .ok _ => none
    | .error fault =>
      some (.failure .null (if (Json.parse text).isNone then -32700 else -32600)
        fault.toError.message)
  | _ => none

end FrameRead

/-- The exit code after some reads: 0 if one of the messages asks to shut down. -/
def exitCodeAfter (reads : List FrameRead) : Nat :=
  if (reads.filterMap (·.message?)).any (·.asksToShutDown) then 0 else 1

/-- The outcome of stopping at a read, with the reads before it. -/
def FrameRead.outcome (before : List FrameRead) : FrameRead → Except ServerError Nat
  | .broken fault => .error (.io fault.text)
  | _ => .ok (exitCodeAfter before)

/-- Where serving stops there is no complaint. -/
theorem complaint?_of_stops {read : FrameRead} (h : read.stops = true) : read.complaint? = none := by
  cases read with
  | ended => rfl
  | broken fault => rfl
  | refused fault => cases h
  | body text =>
    simp only [FrameRead.stops, FrameRead.message?, FrameRead.goesOn, Bool.not_true,
      Bool.or_false] at h
    simp only [FrameRead.complaint?]
    cases hparse : Message.parse text with
    | ok m => rfl
    | error fault =>
      rw [hparse] at h
      cases h

/-- Whether the body of a message has null for its identifier. -/
def Outgoing.hasNullId (m : Outgoing) : Bool :=
  match m.id? with
  | some .null => true
  | _ => false

/-- The identifier of a message is null exactly when it is written so. -/
theorem Outgoing.hasNullId_iff {m : Outgoing} : m.hasNullId = true ↔ m.id? = some .null := by
  unfold hasNullId
  split
  · simp [*]
  · rename_i hne
    simp only [Bool.false_eq_true, false_iff]
    exact hne

/-- Complaints have no request that they could name. -/
theorem hasNullId_complaint {read : FrameRead} {x : Outgoing} (h : read.complaint? = some x) :
    x.hasNullId = true := by
  rw [Outgoing.hasNullId_iff]
  cases read with
  | refused fault =>
    obtain rfl := Option.some.inj h
    exact Outgoing.id?_failure _ _ _
  | body text =>
    simp only [FrameRead.complaint?] at h
    split at h
    · cases h
    · obtain rfl := Option.some.inj h
      exact Outgoing.id?_failure _ _ _
  | ended => cases h
  | broken fault => cases h

/-- Reading an identifier fails in one way. -/
theorem fault_of_readId {v : Json} {fault : MessageFault} (h : Message.readId v = .error fault) :
    fault = .badId := by
  unfold Message.readId at h
  split at h <;> cases h
  rfl

theorem fault_of_readMethod {v : Json} {fault : MessageFault}
    (h : Message.readMethod v = .error fault) : fault = .badMethod := by
  unfold Message.readMethod at h
  split at h <;> cases h
  rfl

/-- What JSON says may be no message, but it is JSON. -/
theorem fault_of_ofJson {v : Json} {fault : MessageFault} (h : Message.ofJson v = .error fault) :
    fault ≠ .notJson := by
  rintro rfl
  unfold Message.ofJson at h
  split at h
  case h_2 => cases h
  case h_1 =>
    split at h
    · obtain hid | ⟨id, -, h⟩ := bind_eq_error_iff.mp h
      · cases fault_of_readId hid
      · obtain hmethod | ⟨method, -, h⟩ := bind_eq_error_iff.mp h
        · cases fault_of_readMethod hmethod
        · cases h
    · obtain hid | ⟨id, -, h⟩ := bind_eq_error_iff.mp h
      · cases fault_of_readId hid
      · cases h
    · obtain hmethod | ⟨method, -, h⟩ := bind_eq_error_iff.mp h
      · cases fault_of_readMethod hmethod
      · cases h
    · cases h

/-- The code of the fault of a text tells whether the text is JSON. -/
theorem code_of_parse {text : String} {fault : MessageFault} (h : Message.parse text = .error fault) :
    fault.toError.code = if (Json.parse text).isNone then -32700 else -32600 := by
  unfold Message.parse at h
  cases hjson : Json.parse text with
  | none =>
    rw [hjson] at h
    obtain rfl := Except.error.inj h
    rfl
  | some v =>
    rw [hjson] at h
    have hne := fault_of_ofJson h
    cases fault with
    | notJson => exact absurd rfl hne
    | notAnObject | badId | badMethod | neitherIdNorMethod => rfl

/-- An identifier that was read is not null. -/
theorem ne_null_of_readId {v id : Json} (h : Message.readId v = .ok id) : id ≠ .null := by
  rintro rfl
  unfold Message.readId at h
  split at h <;> cases h

/-- No request has null for its identifier. -/
theorem id_ne_null_of_parse {text : String} {id params : Json} {name : String}
    (h : Message.parse text = .ok (.request id name params)) : id ≠ .null := by
  unfold Message.parse at h
  split at h
  case h_2 => cases h
  case h_1 v _ =>
    unfold Message.ofJson at h
    split at h
    case h_2 => cases h
    case h_1 =>
      split at h
      · obtain ⟨id', hid, h⟩ := bind_eq_ok_iff.mp h
        obtain ⟨method, -, h⟩ := bind_eq_ok_iff.mp h
        cases h
        exact ne_null_of_readId hid
      · obtain ⟨id', -, h⟩ := bind_eq_ok_iff.mp h
        cases h
      · obtain ⟨method, -, h⟩ := bind_eq_ok_iff.mp h
        cases h
      · cases h

/-! ### Messages -/

namespace Server

variable {s : Server} {m : Message}

/-- The message that arrives in a transition. -/
def received? (t : Transition Server Event) : Option Message :=
  match t.label with
  | .received m => some m
  | _ => none

/-- Which messages ask to shut down. -/
theorem asksToShutDown_iff {m : Message} :
    m.asksToShutDown = true ↔ ∃ id params, m = .request id "shutdown" params := by
  cases m <;> simp [Message.asksToShutDown]

theorem tellsToExit_iff {m : Message} :
    m.tellsToExit = true ↔ ∃ params, m = .notification "exit" params := by
  cases m <;> simp [Message.tellsToExit]

theorem received?_eq_some_iff {t : Transition Server Event} {m : Message} :
    received? t = some m ↔ t.label = .received m := by
  unfold received?
  cases t.label <;> simp

/-- A shutdown was asked for when one of the received messages does. -/
theorem asked_shutdown_iff {trace : Trace} :
    Asked trace "shutdown" ↔ (trace.filterMap received?).any (·.asksToShutDown) = true := by
  simp only [List.any_eq_true, List.mem_filterMap, received?_eq_some_iff, asksToShutDown_iff]
  constructor
  · rintro ⟨t, ht, id, params, hlabel⟩
    exact ⟨_, ⟨t, ht, hlabel⟩, id, params, rfl⟩
  · rintro ⟨m, ⟨t, ht, hlabel⟩, id, params, rfl⟩
    exact ⟨t, ht, id, params, hlabel⟩

theorem told_exit_iff {trace : Trace} :
    Told trace "exit" ↔ (trace.filterMap received?).any (·.tellsToExit) = true := by
  simp only [List.any_eq_true, List.mem_filterMap, received?_eq_some_iff, tellsToExit_iff]
  constructor
  · rintro ⟨t, ht, params, hlabel⟩
    exact ⟨_, ⟨t, ht, hlabel⟩, params, rfl⟩
  · rintro ⟨m, ⟨t, ht, hlabel⟩, params, rfl⟩
    exact ⟨t, ht, params, hlabel⟩

/-- The server stops at a message exactly when it tells to exit. -/
theorem flow_handle (s : Server) (m : Message) :
    (s.handle m).2 = if m.tellsToExit then .exit s.session.exitCode else .proceed := by
  cases m with
  | request id name params => rfl
  | response id result error => rfl
  | notification name params =>
    simp only [handle, handleNotification, Message.tellsToExit]
    by_cases hname : name = "exit"
    · subst hname
      rfl
    · have hexit := mt NotificationMethod.ofName_eq_exit_iff.mp hname
      cases hmethod : NotificationMethod.ofName name with
      | exit => exact absurd hmethod hexit
      | confirmed | configurationChanged | mutation | ignored => simp [hname]

/-- A message is handled, and the server stops there if it tells to exit. -/
theorem hear_of_parse_ok {text : String} (h : Message.parse text = .ok m) :
    s.hear (.body text) = ((s.handle m).1,
      if m.tellsToExit then some (.ok s.session.exitCode) else none) := by
  have hflow := flow_handle s m
  simp only [hear, h]
  rcases hhandle : s.handle m with ⟨s', flow⟩
  rw [hhandle] at hflow
  simp only at hflow
  cases hexit : m.tellsToExit with
  | true =>
    rw [hexit, if_pos rfl] at hflow
    rw [hflow, if_pos rfl]
  | false =>
    rw [hexit, if_neg Bool.false_ne_true] at hflow
    rw [hflow, if_neg Bool.false_ne_true]

/-! ### Bodies that name no request -/

/-- A step sends no body with the identifier null if no reply that is due has it. -/
theorem hasNullId_of_step {s' : Server} {e : Event} (h : Step s e s')
    (hopen : s'.outbox.isOpen = true)
    (hdue : ∀ x ∈ s.replies ++ (settled? ⟨s, e, s'⟩).toList, x.hasNullId = false) :
    ∀ x ∈ s'.outbox.queue, x.hasNullId = false := by
  intro x hx
  rw [← Bool.not_eq_true]
  intro hnull
  -- such a body is a reply, and all replies were due
  have hreply : x ∈ s'.replies := by
    refine List.mem_append_left _ (List.mem_filter.mpr ⟨hx, ?_⟩)
    rw [Outgoing.isReply, Outgoing.hasNullId_iff.mp hnull]
    rfl
  rw [hdue x ((replies_step h hopen).mem_iff.mp hreply)] at hnull
  cases hnull

/-- A message whose identifier is not null leads to no body with that identifier. -/
theorem hasNullId_of_emits_handle {messages : List Outgoing} {tasks : List Task}
    (h : Emits (fun s => (s.handle m).1) s messages tasks)
    (hid : ∀ name params, m ≠ .request .null name params) : ∀ x ∈ messages, x.hasNullId = false := by
  cases hopen : s.outbox.isOpen with
  | false =>
    rw [h.closed hopen]
    exact fun x hx => absurd hx List.not_mem_nil
  | true =>
    have hafter : ((s.loaded [] []).handle m).1 = (s.handle m).1.loaded messages tasks :=
      h.apply_loaded [] []
    have hstep : Step (s.loaded [] []) (.received m) ((s.handle m).1.loaded messages tasks) :=
      hafter ▸ Step.received (s.loaded [] []) m
    refine hasNullId_of_step hstep (h.isOpen.trans hopen) ?_
    intro x hx
    cases m with
    | request id name params =>
      obtain rfl : x = replyTo id ((s.loaded [] []).outcome params (.ofName name)) :=
        List.mem_singleton.mp hx
      rw [← Bool.not_eq_true, Outgoing.hasNullId_iff, id?_replyTo, Option.some.injEq]
      exact fun hnull => hid name params (by rw [hnull])
    | response id result error => cases hx
    | notification name params => cases hx

/-- A task that does not answer a request with the identifier null sends no such body. -/
theorem hasNullId_of_emits_perform {messages : List Outgoing} {tasks : List Task} {task : Task}
    (h : Emits (fun s => s.perform task) s messages tasks)
    (htask : ∀ query, task ≠ .answer .null query) : ∀ x ∈ messages, x.hasNullId = false := by
  cases hopen : s.outbox.isOpen with
  | false =>
    rw [h.closed hopen]
    exact fun x hx => absurd hx List.not_mem_nil
  | true =>
    have hafter : (s.loaded [] []).perform task = (s.perform task).loaded messages tasks :=
      h.apply_loaded [] []
    have hstep : Step (s.loaded [] [task]) (.performed task)
        ((s.perform task).loaded messages tasks) :=
      hafter ▸ Step.performed (s.loaded [] [task]) task [] [] rfl
    refine hasNullId_of_step hstep (h.isOpen.trans hopen) ?_
    intro x hx
    cases task with
    | answer id query =>
      obtain rfl : x = .result id query.answer := List.mem_singleton.mp hx
      rw [← Bool.not_eq_true, Outgoing.hasNullId_iff, Outgoing.id?_result, Option.some.injEq]
      exact fun hnull => htask query (by rw [hnull])
    | refresh snapshot => cases hx

/-- A change defers an analysis at most. -/
theorem tasks_take (s : Server) (change : Mutation) :
    (∃ snapshot, (s.take change).tasks = s.tasks ++ [.refresh snapshot]) ∨
      (s.take change).tasks = s.tasks := by
  have htasks : (s.apply change).2.tasks = s.tasks := by cases change <;> rfl
  unfold take
  rcases hchange : s.apply change with ⟨_ | snapshot, s'⟩
  · rw [hchange] at htasks
    exact .inr htasks
  · rw [hchange] at htasks
    refine .inl ⟨snapshot, ?_⟩
    show s'.tasks ++ [.refresh snapshot] = _
    rw [htasks]

/-- A message defers an answer only if it is the request for it. -/
theorem answer_mem_handle {id : Json} {query : Query}
    (h : .answer id query ∈ (s.handle m).1.tasks) :
    .answer id query ∈ s.tasks ∨ ∃ name params, m = .request id name params := by
  cases m with
  | response id' result error => exact .inl h
  | request id' name params =>
    simp only [handle, handleRequest] at h
    split at h
    case h_1 => split at h <;> exact .inl h
    case h_2 => exact .inl h
    case h_3 =>
      split at h
      case h_1 =>
        obtain h | h := List.mem_append.mp h
        · exact .inl h
        -- The one branch that defers an answer: a query of a session that answers queries.
        · rw [List.mem_singleton, Task.answer.injEq] at h
          exact .inr ⟨name, params, by rw [h.1]⟩
      case h_2 => exact .inl h
    case h_4 => exact .inl h
  | notification name params =>
    left
    simp only [handle, handleNotification] at h
    split at h
    case h_4 =>
      rw [handleMutation_eq] at h
      split at h
      case h_1 change _ =>
        obtain ⟨snapshot, htasks⟩ | htasks := tasks_take s change
        · rw [htasks] at h
          exact (List.mem_append.mp h).resolve_right (by simp)
        · rwa [htasks] at h
      case h_2 => exact h
    all_goals exact h

/-- The server as if it had sent no body with the identifier null. -/
def uncomplaining (s : Server) : Server :=
  s.loaded (s.outbox.queue.filter (!·.hasNullId)) s.tasks

/-- What sends no body with the identifier null leaves those that were sent, and does the same to
    the server as if there were none. -/
theorem Emits.uncomplaining {f : Server → Server} {messages : List Outgoing} {tasks : List Task}
    (h : Emits f s messages tasks) (hnull : ∀ x ∈ messages, x.hasNullId = false) :
    (f s).outbox.queue.filter (·.hasNullId) = s.outbox.queue.filter (·.hasNullId) ∧
      (f s).uncomplaining = f s.uncomplaining := by
  have hno : messages.filter (·.hasNullId) = [] := by
    rw [List.filter_eq_nil_iff]
    intro x hx
    simp [hnull x hx]
  have hall : messages.filter (!·.hasNullId) = messages := by
    rw [List.filter_eq_self]
    intro x hx
    simp [hnull x hx]
  constructor
  · rw [h.queue_eq, List.filter_append, hno, List.append_nil]
  · rw [Server.uncomplaining, Server.uncomplaining, h.apply_loaded, h.queue_eq, h.tasks_eq,
      List.filter_append, hall]

/-! ### What has been heard -/

/-- A server that has taken some reads, whatever tasks it has done meanwhile. While it can send, the
    bodies with the identifier null are the complaints about the reads, and no task will send another
    one. Without them it is as in a run in which it received the messages in the reads, and nothing
    else. -/
structure Heard (analyzer : Analyzer) (reads : List FrameRead) (s : Server) : Prop where
  complaints : s.outbox.isOpen = true →
    s.outbox.queue.filter (·.hasNullId) = reads.filterMap (·.complaint?)
  named : ∀ query, .answer .null query ∉ s.tasks
  run : ∃ trace, Run Step (fresh analyzer) trace s.uncomplaining ∧
    trace.filterMap received? = reads.filterMap (·.message?)

namespace Heard

variable {analyzer : Analyzer} {reads : List FrameRead} {read : FrameRead} {s : Server}

/-- Nothing is heard before the first read. -/
theorem nil (analyzer : Analyzer) : Heard analyzer [] (fresh analyzer) :=
  ⟨fun _ => rfl, fun _ => List.not_mem_nil, [], .nil, rfl⟩

/-- A read without a message that is not complained about either. -/
theorem silent (h : Heard analyzer reads s) (hmessage : read.message? = none)
    (hcomplaint : read.complaint? = none) : Heard analyzer (reads ++ [read]) s where
  complaints hopen := by simp [h.complaints hopen, hcomplaint]
  named := h.named
  run := by simpa [hmessage] using h.run

/-- A complaint is queued, and does not count without the complaints. -/
theorem complain {x : Outgoing} (h : Heard analyzer reads s) (hmessage : read.message? = none)
    (hcomplaint : read.complaint? = some x) : Heard analyzer (reads ++ [read]) (s.post [x]) := by
  have hnull := hasNullId_complaint hcomplaint
  -- Closed or open, the outbox is the same once the complaints are left out.
  have hclean : (s.post [x]).uncomplaining = s.uncomplaining := by
    cases hopen : s.outbox.isOpen with
    | false =>
      have hpost : s.post [x] = s.withOutbox s.outbox := by
        rw [post, Outbox.post_of_closed hopen]
      rw [hpost]
      rfl
    | true =>
      have hqueue : (s.post [x]).outbox = { s.outbox with queue := s.outbox.queue ++ [x] } :=
        Outbox.post_of_open hopen
      unfold uncomplaining loaded
      rw [hqueue]
      simp [hnull, withOutbox, post, outbox]
  refine ⟨fun hopen => ?_, h.named, ?_⟩
  · have hopen' : s.outbox.isOpen = true := (Outbox.isOpen_post _ _).symm.trans hopen
    have hqueue : (s.post [x]).outbox = { s.outbox with queue := s.outbox.queue ++ [x] } :=
      Outbox.post_of_open hopen'
    rw [hqueue]
    simp [h.complaints hopen', hcomplaint, hnull]
  · rw [hclean]
    simpa [hmessage] using h.run

/-- A message is handled as if no complaint had been queued. -/
theorem message {m : Message} (h : Heard analyzer reads s) (hmessage : read.message? = some m)
    (hcomplaint : read.complaint? = none) (hid : ∀ name params, m ≠ .request .null name params) :
    Heard analyzer (reads ++ [read]) (s.handle m).1 := by
  obtain ⟨messages, task?, hemits⟩ := exists_emits_handle s m
  obtain ⟨hnull, hclean⟩ := hemits.uncomplaining (hasNullId_of_emits_handle hemits hid)
  refine ⟨fun hopen => ?_, fun query hquery => ?_, ?_⟩
  · rw [hnull, h.complaints (hemits.isOpen.symm.trans hopen)]
    simp [hcomplaint]
  · obtain hquery | ⟨name, params, hm⟩ := answer_mem_handle hquery
    · exact h.named query hquery
    · exact hid name params hm
  · obtain ⟨trace, run, htrace⟩ := h.run
    refine ⟨_, hclean ▸ run.snoc (Step.received s.uncomplaining m), ?_⟩
    rw [List.filterMap_append, List.filterMap_append, htrace]
    simp [hmessage, received?]

/-- **A task** may be done at any time: it sends nothing that is no answer to a message heard. -/
theorem performed {task : Task} {front back : List Task} (h : Heard analyzer reads s)
    (htasks : s.tasks = front ++ task :: back) :
    Heard analyzer reads ({ s with tasks := front ++ back }.perform task) := by
  obtain ⟨messages, hemits⟩ := exists_emits_perform { s with tasks := front ++ back } task
  have hmem : ∀ other ∈ front ++ back, other ∈ s.tasks := by
    intro other hother
    rw [htasks]
    exact List.mem_append.mpr ((List.mem_append.mp hother).imp_right (List.mem_cons_of_mem task))
  have htask : ∀ query, task ≠ .answer .null query := by
    rintro query rfl
    exact h.named query (htasks ▸ List.mem_append_right front List.mem_cons_self)
  obtain ⟨hnull, hclean⟩ := hemits.uncomplaining (hasNullId_of_emits_perform hemits htask)
  refine ⟨fun hopen => ?_, fun query hquery => ?_, ?_⟩
  · rw [hnull]
    exact h.complaints (hemits.isOpen.symm.trans hopen)
  · rw [tasks_perform] at hquery
    exact h.named query (hmem _ hquery)
  · obtain ⟨trace, run, htrace⟩ := h.run
    refine ⟨_, hclean ▸ run.snoc (Step.performed s.uncomplaining task front back htasks), ?_⟩
    rw [List.filterMap_append, htrace]
    simp [received?]

/-- A client that hangs up is heard no less. -/
theorem hungUp (h : Heard analyzer reads s) :
    Heard analyzer reads (s.withOutbox s.outbox.close) := by
  refine ⟨fun hopen => (by cases hopen), h.named, ?_⟩
  obtain ⟨trace, run, htrace⟩ := h.run
  refine ⟨_, run.snoc (Step.hungUp s.uncomplaining), ?_⟩
  rw [List.filterMap_append, htrace]
  simp [received?]

/-- **Exit codes.** The code with which a session ends is told by the messages heard. -/
theorem exitCode_eq (h : Heard analyzer reads s) (hreads : ∀ read ∈ reads, read.stops = false) :
    s.session.exitCode = exitCodeAfter reads := by
  obtain ⟨trace, run, htrace⟩ := h.run
  have hfollows := follows_of_run run
  change s.session.Follows trace at hfollows
  have hasked : Asked trace "shutdown" ↔
      (reads.filterMap (·.message?)).any (·.asksToShutDown) = true := by
    rw [← htrace]
    exact asked_shutdown_iff
  -- A read that says `exit` would have stopped the session.
  have htold : ¬ Told trace "exit" := by
    rw [told_exit_iff, htrace, List.any_eq_true]
    rintro ⟨m, hm, hexit⟩
    obtain ⟨read, hread, hmessage⟩ := List.mem_filterMap.mp hm
    have hstops := hreads read hread
    rw [FrameRead.stops, hmessage, Option.any_some, hexit, Bool.true_or] at hstops
    cases hstops
  unfold exitCodeAfter
  cases hsession : s.session with
  | uninitialized =>
    rw [hsession] at hfollows
    rw [if_neg (mt hasked.mpr hfollows.2.1)]
    rfl
  | initialized | serving =>
    rw [hsession] at hfollows
    rw [if_neg (mt hasked.mpr hfollows.2.1)]
    rfl
  | shuttingDown =>
    rw [hsession] at hfollows
    rw [if_pos (hasked.mp hfollows.1)]
    rfl
  | terminated =>
    rw [hsession] at hfollows
    exact absurd hfollows htold

/-- A body that is no message is complained about. -/
theorem hear_fault {text : String} {fault : MessageFault} (h : Heard analyzer reads s)
    (hparse : Message.parse text = .error fault) :
    (FrameRead.body text).stops = false ∧ (s.hear (.body text)).2 = none ∧
      Heard analyzer (reads ++ [.body text]) (s.hear (.body text)).1 := by
  have hmessage : (FrameRead.body text).message? = none := by
    rw [FrameRead.message?, hparse]
    rfl
  have hcomplaint : (FrameRead.body text).complaint? =
      some (.failure .null fault.toError.code fault.toError.message) := by
    simp only [FrameRead.complaint?, hparse, code_of_parse hparse]
  have hhear : s.hear (.body text) =
      (s.post [.failure .null fault.toError.code fault.toError.message], none) := by
    rw [Server.hear, hparse]
  rw [hhear, FrameRead.stops, hmessage]
  exact ⟨rfl, rfl, h.complain hmessage hcomplaint⟩

/-- A body that is a message is handled. -/
theorem hear_message {text : String} {m : Message} (h : Heard analyzer reads s)
    (hparse : Message.parse text = .ok m) :
    (FrameRead.body text).stops = m.tellsToExit ∧
      Heard analyzer (reads ++ [.body text]) (s.handle m).1 := by
  have hmessage : (FrameRead.body text).message? = some m := by
    rw [FrameRead.message?, hparse]
    rfl
  have hcomplaint : (FrameRead.body text).complaint? = none := by
    simp only [FrameRead.complaint?, hparse]
  have hid : ∀ name params, m ≠ .request .null name params := by
    rintro name params rfl
    exact id_ne_null_of_parse hparse rfl
  refine ⟨?_, h.message hmessage hcomplaint hid⟩
  rw [FrameRead.stops, hmessage, FrameRead.goesOn, Option.any_some, Bool.not_true, Bool.or_false]

/-- **One read.** The server goes on behind a read unless it stops there, and then with the outcome
    that the reads tell. At the end of the stream the session is over without a message that says
    so: there the session differs from that of a run. -/
theorem hear (h : Heard analyzer reads s) (hreads : ∀ read ∈ reads, read.stops = false)
    (read : FrameRead) :
    (s.hear read).2 = (if read.stops then some (read.outcome reads) else none) ∧
      ∃ session, Heard analyzer (reads ++ [read]) { (s.hear read).1 with session } ∧
        (read.stops = false → session = (s.hear read).1.session) := by
  cases read with
  | ended =>
    refine ⟨?_, s.session, h.silent rfl rfl, fun hstops => by cases hstops⟩
    show some (Except.ok s.session.exitCode) = _
    rw [h.exitCode_eq hreads]
    rfl
  | broken fault => exact ⟨rfl, s.session, h.silent rfl rfl, fun _ => rfl⟩
  | refused fault => exact ⟨rfl, _, h.complain rfl rfl, fun _ => rfl⟩
  | body text =>
    cases hparse : Message.parse text with
    | error fault =>
      obtain ⟨hstops, hnone, hheard⟩ := h.hear_fault hparse
      rw [hstops]
      exact ⟨hnone, _, hheard, fun _ => rfl⟩
    | ok m =>
      obtain ⟨hstops, hheard⟩ := h.hear_message hparse
      rw [hear_of_parse_ok hparse, hstops, h.exitCode_eq hreads]
      exact ⟨rfl, _, hheard, fun _ => rfl⟩

end Heard

end Server

end ServiceLang
