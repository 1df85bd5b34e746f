import ServiceLang.Proofs.Server.Desk

namespace ServiceLang

/-!
# One reply for each request

A request is answered at once, or by a task that is done later. Either way its reply is settled
when the request arrives, and it is sent once.

* `Outgoing.id?`: the identifier that a body carries;
* `Server.reply?`: the reply that a message gets, told by the state in which it arrives;
* `Server.replies`: the replies that have been sent, with those that the tasks will send;
* `Server.replies_step`: a step adds the reply to the request that arrives, and nothing else;
* `Server.replies_append_of_run`: so a run adds the replies to its requests;
* `Server.drain`: doing what is left, in any order;
* `Server.replyIds_perm_requestIds`: one reply for each request.
-/

/-! ### Identifiers -/

namespace Outgoing

/-- The identifier that the body of a message carries. -/
def id? (m : Outgoing) : Option Json := m.toJson.get? "id"

@[simp] theorem id?_result (id value : Json) : (result id value).id? = some id := by
  simp [id?, toJson, Json.get?]

@[simp] theorem id?_failure (id : Json) (code : Int32) (message : String) :
    (failure id code message).id? = some id := by
  simp [id?, toJson, Json.get?, lookup_cons_eq_ite]

@[simp] theorem id?_notify (method : String) (params : Json) : (notify method params).id? = none := by
  simp [id?, toJson, Json.get?, lookup_cons_eq_ite, version]

/-- Whether a message is the reply to a request. -/
def isReply (m : Outgoing) : Bool := m.id?.isSome

/-- A body with an identifier has either a result or an error. -/
theorem isSome_result_of_isReply {m : Outgoing} (h : m.isReply = true) :
    (m.toJson.get? "result").isSome = !(m.toJson.get? "error").isSome := by
  cases m with
  | result id value => simp [toJson, Json.get?, lookup_cons_eq_ite, version]
  | failure id code message => simp [toJson, Json.get?, lookup_cons_eq_ite, version]
  | notify method params => simp [isReply] at h

end Outgoing

/-- The reply that a deferred task sends. -/
def Task.reply? : Task → Option Outgoing
  | .answer id query => some (.result id query.answer)
  | .refresh _ => none

namespace Server

variable {s s' : Server} {m : Message} {e : Event}

/-- What a request comes to, at once or later. -/
def outcome (s : Server) (params : Json) : RequestMethod → Except ServerError Json
  | .setUp => s.session.setUp.map fun _ => initializeResult
  | .shutDown => .ok .null
  | .query method => (s.capture method params).map (·.answer)
  | .unknown name => .error (unknownMethod s.session name)

/-- The reply that a message gets, told by the state in which it arrives. -/
def reply? (s : Server) : Message → Option Outgoing
  | .request id name params => some (replyTo id (s.outcome params (.ofName name)))
  | _ => none

/-- The replies that have been sent, with those that the deferred tasks will send. -/
def replies (s : Server) : List Outgoing :=
  s.outbox.queue.filter (·.isReply) ++ s.tasks.filterMap (·.reply?)

/-- The reply that is settled in a transition. -/
def settled? (t : Transition Server Event) : Option Outgoing :=
  match t.label with
  | .received m => t.before.reply? m
  | _ => none

/-! ### What a step does to the replies -/

@[simp] theorem id?_replyTo (id : Json) (reply : Except ServerError Json) :
    (replyTo id reply).id? = some id := by
  cases reply <;> simp [replyTo]

/-- An outbox that is open after a step was open before it. -/
theorem isOpen_of_step (h : Step s e s') (hopen : s'.outbox.isOpen = true) :
    s.outbox.isOpen = true := by
  obtain ⟨moves, run, -⟩ := desk_step h
  exact Desk.isOpen_of_run run hopen

/-- Messages without an identifier are no replies. -/
theorem replies_post_of_id?_eq_none {messages : List Outgoing}
    (h : ∀ x ∈ messages, x.id? = none) : (s.post messages).replies = s.replies := by
  have hnone : messages.filter (·.isReply) = [] := by
    rw [List.filter_eq_nil_iff]
    intro x hx
    simp [Outgoing.isReply, h x hx]
  show (s.outbox.post messages).queue.filter _ ++ _ = _
  cases ho : s.outbox.isOpen
  · rw [Outbox.post_of_closed ho]
    rfl
  · rw [Outbox.post_of_open ho, List.filter_append, hnone, List.append_nil]
    rfl

/-- A reply that is sent is one more reply. -/
theorem replies_post_singleton (hopen : s.outbox.isOpen = true) {x : Outgoing}
    (h : x.isReply = true) : (s.post [x]).replies.Perm (s.replies ++ [x]) := by
  have hqueue : (s.post [x]).outbox.queue = s.outbox.queue ++ [x] := by
    show (s.outbox.post [x]).queue = _
    rw [Outbox.post_of_open hopen]
  unfold replies
  rw [hqueue, List.filter_append, List.filter_cons_of_pos h, List.filter_nil, List.append_assoc,
    List.append_assoc]
  exact List.perm_append_comm.append_left _

/-- A deferred task adds the reply that it will send. -/
theorem replies_defer (task : Task) : (s.defer task).replies = s.replies ++ task.reply?.toList := by
  show s.outbox.queue.filter _ ++ (s.tasks ++ [task]).filterMap _ = _
  rw [List.filterMap_append, ← List.append_assoc]
  unfold replies
  cases h : task.reply? <;> simp [h]

/-- **Requests.** A request adds the reply that it gets. -/
theorem replies_handleRequest (hopen : s.outbox.isOpen = true) (id : Json) (method : RequestMethod)
    (params : Json) :
    (s.handleRequest id method params).replies.Perm
      (s.replies ++ [replyTo id (s.outcome params method)]) := by
  have hreply : ∀ reply, (replyTo id reply).isReply = true := by
    intro reply
    simp [Outgoing.isReply]
  -- the session does not count, and the reply is sent from the state that it leaves
  have hsent : ∀ session reply, ({ s with session }.post [replyTo id reply]).replies.Perm
      (s.replies ++ [replyTo id reply]) := fun session reply =>
    replies_post_singleton (s := { s with session }) hopen (hreply reply)
  cases method with
  | setUp =>
    simp only [handleRequest, outcome]
    cases s.session.setUp with
    | ok session => exact hsent session _
    | error e => exact hsent s.session _
  | shutDown => exact hsent s.session.shutDown _
  | query method =>
    simp only [handleRequest, outcome]
    cases s.capture method params with
    | ok query =>
      show (s.defer (.answer id query)).replies.Perm _
      rw [replies_defer]
      exact .rfl
    | error e => exact hsent s.session _
  | unknown name => exact hsent s.session _

/-- Publishing a set adds no reply, whatever else changes with it. -/
theorem replies_post_publication (s : Server) (uri : String) (diagnostics : List Diagnostic) :
    (s.post [publication uri diagnostics]).replies = s.replies := by
  refine replies_post_of_id?_eq_none fun x hx => ?_
  rw [List.mem_singleton.mp hx, publication, Outgoing.id?_notify]

/-- A change of a document adds no reply. -/
theorem replies_take (s : Server) (change : Mutation) : (s.take change).replies = s.replies := by
  have happly : (s.apply change).2.replies = s.replies := by
    cases change with
    | opened uri text => rfl
    | changed uri text => rfl
    | saved uri text => rfl
    | closed uri =>
      simp only [apply, Publisher.clear_eq]
      split
      · exact replies_post_publication s uri []
      · rfl
  unfold take
  revert happly
  rcases s.apply change with ⟨_ | snapshot, s'⟩
  · exact id
  · intro happly
    exact (replies_defer _).trans ((List.append_nil _).trans happly)

/-- An analysis adds no reply. -/
theorem replies_refresh (s : Server) (snapshot : Snapshot) :
    (s.perform (.refresh snapshot)).replies = s.replies := by
  simp only [perform, Publisher.refresh_eq]
  split
  · exact replies_post_publication s snapshot.uri _
  · rfl

/-- **Other messages.** Only a request adds a reply. -/
theorem replies_handle_of_reply?_eq_none (h : s.reply? m = none) :
    (s.handle m).1.replies = s.replies := by
  cases m with
  | request id name params => cases h
  | response id result error => rfl
  | notification name params =>
    simp only [handle, handleNotification]
    cases NotificationMethod.ofName name with
    | confirmed => rfl
    | exit => rfl
    | configurationChanged =>
      refine replies_post_of_id?_eq_none fun x hx => ?_
      simp only [noticeMessages, List.mem_cons, List.not_mem_nil, or_false] at hx
      rcases hx with rfl | rfl <;> exact Outgoing.id?_notify _ _
    | mutation method =>
      simp only [handleMutation_eq]
      split
      · exact replies_take s _
      · rfl
    | ignored => rfl

/-- Taking a task out takes its reply out. -/
theorem replies_without {task : Task} {front back : List Task}
    (h : s.tasks = front ++ task :: back) :
    s.replies.Perm ({ s with tasks := front ++ back }.replies ++ task.reply?.toList) := by
  show (s.outbox.queue.filter _ ++ s.tasks.filterMap _).Perm
    (s.outbox.queue.filter _ ++ (front ++ back).filterMap _ ++ _)
  have htask : (task :: back).filterMap (·.reply?) =
      task.reply?.toList ++ back.filterMap (·.reply?) := by
    cases hreply : task.reply? <;> simp [hreply]
  rw [h, List.filterMap_append, List.filterMap_append, htask, List.append_assoc, List.append_assoc]
  exact (List.perm_append_comm.append_left _).append_left _

/-- A task that is done sends the reply that was due. -/
theorem replies_performed {task : Task} {front back : List Task}
    (h : s.tasks = front ++ task :: back) (hopen : s.outbox.isOpen = true) :
    ({ s with tasks := front ++ back }.perform task).replies.Perm s.replies := by
  refine .trans ?_ (replies_without h).symm
  cases task with
  | answer id query =>
    exact replies_post_singleton (s := { s with tasks := front ++ back }) hopen
      (by simp [Outgoing.isReply])
  | refresh snapshot =>
    rw [replies_refresh]
    simp [Task.reply?]

/-- **One step.** A step adds the reply to the request that arrives, and nothing else. -/
theorem replies_step (h : Step s e s') (hopen : s'.outbox.isOpen = true) :
    s'.replies.Perm (s.replies ++ (settled? ⟨s, e, s'⟩).toList) := by
  have ho := isOpen_of_step h hopen
  cases h with
  | received m =>
    cases hreply : s.reply? m with
    | none =>
      simp only [settled?, hreply, Option.toList_none, List.append_nil]
      rw [replies_handle_of_reply?_eq_none hreply]
    | some reply =>
      simp only [settled?, hreply, Option.toList_some]
      cases m with
      | request id name params =>
        rw [← Option.some.inj hreply]
        exact replies_handleRequest ho id _ params
      | response id result error => cases hreply
      | notification name params => cases hreply
  | performed task front back htasks =>
    simp only [settled?, Option.toList_none, List.append_nil]
    exact replies_performed htasks ho
  | hungUp =>
    simp only [settled?, Option.toList_none, List.append_nil]
    exact .rfl

/-- **A whole run.** A run adds the replies to its requests, each as it was settled when the request
    arrived. -/
theorem replies_append_of_run {start : Server} {trace : Trace} (run : Run Step start trace s)
    (hopen : s.outbox.isOpen = true) :
    s.replies.Perm (start.replies ++ trace.filterMap settled?) := by
  induction run with
  | nil => simp
  | @snoc trace s s' e run h ih =>
    have hstep := replies_step h hopen
    rw [List.filterMap_append, ← List.append_assoc]
    refine hstep.trans ?_
    have hlast : [(⟨s, e, s'⟩ : Transition Server Event)].filterMap settled? =
        (settled? ⟨s, e, s'⟩).toList := by
      cases hsettled : settled? ⟨s, e, s'⟩ <;> simp [hsettled]
    rw [hlast]
    exact (ih (isOpen_of_step h hopen)).append_right _

/-- So from the start the replies are those to the requests. -/
theorem replies_of_run {analyzer : Analyzer} {trace : Trace}
    (run : Run Step (fresh analyzer) trace s) (hopen : s.outbox.isOpen = true) :
    s.replies.Perm (trace.filterMap settled?) :=
  replies_append_of_run run hopen

/-! ### Doing what is left -/

/-- Does the deferred tasks in the given order. -/
def drain (s : Server) (order : List Task) : Server := order.foldl perform { s with tasks := [] }

/-- The server settles in one such order, the answers before the analyses. -/
theorem exists_settle_eq_drain (s : Server) :
    ∃ order, List.Perm order s.tasks ∧ s.settle = s.drain order :=
  ⟨_, List.filter_append_perm (·.isAnswer) s.tasks, rfl⟩

theorem tasks_perform (s : Server) (task : Task) : (s.perform task).tasks = s.tasks := by
  cases task <;> rfl

/-- A task is done in the same way whatever other tasks are left. -/
theorem perform_with_tasks (s : Server) (task : Task) (tasks : List Task) :
    { s with tasks }.perform task = { s.perform task with tasks } := by
  cases task <;> rfl

/-- A task is done in the same way whatever the session. -/
theorem perform_with_session (s : Server) (task : Task) (session : Session) :
    { s with session }.perform task = { s.perform task with session } := by
  cases task <;> rfl

theorem tasks_drain (s : Server) (order : List Task) : (s.drain order).tasks = [] := by
  have hfold : ∀ (order : List Task) (u : Server), (order.foldl perform u).tasks = u.tasks := by
    intro order
    induction order with
    | nil => exact fun _ => rfl
    | cons task rest ih => exact fun u => (ih _).trans (tasks_perform u task)
  exact hfold order _

/-- Doing the tasks that are left, in any order, is a run, and no message arrives in it. -/
theorem run_drain {order : List Task} (h : order.Perm s.tasks) :
    ∃ more, Run Step s more (s.drain order) ∧ ∀ t ∈ more, ∃ task, t.label = .performed task := by
  induction order generalizing s with
  | nil =>
    have hs : s.drain [] = s := by
      show { s with tasks := [] } = s
      rw [h.nil_eq]
    rw [hs]
    exact ⟨[], .nil, by simp⟩
  | cons task rest ih =>
    obtain ⟨front, back, htasks⟩ := List.append_of_mem (h.subset List.mem_cons_self)
    have hrest : rest.Perm (front ++ back) := by
      rw [htasks] at h
      exact (h.trans List.perm_middle).cons_inv
    have hstep := Step.performed s task front back htasks
    obtain ⟨more, run, hmore⟩ := @ih ({ s with tasks := front ++ back }.perform task)
      (by rw [tasks_perform]; exact hrest)
    have hdrain : ({ s with tasks := front ++ back }.perform task).drain rest =
        s.drain (task :: rest) := by
      simp only [drain, List.foldl_cons, perform_with_tasks]
    refine ⟨_, hdrain ▸ (Run.single hstep).trans run, ?_⟩
    intro t ht
    rcases List.mem_append.mp ht with ht | ht
    · exact ⟨task, by rw [List.mem_singleton.mp ht]⟩
    · exact hmore t ht

/-! ### Requests and replies -/

/-- The identifier of the request that arrives in a transition. -/
def requestId? (t : Transition Server Event) : Option Json :=
  match t.label with
  | .received (.request id _ _) => some id
  | _ => none

/-- A reply bears the identifier of its request. -/
theorem requestId?_eq (t : Transition Server Event) :
    requestId? t = (settled? t).bind (·.id?) := by
  obtain ⟨s, e, s'⟩ := t
  cases e with
  | received m => cases m <;> simp [requestId?, settled?, reply?]
  | performed task => rfl
  | hungUp => rfl

/-- The identifiers of the replies that have been sent are all the identifiers sent. -/
theorem filterMap_id?_filter_isReply (queue : List Outgoing) :
    (queue.filter (·.isReply)).filterMap (·.id?) = queue.filterMap (·.id?) := by
  rw [List.filterMap_filter]
  congr 1
  funext m
  unfold Outgoing.isReply
  cases m.id? <;> rfl

/-- **One reply for each request.** Whatever messages arrive and in whatever order the tasks are
    done, once all of them are done: the identifiers of the bodies that carry one are those of the
    requests, each as often as it was used; each such body has either a result or an error; and
    only requests lead to such bodies, in any state of the server. -/
theorem replyIds_perm_requestIds {analyzer : Analyzer} {trace : Trace}
    (run : Run Step (fresh analyzer) trace s) {order : List Task} (horder : order.Perm s.tasks)
    (hopen : (s.drain order).outbox.isOpen = true) :
    ((s.drain order).outbox.queue.filterMap (·.id?)).Perm (trace.filterMap requestId?) ∧
    (∀ m ∈ (s.drain order).outbox.queue, m.id?.isSome = true →
      (m.toJson.get? "result").isSome = !(m.toJson.get? "error").isSome) ∧
    (∀ (u : Server) (name : String) (params : Json),
      (u.handle (.notification name params)).1.replies = u.replies) ∧
    (∀ (u : Server) (id : Json) (result : Option Json) (error : Option RpcError),
      (u.handle (.response id result error)).1.replies = u.replies) ∧
    (∀ (u : Server) (snapshot : Snapshot),
      (u.perform (.refresh snapshot)).replies = u.replies) := by
  refine ⟨?_, fun m _ h => Outgoing.isSome_result_of_isReply h, ?_, ?_, ?_⟩
  · obtain ⟨more, hmore, htasks⟩ := run_drain horder
    -- Draining only does tasks, so no request arrives meanwhile.
    have hnone : more.filterMap requestId? = [] := by
      rw [List.filterMap_eq_nil_iff]
      intro t ht
      obtain ⟨task, hlabel⟩ := htasks t ht
      simp [requestId?, hlabel]
    have hreplies := (replies_of_run (run.trans hmore) hopen).filterMap (·.id?)
    rw [replies, tasks_drain, List.filterMap_nil, List.append_nil, filterMap_id?_filter_isReply,
      List.filterMap_filterMap, ← funext requestId?_eq, List.filterMap_append, hnone,
      List.append_nil] at hreplies
    exact hreplies
  · intro u name params
    exact replies_handle_of_reply?_eq_none rfl
  · intro u id result error
    exact replies_handle_of_reply?_eq_none rfl
  · exact replies_refresh

/-- A request comes too early, and its identifier is used again for a query that is deferred behind
    an analysis. -/
theorem replyIds_perm_requestIds_used_twice :
    ∃ trace s, Run Step (fresh (.standard "webdsl" 200)) trace s ∧ s.tasks.length = 2 ∧
      (s.settle.outbox.queue.filterMap (·.id?)).Perm [.int 1, .str "a", .int 1] := by
  have run := (((Run.nil.snoc
    (Step.received (fresh (.standard "webdsl" 200))
      (.request (.int 1) "textDocument/completion" .null))).snoc
    (Step.received _ (.request (.str "a") "initialize" .null))).snoc
    (Step.received _ (.notification "textDocument/didOpen"
      (OpenParams.toJson ⟨⟨"u", "", 0, "x"⟩⟩)))).snoc
    (Step.received _ (.request (.int 1) "textDocument/hover"
      (PositionParams.toJson ⟨⟨"u"⟩, ⟨0, 0⟩⟩)))
  obtain ⟨order, horder, hsettle⟩ := exists_settle_eq_drain _
  refine ⟨_, _, run, rfl, ?_⟩
  rw [hsettle]
  exact (replyIds_perm_requestIds run horder (hsettle ▸ rfl)).1

end Server

end ServiceLang
