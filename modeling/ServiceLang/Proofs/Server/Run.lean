import ServiceLang.Proofs.Publishing.Desk
import ServiceLang.Server.Basic

namespace ServiceLang

/-!
# Runs of the server

Messages arrive one after another, and the deferred tasks are done at any later time and in any
order, each once.

* `Server.Event`, `Server.Step`: what can happen to a server, as a step relation for `Run`;
* `Mutation.read`: the change of a document that a notification tells of;
* `Server.accepted`: the change that a message makes in the state of the server;
* `Server.take`: what an accepted change does, by `Server.handle_of_accepted`;
* `Server.Aside`: what every other message does, by `Server.handle_of_not_accepted`.
-/

/-- Whether a message publishes diagnostics. -/
def Outgoing.isPublication : Outgoing → Bool
  | .notify method _ => method == "textDocument/publishDiagnostics"
  | _ => false

/-! ### Changes of documents -/

/-- The change of a document that a notification tells of. -/
def Mutation.read (method : MutationMethod) (params : Json) : Except ServerError Mutation :=
  match method with
  | .didOpen => do
    let p ← Server.readParams OpenParams.decode params
    return .opened p.document.uri p.document.text
  | .didChange => do
    let p ← Server.readParams ChangeParams.decode params
    match p.changes.getLast? with
    | some change => return .changed p.document.uri change.text
    | none => throw (.rpc ErrorCode.invalidParams "didChange without content")
  | .didSave => do
    let p ← Server.readParams SaveParams.decode params
    return .saved p.document.uri p.text
  | .didClose => do
    let p ← Server.readParams CloseParams.decode params
    return .closed p.document.uri

namespace Server

/-- Applies a change to the documents, and gives the snapshot to analyze, if any. -/
def apply (s : Server) : Mutation → Option Snapshot × Server
  | .opened uri text =>
    (some (s.documents.store uri text).1, { s with documents := (s.documents.store uri text).2 })
  | .changed uri text =>
    (some (s.documents.store uri text).1, { s with documents := (s.documents.store uri text).2 })
  | .saved uri text =>
    ((s.documents.save uri text).1, { s with documents := (s.documents.save uri text).2 })
  | .closed uri =>
    (none,
      { s with
        documents := (s.documents.close uri).2
        publisher := s.publisher.clear uri (s.documents.close uri).1 })

/-- Takes a change, and defers the analysis of the snapshot that it leaves. -/
def take (s : Server) (m : Mutation) : Server :=
  match s.apply m with
  | (some snapshot, s') => s'.defer (.refresh snapshot)
  | (none, s') => s'

/-- A change is first read and then applied. -/
theorem mutate_eq (s : Server) (method : MutationMethod) (params : Json) :
    s.mutate method params = (Mutation.read method params).map s.apply := by
  cases method with
  | didOpen =>
    rw [mutate, Mutation.read]
    cases readParams OpenParams.decode params <;> rfl
  | didChange =>
    rw [mutate, Mutation.read]
    cases readParams ChangeParams.decode params with
    | error e => rfl
    | ok p =>
      simp only [bind, Except.bind]
      cases p.changes.getLast? <;> rfl
  | didSave =>
    rw [mutate, Mutation.read]
    cases readParams SaveParams.decode params <;> rfl
  | didClose =>
    rw [mutate, Mutation.read]
    cases readParams CloseParams.decode params <;> rfl

/-- The change of a document that a message makes: it has to be a notification of a change that
    can be read, in a session that accepts changes. -/
def accepted (s : Server) : Message → Option Mutation
  | .notification name params =>
    match NotificationMethod.ofName name with
    | .mutation method =>
      if s.session.acceptsMutation then (Mutation.read method params).toOption else none
    | _ => none
  | _ => none

/-! ### Steps -/

/-- What can happen to a server: a message arrives, a task is done, or the client hangs up. -/
inductive Event where
  | received (m : Message)
  | performed (task : Task)
  | hungUp

/-- One step. -/
inductive Step : Server → Event → Server → Prop
  | received (s : Server) (m : Message) : Step s (.received m) (s.handle m).1
  | performed (s : Server) (task : Task) (front back : List Task)
      (h : s.tasks = front ++ task :: back) :
      Step s (.performed task) ({ s with tasks := front ++ back }.perform task)
  | hungUp (s : Server) : Step s .hungUp (s.withOutbox s.outbox.close)

/-- The transitions of a server. -/
abbrev Trace := List (Transition Server Event)

/-- The change of a document that a transition makes. -/
def mutation? (t : Transition Server Event) : Option Mutation :=
  match t.label with
  | .received m => t.before.accepted m
  | _ => none

/-- The number of accepted changes in a trace. -/
def mutationCount (trace : Trace) : Nat := trace.countP fun t => (mutation? t).isSome

/-! ### What a message does -/

variable {s : Server} {m : Message}

/-- A notification of a change is taken if it is accepted, and ignored otherwise. -/
theorem handleMutation_eq (s : Server) (method : MutationMethod) (params : Json) :
    s.handleMutation method params =
      match if s.session.acceptsMutation then (Mutation.read method params).toOption else none with
      | some change => s.take change
      | none => s := by
  rw [handleMutation]
  by_cases ha : s.session.acceptsMutation = true
  · rw [if_pos ha, if_pos ha, mutate_eq]
    cases Mutation.read method params with
    | error e => rfl
    | ok change =>
      simp only [Except.map, Except.toOption, take]
      rcases s.apply change with ⟨_ | snapshot, s'⟩ <;> rfl
  · rw [if_neg ha, if_neg ha]

/-- An accepted change is taken. -/
theorem handle_of_accepted {change : Mutation} (h : s.accepted m = some change) :
    (s.handle m).1 = s.take change := by
  cases m with
  | request id name params => cases h
  | response id result error => cases h
  | notification name params =>
    simp only [accepted] at h
    simp only [handle, handleNotification]
    cases hm : NotificationMethod.ofName name with
    | mutation method =>
      rw [hm] at h
      simp only at h ⊢
      rw [handleMutation_eq, h]
    | confirmed => rw [hm] at h; cases h
    | exit => rw [hm] at h; cases h
    | configurationChanged => rw [hm] at h; cases h
    | ignored => rw [hm] at h; cases h

/-- What a message can do besides changing documents: it moves the session on, sends messages
    that publish nothing, and defers answers. -/
structure Aside (s s' : Server) (messages : List Outgoing) (answers : List Task) : Prop where
  documents : s'.documents = s.documents
  publisher : s'.publisher = (s.post messages).publisher
  tasks : s'.tasks = s.tasks ++ answers
  not_publication : ∀ x ∈ messages, x.isPublication = false
  isAnswer : ∀ task ∈ answers, task.isAnswer = true

/-- A step aside that only moves the session on. -/
theorem aside_session (s : Server) (session : Session) : Aside s { s with session } [] [] where
  documents := rfl
  publisher := by
    show s.publisher = { s.publisher with outbox := s.publisher.outbox.post [] }
    rw [Outbox.post_nil]
  tasks := (List.append_nil _).symm
  not_publication := by simp
  isAnswer := by simp

/-- A step aside that sends messages. -/
theorem aside_post (s : Server) (session : Session) {messages : List Outgoing}
    (h : ∀ x ∈ messages, x.isPublication = false) :
    Aside s ({ s with session }.post messages) messages [] where
  documents := rfl
  publisher := rfl
  tasks := (List.append_nil _).symm
  not_publication := h
  isAnswer := by simp

/-- A step aside that defers an answer. -/
theorem aside_answer (s : Server) (id : Json) (query : Query) :
    Aside s (s.defer (.answer id query)) [] [.answer id query] where
  documents := rfl
  publisher := (aside_session s s.session).publisher
  tasks := rfl
  not_publication := by simp
  isAnswer := by simp [Task.isAnswer]

/-- A reply publishes nothing. -/
theorem isPublication_reply (id : Json) (reply : Except ServerError Json) :
    ∀ x ∈ [replyTo id reply], x.isPublication = false := by
  intro x hx
  rw [List.mem_singleton] at hx
  subst hx
  cases reply <;> rfl

/-- A notice publishes nothing. -/
theorem isPublication_notice (n : Notice) :
    ∀ x ∈ noticeMessages n, x.isPublication = false := by
  intro x hx
  simp only [noticeMessages, List.mem_cons, List.not_mem_nil, or_false] at hx
  rcases hx with rfl | rfl <;> rfl

/-- A request is a step aside. -/
theorem aside_request (s : Server) (id : Json) (method : RequestMethod) (params : Json) :
    ∃ messages answers, Aside s (s.handleRequest id method params) messages answers := by
  cases method with
  | setUp =>
    simp only [handleRequest]
    cases s.session.setUp with
    | ok session => exact ⟨_, _, aside_post s session (isPublication_reply id _)⟩
    | error e => exact ⟨_, _, aside_post s s.session (isPublication_reply id _)⟩
  | shutDown =>
    exact ⟨_, _, aside_post s s.session.shutDown (isPublication_reply id (.ok .null))⟩
  | query method =>
    simp only [handleRequest]
    cases s.capture method params with
    | ok query => exact ⟨_, _, aside_answer s id query⟩
    | error e => exact ⟨_, _, aside_post s s.session (isPublication_reply id _)⟩
  | unknown name =>
    exact ⟨_, _, aside_post s s.session (isPublication_reply id (.error _))⟩

/-- **What a message does.** A message that is no accepted change of a document is a step
    aside. -/
theorem handle_of_not_accepted (h : s.accepted m = none) :
    ∃ messages answers, Aside s (s.handle m).1 messages answers := by
  cases m with
  | request id name params => exact aside_request s id _ params
  | response id result error => exact ⟨_, _, aside_session s s.session⟩
  | notification name params =>
    simp only [accepted] at h
    simp only [handle, handleNotification]
    cases hm : NotificationMethod.ofName name with
    | mutation method =>
      rw [hm] at h
      simp only at h ⊢
      rw [handleMutation_eq, h]
      exact ⟨_, _, aside_session s s.session⟩
    | confirmed => exact ⟨_, _, aside_session s _⟩
    | exit => exact ⟨_, _, aside_session s _⟩
    | configurationChanged =>
      exact ⟨_, _, aside_post s s.session (isPublication_notice _)⟩
    | ignored => exact ⟨_, _, aside_session s s.session⟩

end Server

end ServiceLang
