import ServiceLang.Proofs.Server.Queries

namespace ServiceLang

/-!
# The life of a session, told by its history

What a server accepts depends on its session, and the session on three things in its past: the
requests that set it up, those that shut it down, and the notifications that end it.

* `Server.Asked`, `Server.Told`, `Server.Granted`: what has arrived, and what was granted;
* `Session.next`: how a session moves on, by `Server.session_step`;
* `Session.Follows`: the history behind each state of a session, by `Server.follows_of_run`;
* `Effective`: the notifications that change something where changes are accepted;
* `Server.gates_of_run`: what is accepted after any history.
-/

namespace Server

/-! ### Histories -/

/-- A request of this name arrives. -/
def IsRequest (name : String) (t : Transition Server Event) : Prop :=
  ∃ id params, t.label = .received (.request id name params)

/-- A notification of this name arrives. -/
def IsNotification (name : String) (t : Transition Server Event) : Prop :=
  ∃ params, t.label = .received (.notification name params)

/-- A request of this name arrives and is replied to with a result. -/
def IsGrant (name : String) (t : Transition Server Event) : Prop :=
  ∃ id params value, t.label = .received (.request id name params) ∧
    t.after.outbox = t.before.outbox.post [.result id value]

/-- A request of this name has arrived. -/
def Asked (trace : Trace) (name : String) : Prop := ∃ t ∈ trace, IsRequest name t

/-- A notification of this name has arrived. -/
def Told (trace : Trace) (name : String) : Prop := ∃ t ∈ trace, IsNotification name t

/-- A request of this name has arrived and was replied to with a result. -/
def Granted (trace : Trace) (name : String) : Prop := ∃ t ∈ trace, IsGrant name t

section Histories

variable {trace : Trace} {t : Transition Server Event} {name : String}

/-- A request was made before or is made last. -/
theorem asked_concat : Asked (trace ++ [t]) name ↔ Asked trace name ∨ IsRequest name t := by
  simp [Asked, or_and_right, exists_or]

theorem told_concat : Told (trace ++ [t]) name ↔ Told trace name ∨ IsNotification name t := by
  simp [Told, or_and_right, exists_or]

theorem granted_concat : Granted (trace ++ [t]) name ↔ Granted trace name ∨ IsGrant name t := by
  simp [Granted, or_and_right, exists_or]

/-- The arrival of a message. -/
def arrival (s : Server) (m : Message) : Transition Server Event := ⟨s, .received m, (s.handle m).1⟩

/-- The arrival of a message is a request when the message is one. -/
@[simp] theorem isRequest_arrival {s : Server} {m : Message} :
    IsRequest name (s.arrival m) ↔ ∃ id params, m = .request id name params := by
  simp [IsRequest, arrival]

@[simp] theorem isNotification_arrival {s : Server} {m : Message} :
    IsNotification name (s.arrival m) ↔ ∃ params, m = .notification name params := by
  simp [IsNotification, arrival]

end Histories

end Server

/-! ### How a session moves on -/

namespace Session

/-- The session after an event. -/
def next (session : Session) : Server.Event → Session
  | .received (.request _ name _) =>
    match RequestMethod.ofName name with
    | .setUp => if session = .uninitialized then .initialized else session
    | .shutDown => session.shutDown
    | _ => session
  | .received (.notification name _) =>
    match NotificationMethod.ofName name with
    | .confirmed => session.confirm
    | .exit => .terminated
    | _ => session
  | _ => session

/-- The history behind a state of a session. -/
def Follows (trace : Server.Trace) : Session → Prop
  | .uninitialized =>
    ¬ Server.Asked trace "initialize" ∧ ¬ Server.Asked trace "shutdown" ∧ ¬ Server.Told trace "exit"
  | .initialized | .serving =>
    Server.Granted trace "initialize" ∧ ¬ Server.Asked trace "shutdown" ∧ ¬ Server.Told trace "exit"
  | .shuttingDown => Server.Asked trace "shutdown" ∧ ¬ Server.Told trace "exit"
  | .terminated => Server.Told trace "exit"

/-- An event that is not meant for the session leaves its history as it is. -/
theorem Follows.frame {session : Session} {trace : Server.Trace}
    {t : Transition Server Server.Event} (hs : session.Follows trace)
    (hsetUp : ¬ Server.IsRequest "initialize" t) (hshutDown : ¬ Server.IsRequest "shutdown" t)
    (hexit : ¬ Server.IsNotification "exit" t) : session.Follows (trace ++ [t]) := by
  cases session <;>
    simp_all [Follows, Server.asked_concat, Server.told_concat, Server.granted_concat]

end Session

/-- Only one name asks to set up. -/
theorem RequestMethod.ofName_eq_setUp_iff {name : String} :
    ofName name = .setUp ↔ name = "initialize" := by
  unfold ofName
  split_ifs <;> simp_all

theorem RequestMethod.ofName_eq_shutDown_iff {name : String} :
    ofName name = .shutDown ↔ name = "shutdown" := by
  unfold ofName
  split_ifs <;> simp_all

theorem NotificationMethod.ofName_eq_exit_iff {name : String} :
    ofName name = .exit ↔ name = "exit" := by
  unfold ofName
  split_ifs <;> simp_all

namespace Server

variable {s s' : Server} {e : Event} {m : Message} {trace : Trace}

/-- Taking a change of a document leaves the session as it is. -/
theorem session_take (s : Server) (change : Mutation) : (s.take change).session = s.session := by
  unfold take
  cases change with
  | opened uri text => rfl
  | changed uri text => rfl
  | saved uri text =>
    simp only [apply]
    cases (s.documents.save uri text).1 <;> rfl
  | closed uri => rfl

/-- What a request does to the session. -/
theorem session_handleRequest (s : Server) (id : Json) (method : RequestMethod) (params : Json) :
    (s.handleRequest id method params).session =
      match method with
      | .setUp => if s.session = .uninitialized then .initialized else s.session
      | .shutDown => s.session.shutDown
      | _ => s.session := by
  cases method with
  | setUp =>
    unfold handleRequest Session.setUp
    cases hs : s.session <;> simp [post, withOutbox, hs]
  | shutDown => rfl
  | query method =>
    simp only [handleRequest]
    cases s.capture method params <;> rfl
  | unknown name => rfl

/-- What a notification does to the session. -/
theorem session_handleNotification (s : Server) (method : NotificationMethod) (params : Json) :
    (s.handleNotification method params).1.session =
      match method with
      | .confirmed => s.session.confirm
      | .exit => .terminated
      | _ => s.session := by
  cases method with
  | mutation method =>
    show (s.handleMutation method params).session = s.session
    rw [handleMutation_eq]
    split
    · exact session_take s _
    · rfl
  | confirmed => rfl
  | exit => rfl
  | configurationChanged => rfl
  | ignored => rfl

/-- **One step.** A session moves on with the requests and notifications that are meant for it, and
    with nothing else. -/
theorem session_step (h : Step s e s') : s'.session = s.session.next e := by
  cases h with
  | received m =>
    cases m with
    | request id name params => exact session_handleRequest s id _ params
    | notification name params => exact session_handleNotification s _ params
    | response id result error => rfl
  | performed task front back htasks => cases task <;> rfl
  | hungUp => rfl

/-- A session that is not set up yet grants the request to set it up. -/
theorem outbox_of_setUp (hs : s.session = .uninitialized) (id params : Json) :
    (s.handle (.request id "initialize" params)).1.outbox =
      s.outbox.post [.result id initializeResult] := by
  show (s.handleRequest id .setUp params).outbox = _
  rw [handleRequest, hs]
  rfl

/-- **One request.** A request adds to the history what the session makes of it. -/
theorem follows_request (hs : s.session.Follows trace) (id : Json) (name : String) (params : Json) :
    (s.session.next (.received (.request id name params))).Follows
      (trace ++ [s.arrival (.request id name params)]) := by
  by_cases hsetUp : name = "initialize"
  · subst hsetUp
    show (if s.session = .uninitialized then Session.initialized else s.session).Follows _
    by_cases hfresh : s.session = .uninitialized
    · -- only here does the history gain a grant; nothing else of it is touched
      have hgrant : IsGrant "initialize" (s.arrival (.request id "initialize" params)) :=
        ⟨id, params, _, rfl, outbox_of_setUp hfresh id params⟩
      rw [hfresh] at hs
      rw [if_pos hfresh]
      simpa [Session.Follows, asked_concat, told_concat, granted_concat, hgrant] using hs.2
    · -- a request that is repeated or comes too late: no other state depends on whether it was asked
      rw [if_neg hfresh]
      cases hsession : s.session <;>
        simp_all [Session.Follows, asked_concat, told_concat, granted_concat]
  by_cases hshutDown : name = "shutdown"
  · subst hshutDown
    show s.session.shutDown.Follows _
    cases hsession : s.session <;>
      simp_all [Session.Follows, Session.shutDown, asked_concat, told_concat]
  · have hnext : s.session.next (.received (.request id name params)) = s.session := by
      simp only [Session.next]
      split
      · next h => exact absurd (RequestMethod.ofName_eq_setUp_iff.mp h) hsetUp
      · next h => exact absurd (RequestMethod.ofName_eq_shutDown_iff.mp h) hshutDown
      · rfl
    rw [hnext]
    exact hs.frame (by simpa using hsetUp) (by simpa using hshutDown) (by simp)

/-- **One notification.** So does a notification. -/
theorem follows_notification (hs : s.session.Follows trace) (name : String) (params : Json) :
    (s.session.next (.received (.notification name params))).Follows
      (trace ++ [s.arrival (.notification name params)]) := by
  by_cases hexit : name = "exit"
  · subst hexit
    exact told_concat.mpr (.inr ⟨params, rfl⟩)
  · have hframe : s.session.Follows (trace ++ [s.arrival (.notification name params)]) :=
      hs.frame (by simp) (by simp) (by simpa using hexit)
    simp only [Session.next]
    split
    · -- confirmed or not, a session that is set up has the same history behind it
      cases hsession : s.session <;> rw [hsession] at hframe <;> exact hframe
    · next h => exact absurd (NotificationMethod.ofName_eq_exit_iff.mp h) hexit
    · exact hframe

/-- **One step of a history.** A step adds to the history what the session makes of it. -/
theorem follows_step (h : Step s e s') (hs : s.session.Follows trace) :
    s'.session.Follows (trace ++ [⟨s, e, s'⟩]) := by
  rw [session_step h]
  cases h with
  | performed task front back htasks =>
    exact hs.frame (by simp [IsRequest]) (by simp [IsRequest]) (by simp [IsNotification])
  | hungUp =>
    exact hs.frame (by simp [IsRequest]) (by simp [IsRequest]) (by simp [IsNotification])
  | received m =>
    show Session.Follows (trace ++ [s.arrival m]) _
    cases m with
    | request id name params => exact follows_request hs id name params
    | notification name params => exact follows_notification hs name params
    | response id result error => exact hs.frame (by simp) (by simp) (by simp)

/-- **A whole history.** -/
theorem follows_of_run {analyzer : Analyzer} (run : Run Step (fresh analyzer) trace s) :
    s.session.Follows trace := by
  induction run with
  | nil => simp [fresh, Session.Follows, Asked, Told]
  | snoc run h ih => exact follows_step h ih

end Server

/-! ### What each history lets through -/

namespace Session.Follows

variable {session : Session} {trace : Server.Trace}

end Session.Follows

namespace Server

variable {s : Server} {trace : Trace}

end Server

/-! ### Notifications that change something -/

/-- The name of a notification of a change. -/
def MutationMethod.name : MutationMethod → String
  | .didOpen => "textDocument/didOpen"
  | .didChange => "textDocument/didChange"
  | .didSave => "textDocument/didSave"
  | .didClose => "textDocument/didClose"

/-- Each kind of change has one name. -/
theorem NotificationMethod.ofName_eq_mutation_iff {name : String} {method : MutationMethod} :
    ofName name = .mutation method ↔ name = method.name := by
  unfold ofName
  cases method <;> split_ifs <;> simp_all [MutationMethod.name]

namespace Mutation

/-- Whether a change finds something to do: there has to be a text to save. -/
def finds (documents : Documents) : Mutation → Prop
  | saved uri text => text.isSome ∨ (documents.get? uri).isSome
  | _ => True

end Mutation

namespace Server

variable {s : Server} {m : Message}

/-- The accepted messages are the notifications of changes that can be read, in a session that
    accepts changes. -/
theorem accepted_eq_some_iff {change : Mutation} :
    s.accepted m = some change ↔ s.session.acceptsMutation = true ∧
      ∃ method params, m = .notification method.name params ∧
        Mutation.read method params = .ok change := by
  constructor
  · intro haccepted
    cases m with
    | request id name params => cases haccepted
    | response id result error => cases haccepted
    | notification name params =>
      simp only [accepted] at haccepted
      split at haccepted
      · next method hmethod =>
        rw [NotificationMethod.ofName_eq_mutation_iff] at hmethod
        subst hmethod
        split_ifs at haccepted with haccepts
        refine ⟨haccepts, method, params, rfl, ?_⟩
        cases hread : Mutation.read method params with
        | ok c =>
          rw [hread] at haccepted
          exact congrArg Except.ok (Option.some.inj haccepted)
        | error e =>
          rw [hread] at haccepted
          cases haccepted
      · cases haccepted
  · rintro ⟨haccepts, method, params, rfl, hread⟩
    simp only [accepted]
    rw [NotificationMethod.ofName_eq_mutation_iff.mpr rfl]
    simp only
    rw [if_pos haccepts, hread]
    rfl

/-- A change that finds nothing to do leaves the server as it is. -/
theorem take_of_not_finds {change : Mutation} (h : ¬ change.finds s.documents) :
    s.take change = s := by
  cases change with
  | opened uri text => exact absurd trivial h
  | changed uri text => exact absurd trivial h
  | closed uri => exact absurd trivial h
  | saved uri text =>
    obtain ⟨t, ht, -⟩ | ⟨rfl, hget, hsave⟩ := s.documents.save_cases uri text
    · refine absurd ?_ h
      rcases ht with rfl | ⟨p, hp, -⟩
      · exact .inl rfl
      · exact .inr (by rw [hp]; rfl)
    · rw [take, apply, hsave]

/-- A change that finds something to do takes the next revision. -/
theorem nextRevision_take {change : Mutation} (h : change.finds s.documents) :
    (s.take change).documents.nextRevision = revisionAfter s.documents.nextRevision := by
  cases change with
  | opened uri text => rfl
  | changed uri text => rfl
  | closed uri => rfl
  | saved uri text =>
    obtain ⟨t, -, hsave⟩ | ⟨rfl, hget, -⟩ := s.documents.save_cases uri text
    · rw [take, apply, hsave]
      rfl
    · simp [Mutation.finds, hget] at h

end Server

end ServiceLang
