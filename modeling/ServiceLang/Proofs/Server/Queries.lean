import ServiceLang.Proofs.Server.Replies

namespace ServiceLang

/-!
# Queries answer from the text at their arrival

The text that a query is answered from is told by the changes of its document that were accepted
before the query arrived. When the answer is computed does not matter.

* `currentText`: the text of a document after some changes, told without any store;
* `Server.text?_of_run`: it is the text that the server has stored;
* `Asks`: a well-formed query, and how its answer depends on the text of its document;
* `Server.reply_of_asks`: the reply to such a query.
-/

/-! ### The text of a document after some changes -/

/-- Whether the change closes the document. -/
def Mutation.closes : Mutation → Bool
  | .closed _ => true
  | _ => false

/-- The text of a document after some changes: the last one that a change of the document brought
    along since its last closure. -/
def currentText (uri : String) (changes : List Mutation) : Option String :=
  ((changes.filter (·.uri = uri)).reverse.takeWhile (!·.closes)).findSome? (·.text?)

/-- One more change: a closure ends the text, another change of the document may replace it, and
    the other documents do not count. -/
theorem currentText_concat (uri : String) (changes : List Mutation) (change : Mutation) :
    currentText uri (changes ++ [change]) =
      if change.uri = uri then
        if change.closes then none else change.text?.or (currentText uri changes)
      else currentText uri changes := by
  unfold currentText
  rw [List.filter_append, List.reverse_append]
  by_cases huri : change.uri = uri
  · rw [if_pos huri, List.filter_cons_of_pos (by simpa using huri)]
    simp only [List.filter_nil, List.reverse_cons, List.reverse_nil, List.nil_append,
      List.cons_append, List.takeWhile_cons]
    cases change.closes
    · simp only [Bool.not_false, if_true, List.findSome?_cons]
      cases change.text? <;> rfl
    · rfl
  · rw [if_neg huri, List.filter_cons_of_neg (by simpa using huri)]
    rfl

/-- The stored text of an open document. -/
def Documents.text? (d : Documents) (uri : String) : Option String := (d.get? uri).map (·.text)

@[simp] theorem Documents.text?_store (d : Documents) (uri text u : String) :
    (d.store uri text).2.text? u = if u = uri then some text else d.text? u := by
  unfold text?
  rw [get?_store]
  split <;> rfl

@[simp] theorem Documents.text?_close (d : Documents) (uri u : String) :
    (d.close uri).2.text? u = if u = uri then none else d.text? u := by
  unfold text?
  rw [get?_close]
  split <;> rfl

@[simp] theorem Documents.text?_save (d : Documents) (uri : String) (text : Option String)
    (u : String) :
    (d.save uri text).2.text? u = if u = uri then text.or (d.text? u) else d.text? u := by
  cases text with
  | some t => exact d.text?_store uri t u
  | none =>
    rw [Option.none_or, ite_self]
    unfold save
    cases h : d.entries.lookup uri with
    | none => rfl
    | some entry =>
      -- the text that is there already is stored again
      have htext : d.text? uri = some entry.text := by rw [text?, get?, h]; rfl
      rw [show (d.store uri entry.text).2.text? u = _ from d.text?_store uri entry.text u]
      by_cases hu : u = uri
      · rw [if_pos hu, hu, htext]
      · rw [if_neg hu]

namespace Server

variable {s s' : Server} {e : Event} {uri : String}

/-- What a change does to the text of a document. -/
theorem text?_take (s : Server) (change : Mutation) (uri : String) :
    (s.take change).documents.text? uri =
      if change.uri = uri then
        if change.closes then none else change.text?.or (s.documents.text? uri)
      else s.documents.text? uri := by
  have hdocuments : (s.take change).documents = (s.apply change).2.documents := by
    unfold take
    rcases s.apply change with ⟨_ | snapshot, s'⟩ <;> rfl
  rw [hdocuments]
  cases change <;> simp [apply, Mutation.uri, Mutation.closes, Mutation.text?, eq_comm]

/-- A step changes documents only by the change that it makes. -/
theorem text?_step (h : Step s e s') :
    s'.documents.text? uri =
      match mutation? ⟨s, e, s'⟩ with
      | some change => (s.take change).documents.text? uri
      | none => s.documents.text? uri := by
  cases h with
  | received m =>
    show _ = match s.accepted m with
      | some change => (s.take change).documents.text? uri
      | none => s.documents.text? uri
    cases haccepted : s.accepted m with
    | some change => rw [handle_of_accepted haccepted]
    | none =>
      obtain ⟨messages, answers, haside⟩ := handle_of_not_accepted haccepted
      rw [haside.documents]
  | performed task front back htasks => cases task <;> rfl
  | hungUp => rfl

/-- **The stored text.** The text that is stored for a document is told by the changes that were
    accepted. -/
theorem text?_of_run {analyzer : Analyzer} {trace : Trace}
    (run : Run Step (fresh analyzer) trace s) (uri : String) :
    s.documents.text? uri = currentText uri (trace.filterMap mutation?) := by
  induction run with
  | nil => rfl
  | @snoc trace s s' e run h ih =>
    rw [text?_step h, List.filterMap_append]
    cases hmutation : mutation? ⟨s, e, s'⟩ with
    | none => simp [hmutation, ih]
    | some change =>
      simp only [List.filterMap_cons, List.filterMap_nil, hmutation]
      rw [text?_take, currentText_concat, ih]

end Server

/-! ### Queries -/

/-- The answer to a query about a place: what hovering there shows, or null. -/
def hoverAnswer (position : Position) (text : Option String) : Json :=
  match text.bind (hoverAt · position) with
  | some card => card.toJson
  | none => .null

/-- The answer to a query for symbols: those of the text, and none without a text. -/
def symbolsAnswer : Option String → Json
  | some text => .arr ((documentSymbols text).map (·.toJson))
  | none => .arr []

/-- A well-formed query about a document: its identifier, the document, and its answer, which
    depends on the text of the document. -/
inductive Asks : Message → Json → String → (Option String → Json) → Prop
  | hover {id params : Json} {p : PositionParams} (h : PositionParams.decode params = .ok p) :
      Asks (.request id "textDocument/hover" params) id p.document.uri (hoverAnswer p.position)
  | symbols {id params : Json} {p : SymbolParams} (h : SymbolParams.decode params = .ok p) :
      Asks (.request id "textDocument/documentSymbol" params) id p.document.uri symbolsAnswer

/-- The query that parameters give, with the snapshot of its document. -/
def Query.read (documents : Documents) (method : QueryMethod) (params : Json) :
    Except ServerError Query :=
  match method with
  | .hover => do
    let p ← Server.readParams PositionParams.decode params
    return .hover (documents.get? p.document.uri) p.position
  | .completion => do
    let _ ← Server.readParams PositionParams.decode params
    return .completion
  | .documentSymbol => do
    let p ← Server.readParams SymbolParams.decode params
    return .symbols (documents.get? p.document.uri)

namespace Server

variable {s : Server} {m : Message} {id : Json} {uri : String} {answer : Option String → Json}

/-- The session is asked first, and then the parameters are read. -/
theorem capture_eq (s : Server) (method : QueryMethod) (params : Json) :
    s.capture method params =
      match s.session.check .query with
      | .ok _ => Query.read s.documents method params
      | .error e => .error e := by
  unfold capture
  cases s.session.check .query with
  | error e => rfl
  | ok _ => cases method <;> rfl

/-- A query in a session that accepts it is deferred with the answer from the stored text. -/
theorem handle_of_asks (hasks : Asks m id uri answer) (haccepted : s.session.check .query = .ok ()) :
    ∃ query, (s.handle m).1 = s.defer (.answer id query) ∧
      query.answer = answer (s.documents.text? uri) ∧
      s.reply? m = some (.result id query.answer) := by
  cases hasks with
  | @hover _ params p h =>
    have hcapture : s.capture .hover params =
        .ok (.hover (s.documents.get? p.document.uri) p.position) := by
      simp [capture_eq, haccepted, Query.read, readParams, h, bind, Except.bind, pure, Except.pure]
    refine ⟨.hover (s.documents.get? p.document.uri) p.position, ?_, ?_, ?_⟩
    · show s.handleRequest id (.query .hover) params = _
      rw [handleRequest, hcapture]
    · simp only [Query.answer, hoverAnswer, Documents.text?, Option.bind_map]
      rfl
    · show some (replyTo id (s.outcome params (.query .hover))) = _
      rw [outcome, hcapture]
      rfl
  | @symbols _ params p h =>
    have hcapture : s.capture .documentSymbol params =
        .ok (.symbols (s.documents.get? p.document.uri)) := by
      simp [capture_eq, haccepted, Query.read, readParams, h, bind, Except.bind, pure, Except.pure]
    refine ⟨.symbols (s.documents.get? p.document.uri), ?_, ?_, ?_⟩
    · show s.handleRequest id (.query .documentSymbol) params = _
      rw [handleRequest, hcapture]
    · unfold Query.answer Documents.text? symbolsAnswer
      cases s.documents.get? p.document.uri <;> rfl
    · show some (replyTo id (s.outcome params (.query .documentSymbol))) = _
      rw [outcome, hcapture]
      rfl

theorem eq_handle_of_step {s' : Server} (h : Step s (.received m) s') : s' = (s.handle m).1 := by
  cases h
  rfl

/-- An answer that is done is sent, whatever the state is by then. -/
theorem outbox_of_step {s' : Server} {query : Query} (h : Step s (.performed (.answer id query)) s') :
    s'.outbox = s.outbox.post [.result id query.answer] := by
  cases h
  rfl

/-- The reply to a query, told by the changes that were accepted before it arrived. -/
def replyAfter (front : Trace) (id : Json) (uri : String) (answer : Option String → Json) : Outgoing :=
  .result id (answer (currentText uri (front.filterMap mutation?)))

/-- **Queries answer from the text at their arrival.** Take any run in which a well-formed query
    arrives in a session that accepts it. Nothing is sent at once, and one task is deferred; whenever
    it is done, it sends the answer from the text that the changes accepted before the query give.
    So the client gets this reply once all tasks are done, and it gets no other one if the
    identifier of the query is not used again. -/
theorem reply_of_asks {analyzer : Analyzer} {front back : Trace} {b a : Server}
    (run : Run Step (fresh analyzer) (front ++ ⟨b, .received m, a⟩ :: back) s)
    (hasks : Asks m id uri answer) (haccepted : b.session.check .query = .ok ()) :
    (∃ query, a = b.defer (.answer id query) ∧ ∀ t ∈ back,
      t.label = .performed (.answer id query) →
        t.after.outbox = t.before.outbox.post [replyAfter front id uri answer]) ∧
    (s.outbox.isOpen = true → s.tasks = [] →
      replyAfter front id uri answer ∈ s.outbox.queue) ∧
    (s.outbox.isOpen = true → (∀ t ∈ front ++ back, requestId? t ≠ some id) →
      ∀ x ∈ s.outbox.queue, x.id? = some id → x = replyAfter front id uri answer) := by
  obtain ⟨hfront, hstep, hback⟩ := run.split
  obtain ⟨query, hdefer, hanswer, hreply⟩ := handle_of_asks hasks haccepted
  rw [text?_of_run hfront] at hanswer
  have hquery : Outgoing.result id query.answer = replyAfter front id uri answer := by
    rw [hanswer]
    rfl
  have hsettled : settled? ⟨b, .received m, a⟩ = some (replyAfter front id uri answer) := by
    rw [← hquery]
    exact hreply
  refine ⟨⟨query, ?_, ?_⟩, ?_, ?_⟩
  · exact (eq_handle_of_step hstep).trans hdefer
  · intro t ht hlabel
    rw [← hquery]
    exact outbox_of_step (hlabel ▸ hback.step_of_mem ht)
  · intro hopen hdone
    have hmem : replyAfter front id uri answer ∈ s.replies := by
      rw [(replies_of_run run hopen).mem_iff, List.mem_filterMap]
      exact ⟨_, List.mem_append_right _ List.mem_cons_self, hsettled⟩
    rw [replies, hdone, List.filterMap_nil, List.append_nil] at hmem
    exact List.mem_of_mem_filter hmem
  · intro hopen hunique x hx hid
    have hmem : x ∈ s.replies :=
      List.mem_append_left _ (List.mem_filter.mpr ⟨hx, by rw [Outgoing.isReply, hid]; rfl⟩)
    rw [(replies_of_run run hopen).mem_iff, List.mem_filterMap] at hmem
    obtain ⟨t, ht, hx⟩ := hmem
    -- the request that was answered so bears the identifier, and only one does
    have hrequest : requestId? t = some id := by rw [requestId?_eq, hx, Option.bind_some, hid]
    rcases List.mem_append.mp ht with ht | ht
    · exact absurd hrequest (hunique t (List.mem_append_left _ ht))
    rcases List.mem_cons.mp ht with rfl | ht
    · rw [hsettled] at hx
      exact (Option.some.inj hx).symm
    · exact absurd hrequest (hunique t (List.mem_append_right _ ht))

/-- A document is opened, asked about and closed before the query is answered: the answer is that of
    the text that was opened. -/
theorem reply_of_asks_closed_later :
    ∃ trace s, Run Step (fresh (.standard "webdsl" 200)) trace s ∧ s.tasks = [] ∧
      s.documents.text? "u" = none ∧
      Outgoing.result (.int 2) (symbolsAnswer (some "server 80")) ∈ s.outbox.queue := by
  have run := (((((Run.nil.snoc
    (Step.received (fresh (.standard "webdsl" 200)) (.request (.int 1) "initialize" .null))).snoc
    (Step.received _ (.notification "textDocument/didOpen"
      (OpenParams.toJson ⟨⟨"u", "", 0, "server 80"⟩⟩)))).snoc
    (Step.received _ (.request (.int 2) "textDocument/documentSymbol"
      (SymbolParams.toJson ⟨⟨"u"⟩⟩)))).snoc
    (Step.received _ (.notification "textDocument/didClose" (CloseParams.toJson ⟨⟨"u"⟩⟩)))).snoc
    (Step.performed _ (.answer (.int 2) (.symbols (some ⟨"u", "server 80", 1⟩)))
      [.refresh ⟨"u", "server 80", 1⟩] [] rfl)).snoc
    (Step.performed _ (.refresh ⟨"u", "server 80", 1⟩) [] [] rfl)
  have hrun : Run Step _ ([_, _] ++ ⟨_, .received (.request (.int 2) _ _), _⟩ :: [_, _, _]) _ := run
  have hreply := reply_of_asks hrun (.symbols rfl) rfl
  exact ⟨_, _, run, rfl, rfl, hreply.2.1 rfl rfl⟩

end Server

end ServiceLang
