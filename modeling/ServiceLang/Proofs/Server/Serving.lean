import ServiceLang.Proofs.Server.Stream

namespace ServiceLang

/-!
# Serving, with the tasks at any time

A server reads one frame after another, and does its tasks beside that: before the next read, behind
several of them, or only when no more is read, in any order.

* `Serving`, `Serving.Step`: a server on a stream, and what can happen next;
* `Serving.Taken`: what has been read so far, and what the server made of it;
* `Serving.Taken.step`, `Serving.taken_of_run`: one step, and whole runs;
* `Server.exists_run_stream`: doing all tasks before the next read is one way to serve;
* `Served`: what serving leads to, told by the reads alone;
* `serve_of_reads`: this holds however the tasks are done.
-/

/-- A server with what is left of its stream, and the outcome once it has stopped reading. -/
structure Serving where
  server : Server
  input : List UInt8
  outcome : Option (Except ServerError Nat) := none

namespace Serving

/-- A fresh server, before the first read. -/
def start (analyzer : Analyzer) (input : List UInt8) : Serving :=
  { server := .fresh analyzer, input }

/-- What can happen while a client is served: a frame is read, a task is done, or the client hangs
    up. -/
inductive Event where
  | read (read : FrameRead)
  | performed (task : Task)
  | hungUp

/-- One step. Frames are read until the server stops at one. A task is done at any time, also
    after that. -/
inductive Step : Serving → Event → Serving → Prop
  | read (x : Serving) (h : x.outcome = none) :
      Step x (.read (readFrame maxFrameLength x.input).1)
        { server := (x.server.hear (readFrame maxFrameLength x.input).1).1
          input := (readFrame maxFrameLength x.input).2
          outcome := (x.server.hear (readFrame maxFrameLength x.input).1).2 }
  | performed (x : Serving) (task : Task) (front back : List Task)
      (h : x.server.tasks = front ++ task :: back) :
      Step x (.performed task)
        { x with server := { x.server with tasks := front ++ back }.perform task }
  | hungUp (x : Serving) :
      Step x .hungUp { x with server := x.server.withOutbox x.server.outbox.close }

/-! ### What has been read -/

/-- What has been read of a stream, and heard by the server. While it goes on, no read was one to
    stop at. Once it has stopped, the outcome is that of the read at which it did, and the session
    may be over although no message said so. -/
inductive Taken (analyzer : Analyzer) (input : List UInt8) : Serving → Prop
  | going {server : Server} {rest : List UInt8} {reads : List FrameRead}
      (hframes : readFrames maxFrameLength input = reads ++ readFrames maxFrameLength rest)
      (hreads : ∀ read ∈ reads, read.stops = false) (heard : server.Heard analyzer reads) :
      Taken analyzer input ⟨server, rest, none⟩
  | stopped {server : Server} {rest : List UInt8} {before after : List FrameRead}
      {stop : FrameRead} {session : Session}
      (hframes : readFrames maxFrameLength input = before ++ stop :: after)
      (hbefore : ∀ read ∈ before, read.stops = false) (hstop : stop.stops = true)
      (heard : { server with session }.Heard analyzer (before ++ [stop])) :
      Taken analyzer input ⟨server, rest, some (stop.outcome before)⟩

/-- Reading a stream on begins with the first read. -/
theorem exists_readFrames_eq_cons (limit : Nat) (input : List UInt8) :
    ∃ after, readFrames limit input = (readFrame limit input).1 :: after := by
  rw [readFrames]
  split
  · exact ⟨_, rfl⟩
  · exact ⟨[], rfl⟩

namespace Taken

variable {analyzer : Analyzer} {input rest : List UInt8} {reads : List FrameRead} {server : Server}
  {x y : Serving} {e : Event}

/-- Nothing is read at the start. -/
theorem start (analyzer : Analyzer) (input : List UInt8) :
    Taken analyzer input (.start analyzer input) :=
  @going analyzer input _ input [] rfl (by simp) (.nil analyzer)

/-- **One read** is heard, and the server stops there or goes on with the rest of the stream. -/
theorem read (hframes : readFrames maxFrameLength input = reads ++ readFrames maxFrameLength rest)
    (hreads : ∀ read ∈ reads, read.stops = false) (heard : server.Heard analyzer reads) :
    Taken analyzer input ⟨(server.hear (readFrame maxFrameLength rest).1).1,
      (readFrame maxFrameLength rest).2, (server.hear (readFrame maxFrameLength rest).1).2⟩ := by
  obtain ⟨houtcome, session, hheard, hsession⟩ :=
    heard.hear hreads (readFrame maxFrameLength rest).1
  cases hstops : (readFrame maxFrameLength rest).1.stops with
  | true =>
    obtain ⟨after, hafter⟩ := exists_readFrames_eq_cons maxFrameLength rest
    rw [hafter] at hframes
    rw [houtcome, hstops, if_pos rfl]
    exact .stopped hframes hreads hstops hheard
  | false =>
    have hgoesOn : (readFrame maxFrameLength rest).1.goesOn = true := by
      rw [FrameRead.stops, Bool.or_eq_false_iff, Bool.not_eq_false'] at hstops
      exact hstops.2
    -- The reads taken so far and the reads in the rest of the stream are still all reads of it.
    have hrest : readFrames maxFrameLength rest = (readFrame maxFrameLength rest).1 ::
        readFrames maxFrameLength (readFrame maxFrameLength rest).2 := by
      rw [readFrames, dif_pos hgoesOn]
    rw [hrest, List.append_cons] at hframes
    rw [hsession hstops] at hheard
    rw [houtcome, hstops, if_neg Bool.false_ne_true]
    refine .going hframes ?_ hheard
    intro read hread
    obtain hread | hread := List.mem_append.mp hread
    · exact hreads read hread
    · rw [List.mem_singleton.mp hread]
      exact hstops

/-- **One step.** What has been read stays heard, whatever happens next. -/
theorem step (h : Taken analyzer input x) (hstep : Step x e y) : Taken analyzer input y := by
  cases h with
  | going hframes hreads heard =>
    cases hstep with
    | read hnone => exact read hframes hreads heard
    | performed task front back htasks => exact .going hframes hreads (heard.performed htasks)
    | hungUp => exact .going hframes hreads heard.hungUp
  | @stopped server rest before after stop session hframes hbefore hstop heard =>
    cases hstep with
    | read hnone => cases hnone
    | performed task front back htasks =>
      have hheard := heard.performed htasks
      rw [Server.perform_with_session { server with tasks := front ++ back }] at hheard
      exact .stopped hframes hbefore hstop hheard
    | hungUp => exact .stopped hframes hbefore hstop heard.hungUp

end Taken

/-- **A whole run.** At any moment, what has been read was heard. -/
theorem taken_of_run {analyzer : Analyzer} {input : List UInt8} {x : Serving}
    {trace : List (Transition Serving Event)} (run : Run Step (start analyzer input) trace x) :
    Taken analyzer input x :=
  run.invariant (.start analyzer input) fun _ _ _ hstep h => h.step hstep

/-! ### All tasks before the next read -/

/-- Tasks may be done wherever the server stands in its stream. -/
theorem exists_run_of_performed {s s' : Server} {trace : Server.Trace}
    (run : Run Server.Step s trace s') (hlabels : ∀ t ∈ trace, ∃ task, t.label = .performed task)
    (input : List UInt8) (outcome : Option (Except ServerError Nat)) :
    ∃ more, Run Step ⟨s, input, outcome⟩ more ⟨s', input, outcome⟩ := by
  induction run with
  | nil => exact ⟨[], .nil⟩
  | @snoc trace u u' label run hstep ih =>
    obtain ⟨more, hmore⟩ := ih fun t ht => hlabels t (List.mem_append_left _ ht)
    obtain ⟨task, rfl⟩ : ∃ task, label = .performed task :=
      hlabels _ (List.mem_append_right _ List.mem_cons_self)
    cases hstep with
    | performed _ front back htasks =>
      exact ⟨_, hmore.snoc (Step.performed ⟨u, input, outcome⟩ task front back htasks)⟩

/-- A read with all tasks behind it. -/
theorem exists_run_receive (s : Server) (input : List UInt8) :
    ∃ trace, Run Step ⟨s, input, none⟩ trace
      ⟨(s.receive (readFrame maxFrameLength input).1).1, (readFrame maxFrameLength input).2,
        (s.receive (readFrame maxFrameLength input).1).2⟩ := by
  obtain ⟨order, horder, hdrain⟩ :=
    Server.exists_settle_eq_drain (s.hear (readFrame maxFrameLength input).1).1
  obtain ⟨tasks, htasks, hlabels⟩ := Server.run_drain horder
  rw [← hdrain] at htasks
  obtain ⟨more, hmore⟩ := exists_run_of_performed htasks hlabels _ _
  exact ⟨_, (Run.single (Step.read ⟨s, input, none⟩ rfl)).trans hmore⟩

end Serving

namespace Server

/-- What the server does with a read leaves the outbox open or closed. -/
theorem isOpen_hear (s : Server) (read : FrameRead) :
    (s.hear read).1.outbox.isOpen = s.outbox.isOpen := by
  cases read with
  | ended => rfl
  | broken fault => rfl
  | refused fault => exact Outbox.isOpen_post _ _
  | body text =>
    cases hparse : Message.parse text with
    | ok m =>
      obtain ⟨messages, task?, hemits⟩ := exists_emits_handle s m
      rw [hear_of_parse_ok hparse]
      exact hemits.isOpen
    | error fault =>
      rw [hear, hparse]
      exact Outbox.isOpen_post _ _

/-- No task is left behind a read, and the outbox is open if it was. -/
theorem settled_receive (s : Server) (read : FrameRead) :
    (s.receive read).1.tasks = [] ∧ (s.receive read).1.outbox.isOpen = s.outbox.isOpen := by
  obtain ⟨order, -, hdrain⟩ := exists_settle_eq_drain (s.hear read).1
  refine ⟨?_, (isOpen_settle _).trans (s.isOpen_hear read)⟩
  show (s.hear read).1.settle.tasks = []
  rw [hdrain, tasks_drain]

/-- **Taking a stream** frame after frame, with all tasks before the next one, is a way to serve it
    to the end. -/
theorem exists_run_stream (s : Server) (input : List UInt8) :
    (∃ trace rest, Run Serving.Step ⟨s, input, none⟩ trace
      ⟨(s.run input).1, rest, some (s.run input).2⟩) ∧
    (s.run input).1.tasks = [] ∧ (s.run input).1.outbox.isOpen = s.outbox.isOpen := by
  fun_induction run s input with
  | case1 s input s' outcome hreceive =>
    obtain ⟨trace, hrun⟩ := Serving.exists_run_receive s input
    have hsettled := s.settled_receive (readFrame maxFrameLength input).1
    rw [hreceive] at hrun hsettled
    exact ⟨⟨trace, _, hrun⟩, hsettled⟩
  | case2 s input s' hreceive ih =>
    obtain ⟨trace, hrun⟩ := Serving.exists_run_receive s input
    have hsettled := s.settled_receive (readFrame maxFrameLength input).1
    rw [hreceive] at hrun hsettled
    obtain ⟨⟨more, rest, hmore⟩, htasks, hopen⟩ := ih
    exact ⟨⟨_, rest, hrun.trans hmore⟩, htasks, hopen.trans hsettled.2⟩

end Server

/-! ### What serving leads to -/

/-- The outcome of stopping at a read, with the reads before it: an error if the stream breaks there,
    and otherwise 0 or 1, as some message before it asks to shut down or none does. -/
structure EndsWith (before : List FrameRead) (stop : FrameRead) (outcome : Except ServerError Nat) :
    Prop where
  broken : ∀ fault, stop = .broken fault → outcome = .error (.io fault.text)
  exited : (∀ fault, stop ≠ .broken fault) →
    outcome = .ok (if (before.filterMap (·.message?)).any (·.asksToShutDown) then 0 else 1)

/-- What is written up to the end. The bodies with null for their identifier are the complaints about
    the reads, in order. The others are those of a run of the server in which exactly the messages
    arrive, in order, no client hangs up, and all tasks are done. -/
structure Served (analyzer : Analyzer) (before : List FrameRead) (stop : FrameRead)
    (written : List Outgoing) : Prop where
  complaints : written.filter (·.hasNullId) = before.filterMap (·.complaint?)
  handled : ∃ trace s, Run Server.Step (.fresh analyzer) trace s ∧ s.outbox.isOpen = true ∧
    s.tasks = [] ∧ trace.filterMap Server.received? = (before ++ [stop]).filterMap (·.message?) ∧
    written.filter (!·.hasNullId) = s.outbox.queue

/-- The outcome of a read is told by the reads before it. -/
theorem endsWith_outcome (before : List FrameRead) (stop : FrameRead) :
    EndsWith before stop (stop.outcome before) := by
  constructor
  · rintro fault rfl
    rfl
  · intro hne
    cases stop with
    | broken fault => exact absurd rfl (hne fault)
    | body | ended | refused => rfl

/-- A server that has heard the reads, and has no task left, has written what it should. -/
theorem served_of_heard {analyzer : Analyzer} {before : List FrameRead} {stop : FrameRead}
    {s : Server} {session : Session} (hstop : stop.stops = true)
    (heard : { s with session }.Heard analyzer (before ++ [stop]))
    (hopen : s.outbox.isOpen = true) (htasks : s.tasks = []) :
    Served analyzer before stop s.outbox.queue := by
  constructor
  · -- the server does not complain about the read at which it stops
    have hlast : stop.complaint? = none := complaint?_of_stops hstop
    have hcomplaints : s.outbox.queue.filter (·.hasNullId) =
        (before ++ [stop]).filterMap (·.complaint?) := heard.complaints hopen
    simpa [hlast] using hcomplaints
  · obtain ⟨trace, run, htrace⟩ := heard.run
    exact ⟨trace, _, run, hopen, htasks, htrace, rfl⟩

/-- There is one first read to stop at. -/
theorem first_stop_unique {before before' after after' : List FrameRead} {stop stop' : FrameRead}
    (h : before ++ stop :: after = before' ++ stop' :: after')
    (hbefore : ∀ read ∈ before, read.stops = false) (hstop : stop.stops = true)
    (hbefore' : ∀ read ∈ before', read.stops = false) (hstop' : stop'.stops = true) :
    before = before' ∧ stop = stop' := by
  induction before generalizing before' with
  | nil =>
    cases before' with
    | nil => exact ⟨rfl, (List.cons.inj h).1⟩
    | cons read rest =>
      rw [(List.cons.inj h).1, hbefore' read List.mem_cons_self] at hstop
      cases hstop
  | cons read rest ih =>
    cases before' with
    | nil =>
      rw [← (List.cons.inj h).1, hbefore read List.mem_cons_self] at hstop'
      cases hstop'
    | cons read' rest' =>
      obtain ⟨hread, hrest⟩ := List.cons.inj h
      obtain ⟨hall, hlast⟩ := ih hrest (fun r hr => hbefore r (List.mem_cons_of_mem _ hr))
        (fun r hr => hbefore' r (List.mem_cons_of_mem _ hr))
      exact ⟨by rw [hread, hall], hlast⟩

/-- **Serving arbitrary bytes.** Take the reads of a stream up to the first one that tells to exit, at
    which the stream ends, or at which it breaks.

    * The outcome is an error if the stream breaks there, and otherwise 0 or 1, as some message before
      it asks to shut down or none does.
    * When all bodies are written, those with null for their identifier are the complaints about the
      reads, in order: one for each frame that is refused and one for each text that is no message.
    * The other bodies are those of a run of the server in which exactly the messages arrive, in
      order, and all tasks are done.

    All this does not depend on when the tasks are done: it holds of every way to serve the stream, of
    which `serve` takes one. If the client hangs up, the outcome is still the same. -/
theorem serve_of_reads (analyzer : Analyzer) (input : List UInt8) :
    ∃ before stop after, readFrames maxFrameLength input = before ++ stop :: after ∧
      (∀ read ∈ before, read.stops = false) ∧ stop.stops = true ∧
      (∀ writer, EndsWith before stop (serve analyzer writer input).1) ∧
      Served analyzer before stop (serve analyzer {} input).2 ∧
      (∀ trace x outcome, Run Serving.Step (.start analyzer input) trace x →
        x.outcome = some outcome →
        EndsWith before stop outcome ∧
          (x.server.outbox.isOpen = true → x.server.tasks = [] →
            Served analyzer before stop x.server.outbox.queue)) ∧
      ∃ trace x, Run Serving.Step (.start analyzer input) trace x ∧
        x.outcome = some (serve analyzer {} input).1 ∧ x.server.outbox.isOpen = true ∧
        x.server.tasks = [] ∧ x.server.outbox.queue = (serve analyzer {} input).2 := by
  -- `serve` is one of the runs, and it stops. Every other run that stops does so at the same read,
  -- since the stream determines which of them is the first to stop a session.
  obtain ⟨⟨trace, rest, run⟩, htasks, hopen⟩ := (Server.fresh analyzer).exists_run_stream input
  have htaken := Serving.taken_of_run run
  generalize houtcome : some ((Server.fresh analyzer).run input).2 = outcome at htaken
  cases htaken with
  | going => cases houtcome
  | @stopped _ _ before after stop session hframes hbefore hstop heard =>
    have hserve : ∀ writer, (serve analyzer writer input).1 = stop.outcome before :=
      fun _ => Option.some.inj houtcome
    refine ⟨before, stop, after, hframes, hbefore, hstop, fun writer => ?_, ?_, ?_, ?_⟩
    · rw [hserve writer]
      exact endsWith_outcome before stop
    · exact served_of_heard hstop heard hopen htasks
    · rintro trace' ⟨server, rest', outcome?⟩ outcome run' rfl
      generalize houtcome' : some outcome = outcome? at run'
      cases Serving.taken_of_run run' with
      | going => cases houtcome'
      | stopped hframes' hbefore' hstop' heard' =>
        obtain ⟨rfl, rfl⟩ :=
          first_stop_unique (hframes.symm.trans hframes') hbefore hstop hbefore' hstop'
        rw [Option.some.inj houtcome']
        exact ⟨endsWith_outcome before stop, served_of_heard hstop heard'⟩
    · exact ⟨trace, _, run, rfl, hopen, htasks, rfl⟩

end ServiceLang
