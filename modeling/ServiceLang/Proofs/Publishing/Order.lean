import ServiceLang.Proofs.Publishing.Desk

namespace ServiceLang

namespace Desk

/-!
# The order of published sets

What a run of a desk publishes, and when:

* `sent`: the messages that a transition queues, told by `queue_step` from its move alone;
* `Past`: a revision of a document that every later set of the document exceeds;
* `Silent`: a document of which nothing can be published before it changes again;
* `publications_in_order`: every set is that of the stored text, the revisions of the sets of a
  document grow, and a cleared document stays cleared until it is opened, changed, saved with a
  text or closed again.
-/

/-- The messages that a transition queues. -/
def sent (t : Transition Desk Move) : List Outgoing := t.after.queue.drop t.before.queue.length

/-- A transition publishes a set for a document. -/
def Publishes (t : Transition Desk Move) (uri : String) : Prop :=
  ∃ m ∈ sent t, ∃ diagnostics, m.Carries uri diagnostics

/-- The revision that a move publishes for. -/
def Move.revision? : Move → Option Nat
  | .cleared _ revision => some revision
  | .refreshed p => some p.revision
  | _ => none

/-- The messages of a move, while messages can be sent: a clearing publishes the empty set, and
    the analysis of a snapshot its diagnostics when the snapshot is the stored one. -/
def Move.messages (d : Desk) : Move → List Outgoing
  | .cleared uri _ => [publication uri []]
  | .refreshed p =>
    if d.documents.get? p.uri = some p then
      [publication p.uri (d.publisher.analyzer.analyze p.text).diagnostics]
    else []
  | _ => []

variable {d d' : Desk} {move : Move} {uri : String} {r : Nat}

/-- No step opens the outbox again. -/
theorem isOpen_of_step (h : Step d move d') (hopen : d'.isOpen = true) : d.isOpen = true := by
  cases h with
  | mutation m hc => cases m <;> exact hopen
  | cleared uri revision hc =>
    revert hopen
    show (d.publisher.clear uri revision).outbox.isOpen = true → _
    rw [Publisher.clear_eq]
    split
    · rw [Outbox.isOpen_post]
      exact id
    · exact id
  | refreshed p front back hw =>
    revert hopen
    show ((d.publisher.refresh d.documents p).2).outbox.isOpen = true → _
    rw [Publisher.refresh_eq]
    split
    · rename_i h
      exact fun _ => h.2
    · exact id
  | hungUp => cases hopen

/-- No step changes the analyzer. -/
theorem analyzer_step (h : Step d move d') : d'.publisher.analyzer = d.publisher.analyzer := by
  cases h with
  | mutation m hc => cases m <;> rfl
  | cleared uri revision hc => exact d.publisher.analyzer_clear uri revision
  | refreshed p front back hw =>
    show ((d.publisher.refresh d.documents p).2).analyzer = _
    rw [Publisher.refresh_eq]
    split <;> rfl
  | hungUp => rfl

/-- **What a step sends.** A step queues the messages of its move. -/
theorem queue_step (h : Step d move d') (hd : d.Consistent) (hopen : d'.isOpen = true) :
    d'.queue = d.queue ++ move.messages d := by
  have ho : d.publisher.outbox.isOpen = true := isOpen_of_step h hopen
  cases h with
  | mutation m hc => cases m <;> exact (List.append_nil _).symm
  | cleared uri revision hc =>
    show (d.publisher.clear uri revision).outbox.queue = _
    rw [Publisher.outbox_clear (hd.closing_lt uri revision hc).2.1, Outbox.post_of_open ho]
    rfl
  | refreshed p front back hw =>
    have hp : p ∈ d.waiting := Consistent.mem_waiting hw
    show ((d.publisher.refresh d.documents p).2).outbox.queue = _
    rw [Publisher.refresh_eq, Move.messages]
    by_cases hs : d.documents.get? p.uri = some p
    · rw [if_pos ⟨(hd.isCurrent_iff hp).mpr hs, ho⟩, if_pos hs, Publisher.afterPublishing,
        Publisher.withPublication, Outbox.post_of_open ho]
      rfl
    · rw [if_neg (fun hc => hs ((hd.isCurrent_iff hp).mp hc.1)), if_neg hs, List.append_nil]
      rfl
  | hungUp => cases hopen

/-- The messages of a transition are those of its move. -/
theorem sent_eq (h : Step d move d') (hd : d.Consistent) (hopen : d'.isOpen = true) :
    sent ⟨d, move, d'⟩ = move.messages d := by
  rw [sent, queue_step h hd hopen, List.drop_left]

/-- A move publishes for a document by clearing it, or by analyzing its stored snapshot. -/
theorem publishes_cases (h : Step d move d') (hd : d.Consistent) (hopen : d'.isOpen = true)
    (hp : Publishes ⟨d, move, d'⟩ uri) :
    (∃ r, move = .cleared uri r) ∨
    (∃ p, move = .refreshed p ∧ p.uri = uri ∧ d.documents.get? p.uri = some p) := by
  obtain ⟨m, hmem, diagnostics, hcarries⟩ := hp
  rw [sent_eq h hd hopen] at hmem
  cases move with
  | mutation m => cases hmem
  | hungUp => cases hmem
  | cleared u r =>
    rw [Move.messages, List.mem_singleton] at hmem
    rw [hmem] at hcarries
    rw [hcarries.uri_eq (carries_publication u [])]
    exact .inl ⟨r, rfl⟩
  | refreshed p =>
    rw [Move.messages] at hmem
    by_cases hs : d.documents.get? p.uri = some p
    · rw [if_pos hs, List.mem_singleton] at hmem
      rw [hmem] at hcarries
      exact .inr ⟨p, rfl, (carries_publication p.uri _).uri_eq hcarries, hs⟩
    · rw [if_neg hs] at hmem
      cases hmem

/-! ### Revisions grow -/

/-- A revision of a document that every later set of the document exceeds: the stored revision is
    newer or already published, and so is the revision of a closure. -/
structure Past (d : Desk) (uri : String) (r : Nat) : Prop where
  lt_next : r < d.documents.nextRevision
  lt_stored : ∀ s, d.documents.get? uri = some s →
    r < s.revision ∨ s.revision ≤ d.publisher.lastRevision uri
  lt_closing : ∀ rc, d.closing = some (uri, rc) → r < rc

namespace Past

/-- What is past stays past when a text is stored. -/
theorem store (hp : Past d uri r) (hc : d.closing = none)
    (hr : d.documents.nextRevision + 1 < revisionCount) (u text : String) :
    Past (d.store u text) uri r where
  lt_next := by
    have hnext : (d.store u text).documents.nextRevision = d.documents.nextRevision + 1 :=
      revisionAfter_eq hr
    have := hp.lt_next
    omega
  lt_stored := by
    intro s hs
    rw [documents_store, Documents.get?_store] at hs
    by_cases hu : uri = u
    · rw [if_pos hu, Option.some.injEq] at hs
      rw [← hs]
      exact .inl hp.lt_next
    · rw [if_neg hu] at hs
      exact hp.lt_stored s hs
  lt_closing := by
    intro rc h
    rw [show (d.store u text).closing = d.closing from rfl, hc] at h
    cases h

/-- What is past stays past when a document is closed. -/
theorem close (hp : Past d uri r) (hr : d.documents.nextRevision + 1 < revisionCount) (u : String) :
    Past (d.close u) uri r where
  lt_next := by
    have hnext : (d.close u).documents.nextRevision = d.documents.nextRevision + 1 :=
      revisionAfter_eq hr
    have := hp.lt_next
    omega
  lt_stored := by
    intro s hs
    rw [documents_close, Documents.get?_close] at hs
    by_cases hu : uri = u
    · rw [if_pos hu] at hs
      cases hs
    · rw [if_neg hu] at hs
      exact hp.lt_stored s hs
  lt_closing := by
    intro rc h
    rw [Desk.close, Option.some.injEq, Prod.mk.injEq] at h
    rw [← h.2]
    exact hp.lt_next

/-- What is past stays past when a document is cleared: the document is not stored then. -/
theorem clear (hp : Past d uri r) (hd : d.Consistent) {u : String} {rc : Nat}
    (hc : d.closing = some (u, rc)) : Past (d.clear u rc) uri r where
  lt_next := hp.lt_next
  lt_stored := by
    intro s hs
    show _ ∨ s.revision ≤ (d.publisher.clear u rc).lastRevision uri
    by_cases hu : uri = u
    · rw [hu, documents_clear, (hd.closing_lt u rc hc).1] at hs
      cases hs
    · rw [d.publisher.lastRevision_clear_of_ne rc hu]
      exact hp.lt_stored s hs
  lt_closing := by intro _ h; cases h

/-- What is past stays past when a snapshot is analyzed: a published revision is the stored
    one. -/
theorem refresh (hp : Past d uri r) (hd : d.Consistent) {p : Snapshot} {front back : List Snapshot}
    (hw : d.waiting = front ++ p :: back) : Past (d.refresh p (front ++ back)) uri r where
  lt_next := hp.lt_next
  lt_stored := by
    intro s hs
    show _ ∨ s.revision ≤ ((d.publisher.refresh d.documents p).2).lastRevision uri
    rw [Publisher.refresh_eq]
    by_cases hcur : d.publisher.isCurrent d.documents p.uri p.revision ∧ d.publisher.outbox.isOpen
    · rw [if_pos hcur, Publisher.lastRevision_afterPublishing]
      by_cases hu : uri = p.uri
      · have hmem : p ∈ d.waiting := Consistent.mem_waiting hw
        have hstored := (hd.isCurrent_iff hmem).mp hcur.1
        rw [documents_refresh, hu, hstored, Option.some.injEq] at hs
        rw [if_pos hu, hs]
        exact .inr (Nat.le_refl _)
      · rw [if_neg hu]
        exact hp.lt_stored s hs
    · rw [if_neg hcur, Publisher.lastRevision_afterRefusal]
      exact hp.lt_stored s hs
  lt_closing := hp.lt_closing

/-- **One step.** What is past stays past. -/
theorem step (hp : Past d uri r) (hd : d.Consistent) (h : Step d move d')
    (hr : move.isMutation = true → d.documents.nextRevision + 1 < revisionCount) :
    Past d' uri r := by
  cases h with
  | mutation m hc =>
    obtain ⟨text, hm, _⟩ | ⟨hm, _⟩ | ⟨_, hm⟩ := d.mutate_cases m
    · rw [hm]
      exact hp.store hc (hr rfl) m.uri text
    · rw [hm]
      exact hp
    · rw [hm]
      exact hp.close (hr rfl) m.uri
  | cleared u rc hc => exact hp.clear hd hc
  | refreshed p front back hw => exact hp.refresh hd hw
  | hungUp => exact ⟨hp.lt_next, hp.lt_stored, hp.lt_closing⟩

/-- A set that is published exceeds everything past. -/
theorem lt_of_publishes (hp : Past d uri r) (hd : d.Consistent) (h : Step d move d')
    (hopen : d'.isOpen = true) (hpub : Publishes ⟨d, move, d'⟩ uri) :
    ∃ r', move.revision? = some r' ∧ r < r' := by
  obtain ⟨rc, rfl⟩ | ⟨p, rfl, rfl, hs⟩ := publishes_cases h hd hopen hpub
  · cases h with
    | cleared _ _ hc => exact ⟨rc, rfl, hp.lt_closing rc hc⟩
  · cases h with
    | refreshed _ front back hw =>
      have hmem : p ∈ d.waiting := Consistent.mem_waiting hw
      -- the stored revision is not published yet, so it is the newer one
      have hlast := hd.unpublished p hmem hs
      have hlt := hp.lt_stored p hs
      exact ⟨p.revision, rfl, by omega⟩

end Past

/-- The revision of a set that has just been published is past. -/
theorem past_of_publishes (hd : d.Consistent) (h : Step d move d') (hopen : d'.isOpen = true)
    (hpub : Publishes ⟨d, move, d'⟩ uri) : ∃ r, move.revision? = some r ∧ Past d' uri r := by
  have ho : d.publisher.outbox.isOpen = true := isOpen_of_step h hopen
  obtain ⟨rc, rfl⟩ | ⟨p, rfl, rfl, hs⟩ := publishes_cases h hd hopen hpub
  · cases h with
    | cleared _ _ hc =>
      obtain ⟨hget, _, hlt⟩ := hd.closing_lt uri rc hc
      refine ⟨rc, rfl, hlt, ?_, ?_⟩
      · intro s hs
        rw [documents_clear, hget] at hs
        cases hs
      · intro _ hc
        cases hc
  · cases h with
    | refreshed _ front back hw =>
      have hmem : p ∈ d.waiting := Consistent.mem_waiting hw
      refine ⟨p.revision, rfl, (hd.waiting_lt p hmem).2, ?_, ?_⟩
      · intro s hs'
        rw [documents_refresh, hs, Option.some.injEq] at hs'
        show _ ∨ s.revision ≤ ((d.publisher.refresh d.documents p).2).lastRevision p.uri
        rw [Publisher.refresh_eq, if_pos ⟨(hd.isCurrent_iff hmem).mpr hs, ho⟩,
          Publisher.lastRevision_afterPublishing, if_pos rfl, hs']
        exact .inr (Nat.le_refl _)
      · intro rc hc
        have hnone := (hd.closing_lt p.uri rc hc).1
        rw [hs] at hnone
        cases hnone

/-! ### Cleared documents -/

/-- A document of which nothing can be published before it changes again. -/
def Silent (d : Desk) (uri : String) : Prop :=
  d.documents.get? uri = none ∧ ∀ r, d.closing ≠ some (uri, r)

/-- A move that can end the silence of a document: it brings a text for it, or closes it. -/
def Wakes (move : Move) (uri : String) : Prop :=
  ∃ m, move = .mutation m ∧ m.uri = uri ∧ (m.text?.isSome ∨ m = .closed uri)

/-- A document is silent once it is cleared. -/
theorem silent_of_cleared (hd : d.Consistent) (h : Step d (.cleared uri r) d') :
    Silent d' uri := by
  cases h with
  | cleared _ _ hc => exact ⟨(hd.closing_lt uri r hc).1, fun _ h => by cases h⟩

namespace Silent

/-- **One step.** A document stays silent until a move wakes it. -/
theorem step (hs : Silent d uri) (h : Step d move d') (hw : ¬ Wakes move uri) :
    Silent d' uri := by
  obtain ⟨hget, hclosing⟩ := hs
  cases h with
  | mutation m hc =>
    obtain ⟨text, hm, htext⟩ | ⟨hm, _⟩ | ⟨hclosed, hm⟩ := d.mutate_cases m
    · -- a text that the mutation does not bring along would be that of an open document
      have hne : uri ≠ m.uri := by
        rintro rfl
        rcases htext with htext | hsome
        · exact hw ⟨m, rfl, rfl, .inl (by rw [htext]; rfl)⟩
        · rw [hget] at hsome
          cases hsome
      rw [hm]
      refine ⟨?_, hclosing⟩
      rw [documents_store, Documents.get?_store, if_neg hne, hget]
    · rw [hm]
      exact ⟨hget, hclosing⟩
    · have hne : m.uri ≠ uri := fun he => hw ⟨m, rfl, he, .inr (he ▸ hclosed)⟩
      rw [hm]
      refine ⟨?_, ?_⟩
      · rw [documents_close, Documents.get?_close, if_neg (fun he => hne he.symm), hget]
      · intro r he
        rw [Desk.close, Option.some.injEq, Prod.mk.injEq] at he
        exact hne he.1
  | cleared u rc hc => exact ⟨hget, fun _ h => by cases h⟩
  | refreshed p front back hq => exact ⟨hget, hclosing⟩
  | hungUp => exact ⟨hget, hclosing⟩

/-- **A whole run.** A document stays silent while no move wakes it. -/
theorem run {trace : Trace} (hs : Silent d uri) (run : Run Step d trace d')
    (hw : ∀ t ∈ trace, ¬ Wakes t.label uri) : Silent d' uri := by
  induction run with
  | nil => exact hs
  | snoc run h ih =>
    refine (ih fun t ht => hw t (List.mem_append_left _ ht)).step h ?_
    exact hw _ (List.mem_append_right _ (List.mem_singleton_self _))

/-- Nothing is published for a silent document. -/
theorem not_publishes (hs : Silent d uri) (hd : d.Consistent) (h : Step d move d')
    (hopen : d'.isOpen = true) : ¬ Publishes ⟨d, move, d'⟩ uri := by
  intro hpub
  obtain ⟨rc, rfl⟩ | ⟨p, rfl, rfl, hstored⟩ := publishes_cases h hd hopen hpub
  · cases h with
    | cleared _ _ hc => exact hs.2 rc hc
  · rw [hs.1] at hstored
    cases hstored

end Silent

/-! ### Whole runs -/

variable {analyzer : Analyzer} {trace : Trace}

/-- An outbox that is open at the end of a run was open at its start. -/
theorem isOpen_of_run {a b : Desk} (run : Run Step a trace b) (hopen : b.isOpen = true) :
    a.isOpen = true := by
  induction run with
  | nil => exact hopen
  | snoc run h ih => exact ih (isOpen_of_step h hopen)

/-- The analyzer stays the same in a run. -/
theorem analyzer_of_run (run : Run Step (fresh analyzer) trace d) :
    d.publisher.analyzer = analyzer :=
  run.invariant (P := fun d => d.publisher.analyzer = analyzer) rfl
    fun _ _ _ h ih => (analyzer_step h).trans ih

/-- The moment of a transition in a run: the desk is consistent, and messages can be sent. -/
theorem consistent_before {earlier later : Trace} {t : Transition Desk Move}
    (run : Run Step (fresh analyzer) (earlier ++ t :: later) d) (hopen : d.isOpen = true)
    (hn : mutationCount (earlier ++ t :: later) < revisionCount - 1) :
    t.before.Consistent ∧ Step t.before t.label t.after ∧ t.after.isOpen = true ∧
      t.before.publisher.analyzer = analyzer := by
  obtain ⟨front, hstep, back⟩ := run.split
  rw [mutationCount, List.countP_append] at hn
  exact ⟨(consistent_of_run front (Nat.lt_of_le_of_lt (Nat.le_add_right _ _) hn)).1, hstep,
    isOpen_of_run back hopen, analyzer_of_run front⟩

/-- **Growing revisions.** The revisions of the sets published for a document grow, and all of
    them are past at the end. -/
theorem revisions_grow (run : Run Step (fresh analyzer) trace d) (hopen : d.isOpen = true)
    (hn : mutationCount trace < revisionCount - 1) :
    (∀ t ∈ trace, ∀ uri, Publishes t uri → ∃ r, t.label.revision? = some r ∧ Past d uri r) ∧
    trace.Pairwise fun t u => ∀ uri, Publishes t uri → Publishes u uri →
      ∃ r r', t.label.revision? = some r ∧ u.label.revision? = some r' ∧ r < r' := by
  -- On the run. That each publication is past says of the next one that its revision is greater.
  induction run with
  | nil => exact ⟨fun _ h => (List.not_mem_nil h).elim, List.Pairwise.nil⟩
  | @snoc trace d d' move run h ih =>
    have hlt := mutationCount_lt_of_concat hn
    obtain ⟨hd, hnext⟩ := consistent_of_run run hlt
    have hr := nextRevision_lt_of_concat hn hnext
    obtain ⟨hpast, hpair⟩ := ih (isOpen_of_step h hopen) hlt
    refine ⟨?_, ?_⟩
    · intro t ht uri hpub
      rcases List.mem_append.mp ht with ht | ht
      · obtain ⟨r, hrev, hp⟩ := hpast t ht uri hpub
        exact ⟨r, hrev, hp.step hd h hr⟩
      · rw [List.mem_singleton] at ht
        subst ht
        exact past_of_publishes hd h hopen hpub
    · rw [List.pairwise_append]
      refine ⟨hpair, List.pairwise_singleton _ _, ?_⟩
      intro t ht u hu uri htpub hupub
      rw [List.mem_singleton] at hu
      subst hu
      obtain ⟨r, hrev, hp⟩ := hpast t ht uri htpub
      obtain ⟨r', hrev', hlt'⟩ := hp.lt_of_publishes hd h hopen hupub
      exact ⟨r, r', hrev, hrev', hlt'⟩

/-- **Publications in order.** In every run, as long as messages can be sent and the revisions do
    not overflow: the analysis of a snapshot publishes exactly when the snapshot is stored, so
    that each set is that of the text stored at that moment; the revisions of the sets published
    for a document grow; and after a document was cleared, nothing is published for it before
    it is opened, changed, saved with a text or closed again. -/
theorem publications_in_order (run : Run Step (fresh analyzer) trace d) (hopen : d.isOpen = true)
    (hn : mutationCount trace < revisionCount - 1) :
    (∀ t ∈ trace, ∀ p, t.label = .refreshed p → ∀ m ∈ sent t,
      ∃ s, t.before.documents.get? p.uri = some s ∧
        m = publication p.uri (analyzer.analyze s.text).diagnostics ∧
        m.Carries p.uri (analyzer.analyze s.text).diagnostics) ∧
    (∀ t ∈ trace, ∀ p, t.label = .refreshed p →
      (sent t ≠ [] ↔ t.before.documents.get? p.uri = some p)) ∧
    (trace.Pairwise fun t u => ∀ uri, Publishes t uri → Publishes u uri →
      ∃ r r', t.label.revision? = some r ∧ u.label.revision? = some r' ∧ r < r') ∧
    (∀ uri earlier t between u later, trace = earlier ++ t :: (between ++ u :: later) →
      (∃ r, t.label = .cleared uri r) → Publishes u uri →
      ∃ v ∈ between, Wakes v.label uri) := by
  have hrefresh : ∀ t ∈ trace, ∀ p, t.label = .refreshed p →
      sent t = if t.before.documents.get? p.uri = some p then
        [publication p.uri (analyzer.analyze p.text).diagnostics] else [] := by
    intro t ht p hp
    obtain ⟨earlier, later, rfl⟩ := List.append_of_mem ht
    obtain ⟨hd, hstep, ho, ha⟩ := consistent_before run hopen hn
    rw [show sent t = t.label.messages t.before from sent_eq hstep hd ho, hp, Move.messages, ha]
  refine ⟨?_, ?_, (revisions_grow run hopen hn).2, ?_⟩
  · intro t ht p hp m hm
    rw [hrefresh t ht p hp] at hm
    by_cases hs : t.before.documents.get? p.uri = some p
    · rw [if_pos hs, List.mem_singleton] at hm
      rw [hm]
      exact ⟨p, hs, rfl, carries_publication _ _⟩
    · rw [if_neg hs] at hm
      cases hm
  · intro t ht p hp
    rw [hrefresh t ht p hp]
    by_cases hs : t.before.documents.get? p.uri = some p <;> simp [hs]
  · rintro uri earlier t between u later rfl ⟨r, ht⟩ hpub
    by_contra hquiet
    have hbetween : ∀ v ∈ between, ¬ Wakes v.label uri :=
      fun v hv hwakes => hquiet ⟨v, hv, hwakes⟩
    -- the document falls silent at `t` and stays so up to `u`
    obtain ⟨hd, hstep, -, -⟩ := consistent_before run hopen hn
    obtain ⟨-, -, back⟩ := run.split
    obtain ⟨middle, -, -⟩ := back.split
    rw [ht] at hstep
    have hsilent := (silent_of_cleared hd hstep).run middle hbetween
    -- the same run, cut at `u`
    rw [← List.cons_append, ← List.append_assoc] at run hn
    obtain ⟨hd', hstep', ho', -⟩ := consistent_before run hopen hn
    exact hsilent.not_publishes hd' hstep' ho' hpub

/-- A document is closed while its analysis waits, cleared after that analysis, and opened again:
    its two sets, the empty one and that of the new text, are in order. -/
theorem publications_in_order_of_reopened :
    ∃ trace d, Run Step (fresh (.standard "webdsl" 200)) trace d ∧ d.isOpen = true ∧
      mutationCount trace = 3 ∧ d.queue.length = 2 ∧
      trace.Pairwise fun t u => ∀ uri, Publishes t uri → Publishes u uri →
        ∃ r r', t.label.revision? = some r ∧ u.label.revision? = some r' ∧ r < r' := by
  have run := (((((Run.nil.snoc
    (Step.mutation (fresh (.standard "webdsl" 200)) (.opened "a" "x") rfl)).snoc
    (Step.mutation _ (.closed "a") rfl)).snoc
    (Step.refreshed _ ⟨"a", "x", 1⟩ [] [] rfl)).snoc
    (Step.cleared _ "a" 2 rfl)).snoc
    (Step.mutation _ (.opened "a" "y") rfl)).snoc
    (Step.refreshed _ ⟨"a", "y", 3⟩ [] [] rfl)
  exact ⟨_, _, run, rfl, rfl, rfl, (publications_in_order run rfl (by decide)).2.2.1⟩

/-- A text is not the only thing that ends the silence of a cleared document: closing it once
    more, although it is not open, publishes the empty set once more. -/
theorem cleared_again_without_text :
    ¬ ∀ (analyzer : Analyzer) (trace : Trace) (d : Desk),
      Run Step (fresh analyzer) trace d → d.isOpen = true →
      mutationCount trace < revisionCount - 1 →
      ∀ uri earlier t between u later, trace = earlier ++ t :: (between ++ u :: later) →
        (∃ r, t.label = .cleared uri r) → Publishes u uri →
        ∃ v ∈ between, ∃ m, v.label = .mutation m ∧ m.uri = uri ∧ m.text?.isSome := by
  intro hall
  have run := (((Run.nil.snoc
    (Step.mutation (fresh (.standard "webdsl" 200)) (.closed "a") rfl)).snoc
    (Step.cleared _ "a" 1 rfl)).snoc
    (Step.mutation _ (.closed "a") rfl)).snoc
    (Step.cleared _ "a" 2 rfl)
  obtain ⟨v, hv, m, hm, -, htext⟩ :=
    hall _ _ _ run rfl (by decide) "a" [_] _ [_] _ [] rfl ⟨1, rfl⟩
      ⟨_, List.mem_cons_self, [], carries_publication "a" []⟩
  rw [List.mem_singleton] at hv
  rw [hv, Move.mutation.injEq] at hm
  rw [← hm] at htext
  cases htext

end Desk

end ServiceLang
