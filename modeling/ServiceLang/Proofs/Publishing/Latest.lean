import ServiceLang.Proofs.Publishing.Order

namespace ServiceLang

/-!
# The latest set of a document

No current result is lost, and no stale one comes last:

* `LastPublication`: the last set of a document among the messages sent;
* `Desk.currentSet`: what should be published for a document;
* `Desk.Owes`: the work still to be done for a document;
* `Desk.lastPublication_of_run`: at every moment of a run, the last set published for a document
  is the one it should be, unless there is still work to be done for the document.
-/

/-- The last set of a document among the messages sent: a message carries it, and no message
    behind that one carries any set of the document. -/
def LastPublication (queue : List Outgoing) (uri : String) (diagnostics : List Diagnostic) :
    Prop :=
  ∃ front back, queue = front ++ publication uri diagnostics :: back ∧
    (publication uri diagnostics).Carries uri diagnostics ∧
    ∀ m ∈ back, ∀ others, ¬ m.Carries uri others

namespace LastPublication

variable {queue more : List Outgoing} {uri : String} {diagnostics : List Diagnostic}

/-- The set that is sent last is the last one. -/
theorem concat (queue : List Outgoing) (uri : String) (diagnostics : List Diagnostic) :
    LastPublication (queue ++ [publication uri diagnostics]) uri diagnostics :=
  ⟨queue, [], rfl, carries_publication uri diagnostics, fun _ h => (List.not_mem_nil h).elim⟩

/-- The last set stays the last one when no further set of the document is sent. -/
theorem append (h : LastPublication queue uri diagnostics)
    (hmore : ∀ m ∈ more, ∀ others, ¬ m.Carries uri others) :
    LastPublication (queue ++ more) uri diagnostics := by
  obtain ⟨front, back, rfl, hcarries, hback⟩ := h
  refine ⟨front, back ++ more, by simp, hcarries, ?_⟩
  intro m hm
  rcases List.mem_append.mp hm with hm | hm
  · exact hback m hm
  · exact hmore m hm

end LastPublication

namespace Desk

/-- What should be published for a document: the diagnostics of the stored text, and none for a
    document that is not open. -/
def currentSet (d : Desk) (uri : String) : List Diagnostic :=
  match d.documents.get? uri with
  | some s => (d.publisher.analyzer.analyze s.text).diagnostics
  | none => []

/-- There is still work to be done for a document: its stored snapshot waits to be analyzed, or
    it waits to be cleared. -/
def Owes (d : Desk) (uri : String) : Prop :=
  (∃ s ∈ d.waiting, d.documents.get? uri = some s) ∨ ∃ r, d.closing = some (uri, r)

/-- A document that was open at some moment, or was closed. -/
def Known (trace : Trace) (uri : String) : Prop :=
  ∃ t ∈ trace, (t.after.documents.get? uri).isSome ∨ t.label = .mutation (.closed uri)

/-- The last set is the one it should be, unless there is work to be done. -/
def UpToDate (d : Desk) (uri : String) : Prop :=
  d.Owes uri ∨ LastPublication d.queue uri (d.currentSet uri)

variable {d d' : Desk} {move : Move} {uri : String} {analyzer : Analyzer} {trace : Trace}

/-- The set of a document depends on its stored snapshot and on the analyzer. -/
theorem currentSet_eq (hget : d'.documents.get? uri = d.documents.get? uri)
    (ha : d'.publisher.analyzer = d.publisher.analyzer) : d'.currentSet uri = d.currentSet uri := by
  rw [currentSet, currentSet, hget, ha]

/-- A step that does not concern a document leaves it up to date: its snapshot stays, the work
    for it stays, and no set of it is sent. -/
theorem UpToDate.frame (h : d.UpToDate uri)
    (hget : d'.documents.get? uri = d.documents.get? uri)
    (ha : d'.publisher.analyzer = d.publisher.analyzer) (howes : d.Owes uri → d'.Owes uri)
    {more : List Outgoing} (hqueue : d'.queue = d.queue ++ more)
    (hmore : ∀ m ∈ more, ∀ others, ¬ m.Carries uri others) : d'.UpToDate uri := by
  rcases h with h | h
  · exact .inl (howes h)
  · rw [UpToDate, hqueue, currentSet_eq hget ha]
    exact .inr (h.append hmore)

/-- Storing a text leaves every document up to date that was: the stored one has to be
    analyzed. -/
theorem upToDate_store (hc : d.closing = none) (u text : String)
    (h : uri = u ∨ d.UpToDate uri) : (d.store u text).UpToDate uri := by
  by_cases hu : uri = u
  · refine .inl (.inl ⟨(d.documents.store u text).1, ?_, ?_⟩)
    · exact List.mem_append_right _ (List.mem_singleton_self _)
    · rw [documents_store, Documents.get?_store, if_pos hu]
  · have hget : (d.store u text).documents.get? uri = d.documents.get? uri := by
      rw [documents_store, Documents.get?_store, if_neg hu]
    refine (h.resolve_left hu).frame hget rfl ?_ (List.append_nil _).symm (by simp)
    rintro (⟨s, hs, hstored⟩ | ⟨r, hr⟩)
    · exact .inl ⟨s, List.mem_append_left _ hs, hget.trans hstored⟩
    · rw [hc] at hr
      cases hr

/-- Closing a document leaves every document up to date that was: the closed one has to be
    cleared. -/
theorem upToDate_close (hc : d.closing = none) (u : String) (h : uri = u ∨ d.UpToDate uri) :
    (d.close u).UpToDate uri := by
  by_cases hu : uri = u
  · exact .inl (.inr ⟨(d.documents.close u).1, by rw [hu]; rfl⟩)
  · have hget : (d.close u).documents.get? uri = d.documents.get? uri := by
      rw [documents_close, Documents.get?_close, if_neg hu]
    refine (h.resolve_left hu).frame hget rfl ?_ (List.append_nil _).symm (by simp)
    rintro (⟨s, hs, hstored⟩ | ⟨r, hr⟩)
    · exact .inl ⟨s, hs, hget.trans hstored⟩
    · rw [hc] at hr
      cases hr

/-- Clearing a document makes it up to date, and leaves the others so. -/
theorem upToDate_clear (hd : d.Consistent) {u : String} {r : Nat}
    (hc : d.closing = some (u, r)) (hqueue : (d.clear u r).queue = d.queue ++ [publication u []])
    (h : d.UpToDate uri) : (d.clear u r).UpToDate uri := by
  by_cases hu : uri = u
  · have hnone : (d.clear u r).currentSet uri = [] := by
      rw [currentSet, documents_clear, hu, (hd.closing_lt u r hc).1]
    rw [UpToDate, hnone, hqueue, hu]
    exact .inr (.concat _ _ _)
  · refine h.frame rfl (d.publisher.analyzer_clear u r) ?_ hqueue ?_
    · rintro (hw | ⟨r', hr'⟩)
      · exact .inl hw
      · rw [hc, Option.some.injEq, Prod.mk.injEq] at hr'
        exact absurd hr'.1.symm hu
    · intro m hm others hcarries
      rw [List.mem_singleton] at hm
      rw [hm] at hcarries
      exact hu (hcarries.uri_eq (carries_publication u []))

/-- Analyzing a snapshot makes its document up to date if the snapshot is the stored one, and
    leaves the others so: the stored snapshot of another document still waits if it did. -/
theorem upToDate_refresh {p : Snapshot} {front back : List Snapshot}
    (hw : d.waiting = front ++ p :: back) (ha : (d.refresh p (front ++ back)).publisher.analyzer
      = d.publisher.analyzer)
    (hqueue : (d.refresh p (front ++ back)).queue = d.queue ++ (Move.refreshed p).messages d)
    (h : d.UpToDate uri) : (d.refresh p (front ++ back)).UpToDate uri := by
  by_cases hp : uri = p.uri ∧ d.documents.get? p.uri = some p
  · obtain ⟨rfl, hs⟩ := hp
    rw [Move.messages, if_pos hs] at hqueue
    have hset : (d.refresh p (front ++ back)).currentSet p.uri
        = (d.publisher.analyzer.analyze p.text).diagnostics := by
      rw [currentSet, documents_refresh, hs, ha]
    rw [UpToDate, hset, hqueue]
    exact .inr (.concat _ _ _)
  · refine h.frame rfl ha ?_ hqueue ?_
    · rintro (⟨s, hs, hstored⟩ | hr)
      · refine .inl ⟨s, ?_, hstored⟩
        -- `s` is stored and `p` is not, or they belong to different documents
        have hne : s ≠ p := by
          rintro rfl
          have huri := Documents.uri_of_get? hstored
          exact hp ⟨huri.symm, huri ▸ hstored⟩
        rw [hw, List.mem_append, List.mem_cons] at hs
        rcases hs with hs | hs | hs
        · exact List.mem_append_left _ hs
        · exact absurd hs hne
        · exact List.mem_append_right _ hs
      · exact .inr hr
    · intro m hm others hcarries
      rw [Move.messages] at hm
      by_cases hs : d.documents.get? p.uri = some p
      · rw [if_pos hs, List.mem_singleton] at hm
        rw [hm] at hcarries
        exact hp ⟨hcarries.uri_eq (carries_publication p.uri _), hs⟩
      · rw [if_neg hs] at hm
        cases hm

/-- **One step.** Every step leaves a document up to date that was, and makes up to date a
    document that it opens or closes. -/
theorem upToDate_step (hd : d.Consistent) (h : Step d move d') (hopen : d'.isOpen = true)
    (hu : d.UpToDate uri ∨ (d.documents.get? uri = none ∧ (d'.documents.get? uri).isSome) ∨
      move = .mutation (.closed uri)) : d'.UpToDate uri := by
  have hqueue := queue_step h hd hopen
  have ha := analyzer_step h
  -- A mutation stores a text, does nothing or closes a document. In each case the hypothesis says
  -- why its own document is up to date: it was, it has just been opened, or it is closed now.
  cases h with
  | mutation m hc =>
    obtain ⟨text, hm, _⟩ | ⟨hm, _⟩ | ⟨hclosed, hm⟩ := d.mutate_cases m
    · rw [hm] at hu ⊢
      refine upToDate_store hc m.uri text ?_
      obtain hu | ⟨hnone, hsome⟩ | hmove := hu
      · exact .inr hu
      · by_contra hcon
        rw [not_or] at hcon
        rw [documents_store, Documents.get?_store, if_neg hcon.1, hnone] at hsome
        cases hsome
      · rw [Move.mutation.injEq] at hmove
        exact .inl (by rw [hmove]; rfl)
    · rw [hm] at hu ⊢
      obtain hu | ⟨hnone, hsome⟩ | hmove := hu
      · exact hu
      · rw [hnone] at hsome
        cases hsome
      · -- a closure is never without effect, since it waits to be cleared
        rw [Move.mutation.injEq] at hmove
        rw [hmove] at hm
        have hclosing := congrArg Desk.closing hm
        rw [hc] at hclosing
        cases hclosing
    · rw [hm] at hu ⊢
      refine upToDate_close hc m.uri ?_
      obtain hu | ⟨hnone, hsome⟩ | hmove := hu
      · exact .inr hu
      · rw [documents_close, Documents.get?_close, hnone, ite_self] at hsome
        cases hsome
      · rw [Move.mutation.injEq] at hmove
        exact .inl (by rw [hmove]; rfl)
  | cleared u r hc =>
    obtain hu | ⟨hnone, hsome⟩ | hmove := hu
    · exact upToDate_clear hd hc hqueue hu
    · rw [documents_clear, hnone] at hsome
      cases hsome
    · cases hmove
  | refreshed p front back hw =>
    obtain hu | ⟨hnone, hsome⟩ | hmove := hu
    · exact upToDate_refresh hw ha hqueue hu
    · rw [documents_refresh, hnone] at hsome
      cases hsome
    · cases hmove
  | hungUp => cases hopen

/-- A document that is open is known. -/
theorem known_of_isSome (run : Run Step (fresh analyzer) trace d)
    (h : (d.documents.get? uri).isSome) : Known trace uri := by
  cases run with
  | nil => cases h
  | snoc run hs => exact ⟨_, List.mem_append_right _ (List.mem_singleton_self _), .inl h⟩

/-- **Every moment of a run.** Every known document is up to date. -/
theorem upToDate_of_run (run : Run Step (fresh analyzer) trace d) (hopen : d.isOpen = true)
    (hn : mutationCount trace < revisionCount - 1) (hk : Known trace uri) : d.UpToDate uri := by
  induction run with
  | nil =>
    obtain ⟨t, ht, -⟩ := hk
    cases ht
  | @snoc trace d d' move run h ih =>
    have hlt := mutationCount_lt_of_concat hn
    have ih := ih (isOpen_of_step h hopen) hlt
    refine upToDate_step (consistent_of_run run hlt).1 h hopen ?_
    obtain ⟨t, ht, hk⟩ := hk
    rcases List.mem_append.mp ht with ht | ht
    · exact .inl (ih ⟨t, ht, hk⟩)
    · rw [List.mem_singleton] at ht
      subst ht
      rcases hk with hsome | hmove
      · cases hget : d.documents.get? uri with
        | none => exact .inr (.inl ⟨rfl, hsome⟩)
        | some s => exact .inl (ih (known_of_isSome run (by rw [hget]; rfl)))
      · exact .inr (.inr hmove)

/-- Once the work for a known document is done, the last set published for it is the one it
    should be. -/
theorem lastPublication_of_run (run : Run Step (fresh analyzer) trace d) (hopen : d.isOpen = true)
    (hn : mutationCount trace < revisionCount - 1) (hk : Known trace uri) (hdone : ¬ d.Owes uri) :
    LastPublication d.queue uri (d.currentSet uri) :=
  (upToDate_of_run run hopen hn hk).resolve_left hdone

end Desk

end ServiceLang
