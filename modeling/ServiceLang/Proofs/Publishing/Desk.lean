import Mathlib.Data.List.Nodup
import ServiceLang.Proofs.Publishing.Store
import ServiceLang.Proofs.Run

namespace ServiceLang

/-!
# Mutations, analyses and clearings in any order

Documents change one after another, and every change that stores a text leaves a snapshot to be
analyzed. The analyses are done at any later time and in any order, also between the moment a
document is closed and the moment its diagnostics are cleared.

* `Mutation`: a change of a document;
* `Desk`: the documents and the publisher, with the analyses and the clearing still to be done;
* `Desk.Step`: what can happen next, as a step relation for `Run`;
* `Desk.Consistent`: what the revisions on a desk have to do with one another;
* `Desk.consistent_of_run`: that this holds at every moment of every run, as long as the
  revisions do not overflow.
-/

/-- A change of a document. -/
inductive Mutation where
  | opened (uri text : String)
  | changed (uri text : String)
  | saved (uri : String) (text : Option String)
  | closed (uri : String)
  deriving DecidableEq, Repr

namespace Mutation

/-- The document that changes. -/
def uri : Mutation → String
  | opened uri _ => uri
  | changed uri _ => uri
  | saved uri _ => uri
  | closed uri => uri

/-- The text that the change brings along. -/
def text? : Mutation → Option String
  | opened _ text => some text
  | changed _ text => some text
  | saved _ text => text
  | closed _ => none

end Mutation

/-- The open documents and the publisher, with the work still to be done: the snapshots to be
    analyzed, and the document just closed with the revision of its closure. -/
structure Desk where
  documents : Documents := {}
  publisher : Publisher
  waiting : List Snapshot := []
  closing : Option (String × Nat) := none

namespace Desk

/-- The desk before anything happened. -/
def fresh (analyzer : Analyzer) : Desk := { publisher := { analyzer } }

/-- The messages that have been sent. -/
def queue (d : Desk) : List Outgoing := d.publisher.outbox.queue

/-- Whether messages can be sent. -/
def isOpen (d : Desk) : Bool := d.publisher.outbox.isOpen

/-- Stores a text, and leaves its snapshot to be analyzed. -/
def store (d : Desk) (uri text : String) : Desk :=
  { d with
    documents := (d.documents.store uri text).2
    waiting := d.waiting ++ [(d.documents.store uri text).1] }

/-- Closes a document, and leaves it to be cleared. -/
def close (d : Desk) (uri : String) : Desk :=
  { d with
    documents := (d.documents.close uri).2
    closing := some (uri, (d.documents.close uri).1) }

/-- Takes a change of a document. -/
def mutate (d : Desk) : Mutation → Desk
  | .opened uri text => d.store uri text
  | .changed uri text => d.store uri text
  | .saved uri text =>
    { d with
      documents := (d.documents.save uri text).2
      waiting := d.waiting ++ (d.documents.save uri text).1.toList }
  | .closed uri => d.close uri

/-- Clears the document that was closed. -/
def clear (d : Desk) (uri : String) (revision : Nat) : Desk :=
  { d with publisher := d.publisher.clear uri revision, closing := none }

/-- Analyzes a snapshot, and leaves the others waiting. -/
def refresh (d : Desk) (p : Snapshot) (others : List Snapshot) : Desk :=
  { d with publisher := (d.publisher.refresh d.documents p).2, waiting := others }

/-- Closes the outbox for good. -/
def hangUp (d : Desk) : Desk :=
  { d with publisher := { d.publisher with outbox := d.publisher.outbox.close } }

@[simp] theorem documents_store (d : Desk) (uri text : String) :
    (d.store uri text).documents = (d.documents.store uri text).2 := rfl

@[simp] theorem documents_close (d : Desk) (uri : String) :
    (d.close uri).documents = (d.documents.close uri).2 := rfl

@[simp] theorem documents_clear (d : Desk) (uri : String) (revision : Nat) :
    (d.clear uri revision).documents = d.documents := rfl

@[simp] theorem documents_refresh (d : Desk) (p : Snapshot) (others : List Snapshot) :
    (d.refresh p others).documents = d.documents := rfl

/-- What can happen at a desk. -/
inductive Move where
  | mutation (m : Mutation)
  | cleared (uri : String) (revision : Nat)
  | refreshed (snapshot : Snapshot)
  | hungUp

/-- One step. Documents change in order, so a closed document is cleared before the next change;
    each waiting snapshot is analyzed once, at any time. -/
inductive Step : Desk → Move → Desk → Prop
  | mutation (d : Desk) (m : Mutation) (h : d.closing = none) : Step d (.mutation m) (d.mutate m)
  | cleared (d : Desk) (uri : String) (revision : Nat) (h : d.closing = some (uri, revision)) :
      Step d (.cleared uri revision) (d.clear uri revision)
  | refreshed (d : Desk) (p : Snapshot) (front back : List Snapshot)
      (h : d.waiting = front ++ p :: back) : Step d (.refreshed p) (d.refresh p (front ++ back))
  | hungUp (d : Desk) : Step d .hungUp d.hangUp

/-- Whether a move changes documents. -/
def Move.isMutation : Move → Bool
  | .mutation _ => true
  | _ => false

/-- The transitions of a desk. -/
abbrev Trace := List (Transition Desk Move)

/-- The number of mutations in a trace. -/
def mutationCount (trace : Trace) : Nat := trace.countP (·.label.isMutation)

/-- A mutation stores a text, does nothing, or closes its document. What it stores is the text
    that it brings along or the one that is there already. -/
theorem mutate_cases (d : Desk) (m : Mutation) :
    (∃ text, d.mutate m = d.store m.uri text ∧
      (m.text? = some text ∨ (d.documents.get? m.uri).isSome)) ∨
    (d.mutate m = d ∧ m.text? = none) ∨
    (m = .closed m.uri ∧ d.mutate m = d.close m.uri) := by
  cases m with
  | opened uri text => exact .inl ⟨text, rfl, .inl rfl⟩
  | changed uri text => exact .inl ⟨text, rfl, .inl rfl⟩
  | closed uri => exact .inr (.inr ⟨rfl, rfl⟩)
  | saved uri text =>
    obtain ⟨t, ht, hs⟩ | ⟨htext, _, hs⟩ := d.documents.save_cases uri text
    · refine .inl ⟨t, ?_, ?_⟩
      · rw [mutate, hs]
        rfl
      · rcases ht with ht | ⟨p, hp, _⟩
        · exact .inl ht
        · exact .inr (by rw [show (Mutation.saved uri text).uri = uri from rfl, hp]; rfl)
    · refine .inr (.inl ⟨?_, htext⟩)
      rw [mutate, hs, Option.toList_none, List.append_nil]

/-! ### The invariant -/

/-- What the revisions on a desk have to do with one another. -/
structure Consistent (d : Desk) : Prop where
  /-- Revisions start at 1. -/
  next_pos : 0 < d.documents.nextRevision
  /-- A stored revision has been handed out. -/
  stored_lt : ∀ uri s, d.documents.get? uri = some s → s.revision < d.documents.nextRevision
  /-- The revision of a waiting snapshot has been handed out, and is not 0. -/
  waiting_lt : ∀ w ∈ d.waiting, 0 < w.revision ∧ w.revision < d.documents.nextRevision
  /-- A published revision has been handed out. -/
  last_lt : ∀ uri, d.publisher.lastRevision uri < d.documents.nextRevision
  /-- No two waiting snapshots have one revision. -/
  waiting_nodup : (d.waiting.map (·.revision)).Nodup
  /-- A waiting snapshot with the revision of a stored one is the stored one. -/
  stored_eq : ∀ w ∈ d.waiting, ∀ uri s,
    d.documents.get? uri = some s → w.revision = s.revision → w = s
  /-- Nothing as new as a waiting snapshot that is still stored has been published for it. -/
  unpublished : ∀ w ∈ d.waiting, d.documents.get? w.uri = some w →
    d.publisher.lastRevision w.uri < w.revision
  /-- A document that waits to be cleared is not stored, and its closure is newer than all that
      was published for it. -/
  closing_lt : ∀ uri r, d.closing = some (uri, r) →
    d.documents.get? uri = none ∧ d.publisher.lastRevision uri < r ∧
      r < d.documents.nextRevision

theorem consistent_fresh (analyzer : Analyzer) : Consistent (fresh analyzer) where
  next_pos := Nat.one_pos
  stored_lt := by intro uri s h; simp [fresh] at h
  waiting_lt := by intro w hw; simp [fresh] at hw
  last_lt := fun _ => Nat.one_pos
  waiting_nodup := List.nodup_nil
  stored_eq := by intro w hw; simp [fresh] at hw
  unpublished := by intro w hw; simp [fresh] at hw
  closing_lt := by intro uri r h; simp [fresh] at h

/-- The next revision, while there is one. -/
theorem revisionAfter_eq {r : Nat} (h : r + 1 < revisionCount) : revisionAfter r = r + 1 :=
  Nat.mod_eq_of_lt h

namespace Consistent

variable {d : Desk}

/-- Storing a text keeps a desk consistent: its revision is newer than all others. -/
theorem store (hd : d.Consistent) (hc : d.closing = none)
    (hr : d.documents.nextRevision + 1 < revisionCount) (uri text : String) :
    (d.store uri text).Consistent := by
  have hnext : (d.store uri text).documents.nextRevision = d.documents.nextRevision + 1 :=
    revisionAfter_eq hr
  have hnew : (d.documents.store uri text).1.revision = d.documents.nextRevision := rfl
  have hget : ∀ u, (d.store uri text).documents.get? u
      = if u = uri then some (d.documents.store uri text).1 else d.documents.get? u := by
    intro u
    rw [documents_store, Documents.get?_store]
  have hwait : ∀ w ∈ (d.store uri text).waiting,
      w ∈ d.waiting ∨ w = (d.documents.store uri text).1 := by
    intro w hw
    simpa [Desk.store] using hw
  constructor
  case next_pos => rw [hnext]; omega
  case stored_lt =>
    intro u s h
    rw [hget] at h
    rw [hnext]
    by_cases hu : u = uri
    · rw [if_pos hu, Option.some.injEq] at h
      rw [← h, hnew]
      omega
    · rw [if_neg hu] at h
      have := hd.stored_lt u s h
      omega
  case waiting_lt =>
    intro w hw
    rw [hnext]
    rcases hwait w hw with h | rfl
    · have := hd.waiting_lt w h
      omega
    · have := hd.next_pos
      rw [hnew]
      omega
  case last_lt =>
    intro u
    have := hd.last_lt u
    rw [hnext]
    show d.publisher.lastRevision u < _
    omega
  case waiting_nodup =>
    show ((d.waiting ++ [(d.documents.store uri text).1]).map (·.revision)).Nodup
    rw [List.map_append, List.nodup_append]
    refine ⟨hd.waiting_nodup, List.nodup_singleton _, ?_⟩
    intro r hr r' hr'
    obtain ⟨w, hw, rfl⟩ := List.mem_map.mp hr
    rw [List.map_singleton, List.mem_singleton] at hr'
    have := hd.waiting_lt w hw
    rw [hr', hnew]
    omega
  case stored_eq =>
    intro w hw u s h hrev
    rw [hget] at h
    -- the new revision is neither that of an older waiting snapshot nor that of a stored one
    rcases hwait w hw with h' | rfl
    · by_cases hu : u = uri
      · rw [if_pos hu, Option.some.injEq] at h
        have := hd.waiting_lt w h'
        rw [hrev, ← h, hnew] at this
        omega
      · rw [if_neg hu] at h
        exact hd.stored_eq w h' u s h hrev
    · by_cases hu : u = uri
      · rw [if_pos hu, Option.some.injEq] at h
        exact h
      · rw [if_neg hu] at h
        have := hd.stored_lt u s h
        rw [← hrev, hnew] at this
        omega
  case unpublished =>
    intro w hw h
    rw [hget] at h
    show d.publisher.lastRevision w.uri < w.revision
    rcases hwait w hw with h' | rfl
    · by_cases hu : w.uri = uri
      · rw [if_pos hu, Option.some.injEq] at h
        have := hd.waiting_lt w h'
        rw [← h, hnew] at this
        omega
      · rw [if_neg hu] at h
        exact hd.unpublished w h' h
    · exact hd.last_lt _
  case closing_lt =>
    intro u r h
    rw [show (d.store uri text).closing = d.closing from rfl, hc] at h
    cases h

/-- Closing a document keeps a desk consistent: the closure is newer than all revisions. -/
theorem close (hd : d.Consistent) (hr : d.documents.nextRevision + 1 < revisionCount)
    (uri : String) : (d.close uri).Consistent := by
  have hnext : (d.close uri).documents.nextRevision = d.documents.nextRevision + 1 :=
    revisionAfter_eq hr
  -- What is stored afterwards was stored before, under another address.
  have hget : ∀ u s, (d.close uri).documents.get? u = some s →
      u ≠ uri ∧ d.documents.get? u = some s := by
    intro u s h
    rw [documents_close, Documents.get?_close] at h
    by_cases hu : u = uri
    · rw [if_pos hu] at h
      cases h
    · rw [if_neg hu] at h
      exact ⟨hu, h⟩
  constructor
  case next_pos => rw [hnext]; omega
  case stored_lt =>
    intro u s h
    have := hd.stored_lt u s (hget u s h).2
    omega
  case waiting_lt =>
    intro w hw
    have := hd.waiting_lt w hw
    omega
  case last_lt =>
    intro u
    have := hd.last_lt u
    rw [hnext]
    show d.publisher.lastRevision u < _
    omega
  case waiting_nodup => exact hd.waiting_nodup
  case stored_eq => exact fun w hw u s h => hd.stored_eq w hw u s (hget u s h).2
  case unpublished => exact fun w hw h => hd.unpublished w hw (hget w.uri w h).2
  case closing_lt =>
    intro u r h
    rw [Desk.close, Option.some.injEq, Prod.mk.injEq] at h
    obtain ⟨rfl, rfl⟩ := h
    refine ⟨?_, hd.last_lt _, ?_⟩
    · rw [documents_close, Documents.get?_close, if_pos rfl]
    · rw [hnext]
      exact Nat.lt_succ_self _

/-- A change of the publisher that raises no published revision keeps a desk consistent. -/
theorem withPublisher (hd : d.Consistent) {p : Publisher} {closing : Option (String × Nat)}
    (hp : ∀ u, p.lastRevision u ≤ d.publisher.lastRevision u)
    (hc : closing = none ∨ closing = d.closing) :
    ({ d with publisher := p, closing } : Desk).Consistent where
  next_pos := hd.next_pos
  stored_lt := hd.stored_lt
  waiting_lt := hd.waiting_lt
  last_lt := fun u => Nat.lt_of_le_of_lt (hp u) (hd.last_lt u)
  waiting_nodup := hd.waiting_nodup
  stored_eq := hd.stored_eq
  unpublished := fun w hw h => Nat.lt_of_le_of_lt (hp w.uri) (hd.unpublished w hw h)
  closing_lt := by
    intro u r h
    rcases hc with rfl | rfl
    · cases h
    · obtain ⟨hget, hlast, hlt⟩ := hd.closing_lt u r h
      exact ⟨hget, Nat.lt_of_le_of_lt (hp u) hlast, hlt⟩

/-- Dropping a waiting snapshot keeps a desk consistent. -/
theorem withoutWaiting (hd : d.Consistent) {p : Snapshot} {front back : List Snapshot}
    (h : d.waiting = front ++ p :: back) :
    ({ d with waiting := front ++ back } : Desk).Consistent := by
  have hmem : ∀ w ∈ front ++ back, w ∈ d.waiting := by
    intro w hw
    rw [h]
    rcases List.mem_append.mp hw with hw | hw
    · exact List.mem_append_left _ hw
    · exact List.mem_append_right _ (List.mem_cons_of_mem _ hw)
  have hnodup := hd.waiting_nodup
  rw [h, List.map_append, List.map_cons, List.nodup_middle, List.nodup_cons] at hnodup
  exact
    { next_pos := hd.next_pos
      stored_lt := hd.stored_lt
      waiting_lt := fun w hw => hd.waiting_lt w (hmem w hw)
      last_lt := hd.last_lt
      waiting_nodup := by rw [List.map_append]; exact hnodup.2
      stored_eq := fun w hw => hd.stored_eq w (hmem w hw)
      unpublished := fun w hw => hd.unpublished w (hmem w hw)
      closing_lt := hd.closing_lt }

/-- The snapshot that is taken from the waiting ones is one of them. -/
theorem mem_waiting {p : Snapshot} {front back : List Snapshot}
    (h : d.waiting = front ++ p :: back) : p ∈ d.waiting :=
  h ▸ List.mem_append_right _ List.mem_cons_self

/-- No other waiting snapshot has the revision of a given one. -/
theorem revision_ne (hd : d.Consistent) {p w : Snapshot} {front back : List Snapshot}
    (h : d.waiting = front ++ p :: back) (hw : w ∈ front ++ back) : w.revision ≠ p.revision := by
  have hnodup := hd.waiting_nodup
  rw [h, List.map_append, List.map_cons, List.nodup_middle, List.nodup_cons,
    ← List.map_append] at hnodup
  intro heq
  exact hnodup.1 (heq ▸ List.mem_map_of_mem hw)

/-- **Current sets.** The set made from a waiting snapshot is current exactly when the snapshot is
    the stored one. -/
theorem isCurrent_iff (hd : d.Consistent) {p : Snapshot} (hp : p ∈ d.waiting) :
    d.publisher.isCurrent d.documents p.uri p.revision = true ↔
      d.documents.get? p.uri = some p := by
  rw [Publisher.isCurrent_iff]
  constructor
  · rintro ⟨_, s, hs, hrev⟩
    rw [hs, hd.stored_eq p hp p.uri s hs hrev.symm]
  · intro h
    exact ⟨hd.unpublished p hp h, p, h, rfl⟩

/-- Analyzing a waiting snapshot keeps a desk consistent: once it is published it waits no more,
    and no other snapshot of its document is stored. -/
theorem refresh (hd : d.Consistent) {p : Snapshot} {front back : List Snapshot}
    (h : d.waiting = front ++ p :: back) : (d.refresh p (front ++ back)).Consistent := by
  have hp : p ∈ d.waiting := mem_waiting h
  rw [Desk.refresh, Publisher.refresh_eq]
  by_cases hcur : d.publisher.isCurrent d.documents p.uri p.revision ∧ d.publisher.outbox.isOpen
  · rw [if_pos hcur]
    have hstored := (hd.isCurrent_iff hp).mp hcur.1
    have hrest := hd.withoutWaiting h
    constructor
    case next_pos => exact hd.next_pos
    case stored_lt => exact hd.stored_lt
    case waiting_lt => exact hrest.waiting_lt
    case waiting_nodup => exact hrest.waiting_nodup
    case stored_eq => exact hrest.stored_eq
    case last_lt =>
      intro u
      show (d.publisher.afterPublishing p).lastRevision u < d.documents.nextRevision
      rw [Publisher.lastRevision_afterPublishing]
      by_cases hu : u = p.uri
      · rw [if_pos hu]
        exact (hd.waiting_lt p hp).2
      · rw [if_neg hu]
        exact hd.last_lt u
    case unpublished =>
      intro w hw hget
      show (d.publisher.afterPublishing p).lastRevision w.uri < w.revision
      rw [Publisher.lastRevision_afterPublishing]
      by_cases hu : w.uri = p.uri
      · -- a second stored snapshot of the document would be `p` itself, which waits no more
        have hwp : some w = some p := by rw [← hget, ← hstored, hu]
        exact absurd (congrArg Snapshot.revision (Option.some.inj hwp)) (hd.revision_ne h hw)
      · rw [if_neg hu]
        exact hrest.unpublished w hw hget
    case closing_lt =>
      intro u r hc
      obtain ⟨hget, hlast, hlt⟩ := hd.closing_lt u r hc
      -- the document to be cleared is not stored, but the published one is
      have hu : u ≠ p.uri := by
        rintro rfl
        rw [hget] at hstored
        cases hstored
      refine ⟨hget, ?_, hlt⟩
      show (d.publisher.afterPublishing p).lastRevision u < r
      rw [Publisher.lastRevision_afterPublishing, if_neg hu]
      exact hlast
  · rw [if_neg hcur]
    exact (hd.withoutWaiting h).withPublisher
      (fun u => Nat.le_of_eq (d.publisher.lastRevision_afterRefusal p.uri u)) (.inr rfl)

/-- **One step.** Every step keeps a desk consistent while the revisions do not overflow. -/
theorem step (hd : d.Consistent) {d' : Desk} {move : Move} (h : Step d move d')
    (hr : move.isMutation = true → d.documents.nextRevision + 1 < revisionCount) :
    d'.Consistent := by
  cases h with
  | mutation m hc =>
    obtain ⟨text, hm, _⟩ | ⟨hm, _⟩ | ⟨_, hm⟩ := d.mutate_cases m
    · rw [hm]
      exact hd.store hc (hr rfl) m.uri text
    · rw [hm]
      exact hd
    · rw [hm]
      exact hd.close (hr rfl) m.uri
  | cleared uri revision hc =>
    exact hd.withPublisher (d.publisher.lastRevision_clear_le uri revision) (.inl rfl)
  | refreshed p front back hw => exact hd.refresh hw
  | hungUp => exact hd.withPublisher (fun _ => Nat.le_refl _) (.inr rfl)

end Consistent

/-- A mutation hands out one revision at most. -/
theorem nextRevision_step {d d' : Desk} {move : Move} (h : Step d move d')
    (hr : move.isMutation = true → d.documents.nextRevision + 1 < revisionCount) :
    d'.documents.nextRevision ≤ d.documents.nextRevision + if move.isMutation then 1 else 0 := by
  cases h with
  | mutation m hc =>
    have hlt : d.documents.nextRevision + 1 < revisionCount := hr rfl
    obtain ⟨text, hm, _⟩ | ⟨hm, _⟩ | ⟨_, hm⟩ := d.mutate_cases m
    · rw [hm]
      exact Nat.le_of_eq (revisionAfter_eq hlt)
    · rw [hm]
      exact Nat.le_add_right _ _
    · rw [hm]
      exact Nat.le_of_eq (revisionAfter_eq hlt)
  | cleared uri revision hc => exact Nat.le_refl _
  | refreshed p front back hw => exact Nat.le_refl _
  | hungUp => exact Nat.le_refl _

/-- A move counts when it is a mutation. -/
theorem mutationCount_concat (trace : Trace) (d d' : Desk) (move : Move) :
    mutationCount (trace ++ [⟨d, move, d'⟩])
      = mutationCount trace + if move.isMutation then 1 else 0 := by
  rw [mutationCount, List.countP_append, List.countP_singleton]
  rfl

/-- A bound on the mutations of a run holds before its last move. -/
theorem mutationCount_lt_of_concat {trace : Trace} {t : Transition Desk Move} {n : Nat}
    (h : mutationCount (trace ++ [t]) < n) : mutationCount trace < n := by
  rw [mutationCount, List.countP_append] at h
  exact Nat.lt_of_le_of_lt (Nat.le_add_right _ _) h

/-- There is a revision left for the last mutation of a trace. -/
theorem nextRevision_lt_of_concat {trace : Trace} {d d' : Desk} {move : Move}
    (hn : mutationCount (trace ++ [⟨d, move, d'⟩]) < revisionCount - 1)
    (hnext : d.documents.nextRevision ≤ mutationCount trace + 1) :
    move.isMutation = true → d.documents.nextRevision + 1 < revisionCount := by
  intro hm
  rw [mutationCount_concat, if_pos hm] at hn
  omega

/-- **Every moment of a run.** A desk is consistent, and its revisions are numbered by the
    mutations so far, as long as these fit into the 64 bits of a revision. -/
theorem consistent_of_run {analyzer : Analyzer} {trace : Trace} {d : Desk}
    (run : Run Step (fresh analyzer) trace d) (hn : mutationCount trace < revisionCount - 1) :
    d.Consistent ∧ d.documents.nextRevision ≤ mutationCount trace + 1 := by
  induction run with
  | nil => exact ⟨consistent_fresh analyzer, Nat.le_refl _⟩
  | @snoc trace d d' move run h ih =>
    obtain ⟨hd, hnext⟩ := ih (mutationCount_lt_of_concat hn)
    have hr := nextRevision_lt_of_concat hn hnext
    have hstep := nextRevision_step h hr
    refine ⟨hd.step h hr, ?_⟩
    rw [mutationCount_concat]
    omega

end Desk

end ServiceLang
