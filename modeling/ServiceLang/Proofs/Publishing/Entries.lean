import ServiceLang.Proofs.Publishing.Desk

namespace ServiceLang

/-!
# The entries of published sets

The publisher keeps an entry for each document that has a published set. While it decides about a
set, the document may have a placeholder instead, which must not stay when the set is refused.

* `Publisher.afterRefusal_eq_self`: a refused set leaves the publisher as it was, unless a
  placeholder was left from before;
* `Publisher.publish_fst_eq_false_iff`: the sets that are refused;
* `Desk.Accounted`: every entry is that of a set published for an open document, or for the one that
  waits to be cleared;
* `Desk.Accounted.step`, `Desk.accounted_of_run`: one step, and whole runs;
* `Desk.entries_of_run`: the entries at any moment of a run, and what a refused set does to them;
* `Desk.exists_run_overflow`: why the revisions must not overflow.
-/

/-! ### Refused sets -/

namespace Publisher

variable {p : Publisher} {d : Documents} {uri : String} {revision : Nat}
  {diagnostics : List Diagnostic}

/-- **A refused set** leaves the publisher as it was: a placeholder that was put there for it is
    dropped, and an entry that was there before is none. -/
theorem afterRefusal_eq_self (h : ∀ entry ∈ p.published, 0 < entry.2.revision) (uri : String) :
    p.afterRefusal uri = p := by
  cases hlookup : p.published.lookup uri with
  | none =>
    have hhold : p.hold uri = { p with published := setKey uri .placeholder p.published } := by
      rw [hold, hlookup]
      rfl
    have hzero : (p.hold uri).lastRevision uri = 0 := by
      rw [lastRevision_hold, lastRevision, hlookup]
      rfl
    rw [afterRefusal, release, if_pos hzero, hhold]
    simp only [eraseKey_setKey, eraseKey_of_lookup_eq_none hlookup]
  | some entry =>
    have hhold : p.hold uri = p := by
      rw [hold, hlookup]
      rfl
    have hpos : p.lastRevision uri ≠ 0 := by
      have hentry := h _ (mem_of_lookup hlookup)
      rw [lastRevision, hlookup, Option.getD_some]
      exact Nat.ne_of_gt hentry
    rw [afterRefusal, hhold, release, if_neg hpos]

/-- A set is refused when it is not newer than what was published, when its revision is not the
    stored one, and when it cannot be sent. -/
theorem publish_fst_eq_false_iff :
    (p.publish d uri revision diagnostics).1 = false ↔
      revision ≤ p.lastRevision uri ∨ d.revision? uri ≠ some revision ∨
        p.outbox.isOpen = false := by
  have hiff : p.isCurrent d uri revision = true ∧ p.outbox.isOpen = true ↔
      ¬ (revision ≤ p.lastRevision uri ∨ d.revision? uri ≠ some revision ∨
        p.outbox.isOpen = false) := by
    simp [isCurrent, and_assoc]
  rw [publish_eq]
  split
  case isTrue h => exact iff_of_false (by simp) (hiff.mp h)
  case isFalse h => exact iff_of_true rfl (not_not.mp (mt hiff.mpr h))

/-- A set that is not refused gets the entry of its document, and is sent. -/
theorem publish_snd_of_accepted (h : (p.publish d uri revision diagnostics).1 = true) :
    (p.publish d uri revision diagnostics).2.published.lookup uri = some ⟨revision, diagnostics⟩ ∧
      (p.publish d uri revision diagnostics).2.outbox.queue =
        p.outbox.queue ++ [publication uri diagnostics] := by
  rw [publish_eq] at h ⊢
  split at h
  case isFalse => cases h
  case isTrue haccepted =>
    rw [if_pos haccepted, withPublication, Outbox.post_of_open haccepted.2]
    exact ⟨by rw [lookup_setKey, if_pos rfl], rfl⟩

/-- A set that is refused has its entry held and let go. -/
theorem publish_snd_of_refused (h : (p.publish d uri revision diagnostics).1 = false) :
    (p.publish d uri revision diagnostics).2 = p.afterRefusal uri := by
  rw [publish_eq] at h ⊢
  split at h
  case isTrue => cases h
  case isFalse hrefused => rw [if_neg hrefused]

end Publisher

/-! ### The invariant -/

namespace Desk

variable {d d' : Desk} {move : Move}

/-- The document is open, or was closed and waits to be cleared. -/
def Tracks (d : Desk) (uri : String) : Prop :=
  (d.documents.get? uri).isSome ∨ ∃ revision, d.closing = some (uri, revision)

/-- Every entry has a revision that was handed out, and is that of a document that is open or
    waits to be cleared. -/
def Accounted (d : Desk) : Prop :=
  ∀ entry ∈ d.publisher.published,
    1 ≤ entry.2.revision ∧ entry.2.revision < d.documents.nextRevision ∧ d.Tracks entry.1

theorem accounted_fresh (analyzer : Analyzer) : (fresh analyzer).Accounted := by
  intro entry hentry
  cases hentry

namespace Accounted

/-- A new text adds no entry. -/
theorem store (h : d.Accounted) (hr : d.documents.nextRevision + 1 < revisionCount)
    (uri text : String) : (d.store uri text).Accounted := by
  intro entry hentry
  obtain ⟨hpos, hlt, htracks⟩ := h entry hentry
  refine ⟨hpos, ?_, ?_⟩
  · show _ < revisionAfter d.documents.nextRevision
    rw [revisionAfter_eq hr]
    exact Nat.lt_succ_of_lt hlt
  · refine htracks.imp_left fun hopen => ?_
    rw [documents_store, Documents.get?_store]
    split
    · rfl
    · exact hopen

/-- The document that is closed is the one that waits to be cleared then, and no other one waited
    before. -/
theorem close (h : d.Accounted) (hc : d.closing = none)
    (hr : d.documents.nextRevision + 1 < revisionCount) (uri : String) : (d.close uri).Accounted := by
  intro entry hentry
  obtain ⟨hpos, hlt, htracks⟩ := h entry hentry
  refine ⟨hpos, ?_, ?_⟩
  · show _ < revisionAfter d.documents.nextRevision
    rw [revisionAfter_eq hr]
    exact Nat.lt_succ_of_lt hlt
  · by_cases hu : entry.1 = uri
    · exact .inr ⟨_, by rw [hu]; rfl⟩
    · obtain hopen | ⟨revision, hclosing⟩ := htracks
      · left
        rw [documents_close, Documents.get?_close, if_neg hu]
        exact hopen
      · rw [hc] at hclosing
        cases hclosing

/-- Clearing drops the entry of the document that waited for it. -/
theorem clear (h : d.Accounted) (hd : d.Consistent) {uri : String} {revision : Nat}
    (hc : d.closing = some (uri, revision)) : (d.clear uri revision).Accounted := by
  intro entry hentry
  have hmem : entry ∈ (d.publisher.clear uri revision).published := hentry
  rw [Publisher.clear_eq, if_pos (hd.closing_lt uri revision hc).2.1, mem_eraseKey] at hmem
  obtain ⟨hold, hne⟩ := hmem
  obtain ⟨hpos, hlt, htracks⟩ := h entry hold
  refine ⟨hpos, hlt, .inl ?_⟩
  obtain hopen | ⟨other, hclosing⟩ := htracks
  · exact hopen
  · rw [hc, Option.some.injEq, Prod.mk.injEq] at hclosing
    exact absurd hclosing.1.symm hne

/-- So a refused set leaves the publisher of a desk as it was. -/
theorem afterRefusal_eq_self (h : d.Accounted) (uri : String) :
    d.publisher.afterRefusal uri = d.publisher :=
  d.publisher.afterRefusal_eq_self (fun entry hentry => (h entry hentry).1) uri

/-- A snapshot is published while it is stored, so its document is open. -/
theorem refresh (h : d.Accounted) (hd : d.Consistent) {p : Snapshot} {front back : List Snapshot}
    (hw : d.waiting = front ++ p :: back) : (d.refresh p (front ++ back)).Accounted := by
  have hp : p ∈ d.waiting := Consistent.mem_waiting hw
  intro entry hentry
  have hmem : entry ∈ ((d.publisher.refresh d.documents p).2).published := hentry
  rw [Publisher.refresh_eq] at hmem
  split at hmem
  case isTrue hcurrent =>
    obtain rfl | hold := mem_setKey hmem
    · refine ⟨(hd.waiting_lt p hp).1, (hd.waiting_lt p hp).2, .inl ?_⟩
      show (d.documents.get? p.uri).isSome = true
      rw [(hd.isCurrent_iff hp).mp hcurrent.1]
      rfl
    · exact h entry hold
  case isFalse =>
    rw [h.afterRefusal_eq_self] at hmem
    exact h entry hmem

/-- **One step.** Every step keeps the entries in order while the revisions do not overflow. -/
theorem step (h : d.Accounted) (hd : d.Consistent) (hstep : Step d move d')
    (hr : move.isMutation = true → d.documents.nextRevision + 1 < revisionCount) : d'.Accounted := by
  cases hstep with
  | mutation m hc =>
    obtain ⟨text, hm, -⟩ | ⟨hm, -⟩ | ⟨-, hm⟩ := d.mutate_cases m
    · rw [hm]
      exact h.store (hr rfl) m.uri text
    · rw [hm]
      exact h
    · rw [hm]
      exact h.close hc (hr rfl) m.uri
  | cleared uri revision hc => exact h.clear hd hc
  | refreshed p front back hw => exact h.refresh hd hw
  | hungUp => exact h

end Accounted

variable {analyzer : Analyzer} {trace : Trace}

/-- **Every moment of a run.** The entries are in order as long as the revisions do not
    overflow. -/
theorem accounted_of_run (run : Run Step (fresh analyzer) trace d)
    (hn : mutationCount trace < revisionCount - 1) : d.Accounted := by
  induction run with
  | nil => exact accounted_fresh analyzer
  | @snoc trace d d' move run hstep ih =>
    have hn' := mutationCount_lt_of_concat hn
    obtain ⟨hd, hnext⟩ := consistent_of_run run hn'
    exact (ih hn').step hd hstep (nextRevision_lt_of_concat hn hnext)

/-- **Entries in order.** At every moment of a run, with the outbox open or closed at some point,
    as long as the revisions do not overflow: each entry has a revision that is at least 1 and was
    handed out, and its document is open or is the one whose closure waits to be cleared. And
    whatever set is offered then, it is refused exactly when it is not newer than the published
    one, when its revision is not the stored one or when it cannot be sent; a refused set leaves
    the entries and the outbox exactly as they were, and any other one gets the entry of its
    document and is sent, last of all messages. -/
theorem entries_of_run (run : Run Step (fresh analyzer) trace d)
    (hn : mutationCount trace < revisionCount - 1) :
    (∀ entry ∈ d.publisher.published,
      1 ≤ entry.2.revision ∧ entry.2.revision < d.documents.nextRevision ∧
        ((d.documents.get? entry.1).isSome ∨ ∃ revision, d.closing = some (entry.1, revision))) ∧
    ∀ uri revision diagnostics,
      ((d.publisher.publish d.documents uri revision diagnostics).1 = false ↔
        revision ≤ d.publisher.lastRevision uri ∨ d.documents.revision? uri ≠ some revision ∨
          d.publisher.outbox.isOpen = false) ∧
      ((d.publisher.publish d.documents uri revision diagnostics).1 = false →
        (d.publisher.publish d.documents uri revision diagnostics).2 = d.publisher) ∧
      ((d.publisher.publish d.documents uri revision diagnostics).1 = true →
        (d.publisher.publish d.documents uri revision diagnostics).2.published.lookup uri =
          some ⟨revision, diagnostics⟩ ∧
        ∃ m, m.Carries uri diagnostics ∧
          (d.publisher.publish d.documents uri revision diagnostics).2.outbox.queue =
            d.publisher.outbox.queue ++ [m]) := by
  have haccounted := accounted_of_run run hn
  refine ⟨haccounted, fun uri revision diagnostics =>
    ⟨Publisher.publish_fst_eq_false_iff, ?_, ?_⟩⟩
  · intro hrefused
    rw [Publisher.publish_snd_of_refused hrefused, haccounted.afterRefusal_eq_self]
  · intro haccepted
    obtain ⟨hentry, hqueue⟩ := Publisher.publish_snd_of_accepted haccepted
    exact ⟨hentry, _, carries_publication uri diagnostics, hqueue⟩

/-- A document with a published set is closed after the outbox was. Its entry stays until it is
    cleared, and a set that comes late for it, or for a document that was never opened, changes
    nothing. -/
theorem entries_of_run_closing :
    ∃ trace d diagnostics, Run Step (fresh (.standard "webdsl" 200)) trace d ∧
      mutationCount trace < revisionCount - 1 ∧
      d.publisher.published = [("a", ⟨1, diagnostics⟩)] ∧ d.documents.get? "a" = none ∧
      d.closing = some ("a", 2) ∧ d.publisher.outbox.isOpen = false ∧
      (d.publisher.publish d.documents "a" 2 []).2 = d.publisher ∧
      (d.publisher.publish d.documents "b" 1 []).2 = d.publisher := by
  have run := (((Run.nil.snoc
    (Step.mutation (fresh (.standard "webdsl" 200)) (.opened "a" "x") rfl)).snoc
    (Step.refreshed _ ⟨"a", "x", 1⟩ [] [] rfl)).snoc
    (Step.hungUp _)).snoc
    (Step.mutation _ (.closed "a") rfl)
  have hentries := (entries_of_run run (by decide)).2
  exact ⟨_, _, _, run, by decide, rfl, rfl, rfl, rfl, (hentries "a" 2 []).2.1 rfl,
    (hentries "b" 1 []).2.1 rfl⟩

/-! ### Overflow -/

/-- A published set stays while another document changes as often as one likes. -/
theorem exists_run_changes (n : Nat) :
    ∃ trace d, Run Step (fresh (.standard "webdsl" 200)) trace d ∧ mutationCount trace = n + 1 ∧
      d.closing = none ∧ (∃ entry ∈ d.publisher.published, entry.2.revision = 1) ∧
      d.documents.nextRevision = (n + 2) % revisionCount := by
  induction n with
  | zero =>
    have run := (Run.nil.snoc
      (Step.mutation (fresh (.standard "webdsl" 200)) (.opened "a" "x") rfl)).snoc
      (Step.refreshed _ ⟨"a", "x", 1⟩ [] [] rfl)
    exact ⟨_, _, run, rfl, rfl, ⟨_, List.mem_cons_self, rfl⟩, rfl⟩
  | succ n ih =>
    obtain ⟨trace, d, run, hcount, hc, hentry, hnext⟩ := ih
    refine ⟨_, _, run.snoc (.mutation d (.changed "b" "y") hc), ?_, hc, hentry, ?_⟩
    · rw [mutationCount_concat, hcount]
      rfl
    · show revisionAfter d.documents.nextRevision = _
      rw [hnext, revisionAfter, Nat.mod_add_mod]

/-- **Overflow.** One mutation more and the next revision is 0, which no entry is below. -/
theorem exists_run_overflow :
    ∃ trace d, Run Step (fresh (.standard "webdsl" 200)) trace d ∧
      mutationCount trace = revisionCount - 1 ∧
      ∃ entry ∈ d.publisher.published, ¬ entry.2.revision < d.documents.nextRevision := by
  obtain ⟨trace, d, run, hcount, -, ⟨entry, hentry, -⟩, hnext⟩ :=
    exists_run_changes (revisionCount - 2)
  have hpos : 2 ≤ revisionCount := by decide
  refine ⟨trace, d, run, by omega, entry, hentry, ?_⟩
  rw [hnext, Nat.sub_add_cancel hpos, Nat.mod_self]
  exact Nat.not_lt_zero _

end Desk

end ServiceLang
