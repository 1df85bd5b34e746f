import ServiceLang.Proofs.Server.Desk

namespace ServiceLang

/-!
# What the client sees in the end

Whatever messages arrive and in whatever order the tasks are done, once no analysis is left the
last diagnostics that the client got for a document are those of its stored text, or none if the
document is not open.

* `LastPublication.of_publications`: the last set can be told from the publications alone;
* `Server.lastPublication_of_settled`: the statement above.
-/

/-- The last set of a document among the publications is the last one among all messages. -/
theorem LastPublication.of_publications {o : Outbox} {uri : String}
    {diagnostics : List Diagnostic} (h : LastPublication o.publications.queue uri diagnostics) :
    LastPublication o.queue uri diagnostics := by
  obtain ⟨front, back, hqueue, hcarries, hback⟩ := h
  rw [Outbox.publications] at hqueue
  obtain ⟨before, rest, hsplit, -, hrest⟩ := List.filter_eq_append_iff.mp hqueue
  obtain ⟨between, after, hafter, -, -, hfilter⟩ := List.filter_eq_cons_iff.mp hrest
  refine ⟨before ++ between, after, by rw [hsplit, hafter, List.append_assoc], hcarries, ?_⟩
  intro m hm others hother
  have hpublication : m.isPublication = true := by
    obtain ⟨params, rfl, -⟩ := hother
    rfl
  have hmem : m ∈ back := by
    rw [← hfilter, List.mem_filter]
    exact ⟨hm, hpublication⟩
  exact hback m hmem others hother

namespace Server

/-- **Settled diagnostics.** In every run in which messages can be sent and the revisions do not
    overflow, once no analysis is left: the last diagnostics sent for a document that was open or
    closed are those of its stored text, and the empty set if it is not open. -/
theorem lastPublication_of_settled {analyzer : Analyzer} {trace : Trace} {s : Server}
    (run : Run Step (fresh analyzer) trace s) (hopen : s.outbox.isOpen = true)
    (hn : mutationCount trace < revisionCount - 1) (hdone : ∀ p, Task.refresh p ∉ s.tasks)
    (uri : String) (hk : Known trace uri) :
    LastPublication s.outbox.queue uri
      (match s.documents.get? uri with
        | some p => (analyzer.analyze p.text).diagnostics
        | none => []) := by
  obtain ⟨moves, hmoves, hcount, hknown⟩ := desk_of_run run
  have howes : ¬ s.desk.Owes uri := by
    rintro (⟨p, hp, -⟩ | ⟨r, hr⟩)
    · obtain ⟨task, htask, hsnapshot⟩ := List.mem_filterMap.mp hp
      cases task with
      | answer id query => cases hsnapshot
      | refresh snapshot => exact hdone snapshot htask
    · cases hr
  have hlast := Desk.lastPublication_of_run hmoves hopen (hcount ▸ hn) (hknown uri hk) howes
  rw [Desk.currentSet, Desk.analyzer_of_run hmoves] at hlast
  exact hlast.of_publications

/-- A document is opened and saved without a text, and the newer of the two analyses is done
    first: the older one changes nothing. -/
theorem lastPublication_of_settled_saved :
    ∃ trace s, Run Step (fresh (.standard "webdsl" 200)) trace s ∧ s.outbox.isOpen = true ∧
      mutationCount trace = 2 ∧ s.tasks.length = 0 ∧
      LastPublication s.outbox.queue "a"
        ((Analyzer.standard "webdsl" 200).analyze "x").diagnostics := by
  have run := ((((Run.nil.snoc
    (Step.received (fresh (.standard "webdsl" 200)) (.request (.int 1) "initialize" .null))).snoc
    (Step.received _ (.notification "textDocument/didOpen"
      (OpenParams.toJson ⟨⟨"a", "", 0, "x"⟩⟩)))).snoc
    (Step.received _ (.notification "textDocument/didSave"
      (SaveParams.toJson ⟨⟨"a"⟩, none⟩)))).snoc
    (Step.performed _ (.refresh ⟨"a", "x", 2⟩) [.refresh ⟨"a", "x", 1⟩] [] rfl)).snoc
    (Step.performed _ (.refresh ⟨"a", "x", 1⟩) [] [] rfl)
  have hlast := lastPublication_of_settled run rfl (by decide) (fun _ h => List.not_mem_nil h)
    "a" ⟨_, List.mem_append_right _ (List.mem_singleton_self _), .inl rfl⟩
  exact ⟨_, _, run, rfl, rfl, rfl, hlast⟩

end Server

end ServiceLang
