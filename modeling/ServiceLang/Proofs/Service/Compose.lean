import ServiceLang.Proofs.Service.Numbering

namespace ServiceLang

open Text

/-!
# Descriptions one behind another

A line at the left margin ends the block above it, and so does the end of the text. A description
whose first significant line stands at the margin can therefore be read on its own and put behind
another one.

* `clusters_append_of_lead`: a list whose first element is a head is cut on its own;
* `Service.ofLines_append`: lines behind lines;
* `Service.parse_append`: texts behind texts, errors included.
-/

/-- Nothing stands before the first head when the list begins with one. -/
theorem clusters_fst_eq_nil {α : Type} {isHead : α → Bool} {lines : List α}
    (h : ∀ line, lines.head? = some line → isHead line = true) :
    (clusters isHead lines).1 = [] := by
  cases lines with
  | nil => rfl
  | cons line lines => simp [clusters, h line rfl]

/-- Lines that begin with a head are cut as if nothing stood above them. -/
theorem clusters_append_of_lead {α : Type} {isHead : α → Bool} {rest : List α}
    (h : (clusters isHead rest).1 = []) (front : List α) :
    clusters isHead (front ++ rest) =
      ((clusters isHead front).1, (clusters isHead front).2 ++ (clusters isHead rest).2) := by
  induction front with
  | nil => exact Prod.ext h rfl
  | cons a front ih =>
    simp only [List.cons_append, clusters, ih]
    cases isHead a <;> rfl

/-- **Lines behind lines.** Lines that begin at the margin are read on their own, once those above
    them have been read. -/
theorem Service.ofLines_append (front : List SourceLine) {rest : List SourceLine}
    (h : ∀ line, rest.head? = some line → line.indent = 0) :
    Service.ofLines (front ++ rest) = do
      let above ← Service.ofLines front
      let below ← Service.ofLines rest
      return ⟨above.items ++ below.items⟩ := by
  have hlead : (clusters (·.indent = 0) rest).1 = [] := by
    apply clusters_fst_eq_nil
    intro line hline
    simpa using h line hline
  unfold Service.ofLines
  rw [clusters_append_of_lead hlead front]
  generalize clusters (fun line : SourceLine => decide (line.indent = 0)) rest = cut at hlead ⊢
  obtain ⟨lead', groups'⟩ := cut
  obtain rfl : lead' = [] := hlead
  obtain ⟨lead, groups⟩ := clusters (fun line : SourceLine => decide (line.indent = 0)) front
  cases lead with
  | cons line lead => rfl
  | nil =>
    -- the groups of both are read in order, and the first error ends the reading
    show Service.mk <$> (groups ++ groups').mapM (fun group => Item.ofBlock group.1 group.2) =
      (Service.mk <$> groups.mapM fun group => Item.ofBlock group.1 group.2) >>= fun above =>
        (Service.mk <$> groups'.mapM fun group => Item.ofBlock group.1 group.2) >>= fun below =>
          pure ⟨above.items ++ below.items⟩
    rw [List.mapM_append]
    cases groups.mapM fun group => Item.ofBlock group.1 group.2 with
    | error e => rfl
    | ok above => cases groups'.mapM fun group => Item.ofBlock group.1 group.2 <;> rfl

/-- The first significant line is made of the first row that is significant. -/
theorem exists_of_head?_sourceLinesFrom {first : Nat} {rows : List (List Char)}
    {line : SourceLine} (h : (sourceLinesFrom first rows).head? = some line) :
    ∃ row, rows.find? isSignificant = some row ∧ line.indent = indentation row := by
  induction rows generalizing first with
  | nil => cases h
  | cons row rows ih =>
    rw [sourceLinesFrom_cons] at h
    by_cases hrow : isSignificant row = true
    · rw [if_pos hrow, List.head?_cons, Option.some.injEq] at h
      exact ⟨row, List.find?_cons_of_pos hrow, by rw [← h]⟩
    · rw [if_neg hrow] at h
      obtain ⟨row', hfind, hindent⟩ := ih h
      exact ⟨row', by rw [List.find?_cons_of_neg hrow, hfind], hindent⟩

/-- **Texts behind texts.** Let the first text end with a finished line, and let the first
    significant line of the second one, if it has one, stand at the margin. Then an error in the
    first text is the error of both together. Otherwise the declarations of the first text are
    followed by those of the second, or its error is reported, with all lines of the second text
    counted on from the first. -/
theorem Service.parse_append {front rest : String} (hfront : EndsLine front)
    (hrest : ∀ line, (lines rest.toList).find? isSignificant = some line → indentation line = 0) :
    Service.parse (front ++ rest) = do
      let above ← Service.parse front
      let below ← moved (· + (lines front.toList).length)
        (Service.mapLines (· + (lines front.toList).length)) (Service.parse rest)
      return ⟨above.items ++ below.items⟩ := by
  have hmargin : ∀ line, (sourceLinesFrom (1 + (lines front.toList).length)
      (lines rest.toList)).head? = some line → line.indent = 0 := by
    intro line hline
    obtain ⟨row, hrow, hindent⟩ := exists_of_head?_sourceLinesFrom hline
    rw [hindent, hrest row hrow]
  -- the lines of the second text, read on their own and counted on afterwards
  have hoffset : (sourceLinesFrom 1 (lines rest.toList)).map
      (SourceLine.mapNumber (· + (lines front.toList).length)) =
        sourceLinesFrom (1 + (lines front.toList).length) (lines rest.toList) := by
    apply sourceLinesFrom_of_offset
    intro i _
    omega
  rw [Service.parse_eq_ofLines, lines_append hfront, sourceLinesFrom_append,
    Service.ofLines_append _ hmargin, ← hoffset, Service.ofLines_mapNumber,
    ← Service.parse_eq_ofLines, ← Service.parse_eq_ofLines]

/-- The class at the end of the first text is ended by the class at the margin of the second, whose
    lines are counted on, those of its methods included. -/
theorem Service.parse_append_classes :
    Service.parse ("class A:\n  func f(): 1\n" ++ "\n  # note\nclass B:\n  method g(): 2") =
      .ok ⟨[.classDecl ⟨"A", [⟨"f", [], ["1"], 2⟩], 1⟩,
        .classDecl ⟨"B", [⟨"g", [], ["2"], 6⟩], 5⟩]⟩ := by
  have hfront : EndsLine "class A:\n  func f(): 1\n" := Or.inr ⟨"class A:\n  func f(): 1", rfl⟩
  have hfirst : (lines "\n  # note\nclass B:\n  method g(): 2".toList).find? isSignificant =
      some "class B:".toList := by
    decide +kernel
  rw [Service.parse_append hfront]
  · decide +kernel
  · intro line hline
    obtain rfl := Option.some.inj (hfirst.symm.trans hline)
    decide +kernel

end ServiceLang
