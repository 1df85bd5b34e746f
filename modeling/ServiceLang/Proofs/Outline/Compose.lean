import ServiceLang.Proofs.Outline.Scan
import ServiceLang.Proofs.Text.Lines

namespace ServiceLang

open Text

/-!
# Outlines one behind another

The scan adds to the lists of its outline and never looks at what they hold, and it copies the
numbers of lines without computing with them. A class that is open where a text begins at the
margin ends there, as it would at the end of the text above.

* `Outline.mapLines`, `Outline.append`: outlines with other line numbers, and behind others;
* `Scan.step_onto`, `Scan.run_onto`: lines with other numbers, scanned behind an outline that is
  there already;
* `Scan.close_run_close`: a text that begins at the margin ends the open class;
* `Outline.ofText_append`: texts behind texts.
-/

/-! ### Outlines moved and put behind others -/

/-- A server entry with its line changed. -/
def ServerEntry.mapLine (f : Nat → Nat) (entry : ServerEntry) : ServerEntry :=
  { entry with line := f entry.line }

/-- An endpoint entry with its line changed. -/
def EndpointEntry.mapLine (f : Nat → Nat) (entry : EndpointEntry) : EndpointEntry :=
  { entry with line := f entry.line }

/-- A function or method entry with its line changed. -/
def FunctionEntry.mapLine (f : Nat → Nat) (entry : FunctionEntry) : FunctionEntry :=
  { entry with line := f entry.line }

/-- A class entry with its line changed, and those of its methods. -/
def ClassEntry.mapLines (f : Nat → Nat) (entry : ClassEntry) : ClassEntry :=
  { entry with line := f entry.line, methods := entry.methods.map (FunctionEntry.mapLine f) }

/-- An outline with all its lines changed. -/
def Outline.mapLines (f : Nat → Nat) (outline : Outline) : Outline where
  server := outline.server.map (ServerEntry.mapLine f)
  endpoints := outline.endpoints.map (EndpointEntry.mapLine f)
  functions := outline.functions.map (FunctionEntry.mapLine f)
  classes := outline.classes.map (ClassEntry.mapLines f)

/-- An outline behind another one: its entries follow, and its server counts if it has one. -/
def Outline.append (above below : Outline) : Outline where
  server := below.server <|> above.server
  endpoints := above.endpoints ++ below.endpoints
  functions := above.functions ++ below.functions
  classes := above.classes ++ below.classes

/-- A scan behind an outline that is there already, with the lines of the scan changed. -/
def Scan.onto (above : Outline) (f : Nat → Nat) (scan : Scan) : Scan where
  outline := above.append (scan.outline.mapLines f)
  openClass := scan.openClass.map fun opened => (opened.1, opened.2.mapLines f)

/-! ### The scan behind an outline -/

section Onto

variable (above : Outline) (f : Nat → Nat)

/-- Closing the open class, on top of another outline. -/
theorem Scan.close_onto (scan : Scan) : (scan.onto above f).close = scan.close.onto above f := by
  obtain ⟨outline, openClass⟩ := scan
  cases openClass with
  | none => rfl
  | some opened => simp [Scan.close, Scan.onto, Outline.append, Outline.mapLines]

/-- A declaration, on top of another outline. -/
theorem Scan.declare_onto (scan : Scan) (line : List Char) (n : Nat) :
    (scan.onto above f).declare line (f n) = (scan.declare line n).onto above f := by
  rw [Scan.declare_eq, Scan.declare_eq]
  simp only [Scan.onto, Outline.append, Outline.mapLines, List.map_append, List.append_assoc,
    Scan.mk.injEq, Outline.mk.injEq, List.append_cancel_left_eq, and_true]
  -- part by part, whether or not the line has the pattern of that part
  refine ⟨⟨?_, ?_, ?_⟩, ?_⟩
  · cases portPattern (trimStart line) <;> rfl
  · cases Pattern.endpoint? (trimStart line) <;> rfl
  · cases Pattern.callable? "func" (trimStart line) <;> rfl
  · cases Pattern.class? (trimStart line) <;> rfl

/-- A method on a moved line, in a moved class. -/
theorem ClassEntry.record_mapLines (entry : ClassEntry) (line : List Char) (n : Nat) :
    (entry.mapLines f).record line (f n) = (entry.record line n).mapLines f := by
  unfold ClassEntry.record
  cases Pattern.method? (trimStart line) with
  | none => rfl
  | some found => simp [ClassEntry.mapLines, FunctionEntry.ofMatch, FunctionEntry.mapLine]

/-- **One line.** A step adds to the outline and copies the number of its line. -/
theorem Scan.step_onto (scan : Scan) (line : List Char) (n : Nat) :
    (scan.onto above f).step line (f n) = (scan.step line n).onto above f := by
  unfold Scan.step
  by_cases hblank : isBlank line = true
  · rw [if_pos hblank, if_pos hblank]
  · rw [if_neg hblank, if_neg hblank]
    cases hopen : scan.openClass with
    | none =>
      have hopen' : (scan.onto above f).openClass = none := by simp [Scan.onto, hopen]
      simp only [hopen']
      exact Scan.declare_onto above f scan line n
    | some opened =>
      have hopen' : (scan.onto above f).openClass =
          some (opened.1, opened.2.mapLines f) := by simp [Scan.onto, hopen]
      simp only [hopen']
      -- the indentation of the open class is the same, and so is the line's
      by_cases hdeep : opened.1 < indentation line
      · rw [if_pos hdeep, if_pos hdeep, ClassEntry.record_mapLines]
        rfl
      · rw [if_neg hdeep, if_neg hdeep, Scan.close_onto, Scan.declare_onto]

/-- **All lines.** Lines with changed numbers are scanned behind an outline as they are on their
    own. -/
theorem Scan.run_onto (scan : Scan) (rows : List (List Char × Nat)) :
    (scan.onto above f).run (rows.map fun row => (row.1, f row.2)) =
      (scan.run rows).onto above f := by
  induction rows generalizing scan with
  | nil => rfl
  | cons row rows ih =>
    show ((scan.onto above f).step row.1 (f row.2)).run _ =
      ((scan.step row.1 row.2).run rows).onto above f
    rw [Scan.step_onto, ih]

end Onto

/-! ### Texts behind texts -/

/-- A class is closed once. -/
theorem Scan.close_close (scan : Scan) : scan.close.close = scan.close := by
  obtain ⟨outline, openClass⟩ := scan
  cases openClass <;> rfl

/-- Closed scans differ from the empty one only by the outline that is there. -/
theorem Scan.close_eq_onto (f : Nat → Nat) (scan : Scan) :
    scan.close = Scan.onto scan.close.outline f {} := by
  obtain ⟨outline, openClass⟩ := scan
  cases openClass <;> simp [Scan.close, Scan.onto, Outline.append, Outline.mapLines]

theorem Scan.run_append (scan : Scan) (rows rows' : List (List Char × Nat)) :
    scan.run (rows ++ rows') = (scan.run rows).run rows' := List.foldl_append

/-- A line at the margin ends the open class before it is recorded. -/
theorem Scan.step_close {line : List Char} (hvisible : isBlank line = false)
    (hmargin : indentation line = 0) (scan : Scan) (n : Nat) :
    scan.close.step line n = scan.step line n := by
  obtain ⟨outline, openClass⟩ := scan
  unfold Scan.step
  rw [hvisible]
  cases openClass with
  | none => rfl
  | some opened =>
    have hshallow : ¬opened.1 < indentation line := by omega
    simp only [Bool.false_eq_true, if_false, if_neg hshallow]
    rfl

/-- **The class that is open.** When the first line that is not blank stands at the margin, the
    class that is open above might as well be closed before. -/
theorem Scan.close_run_close (scan : Scan) (first : Nat) {rows : List (List Char)}
    (h : ∀ row, rows.find? (!isBlank ·) = some row → indentation row = 0) :
    (scan.close.run (rows.zipIdx first)).close = (scan.run (rows.zipIdx first)).close := by
  induction rows generalizing first with
  | nil => exact scan.close_close
  | cons row rows ih =>
    show ((scan.close.step row first).run (rows.zipIdx (first + 1))).close =
      ((scan.step row first).run (rows.zipIdx (first + 1))).close
    by_cases hblank : isBlank row = true
    · -- a blank line leaves the decision to the lines below it
      have hskip (s : Scan) : s.step row first = s := if_pos hblank
      rw [hskip, hskip]
      apply ih
      intro row' hrow'
      exact h row' (by rw [List.find?_cons_of_neg (by simp [hblank]), hrow'])
    · rw [Bool.not_eq_true] at hblank
      rw [Scan.step_close hblank (h row (List.find?_cons_of_pos (by simp [hblank])))]

/-- **Texts behind texts.** Let the first text end with a finished line, and let the first line of
    the second one that is not blank, if it has one, stand at the margin. Then the outline of both
    is the outline of the first followed by that of the second, whose lines are counted on from the
    first. -/
theorem Outline.ofText_append {front rest : String} (hfront : EndsLine front)
    (hrest : ∀ line, (lines rest.toList).find? (!isBlank ·) = some line → indentation line = 0) :
    Outline.ofText (front ++ rest) = (Outline.ofText front).append
      ((Outline.ofText rest).mapLines (· + (lines front.toList).length)) := by
  let count := (lines front.toList).length
  have hrows : (lines (front ++ rest).toList).zipIdx =
      (lines front.toList).zipIdx ++ (lines rest.toList).zipIdx count := by
    rw [lines_append hfront, List.zipIdx_append, Nat.zero_add]
  have hoffset : (lines rest.toList).zipIdx.map (fun row => (row.1, row.2 + count)) =
      (lines rest.toList).zipIdx count := by
    apply map_zipIdx_of_offset (· + count)
    intro i _
    omega
  let above := Scan.run {} (lines front.toList).zipIdx
  let below := Scan.run {} (lines rest.toList).zipIdx
  calc Outline.ofText (front ++ rest)
      = (above.run ((lines rest.toList).zipIdx count)).close.outline := by
        rw [Outline.ofText, numberedLines, hrows, Scan.run_append]
    _ = (above.close.run ((lines rest.toList).zipIdx count)).close.outline := by
        rw [Scan.close_run_close above count hrest]
    _ = ((Scan.onto above.close.outline (· + count) {}).run
          ((lines rest.toList).zipIdx count)).close.outline := by
        rw [← Scan.close_eq_onto]
    _ = (below.close.onto above.close.outline (· + count)).outline := by
        rw [← hoffset, Scan.run_onto, Scan.close_onto]

/-- The class at the end of the first text keeps the methods it has, the class at the margin of the
    second one starts its own, and the server of the second text counts. -/
theorem Outline.ofText_append_classes :
    Outline.ofText ("server 1\nclass A\n  func f(\n" ++ " \nclass B\n  method g\nserver 2") =
      { server := some ⟨2, 6, ⟨0, 8, by decide⟩⟩
        classes := [⟨"A", 1, ⟨0, 7, by decide⟩, [⟨"f", "", 2, ⟨2, 9, by decide⟩⟩]⟩,
          ⟨"B", 4, ⟨0, 7, by decide⟩, [⟨"g", "", 5, ⟨2, 10, by decide⟩⟩]⟩] } := by
  have hfront : EndsLine "server 1\nclass A\n  func f(\n" :=
    Or.inr ⟨"server 1\nclass A\n  func f(", rfl⟩
  have hfirst : (lines " \nclass B\n  method g\nserver 2".toList).find? (!isBlank ·) =
      some "class B".toList := by
    decide +kernel
  rw [Outline.ofText_append hfront]
  · decide +kernel
  · intro line hline
    obtain rfl := Option.some.inj (hfirst.symm.trans hline)
    decide +kernel

end ServiceLang
