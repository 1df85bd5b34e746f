import ServiceLang.Proofs.Text.Scan
import ServiceLang.Text.Lines

namespace ServiceLang.Text

/-!
# Lines written and read

* `newline_not_mem_of_mem_lines`: no line contains a line feed;
* `linesFrom_append`: the first line feed ends the current line;
* `lines_flatMap`: lines that are written one under another are read back;
* `EndsLine`, `lines_append`: behind a finished line the lines of a text start anew;
* `LineEnd`, `exists_lineEnd`: the first line of a text, its end, and what follows;
* `lines_eq_nil_iff`: the text without lines;
* `map_zipIdx_of_offset`: numbered lines under a change of their numbers.
-/

theorem newline_not_mem_closeLine {reversed : List Char} (h : '\n' ∉ reversed) :
    '\n' ∉ closeLine reversed := by
  unfold closeLine
  split
  · rw [List.mem_reverse]
    exact fun hmem => h (List.mem_cons_of_mem _ hmem)
  · rw [List.mem_reverse]
    exact h

theorem newline_not_mem_of_mem_linesFrom {reversed s line : List Char} (hreversed : '\n' ∉ reversed)
    (h : line ∈ linesFrom reversed s) : '\n' ∉ line := by
  fun_induction linesFrom reversed s with
  | case1 => cases h
  | case2 c reversed =>
    rw [List.mem_singleton.mp h, List.mem_reverse]
    exact hreversed
  | case3 reversed s ih =>
    obtain rfl | hrest := List.mem_cons.mp h
    · exact newline_not_mem_closeLine hreversed
    · exact ih (by simp) hrest
  | case4 reversed c s hc ih =>
    refine ih ?_ h
    rw [List.mem_cons, not_or]
    exact ⟨fun heq => hc heq.symm, hreversed⟩

/-- No line contains a line feed. -/
theorem newline_not_mem_of_mem_lines {s line : List Char} (h : line ∈ lines s) : '\n' ∉ line :=
  newline_not_mem_of_mem_linesFrom (by simp) h

/-- The first line feed ends the current line. -/
theorem linesFrom_append {line : List Char} (h : '\n' ∉ line) (reversed rest : List Char) :
    linesFrom reversed (line ++ '\n' :: rest) =
      closeLine (line.reverse ++ reversed) :: linesFrom [] rest := by
  induction line generalizing reversed with
  | nil => simp [linesFrom]
  | cons c line ih =>
    rw [List.mem_cons, not_or] at h
    rw [List.cons_append, linesFrom, if_neg (fun heq => h.1 heq.symm), ih h.2]
    simp

/-- A line without a trailing blank has no carriage return to lose. -/
theorem closeLine_reverse {line : List Char} (h : NoTrailingBlank line) :
    closeLine line.reverse = line := by
  unfold closeLine
  split
  · rename_i reversed heq
    have hreturn := h '\r' (by rw [heq]; exact rfl)
    exact absurd hreturn (by decide)
  · exact List.reverse_reverse line

/-- **Lines are read back.** Lines without line feeds and trailing blanks, each written with a line
    feed behind it, are the lines of the text. -/
theorem lines_flatMap {rows : List (List Char)}
    (h : ∀ row ∈ rows, '\n' ∉ row ∧ NoTrailingBlank row) :
    lines (rows.flatMap (· ++ ['\n'])) = rows := by
  induction rows with
  | nil => rfl
  | cons row rows ih =>
    obtain ⟨⟨hnewline, hend⟩, hrows⟩ := List.forall_mem_cons.mp h
    have htext : (row :: rows).flatMap (· ++ ['\n']) =
        row ++ '\n' :: rows.flatMap (· ++ ['\n']) := by simp
    unfold lines at ih ⊢
    rw [htext, linesFrom_append hnewline, List.append_nil, closeLine_reverse hend, ih hrows]

/-! ### Texts one behind another -/

/-- A text whose last line is finished: it is empty or ends with a line feed. -/
def EndsLine (text : String) : Prop := text = "" ∨ ∃ front, text = front ++ "\n"

theorem linesFrom_append_newline (reversed s rest : List Char) :
    linesFrom reversed (s ++ '\n' :: rest) = linesFrom reversed (s ++ ['\n']) ++ lines rest := by
  induction s generalizing reversed with
  | nil => simp [linesFrom, lines]
  | cons c s ih =>
    simp only [List.cons_append, linesFrom]
    by_cases hc : c = '\n'
    · rw [if_pos hc, if_pos hc, ih, List.cons_append]
    · rw [if_neg hc, if_neg hc, ih]

/-- **Texts one behind another.** Behind a finished line the lines of the second text follow those
    of the first. -/
theorem lines_append {front rest : String} (h : EndsLine front) :
    lines (front ++ rest).toList = lines front.toList ++ lines rest.toList := by
  rw [String.toList_append]
  obtain rfl | ⟨s, rfl⟩ := h
  · rfl
  · have hnewline : (s ++ "\n").toList = s.toList ++ ['\n'] := String.toList_append
    rw [hnewline, List.append_assoc]
    exact linesFrom_append_newline [] s.toList rest.toList

/-! ### The first line of a text -/

/-- What follows a line: nothing, a line feed behind something else than a carriage return, or both.
    The last argument is what follows the line end. -/
inductive LineEnd (line : List Char) : (behind rest : List Char) → Prop where
  | text : LineEnd line [] []
  | feed (rest : List Char) (h : line.getLast? ≠ some '\r') : LineEnd line ('\n' :: rest) rest
  | both (rest : List Char) : LineEnd line ('\r' :: '\n' :: rest) rest

theorem linesFrom_of_not_mem {s : List Char} (h : '\n' ∉ s) (reversed : List Char)
    (hne : reversed ≠ [] ∨ s ≠ []) : linesFrom reversed s = [reversed.reverse ++ s] := by
  induction s generalizing reversed with
  | nil =>
    cases reversed with
    | nil => simp at hne
    | cons c reversed => simp [linesFrom]
  | cons c s ih =>
    rw [List.mem_cons, not_or] at h
    rw [linesFrom, if_neg (Ne.symm h.1), ih h.2 _ (.inl (List.cons_ne_nil c reversed))]
    simp

/-- A text that is not empty is its first line and what follows it. -/
theorem exists_lineEnd {s : List Char} (hne : s ≠ []) :
    ∃ line behind rest, s = line ++ behind ∧ '\n' ∉ line ∧ LineEnd line behind rest ∧
      lines s = line :: lines rest ∧ rest.length < s.length := by
  by_cases hmem : '\n' ∈ s
  · obtain ⟨front, rest, rfl, hfront⟩ := List.eq_append_cons_of_mem hmem
    have hlines : lines (front ++ '\n' :: rest) = closeLine front.reverse :: lines rest := by
      unfold lines
      rw [linesFrom_append hfront, List.append_nil]
    by_cases hreturn : front.getLast? = some '\r'
    · obtain ⟨line, rfl⟩ := List.getLast?_eq_some_iff.mp hreturn
      refine ⟨line, '\r' :: '\n' :: rest, rest, by simp, ?_, .both rest, ?_, by simp; omega⟩
      · exact fun h => hfront (List.mem_append_left _ h)
      · rw [hlines, List.reverse_append]
        simp [closeLine]
    · refine ⟨front, '\n' :: rest, rest, rfl, hfront, .feed rest hreturn, ?_, by simp; omega⟩
      rw [hlines]
      unfold closeLine
      split
      case h_1 reversed heq =>
        refine absurd ?_ hreturn
        rw [← List.head?_reverse, heq]
        rfl
      case h_2 => rw [List.reverse_reverse]
  · refine ⟨s, [], [], by simp, hmem, .text, ?_, List.length_pos_iff.mpr hne⟩
    exact linesFrom_of_not_mem hmem [] (.inr hne)

/-- Only the empty text has no lines. -/
theorem lines_eq_nil_iff {s : List Char} : lines s = [] ↔ s = [] := by
  constructor
  · intro h
    refine Decidable.byContradiction fun hne => ?_
    obtain ⟨line, behind, rest, -, -, -, hlines, -⟩ := exists_lineEnd hne
    rw [hlines] at h
    cases h
  · rintro rfl
    rfl

/-- Lines numbered from `first` on get the numbers from `first'` on, when these are what the change
    makes of theirs. -/
theorem map_zipIdx_of_offset {α : Type} (f : Nat → Nat) {first first' : Nat} {rows : List α}
    (h : ∀ i, i < rows.length → f (first + i) = first' + i) :
    (rows.zipIdx first).map (fun row => (row.1, f row.2)) = rows.zipIdx first' := by
  apply List.ext_getElem
  · simp
  · intro i hi _
    simp only [List.length_map, List.length_zipIdx] at hi
    simp [h i hi]

end ServiceLang.Text
