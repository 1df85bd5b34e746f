import ServiceLang.Proofs.Agreement.Margin
import ServiceLang.Proofs.Outline.Compose
import ServiceLang.Proofs.Service.Compose

namespace ServiceLang

open Text

/-!
# Lines that say nothing

A blank line that is put into a text changes nothing in its outline but the numbers of the lines
below it, and a blank line or a comment changes nothing else in what is read from the text.

* `makeRoom place`: what becomes of line numbers when a line is put in at `place`;
* `Outline.ofText_of_blank`: outlines;
* `Service.parse_of_insignificant`: descriptions and errors;
* `unchanged_of_insertion`: both, for every text and every place in it.
-/

/-! ### Numbers around a new line -/

/-- The number of a line once another one has been put in at `place`: from there on all numbers
    grow by one. -/
def makeRoom (place n : Nat) : Nat := if n < place then n else n + 1

theorem makeRoom_of_lt {place n : Nat} (h : n < place) : makeRoom place n = n := if_pos h

theorem makeRoom_of_le {place n : Nat} (h : place ≤ n) : makeRoom place n = n + 1 :=
  if_neg (Nat.not_lt.mpr h)

section Insertion

variable {text text' : String} {before after : List (List Char)} {row : List Char}

/-! ### Outlines -/

theorem Outline.empty_append (outline : Outline) : Outline.append {} outline = outline := by
  simp [Outline.append]

/-- The rows around a new one, with their numbers. -/
theorem zipIdx_around (before after : List (List Char)) (row : List Char) :
    (before ++ row :: after).zipIdx =
      (before.zipIdx.map fun r => (r.1, makeRoom before.length r.2)) ++
        (row, before.length) ::
          ((after.zipIdx before.length).map fun r => (r.1, makeRoom before.length r.2)) := by
  have hbefore : before.zipIdx.map (fun r => (r.1, makeRoom before.length r.2)) =
      before.zipIdx := by
    apply map_zipIdx_of_offset (makeRoom before.length)
    intro i hi
    exact makeRoom_of_lt (by omega)
  have hafter : (after.zipIdx before.length).map (fun r => (r.1, makeRoom before.length r.2)) =
      after.zipIdx (before.length + 1) := by
    apply map_zipIdx_of_offset (makeRoom before.length)
    intro i _
    rw [makeRoom_of_le (by omega)]
    omega
  rw [hbefore, hafter, List.zipIdx_append, List.zipIdx_cons, Nat.zero_add]

/-- **Outlines.** A blank line leaves the outline as it is, apart from the numbers of the lines
    from its place on. -/
theorem Outline.ofText_of_blank (htext : lines text.toList = before ++ after)
    (htext' : lines text'.toList = before ++ row :: after) (hblank : isBlank row = true) :
    Outline.ofText text' = (Outline.ofText text).mapLines (makeRoom before.length) := by
  have hskip (scan : Scan) (n : Nat) : scan.step row n = scan := if_pos hblank
  have hempty : ({} : Scan) = Scan.onto {} (makeRoom before.length) {} := rfl
  -- the scan passes over the new row, and then sees the old rows with their new numbers
  have hrun : Scan.run {} (lines text'.toList).zipIdx =
      Scan.run {} ((lines text.toList).zipIdx.map fun r => (r.1, makeRoom before.length r.2)) := by
    rw [htext, htext', zipIdx_around, Scan.run_append]
    show ((Scan.run {} _).step row before.length).run _ = _
    rw [hskip, ← Scan.run_append, ← List.map_append, List.zipIdx_append, Nat.zero_add]
  calc Outline.ofText text'
      = (Scan.run {} (lines text'.toList).zipIdx).close.outline := rfl
    _ = ((Scan.onto {} (makeRoom before.length) {}).run ((lines text.toList).zipIdx.map
          fun r => (r.1, makeRoom before.length r.2))).close.outline := by rw [hrun, ← hempty]
    _ = Outline.append {} ((Outline.ofText text).mapLines (makeRoom before.length)) := by
        rw [Scan.run_onto, Scan.close_onto]
        rfl
    _ = (Outline.ofText text).mapLines (makeRoom before.length) := Outline.empty_append _

/-! ### Descriptions -/

/-- **Descriptions.** A line that is not significant leaves what is read as it is, declarations or
    error, apart from the numbers of the lines from its place on. -/
theorem Service.parse_of_insignificant (htext : lines text.toList = before ++ after)
    (htext' : lines text'.toList = before ++ row :: after) (hrow : isSignificant row = false) :
    Service.parse text' = moved (makeRoom (before.length + 1))
      (Service.mapLines (makeRoom (before.length + 1))) (Service.parse text) := by
  have hbefore : (sourceLinesFrom 1 before).map
      (SourceLine.mapNumber (makeRoom (before.length + 1))) = sourceLinesFrom 1 before := by
    apply sourceLinesFrom_of_offset
    intro i hi
    exact makeRoom_of_lt (by omega)
  have hafter : (sourceLinesFrom (1 + before.length) after).map
      (SourceLine.mapNumber (makeRoom (before.length + 1))) =
        sourceLinesFrom (1 + before.length + 1) after := by
    apply sourceLinesFrom_of_offset
    intro i _
    rw [makeRoom_of_le (by omega)]
    omega
  have hskip : sourceLinesFrom (1 + before.length) (row :: after) =
      sourceLinesFrom (1 + before.length + 1) after := by
    rw [sourceLinesFrom_cons, hrow]
    rfl
  rw [Service.parse_eq_ofLines, htext', sourceLinesFrom_append, hskip, ← hbefore, ← hafter,
    ← List.map_append, ← sourceLinesFrom_append, Service.ofLines_mapNumber, ← htext,
    ← Service.parse_eq_ofLines]

/-! ### Both -/

/-- **Lines that say nothing.** Take any text and any place between its lines, and a text with one
    more line at that place. If that line is blank, then the outline has the same entries; if it is
    blank or a comment, however far it is indented, then the same declarations or the same fault
    are read. Only the numbers of the lines from that place on, counted from 0 in the outline and
    from 1 in the description, have grown by one. -/
theorem unchanged_of_insertion (htext : lines text.toList = before ++ after)
    (htext' : lines text'.toList = before ++ row :: after) :
    (isBlank row = true →
      Outline.ofText text' = (Outline.ofText text).mapLines (makeRoom before.length)) ∧
    (isBlank row = true ∨ (trimStart row).head? = some '#' →
      Service.parse text' = moved (makeRoom (before.length + 1))
        (Service.mapLines (makeRoom (before.length + 1))) (Service.parse text)) := by
  refine ⟨Outline.ofText_of_blank htext htext', fun hrow => ?_⟩
  apply Service.parse_of_insignificant htext htext'
  rw [← Bool.not_eq_true, isSignificant_iff]
  rintro ⟨hvisible, hhead⟩
  obtain hblank | hcomment := hrow
  · rw [hblank] at hvisible
    contradiction
  · exact hhead hcomment

end Insertion

/-- A blank line is put between a method without a body and the server that ends its class. The
    server moves down. The method, and with it the error that shows only once the class has ended,
    stay where they are. -/
theorem unchanged_of_insertion_open_class :
    Outline.ofText "class A:\n  func f():\n \t\nserver 80" =
        { server := some ⟨80, 3, ⟨0, 9, by decide⟩⟩
          classes := [⟨"A", 0, ⟨0, 8, by decide⟩, [⟨"f", "", 1, ⟨2, 11, by decide⟩⟩]⟩] } ∧
      Service.parse "class A:\n  func f():\n \t\nserver 80" =
        .error ⟨2, .missingBody .method⟩ := by
  have htext : lines "class A:\n  func f():\nserver 80".toList =
      ["class A:".toList, "  func f():".toList] ++ ["server 80".toList] := by
    decide +kernel
  have htext' : lines "class A:\n  func f():\n \t\nserver 80".toList =
      ["class A:".toList, "  func f():".toList] ++ " \t".toList :: ["server 80".toList] := by
    decide +kernel
  obtain ⟨houtline, hparse⟩ := unchanged_of_insertion htext htext'
  rw [houtline (by decide), hparse (Or.inl (by decide))]
  constructor <;> decide +kernel

end ServiceLang
