import ServiceLang.Feature.Symbols
import ServiceLang.Proofs.Outline.Pattern
import ServiceLang.Proofs.Outline.Scan
import ServiceLang.Proofs.Service.Parse
import ServiceLang.Proofs.Text.Utf16

namespace ServiceLang

open Text

/-!
# The ranges of document symbols

A range counts columns in characters, and an editor counts them in UTF-16 units:

* `DocumentSymbol.Within`: a symbol of a forest, at any depth;
* `MarksContent lines range`: what a range says, read in units, about the content of its line;
* `Placed.marksContent`: the range of an entry says that about the entry's line;
* `marksContent_of_within`: so does the range of every symbol of a text. Its start is always the
  start of the content, and its end is the end of the content unless a character of the content
  lies outside the basic plane.
-/

/-- A symbol of a forest: a root, or a symbol inside a root. -/
inductive DocumentSymbol.Within : DocumentSymbol → List DocumentSymbol → Prop where
  | root {symbol : DocumentSymbol} {forest : List DocumentSymbol} (h : symbol ∈ forest) :
      Within symbol forest
  | inside {symbol parent : DocumentSymbol} {forest : List DocumentSymbol} (hparent : parent ∈ forest)
      (h : Within symbol parent.children) : Within symbol forest

theorem DocumentSymbol.not_within_nil (symbol : DocumentSymbol) : ¬symbol.Within [] := by
  intro h
  cases h with
  | root h => exact List.not_mem_nil h
  | inside hparent _ => exact List.not_mem_nil hparent

/-- A range on one line of a text whose ends are read as UTF-16 offsets. The start belongs to the
    first character of the line that is not blank. The end belongs to the index behind the last
    one exactly when nothing between them is astral. -/
def MarksContent (lines : List (List Char)) (range : Range) : Prop :=
  ∃ gap content tail : List Char,
    lines[range.start.line.toNat]? = some (gap ++ content ++ tail) ∧
    Blank gap ∧ IsTrimmed content ∧ Blank tail ∧
    range.stop.line = range.start.line ∧
    charIndex (gap ++ content ++ tail) range.start.character.toNat = gap.length ∧
    (charIndex (gap ++ content ++ tail) range.stop.character.toNat = (gap ++ content).length ↔
      ∀ c ∈ content, isAstral c = false)

/-! ### Lines -/

/-- A line that is not blank is its content between blanks, and its two measures are where the
    content starts and ends. -/
theorem exists_content {line : List Char} (h : isBlank line = false) :
    ∃ gap content tail, line = gap ++ content ++ tail ∧ Blank gap ∧ IsTrimmed content ∧
      Blank tail ∧ indentation line = gap.length ∧
      (trimEnd line).length = (gap ++ content).length := by
  obtain ⟨tail, htail, hcontent⟩ := exists_blank_trimStart_eq line
  have hgap : Blank (line.takeWhile isSpace) :=
    fun c hc => List.all_eq_true.mp List.all_takeWhile c hc
  have hline : line = line.takeWhile isSpace ++ trim line ++ tail := by
    rw [List.append_assoc, ← hcontent, trimStart, List.takeWhile_append_dropWhile]
  have htrimmed : IsTrimmed (trim line) := by
    refine .of_trim fun hnil => ?_
    -- a line with nothing left would be blank
    rw [isBlank_iff.mpr (trim_eq_nil_iff.mp hnil)] at h
    contradiction
  refine ⟨line.takeWhile isSpace, trim line, tail, hline, hgap, htrimmed, htail, rfl, ?_⟩
  conv_lhs => rw [hline]
  rw [trimEnd_append htail, (htrimmed.2.append htrimmed.ne_nil _).trimEnd_eq]

theorem toNat_clampWord32 {n : Nat} (h : n < 4294967296) : (clampWord32 n).toNat = n := by
  rw [clampWord32, Nat.min_eq_left (by omega)]
  exact UInt32.toNat_ofNat_of_lt' h

/-- **Entries.** The range of an entry marks the content of the entry's line. -/
theorem Placed.marksContent {lines : List (List Char)} {i number : Nat} {span : Span}
    (h : Placed lines i number span) (hi : i < lines.length)
    (hblank : isBlank (lineAt lines i) = false) (hlines : lines.length < 4294967296)
    (hcolumns : ∀ line ∈ lines, line.length < 4294967296) :
    MarksContent lines (.ofSpan number span) := by
  obtain ⟨gap, content, tail, hline, hgap, hcontent, htail, hstart, hstop⟩ := exists_content hblank
  have hget := getElem?_eq_some_lineAt hi
  have hlength := hcolumns _ (List.mem_of_getElem? hget)
  rw [hline, List.length_append, List.length_append] at hlength
  have hnumber : (clampWord32 number).toNat = i := by
    rw [h.number_eq, toNat_clampWord32 (by omega)]
  have hfirst : (clampWord32 span.start).toNat = gap.length := by
    rw [h.start_eq, hstart, toNat_clampWord32 (by omega)]
  have hlast : (clampWord32 span.stop).toNat = (gap ++ content).length := by
    rw [h.stop_eq, hstop, toNat_clampWord32 (by rw [List.length_append]; omega)]
  have hplain : ∀ c ∈ gap, isAstral c = false := fun c hc => isAstral_of_isSpace (hgap c hc)
  refine ⟨gap, content, tail, ?_, hgap, hcontent, htail, rfl, ?_, ?_⟩
  · rw [Range.ofSpan, Range.onLine, hnumber, hget, hline]
  · rw [Range.ofSpan, Range.onLine, hfirst, List.append_assoc]
    exact (charIndex_length_eq_iff gap _).mpr hplain
  · rw [Range.ofSpan, Range.onLine, hlast, charIndex_length_eq_iff, List.forall_mem_append]
    exact and_iff_right hplain

/-! ### Symbols -/

/-- A symbol that is selected as a whole and has the range of an entry of some line. -/
def Stands (lines : List (List Char)) (symbol : DocumentSymbol) : Prop :=
  symbol.selectionRange = symbol.range ∧ ∃ i number span, Placed lines i number span ∧
    i < lines.length ∧ isBlank (lineAt lines i) = false ∧ symbol.range = .ofSpan number span

theorem stands_symbolAt {α : Type} {pattern : List Char → Option α} {lines : List (List Char)}
    {i number : Nat} {span : Span} {found : α} (hi : i < lines.length)
    (hplaced : Placed lines i number span) (hnil : pattern [] = none)
    (hfound : pattern (trimStart (lineAt lines i)) = some found) (name : String)
    (detail : Option String) (kind : SymbolKind) (children : List DocumentSymbol) :
    Stands lines (symbolAt name detail kind number span children) :=
  ⟨rfl, i, number, span, hplaced, hi, isBlank_of_match hnil hfound, rfl⟩

namespace IsOutline

variable {lines : List (List Char)} {outline : Outline} {symbol : DocumentSymbol}

/-- The methods of a class stand on their lines. -/
theorem stands_method (h : IsOutline lines outline) {entry : ClassEntry}
    (hentry : entry ∈ outline.classes) (hsymbol : symbol ∈ entry.methods.map (·.methodSymbol)) :
    Stands lines symbol := by
  obtain ⟨i, -, hclass⟩ := exists_left_of_forall₂ h.classes hentry
  obtain ⟨method, hmethod, rfl⟩ := List.mem_map.mp hsymbol
  obtain ⟨j, hj, hfunction⟩ := exists_left_of_forall₂ hclass.methods hmethod
  exact stands_symbolAt (mem_indices.mp hj).1 hfunction.placed rfl hfunction.found _ _ _ _

/-- What the outline lists stands on its lines. -/
theorem stands_root (h : IsOutline lines outline) (hsymbol : symbol ∈ outline.symbols) :
    Stands lines symbol := by
  simp only [Outline.symbols, List.mem_append, List.mem_map, Option.mem_toList] at hsymbol
  obtain ((⟨entry, hentry, rfl⟩ | ⟨entry, hentry, rfl⟩) | ⟨entry, hentry, rfl⟩) |
    ⟨entry, hentry, rfl⟩ := hsymbol
  · have hserver := h.server
    rw [Option.mem_def.mp hentry] at hserver
    generalize hlast : (indices (MatchesOutside lines portPattern) lines.length).getLast? = last
      at hserver
    cases hserver with
    | some hserver =>
      have hi := mem_indices.mp (List.mem_of_getLast? hlast)
      exact stands_symbolAt hi.1 hserver.placed rfl hserver.port _ _ _ _
  · obtain ⟨i, hi, hendpoint⟩ := exists_left_of_forall₂ h.endpoints hentry
    exact stands_symbolAt (mem_indices.mp hi).1 hendpoint.placed rfl hendpoint.found _ _ _ _
  · obtain ⟨i, hi, hfunction⟩ := exists_left_of_forall₂ h.functions hentry
    exact stands_symbolAt (mem_indices.mp hi).1 hfunction.placed rfl hfunction.found _ _ _ _
  · obtain ⟨i, hi, hclass⟩ := exists_left_of_forall₂ h.classes hentry
    exact stands_symbolAt (mem_indices.mp hi).1 hclass.placed rfl hclass.name _ _ _ _

/-- Only classes have symbols inside, which are their methods. -/
theorem children_eq (hsymbol : symbol ∈ outline.symbols) :
    symbol.children = [] ∨
      ∃ entry ∈ outline.classes, symbol.children = entry.methods.map (·.methodSymbol) := by
  simp only [Outline.symbols, List.mem_append, List.mem_map] at hsymbol
  obtain ((⟨entry, -, rfl⟩ | ⟨entry, -, rfl⟩) | ⟨entry, -, rfl⟩) | ⟨entry, hentry, rfl⟩ := hsymbol
  · exact .inl rfl
  · exact .inl rfl
  · exact .inl rfl
  · exact .inr ⟨entry, hentry, rfl⟩

/-- **Every depth.** A root stands on its line, and so does what is inside a class. Nothing is
    inside a method. -/
theorem stands_of_within (h : IsOutline lines outline) (hsymbol : symbol.Within outline.symbols) :
    Stands lines symbol := by
  cases hsymbol with
  | root hroot => exact h.stands_root hroot
  | inside hparent hinside =>
    obtain hnil | ⟨entry, hentry, hmethods⟩ := children_eq hparent
    · rw [hnil] at hinside
      exact absurd hinside symbol.not_within_nil
    · rw [hmethods] at hinside
      cases hinside with
      | root hmethod => exact h.stands_method hentry hmethod
      | inside hmethod hdeeper =>
        obtain ⟨method, -, rfl⟩ := List.mem_map.mp hmethod
        exact absurd hdeeper symbol.not_within_nil

end IsOutline

/-- **Ranges of symbols.** In a text of fewer than 2³² lines and columns every symbol, at any depth,
    is selected as a whole, and its range marks the content of its line: read as UTF-16 offsets, the
    start is right on every line, and the end is right exactly on lines whose content has no
    character outside the basic plane. -/
theorem marksContent_of_within (text : String) {symbol : DocumentSymbol}
    (hlines : (lines text.toList).length < 4294967296)
    (hcolumns : ∀ line ∈ lines text.toList, line.length < 4294967296)
    (hsymbol : symbol.Within (documentSymbols text)) :
    symbol.selectionRange = symbol.range ∧ MarksContent (lines text.toList) symbol.range := by
  obtain ⟨hselection, i, number, span, hplaced, hi, hblank, hrange⟩ :=
    (Outline.isOutline_ofText text).stands_of_within hsymbol
  refine ⟨hselection, ?_⟩
  rw [hrange]
  exact hplaced.marksContent hi hblank hlines hcolumns

/-- A method, with a character outside the basic plane behind it. -/
theorem marksContent_of_method : ∃ symbol : DocumentSymbol,
    symbol.Within (documentSymbols "class A:\n  method m(): 😀") ∧ symbol.name = "m" ∧
      symbol.selectionRange = symbol.range ∧
      MarksContent (lines "class A:\n  method m(): 😀".toList) symbol.range := by
  have hlines : (lines "class A:\n  method m(): 😀".toList).length < 4294967296 := by decide +kernel
  have hcolumns : ∀ line ∈ lines "class A:\n  method m(): 😀".toList, line.length < 4294967296 := by
    decide +kernel
  have hsymbols : documentSymbols "class A:\n  method m(): 😀" =
      [symbolAt "A" none .classType 0 ⟨0, 8, by decide⟩
        [symbolAt "m" (some "()") .method 1 ⟨2, 15, by decide⟩ []]] := by
    rfl
  have hwithin : (symbolAt "m" (some "()") .method 1 ⟨2, 15, by decide⟩ []).Within
      (documentSymbols "class A:\n  method m(): 😀") := by
    rw [hsymbols]
    exact .inside List.mem_cons_self (.root List.mem_cons_self)
  exact ⟨_, hwithin, rfl, marksContent_of_within _ hlines hcolumns hwithin⟩

/-- The end of a range is one short of the end of the line behind one astral character. -/
theorem charIndex_stop_lt_length_of_astral : ∃ symbol : DocumentSymbol,
    symbol.Within (documentSymbols "func f(): 😀") ∧
      lines "func f(): 😀".toList = ["func f(): 😀".toList] ∧
      symbol.range.start.line = 0 ∧
      charIndex "func f(): 😀".toList symbol.range.stop.character.toNat = 10 ∧
      (trimEnd "func f(): 😀".toList).length = 11 := by
  have hsymbols : documentSymbols "func f(): 😀" =
      [symbolAt "f" (some "func") .function 0 ⟨0, 11, by decide⟩ []] := by
    rfl
  refine ⟨symbolAt "f" (some "func") .function 0 ⟨0, 11, by decide⟩ [], ?_, ?_⟩
  · rw [hsymbols]
    exact .root List.mem_cons_self
  · decide +kernel

end ServiceLang
