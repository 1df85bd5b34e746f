import ServiceLang.Outline.Scan
import ServiceLang.Proofs.Outline.Pattern

namespace ServiceLang

open Text

/-!
# The scan finds exactly the outline

* `Scan.declare_eq`: what recording a line does to each part of the scan;
* `Scanned lines n scan`: the scan holds the outline of the lines before `n`, and its open class
  is the opener whose block is still going on;
* `Scanned.step`, `scanned_run`: one line, and all of them;
* `Outline.ofText_eq_iff`: the outline of a text is the one its blocks give.
-/

/-! ### One line outside classes -/

/-- **Recording a line.** Each part of the scan takes the entry of its own pattern. -/
theorem Scan.declare_eq (scan : Scan) (line : List Char) (number : Nat) :
    scan.declare line number =
      { outline :=
          { server := (portPattern (trimStart line)).map (⟨·, number, .ofContent line⟩) <|>
              scan.outline.server
            endpoints := scan.outline.endpoints ++
              ((Pattern.endpoint? (trimStart line)).map fun found =>
                ⟨String.ofList found.1, String.ofList found.2, number, .ofContent line⟩).toList
            functions := scan.outline.functions ++
              ((Pattern.callable? "func" (trimStart line)).map
                (FunctionEntry.ofMatch · line number)).toList
            classes := scan.outline.classes }
        openClass := (Pattern.class? (trimStart line)).map (fun name =>
          (indentation line, ⟨String.ofList name, number, .ofContent line, []⟩)) <|>
            scan.openClass } := by
  obtain ⟨hserver, hendpoint, hfunction, hclass⟩ | ⟨hserver, hendpoint, hfunction, hclass⟩ |
      ⟨hserver, hendpoint, hfunction, hclass⟩ | ⟨hserver, hendpoint, hfunction, hclass⟩ |
      ⟨hserver, hendpoint, hfunction, hclass⟩ := Pattern.match_cases (trimStart line)
  case server run =>
    cases hport : readBounded 65535 run <;>
      simp [Scan.declare, portPattern, maxPort, hserver, hendpoint, hfunction, hclass, hport]
  all_goals simp [Scan.declare, portPattern, hserver, hendpoint, hfunction, hclass]

/-! ### The invariant -/

/-- The lists of the outline hold the entries of the lines before `n`. -/
structure Listed (lines : List (List Char)) (n : Nat) (outline : Outline) : Prop where
  server : Option.Rel (IsServer lines)
    (indices (MatchesOutside lines portPattern) n).getLast? outline.server
  endpoints : List.Forall₂ (IsEndpoint lines)
    (indices (MatchesOutside lines Pattern.endpoint?) n) outline.endpoints
  functions : List.Forall₂ (IsFunction lines (Pattern.callable? "func"))
    (indices (MatchesOutside lines (Pattern.callable? "func")) n) outline.functions

/-- The filed classes and the open one, before line `n`: either every opener has been filed and
    no block goes on, or the last opener is open and the ones before it are filed. -/
inductive Filed (lines : List (List Char)) (n : Nat) :
    List ClassEntry → Option (Nat × ClassEntry) → Prop where
  | closed {classes : List ClassEntry}
      (hclasses : List.Forall₂ (IsClass lines n) (indices (Opener lines) n) classes)
      (hended : ∀ i, i < n → Opener lines i → ¬Reaches lines i n) : Filed lines n classes none
  | opened {classes : List ClassEntry} {entry : ClassEntry} (i : Nat) (hi : i < n)
      (hopener : Opener lines i)
      (hlast : indices (Opener lines) n = indices (Opener lines) i ++ [i])
      (hclasses : List.Forall₂ (IsClass lines n) (indices (Opener lines) i) classes)
      (hentry : IsClass lines n i entry) (hreach : Reaches lines i n) :
      Filed lines n classes (some (indentation (lineAt lines i), entry))

/-- The scan holds the outline of the lines before `n`. -/
structure Scanned (lines : List (List Char)) (n : Nat) (scan : Scan) : Prop where
  listed : Listed lines n scan.outline
  filed : Filed lines n scan.outline.classes scan.openClass

variable {lines : List (List Char)} {n i indent : Nat} {classes : List ClassEntry}
  {entry : ClassEntry} {scan : Scan} {outline outline' : Outline}

/-- A line that is blank or in a class block adds no entry outside of classes. -/
theorem Listed.skip (h : Listed lines n outline)
    (hskip : isBlank (lineAt lines n) ∨ ¬Outside lines n) : Listed lines (n + 1) outline := by
  have hnot : ∀ {α : Type} {pattern : List Char → Option α}, pattern [] = none →
      ¬MatchesOutside lines pattern n := by
    rintro α pattern hnil ⟨houtside, hmatch⟩
    obtain hblank | hinside := hskip
    · simp [isBlank_iff.mp hblank, hnil] at hmatch
    · exact hinside houtside
  refine ⟨?_, ?_, ?_⟩
  · rw [indices_succ_of_neg (hnot rfl)]
    exact h.server
  · rw [indices_succ_of_neg (hnot rfl)]
    exact h.endpoints
  · rw [indices_succ_of_neg (hnot rfl)]
    exact h.functions

/-- A class keeps its methods over a line that adds none. -/
theorem IsClass.succ (h : IsClass lines n i entry) (hn : ¬MethodInBlock lines i n) :
    IsClass lines (n + 1) i entry :=
  { h with methods := by rw [indices_succ_of_neg hn]; exact h.methods }

/-- A line that is no method in any of the blocks changes no class. -/
theorem forall₂_isClass_succ {openers : List Nat}
    (h : List.Forall₂ (IsClass lines n) openers classes)
    (hn : ∀ i ∈ openers, ¬MethodInBlock lines i n) :
    List.Forall₂ (IsClass lines (n + 1)) openers classes :=
  ((List.forall₂_and_left openers classes).mpr ⟨hn, h⟩).imp fun _ _ hboth => hboth.2.succ hboth.1

/-- A line of its block gives an open class the method that it declares, if it declares one. -/
theorem IsClass.record (h : IsClass lines n i entry) (hblock : InBlock lines i n)
    (hvisible : isBlank (lineAt lines n) = false) :
    IsClass lines (n + 1) i (entry.record (lineAt lines n) n) := by
  have hrecord : entry.record (lineAt lines n) n =
      { entry with methods := entry.methods ++ ((Pattern.method? (trimStart (lineAt lines n))).map
          (FunctionEntry.ofMatch · (lineAt lines n) n)).toList } := by
    rw [ClassEntry.record]
    cases Pattern.method? (trimStart (lineAt lines n)) <;> simp
  rw [hrecord]
  refine ⟨h.name, h.placed, forall₂_indices_succ h.methods ?_ ?_⟩
  · intro method hmethod
    obtain ⟨found, hfound, rfl⟩ := Option.map_eq_some_iff.mp hmethod
    exact ⟨by simpa [FunctionEntry.ofMatch] using hfound, placed_ofContent hvisible⟩
  · rw [MethodInBlock, and_iff_right hblock, and_iff_right hvisible, Option.isSome_map]

/-! ### Lines inside the open class -/

/-- A blank line opens no class. -/
theorem indices_opener_succ_of_blank (hblank : isBlank (lineAt lines n)) :
    indices (Opener lines) (n + 1) = indices (Opener lines) n := by
  refine indices_succ_of_neg fun hopener => ?_
  have hvisible := (opener_iff.mp hopener).1.1
  rw [hblank] at hvisible
  contradiction

/-- A blank line neither opens nor ends a class. -/
theorem Filed.skip {openClass : Option (Nat × ClassEntry)} (h : Filed lines n classes openClass)
    (hblank : isBlank (lineAt lines n)) : Filed lines (n + 1) classes openClass := by
  have hmethod : ∀ i, ¬MethodInBlock lines i n := by
    rintro i ⟨-, hvisible, -⟩
    rw [hblank] at hvisible
    contradiction
  have hopeners := indices_opener_succ_of_blank hblank
  cases h with
  | closed hclasses hended =>
    refine .closed (hopeners ▸ forall₂_isClass_succ hclasses fun i _ => hmethod i) ?_
    intro i hi hopener hreach
    have hmem : i ∈ indices (Opener lines) (n + 1) := mem_indices.mpr ⟨hi, hopener⟩
    rw [hopeners] at hmem
    exact hended i (mem_indices.mp hmem).1 hopener (hreach.mono (Nat.le_succ n))
  | opened i hi hopener hlast hclasses hentry hreach =>
    exact .opened i (Nat.lt_succ_of_lt hi) hopener (hopeners.trans hlast)
      (forall₂_isClass_succ hclasses fun j _ => hmethod j) (hentry.succ (hmethod i))
      ((reaches_succ_iff hi).mpr ⟨hreach, Or.inl hblank⟩)

/-- A deeper line stays inside the open class, which records its method. -/
theorem Filed.record (h : Filed lines n classes (some (indent, entry)))
    (hvisible : isBlank (lineAt lines n) = false) (hdeep : indent < indentation (lineAt lines n)) :
    Filed lines (n + 1) classes (some (indent, entry.record (lineAt lines n) n)) ∧
      ¬Outside lines n := by
  cases h with
  | opened i hi hopener hlast hclasses hentry hreach =>
    have hreach' : Reaches lines i (n + 1) := (reaches_succ_iff hi).mpr ⟨hreach, Or.inr hdeep⟩
    have hinside : ¬Outside lines n := fun houtside => houtside i hi hopener ⟨hi, hreach'⟩
    have hopeners : indices (Opener lines) (n + 1) = indices (Opener lines) n :=
      indices_succ_of_neg fun hn => hinside (opener_iff.mp hn).2
    -- the filed classes are older, and no two blocks go on at once
    have hmethod : ∀ j ∈ indices (Opener lines) i, ¬MethodInBlock lines j n := by
      rintro j hj ⟨⟨hjn, hjreach⟩, -⟩
      obtain ⟨hji, hjopener⟩ := mem_indices.mp hj
      have hsame := hjopener.eq_of_reaches hopener hjn hi (hjreach.mono (Nat.le_succ n)) hreach
      omega
    exact ⟨.opened i (Nat.lt_succ_of_lt hi) hopener (hopeners.trans hlast)
      (forall₂_isClass_succ hclasses hmethod) (hentry.record ⟨hi, hreach'⟩ hvisible) hreach',
      hinside⟩

/-! ### Lines outside classes -/

/-- All openers before line `n` are filed, and line `n` lies in none of their blocks. -/
structure Settled (lines : List (List Char)) (n : Nat) (classes : List ClassEntry) : Prop where
  classes : List.Forall₂ (IsClass lines (n + 1)) (indices (Opener lines) n) classes
  ended : ∀ i, i < n → Opener lines i → ¬Reaches lines i (n + 1)

/-- Openers whose blocks have ended keep their entries. -/
theorem settled_of_ended
    (hclasses : List.Forall₂ (IsClass lines n) (indices (Opener lines) n) classes)
    (hended : ∀ i, i < n → Opener lines i → ¬Reaches lines i (n + 1)) :
    Settled lines n classes where
  classes := forall₂_isClass_succ hclasses fun i hi hmethod =>
    hended i (mem_indices.mp hi).1 (mem_indices.mp hi).2 hmethod.1.2
  ended := hended

/-- With no class open all blocks have ended. -/
theorem Filed.settled (h : Filed lines n classes none) : Settled lines n classes := by
  cases h with
  | closed hclasses hended =>
    exact settled_of_ended hclasses fun i hi hopener hreach =>
      hended i hi hopener (hreach.mono (Nat.le_succ n))

/-- A line that is not indented deeper ends the open class. -/
theorem Filed.settled_close (h : Filed lines n classes (some (indent, entry)))
    (hvisible : isBlank (lineAt lines n) = false)
    (hshallow : ¬indent < indentation (lineAt lines n)) :
    Settled lines n (classes ++ [entry]) := by
  cases h with
  | opened i hi hopener hlast hclasses hentry hreach =>
    refine settled_of_ended ?_ ?_
    · rw [hlast]
      exact List.rel_append hclasses (.cons hentry .nil)
    · intro j hj hjopener hjreach
      obtain ⟨hjreach, hnext⟩ := (reaches_succ_iff hj).mp hjreach
      obtain rfl := hjopener.eq_of_reaches hopener hj hi hjreach hreach
      obtain hblank | hdeep := hnext
      · rw [hvisible] at hblank
        contradiction
      · exact hshallow hdeep

/-- A line is outside when all blocks before it have ended. -/
theorem Settled.outside (h : Settled lines n classes) : Outside lines n :=
  fun i hi hopener hblock => h.ended i hi hopener hblock.2

/-- A line outside every class adds its entry to the list that it belongs to. -/
theorem Settled.listed (h : Settled lines n scan.outline.classes)
    (hlisted : Listed lines n scan.outline)
    (hvisible : isBlank (lineAt lines n) = false) :
    Listed lines (n + 1) (scan.declare (lineAt lines n) n).outline := by
  have hplaced := placed_ofContent hvisible
  have hiff : ∀ {α β : Type} {pattern : List Char → Option α} {f : α → β},
      MatchesOutside lines pattern n ↔
        ((pattern (trimStart (lineAt lines n))).map f).isSome := by
    intro α β pattern f
    rw [MatchesOutside, and_iff_right h.outside, Option.isSome_map]
  rw [Scan.declare_eq]
  refine ⟨rel_getLast?_indices_succ hlisted.server ?_ hiff,
    forall₂_indices_succ hlisted.endpoints ?_ hiff,
    forall₂_indices_succ hlisted.functions ?_ hiff⟩
  · intro entry hentry
    obtain ⟨port, hport, rfl⟩ := Option.map_eq_some_iff.mp hentry
    exact ⟨hport, hplaced⟩
  · intro entry hentry
    obtain ⟨found, hfound, rfl⟩ := Option.map_eq_some_iff.mp hentry
    exact ⟨by simpa using hfound, hplaced⟩
  · intro entry hentry
    obtain ⟨found, hfound, rfl⟩ := Option.map_eq_some_iff.mp hentry
    exact ⟨by simpa [FunctionEntry.ofMatch] using hfound, hplaced⟩

/-- A line outside every class opens one if it is an opener. -/
theorem Settled.filed (h : Settled lines n scan.outline.classes) (hnone : scan.openClass = none)
    (hvisible : isBlank (lineAt lines n) = false) :
    Filed lines (n + 1) (scan.declare (lineAt lines n) n).outline.classes
      (scan.declare (lineAt lines n) n).openClass := by
  have hopener : Opener lines n ↔ (Pattern.class? (trimStart (lineAt lines n))).isSome := by
    rw [opener_iff, and_iff_left h.outside, opensClass_iff]
  rw [Scan.declare_eq, hnone]
  cases hclass : Pattern.class? (trimStart (lineAt lines n)) with
  | none =>
    rw [hclass] at hopener
    have hn : ¬Opener lines n := by simp [hopener]
    refine .closed (indices_succ_of_neg hn ▸ h.classes) fun i hi hi' => ?_
    obtain hlt | rfl := Nat.lt_succ_iff_lt_or_eq.mp hi
    · exact h.ended i hlt hi'
    · exact absurd hi' hn
  | some name =>
    rw [hclass] at hopener
    have hn : Opener lines n := by simp [hopener]
    -- the block of a class has no line before the one behind its opener
    have hmethods : indices (MethodInBlock lines n) (n + 1) = [] := by
      refine List.eq_nil_iff_forall_not_mem.mpr fun j hj => ?_
      obtain ⟨hlt, ⟨hgt, -⟩, -⟩ := mem_indices.mp hj
      omega
    refine .opened n (Nat.lt_succ_self n) hn (indices_succ_of_pos hn) h.classes
      ⟨by simpa using hclass, placed_ofContent hvisible, hmethods ▸ .nil⟩ ?_
    intro k hk hnk
    omega

/-! ### Steps and runs -/

/-- **One line.** A step of the scan takes the outline of the lines before `n` to the outline of
    the lines up to `n`. -/
theorem Scanned.step (h : Scanned lines n scan) :
    Scanned lines (n + 1) (scan.step (lineAt lines n) n) := by
  obtain ⟨hlisted, hfiled⟩ := h
  rw [Scan.step]
  split
  case isTrue hblank => exact ⟨hlisted.skip (Or.inl hblank), hfiled.skip hblank⟩
  case isFalse hvisible =>
    rw [Bool.not_eq_true] at hvisible
    split
    case h_1 indent entry hopen =>
      rw [hopen] at hfiled
      split
      case isTrue hdeep =>
        obtain ⟨hfiled, hinside⟩ := hfiled.record hvisible hdeep
        exact ⟨hlisted.skip (Or.inr hinside), hfiled⟩
      case isFalse hshallow =>
        -- The line ends the open class, which is listed before the line is taken for itself.
        have hclose : scan.close =
            { outline := { scan.outline with classes := scan.outline.classes ++ [entry] } } := by
          rw [Scan.close, hopen]
        have hsettled : Settled lines n scan.close.outline.classes := by
          rw [hclose]
          exact hfiled.settled_close hvisible hshallow
        have hlisted' : Listed lines n scan.close.outline := by
          rw [hclose]
          exact ⟨hlisted.server, hlisted.endpoints, hlisted.functions⟩
        exact ⟨hsettled.listed hlisted' hvisible,
          hsettled.filed (by rw [hclose]) hvisible⟩
    case h_2 hopen =>
      rw [hopen] at hfiled
      exact ⟨hfiled.settled.listed hlisted hvisible, hfiled.settled.filed hopen hvisible⟩

/-- Lines with their numbers, by position. -/
theorem zipIdx_eq_map_lineAt (lines : List (List Char)) :
    lines.zipIdx = (List.range lines.length).map fun i => (lineAt lines i, i) := by
  refine List.ext_getElem (by simp) fun i hi _ => ?_
  rw [List.length_zipIdx] at hi
  simp [lineAt, hi]

/-- **All lines.** After the first `n` lines the scan holds their outline. -/
theorem scanned_run (lines : List (List Char)) (n : Nat) :
    Scanned lines n (Scan.run {} ((List.range n).map fun i => (lineAt lines i, i))) := by
  induction n with
  | zero => exact ⟨⟨.none, .nil, .nil⟩, .closed .nil fun i hi => absurd hi (Nat.not_lt_zero i)⟩
  | succ n ih =>
    rw [List.range_succ, List.map_append, Scan.run, List.foldl_append]
    exact ih.step

/-! ### Texts -/

/-- Closing the scan of all lines files the open class, and gives an outline of the text. -/
theorem Scanned.isOutline (h : Scanned lines lines.length scan) :
    IsOutline lines scan.close.outline := by
  obtain ⟨hlisted, hfiled⟩ := h
  rw [Scan.close]
  split
  case h_1 hopen =>
    rw [hopen] at hfiled
    obtain ⟨hclasses, -⟩ := hfiled
    exact ⟨hlisted.server, hlisted.endpoints, hlisted.functions, hclasses⟩
  case h_2 indent entry hopen =>
    rw [hopen] at hfiled
    cases hfiled with
    | opened i hi hopener hlast hclasses hentry hreach =>
      refine ⟨hlisted.server, hlisted.endpoints, hlisted.functions, ?_⟩
      rw [hlast]
      exact List.rel_append hclasses (.cons hentry .nil)

/-- A line has one number and one span. -/
theorem Placed.unique {number number' : Nat} {span span' : Span}
    (h : Placed lines i number span) (h' : Placed lines i number' span') :
    number = number' ∧ span = span' := by
  refine ⟨h.number_eq.trans h'.number_eq.symm, ?_⟩
  have hstart := h.start_eq.trans h'.start_eq.symm
  have hstop := h.stop_eq.trans h'.stop_eq.symm
  cases span
  cases span'
  simp_all

/-- A line has one server entry. -/
theorem rightUnique_isServer (lines : List (List Char)) :
    Relator.RightUnique (IsServer lines) := by
  rintro i ⟨port, line, span⟩ ⟨port', line', span'⟩ h h'
  obtain ⟨rfl, rfl⟩ := h.placed.unique h'.placed
  obtain rfl := Option.some.inj (h.port.symm.trans h'.port)
  rfl

/-- A line has one endpoint entry. -/
theorem rightUnique_isEndpoint (lines : List (List Char)) :
    Relator.RightUnique (IsEndpoint lines) := by
  rintro i ⟨method, path, line, span⟩ ⟨method', path', line', span'⟩ h h'
  obtain ⟨rfl, rfl⟩ := h.placed.unique h'.placed
  have hfound := Option.some.inj (h.found.symm.trans h'.found)
  simp_all [String.toList_inj]

/-- A line has one function entry. -/
theorem rightUnique_isFunction (lines : List (List Char))
    (pattern : List Char → Option (List Char × List Char)) :
    Relator.RightUnique (IsFunction lines pattern) := by
  rintro i ⟨name, args, line, span⟩ ⟨name', args', line', span'⟩ h h'
  obtain ⟨rfl, rfl⟩ := h.placed.unique h'.placed
  have hfound := Option.some.inj (h.found.symm.trans h'.found)
  simp_all [String.toList_inj]

/-- A line has one class entry. -/
theorem rightUnique_isClass (lines : List (List Char)) (n : Nat) :
    Relator.RightUnique (IsClass lines n) := by
  rintro i ⟨name, line, span, methods⟩ ⟨name', line', span', methods'⟩ h h'
  obtain ⟨rfl, rfl⟩ := h.placed.unique h'.placed
  obtain rfl : methods = methods' :=
    (rightUnique_isFunction lines Pattern.method?).forall₂ h.methods h'.methods
  have hname := Option.some.inj (h.name.symm.trans h'.name)
  simp_all [String.toList_inj]

/-- A text has one outline. -/
theorem IsOutline.unique (h : IsOutline lines outline) (h' : IsOutline lines outline') :
    outline = outline' := by
  obtain ⟨server, endpoints, functions, classes⟩ := outline
  obtain ⟨server', endpoints', functions', classes'⟩ := outline'
  obtain rfl : endpoints = endpoints' :=
    (rightUnique_isEndpoint lines).forall₂ h.endpoints h'.endpoints
  obtain rfl : functions = functions' :=
    (rightUnique_isFunction lines (Pattern.callable? "func")).forall₂ h.functions h'.functions
  obtain rfl : classes = classes' :=
    (rightUnique_isClass lines lines.length).forall₂ h.classes h'.classes
  obtain rfl : server = server' := by
    have hserver := h.server
    have hserver' := h'.server
    generalize (indices (MatchesOutside lines portPattern) lines.length).getLast? = last
      at hserver hserver'
    cases hserver with
    | none => cases hserver'; rfl
    | some hentry =>
      cases hserver' with
      | some hentry' => rw [rightUnique_isServer lines hentry hentry']
  rfl

/-- The scan gives the outline of its lines. -/
theorem Outline.isOutline_ofText (text : String) :
    IsOutline (Text.lines text.toList) (Outline.ofText text) := by
  rw [Outline.ofText, numberedLines, zipIdx_eq_map_lineAt]
  exact (scanned_run (Text.lines text.toList) _).isOutline

/-- **The scan finds exactly the outline.** The outline of a text is the one that its blocks
    give: openers with the method lines of their blocks, and outside every block the endpoints,
    the functions and the last server. -/
theorem Outline.ofText_eq_iff (text : String) (outline : Outline) :
    Outline.ofText text = outline ↔ IsOutline (Text.lines text.toList) outline := by
  have hscan := Outline.isOutline_ofText text
  constructor
  · rintro rfl
    exact hscan
  · exact hscan.unique

end ServiceLang
