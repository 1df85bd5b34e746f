import ServiceLang.Proofs.Agreement.Heads
import ServiceLang.Proofs.Outline.Scan
import ServiceLang.Proofs.Service.Parse

namespace ServiceLang

open Text

/-!
# Declarations at the left margin

A text that is a service description has a declaration for each line at its left margin that is
neither blank nor a comment, and the outline finds the same declarations there.

* `sourceLineAt`, `AtMargin`: the significant lines of a text by position, and those that open
  declarations;
* `DeclaredAt lines i item`: line `i` and the lines below it make the declaration `item`;
* `forall₂_of_atMargin`: a pattern that fits the declarations of its kind gives, at the margin,
  exactly the entries of these declarations;
* `Outline.denotes_declarations`: endpoints, functions and classes.
-/

/-! ### Significant lines by position -/

/-- A line is significant when it is neither blank nor a comment. -/
theorem isSignificant_iff {line : List Char} :
    isSignificant line = true ↔ isBlank line = false ∧ (trimStart line).head? ≠ some '#' := by
  have hblank : isBlank line = false ↔ trim line ≠ [] := by
    rw [← Bool.not_eq_true, isBlank_iff, ← trim_eq_nil_iff]
  rw [isSignificant, decide_eq_true_eq, hblank, head?_trim]

/-- A line at the margin has no blanks in front. -/
theorem trimStart_of_indentation_eq_zero {line : List Char} (h : indentation line = 0) :
    trimStart line = line := by
  have hcut := List.takeWhile_append_dropWhile (p := isSpace) (l := line)
  rwa [List.eq_nil_of_length_eq_zero h, List.nil_append] at hcut

/-- The significant line made of line `i`. -/
def sourceLineAt (lines : List (List Char)) (i : Nat) : SourceLine :=
  ⟨i + 1, indentation (lineAt lines i), trim (lineAt lines i)⟩

/-- The significant lines of a text, by position. -/
theorem sourceLines_eq_map (text : List Char) :
    sourceLines text =
      (indices (fun i => isSignificant (lineAt (lines text) i) = true) (lines text).length).map
        (sourceLineAt (lines text)) := by
  have hnumbered : (lines text).zipIdx 1 =
      (List.range (lines text).length).map fun i => (lineAt (lines text) i, i + 1) := by
    refine List.ext_getElem (by simp) fun i hi _ => ?_
    rw [List.length_zipIdx] at hi
    simp [lineAt, hi, Nat.add_comm]
  rw [sourceLines, hnumbered, List.filter_map, List.map_map]
  simp only [indices, Bool.decide_eq_true]
  rfl

/-- The significant lines, by position. -/
theorem mem_sourceLines_iff {text : List Char} {line : SourceLine} :
    line ∈ sourceLines text ↔ ∃ i, i < (lines text).length ∧
      isSignificant (lineAt (lines text) i) = true ∧ line = sourceLineAt (lines text) i := by
  rw [sourceLines_eq_map, List.mem_map]
  simp only [mem_indices, and_assoc, eq_comm]

/-- Line `i` is neither blank nor a comment, and starts at the left margin. -/
def AtMargin (lines : List (List Char)) (i : Nat) : Prop :=
  isSignificant (lineAt lines i) = true ∧ indentation (lineAt lines i) = 0

instance (lines : List (List Char)) : DecidablePred (AtMargin lines) := fun _ =>
  inferInstanceAs (Decidable (_ ∧ _))

/-- The significant lines at the margin, by position. -/
theorem filter_sourceLines (text : List Char) :
    (sourceLines text).filter (·.indent = 0) =
      (indices (AtMargin (lines text)) (lines text).length).map (sourceLineAt (lines text)) := by
  rw [sourceLines_eq_map, List.filter_map, indices, indices, List.filter_filter]
  congr 1
  refine List.filter_congr fun i _ => ?_
  rw [Bool.eq_iff_iff, Bool.and_eq_true, Function.comp_apply, decide_eq_true_iff,
    decide_eq_true_iff, decide_eq_true_iff, AtMargin, and_comm]
  rfl

/-- No block reaches over a visible line at the left margin. -/
theorem Reaches.indentation_ne_zero {lines : List (List Char)} {i k n : Nat}
    (h : Reaches lines i n) (hik : i < k) (hkn : k < n)
    (hvisible : isBlank (lineAt lines k) = false) : indentation (lineAt lines k) ≠ 0 := by
  intro hzero
  obtain hblank | hdeep := h k hkn hik
  · rw [hvisible] at hblank
    contradiction
  · rw [hzero] at hdeep
    exact Nat.not_lt_zero _ hdeep

/-- A visible line at the margin ends every class block. -/
theorem outside_of_indentation_eq_zero {lines : List (List Char)} {i : Nat}
    (hvisible : isBlank (lineAt lines i) = false) (h : indentation (lineAt lines i) = 0) :
    Outside lines i :=
  fun _ hj _ hblock => hblock.2.indentation_ne_zero hj (Nat.lt_succ_self i) hvisible h

/-! ### Declarations by position -/

/-- Line `i`, with some lines below it, makes the declaration. -/
def DeclaredAt (lines : List (List Char)) (i : Nat) (item : Item) : Prop :=
  ∃ below, Declares (sourceLineAt lines i) below item

/-- The heads of the groups of a list are its heads, in order. -/
theorem Grouped.map_fst {α : Type} {isHead : α → Prop} [DecidablePred isHead] {lines : List α}
    {groups : List (α × List α)} (h : Grouped isHead lines groups) :
    groups.map Prod.fst = lines.filter (isHead ·) := by
  obtain ⟨rfl, hhead, hbelow⟩ := h
  induction groups with
  | nil => rfl
  | cons group groups ih =>
    obtain ⟨hhead, hheads⟩ := List.forall_mem_cons.mp hhead
    obtain ⟨hbelow, hbelows⟩ := List.forall_mem_cons.mp hbelow
    have hnone : group.2.filter (isHead ·) = [] :=
      List.filter_eq_nil_iff.mpr fun line hline => by simpa using hbelow line hline
    rw [List.map_cons, ih hheads hbelows, List.flatMap_cons, List.filter_append,
      List.filter_cons_of_pos (by simpa using hhead), hnone]
    rfl

/-- **One declaration for each line at the margin.** -/
theorem forall₂_declaredAt {text : List Char} {items : List Item}
    (h : Describes (sourceLines text) items) :
    List.Forall₂ (DeclaredAt (lines text)) (indices (AtMargin (lines text)) (lines text).length)
      items := by
  obtain ⟨groups, hgroups, hitems⟩ := h
  have hheads : List.Forall₂ (fun head item => ∃ below, Declares head below item)
      (groups.map Prod.fst) items :=
    List.forall₂_map_left_iff.mpr (hitems.imp fun group _ hitem => ⟨group.2, hitem⟩)
  rw [hgroups.map_fst, filter_sourceLines] at hheads
  exact (List.forall₂_map_left_iff (f := sourceLineAt (lines text))).mp hheads

/-! ### Entries and declarations in order -/

section Forall

variable {α β γ δ : Type} {R : α → β → Prop} {S : α → γ → Prop}

/-- Two lists that are related to a third one element by element are related so to each other. -/
theorem forall₂_of_common {T : β → γ → Prop} {as : List α} {bs : List β} {cs : List γ}
    (hR : List.Forall₂ R as bs) (hS : List.Forall₂ S as cs)
    (h : ∀ a b c, R a b → S a c → T b c) : List.Forall₂ T bs cs := by
  induction hR generalizing cs with
  | nil => cases hS; exact .nil
  | cons hab _ ih =>
    cases hS with
    | cons hac hS => exact .cons (h _ _ _ hab hac) (ih hS)

/-- The elements on which `f` finds something are related to what `g` finds on the others. -/
theorem forall₂_filter_filterMap {f : α → Option δ} {g : β → Option γ} {as : List α} {bs : List β}
    (h : List.Forall₂ R as bs)
    (hfg : ∀ a b, R a b → Option.Rel (fun _ c => S a c) (f a) (g b)) :
    List.Forall₂ S (as.filter fun a => (f a).isSome) (bs.filterMap g) := by
  induction h with
  | nil => exact .nil
  | @cons a b as bs hab _ ih =>
    have hrel := hfg a b hab
    rw [List.filter_cons, List.filterMap_cons]
    -- both sides look at what `f` and `g` find on the first elements only
    generalize f a = found at hrel
    generalize g b = decl at hrel
    cases hrel with
    | none => exact ih
    | some hac => exact .cons hac ih

end Forall

/-- At the margin, a line has a pattern outside every block exactly when it is significant and has
    the pattern, unless comments can have it. -/
theorem filter_indices_matchesOutside {α : Type} {lines : List (List Char)}
    {pattern : List Char → Option α} {d : Char}
    (hletter : ∀ s found, pattern s = some found → s.head? = some d) (hd : d ≠ '#') (n : Nat) :
    (indices (MatchesOutside lines pattern) n).filter
        (fun i => indentation (lineAt lines i) = 0) =
      (indices (AtMargin lines) n).filter
        (fun i => (pattern (trimStart (lineAt lines i))).isSome) := by
  rw [indices, indices, List.filter_filter, List.filter_filter]
  refine List.filter_congr fun i _ => ?_
  rw [Bool.eq_iff_iff]
  simp only [Bool.and_eq_true, decide_eq_true_eq]
  constructor
  · rintro ⟨hmargin, -, hfound⟩
    -- a line with the pattern starts with a letter, so it is neither blank nor a comment
    obtain ⟨found, hsome⟩ := Option.isSome_iff_exists.mp hfound
    have hhead := hletter _ found hsome
    refine ⟨hfound, isSignificant_iff.mpr ⟨?_, ?_⟩, hmargin⟩
    · rw [← Bool.not_eq_true, isBlank_iff]
      intro hnil
      rw [hnil] at hhead
      contradiction
    · rw [hhead]
      simpa using hd
  · rintro ⟨hfound, hsignificant, hmargin⟩
    have hvisible := (isSignificant_iff.mp hsignificant).1
    exact ⟨hmargin, outside_of_indentation_eq_zero hvisible hmargin, hfound⟩

/-- **Agreement at the margin.** Suppose that on each line at the margin a pattern finds something
    exactly when the declaration there is of a kind, and the entry of such a line then agrees with
    the declaration. Then the entries that start at the margin agree with the declarations of the
    kind, one by one and in order. -/
theorem forall₂_of_atMargin {α β γ : Type} {lines : List (List Char)} {n : Nat}
    {pattern : List Char → Option α} {IsEntry : Nat → β → Prop} {span : β → Span}
    {decl? : Item → Option γ} {Agree : β → γ → Prop} {entries : List β} {items : List Item}
    {d : Char}
    (hentries : List.Forall₂ IsEntry (indices (MatchesOutside lines pattern) n) entries)
    (hitems : List.Forall₂ (DeclaredAt lines) (indices (AtMargin lines) n) items)
    (hspan : ∀ i entry, IsEntry i entry → (span entry).start = indentation (lineAt lines i))
    (hletter : ∀ s found, pattern s = some found → s.head? = some d) (hd : d ≠ '#')
    (hline : ∀ i item, DeclaredAt lines i item →
      Option.Rel (fun _ decl => ∀ entry, IsEntry i entry → Agree entry decl)
        (pattern (trimStart (lineAt lines i))) (decl? item)) :
    List.Forall₂ Agree (entries.filter fun entry => (span entry).start = 0)
      (items.filterMap decl?) := by
  -- an entry starts at the margin exactly when its line does
  have hmargin := List.rel_filter (p := fun i => decide (indentation (lineAt lines i) = 0))
    (q := fun entry => decide ((span entry).start = 0))
    (fun i entry hentry => by simp [hspan i entry hentry]) hentries
  rw [filter_indices_matchesOutside hletter hd] at hmargin
  exact forall₂_of_common hmargin (forall₂_filter_filterMap hitems hline)
    fun i entry decl hentry hagree => hagree entry hentry

/-! ### The three kinds -/

/-- The endpoint that a declaration is. -/
def Item.endpoint? : Item → Option Endpoint
  | .endpoint decl => some decl
  | _ => none

/-- The function that a declaration is. -/
def Item.function? : Item → Option Function
  | .function decl => some decl
  | _ => none

/-- The class that a declaration is. -/
def Item.class? : Item → Option ClassDecl
  | .classDecl decl => some decl
  | _ => none

/-- The first letter of the keyword of a declaration. -/
def Item.initial : Item → Char
  | .server .. => 's'
  | .endpoint _ => 'e'
  | .function _ => 'f'
  | .classDecl _ => 'c'

/-- The endpoint entry is the entry of the declaration. Entries count lines from 0, declarations
    from 1. -/
structure EndpointEntry.Denotes (entry : EndpointEntry) (decl : Endpoint) : Prop where
  method : entry.method = decl.method.name
  path : entry.path = decl.path
  line : entry.line + 1 = decl.line

/-- The function entry is the entry of the function or method: the parameters are the pieces of
    the raw arguments. -/
structure FunctionEntry.Denotes (entry : FunctionEntry) (decl : Function) : Prop where
  name : entry.name = decl.name
  params : decl.params = (pieces entry.args.toList).map String.ofList
  line : entry.line + 1 = decl.line

/-- The class entry is the entry of the declaration, methods aside. -/
structure ClassEntry.Denotes (entry : ClassEntry) (decl : ClassDecl) : Prop where
  name : entry.name = decl.name
  line : entry.line + 1 = decl.line

section Kinds

variable {lines : List (List Char)} {i n : Nat} {item : Item}

/-- Behind its indentation a line is its trimmed content and a tail that the patterns ignore. -/
theorem exists_trimStart_lineAt (lines : List (List Char)) (i : Nat) :
    ∃ tail, trimStart (lineAt lines i) = (sourceLineAt lines i).content ++ tail := by
  obtain ⟨tail, -, htail⟩ := exists_blank_trimStart_eq (lineAt lines i)
  exact ⟨tail, htail⟩

/-- The class pattern on a line that opens a class. -/
theorem HeadLine.class?_lineAt {name : List Char}
    (h : HeadLine (sourceLineAt lines i).content (.classDecl name)) :
    Pattern.class? (trimStart (lineAt lines i)) = some name := by
  obtain ⟨tail, htail⟩ := exists_trimStart_lineAt lines i
  rw [htail]
  exact h.class?_append tail

/-- An entry of a function or method line has the parameters that the pattern finds there. -/
theorem IsFunction.denotes {pattern : List Char → Option (List Char × List Char)}
    {entry : FunctionEntry} {signature : Signature} {below : List SourceLine} {decl : Function}
    {args : List Char} (h : IsFunction lines pattern i entry)
    (hfound : pattern (trimStart (lineAt lines i)) = some (signature.name, args))
    (hparams : signature.params = pieces args)
    (hdecl : MakesFunction signature (sourceLineAt lines i) below decl) : entry.Denotes decl := by
  obtain ⟨hname, hargs⟩ := Prod.mk.inj (Option.some.inj (h.found.symm.trans hfound))
  refine ⟨?_, ?_, ?_⟩
  · rw [hdecl.name, ← hname, String.ofList_toList]
  · rw [hdecl.params, hparams, hargs]
  · rw [hdecl.line, h.placed.number_eq]
    rfl

/-- **Other patterns.** A line that opens a declaration has no pattern whose texts start with
    another letter than the keyword of the declaration. -/
theorem DeclaredAt.pattern_eq_none {α : Type} {pattern : List Char → Option α} {d : Char}
    (h : DeclaredAt lines i item) (hpattern : ∀ s found, pattern s = some found → s.head? = some d)
    (hne : item.initial ≠ d) : pattern (trimStart (lineAt lines i)) = none := by
  obtain ⟨below, hitem⟩ := h
  refine Pattern.eq_none_of_head? (hpattern _) ?_ hne
  obtain ⟨tail, htail⟩ := exists_trimStart_lineAt lines i
  rw [htail, List.head?_append]
  cases hitem with
  | server hhead => rw [hhead.head?_eq]; rfl
  | endpoint hhead _ _ => rw [hhead.head?_eq]; rfl
  | function hhead _ => rw [hhead.head?_eq]; rfl
  | classDecl hhead _ => rw [hhead.head?_eq]; rfl

/-- A line has an endpoint entry exactly when it declares an endpoint, and the entry is of that one.
    -/
theorem DeclaredAt.endpoint_rel (h : DeclaredAt lines i item) :
    Option.Rel (fun _ decl => ∀ entry, IsEndpoint lines i entry → entry.Denotes decl)
      (Pattern.endpoint? (trimStart (lineAt lines i))) item.endpoint? := by
  have hother := h.pattern_eq_none fun _ _ => Pattern.head?_of_endpoint?
  obtain ⟨below, hitem⟩ := h
  obtain ⟨tail, htail⟩ := exists_trimStart_lineAt lines i
  cases hitem with
  | endpoint hhead _ _ =>
    -- the entry has what the pattern finds, and the pattern finds what the head says
    have hfound := hhead.endpoint?_append tail
    rw [← htail] at hfound
    rw [hfound]
    refine .some fun entry hentry => ?_
    obtain ⟨hmethod, hpath⟩ := Prod.mk.inj (Option.some.inj (hentry.found.symm.trans hfound))
    refine ⟨String.toList_inj.mp hmethod, ?_, ?_⟩
    · rw [← hpath, String.ofList_toList]
    · rw [hentry.placed.number_eq]
      rfl
  | _ => rw [hother (by simp [Item.initial])]; exact .none

/-- A line has a function entry exactly when it declares a function, and the entry is of that one.
    -/
theorem DeclaredAt.function_rel (h : DeclaredAt lines i item) :
    Option.Rel (fun _ decl => ∀ entry, IsFunction lines (Pattern.callable? "func") i entry →
        entry.Denotes decl)
      (Pattern.callable? "func" (trimStart (lineAt lines i))) item.function? := by
  have hother := h.pattern_eq_none fun _ _ => Pattern.head?_of_func?
  obtain ⟨below, hitem⟩ := h
  obtain ⟨tail, htail⟩ := exists_trimStart_lineAt lines i
  cases hitem with
  | function hhead hdecl =>
    obtain ⟨args, hfound, hparams⟩ := hhead.function?_append tail
    rw [← htail] at hfound
    rw [hfound]
    exact .some fun entry hentry => hentry.denotes hfound hparams hdecl
  | _ => rw [hother (by simp [Item.initial])]; exact .none

/-- A line has a class entry exactly when it declares a class, and the entry is of that one. -/
theorem DeclaredAt.class_rel (h : DeclaredAt lines i item) :
    Option.Rel (fun _ decl => ∀ entry, IsClass lines n i entry → entry.Denotes decl)
      (Pattern.class? (trimStart (lineAt lines i))) item.class? := by
  have hother := h.pattern_eq_none fun _ _ => Pattern.head?_of_class?
  obtain ⟨below, hitem⟩ := h
  cases hitem with
  | classDecl hhead _ =>
    have hfound := hhead.class?_lineAt
    rw [hfound]
    refine .some fun entry hentry => ⟨?_, ?_⟩
    · rw [← Option.some.inj (hentry.name.symm.trans hfound), String.ofList_toList]
    · rw [hentry.placed.number_eq]
      rfl
  | _ => rw [hother (by simp [Item.initial])]; exact .none

/-- The openers are the lines outside every block with the class pattern. -/
theorem indices_opener (lines : List (List Char)) (n : Nat) :
    indices (Opener lines) n = indices (MatchesOutside lines Pattern.class?) n := by
  refine List.filter_congr fun i _ => ?_
  rw [decide_eq_decide, opener_iff, opensClass_iff, MatchesOutside, and_comm]

end Kinds

/-- **Outline and declarations agree at the margin.** When a text is a service description, the
    endpoints, functions and classes that its outline finds at the left margin are the endpoints,
    functions and classes of the description, one by one and in order. -/
theorem Outline.denotes_declarations (text : String) (service : Service)
    (h : Service.parse text = .ok service) :
    List.Forall₂ EndpointEntry.Denotes
        ((Outline.ofText text).endpoints.filter fun entry => entry.span.start = 0)
        (service.items.filterMap Item.endpoint?) ∧
      List.Forall₂ FunctionEntry.Denotes
        ((Outline.ofText text).functions.filter fun entry => entry.span.start = 0)
        (service.items.filterMap Item.function?) ∧
      List.Forall₂ ClassEntry.Denotes
        ((Outline.ofText text).classes.filter fun entry => entry.span.start = 0)
        (service.items.filterMap Item.class?) := by
  have hitems := forall₂_declaredAt (Service.describes_of_parse h)
  have houtline := Outline.isOutline_ofText text
  have hclasses := houtline.classes
  rw [indices_opener] at hclasses
  refine ⟨?_, ?_, ?_⟩
  · exact forall₂_of_atMargin houtline.endpoints hitems (fun _ _ h => h.placed.start_eq)
      (fun _ _ => Pattern.head?_of_endpoint?) (by decide) fun _ _ h => h.endpoint_rel
  · exact forall₂_of_atMargin houtline.functions hitems (fun _ _ h => h.placed.start_eq)
      (fun _ _ => Pattern.head?_of_func?) (by decide) fun _ _ h => h.function_rel
  · exact forall₂_of_atMargin hclasses hitems (fun _ _ h => h.placed.start_eq)
      (fun _ _ => Pattern.head?_of_class?) (by decide) fun _ _ h => h.class_rel

/-- The function inside the body of an endpoint has an entry of its own, but not at the margin. -/
theorem Outline.denotes_declarations_inner :
    Service.parse "func f( a ,,b ): 1\nendpoint\tGET \"/\":\n  func g(): 0\nclass C :" =
        .ok ⟨[.function ⟨"f", ["a", "b"], ["1"], 1⟩, .endpoint ⟨.get, "/", ["func g(): 0"], 2⟩,
          .classDecl ⟨"C", [], 4⟩]⟩ ∧
      List.Forall₂ FunctionEntry.Denotes
        ((Outline.ofText "func f( a ,,b ): 1\nendpoint\tGET \"/\":\n  func g(): 0\nclass C :"
          ).functions.filter fun entry => entry.span.start = 0)
        [⟨"f", ["a", "b"], ["1"], 1⟩] := by
  have hparse : Service.parse
      "func f( a ,,b ): 1\nendpoint\tGET \"/\":\n  func g(): 0\nclass C :" =
        .ok ⟨[.function ⟨"f", ["a", "b"], ["1"], 1⟩, .endpoint ⟨.get, "/", ["func g(): 0"], 2⟩,
          .classDecl ⟨"C", [], 4⟩]⟩ := by
    decide +kernel
  exact ⟨hparse, (Outline.denotes_declarations _ _ hparse).2.1⟩

end ServiceLang
