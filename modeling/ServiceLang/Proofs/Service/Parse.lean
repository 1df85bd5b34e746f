import ServiceLang.Proofs.Service.Head
import ServiceLang.Proofs.Service.Blocks

namespace ServiceLang

open Text

/-!
# Reading accepts exactly the grammar

* `clusters_eq_nil_iff`: cutting a list before its heads gives exactly its groups;
* `methodsOf_iff`: the lines of a class give exactly the methods of the grammar;
* `Item.ofBlock_eq_ok_iff`: a head line and its block give exactly the declaration they make;
* `Service.parse_eq_ok_iff`: a text is read as a description exactly when its significant lines
  describe it.

Readers trust that the content of a line has no trailing blank, which `Tidy` records.
-/

/-! ### Groups -/

section Groups

variable {α : Type} {isHead : α → Prop} [DecidablePred isHead]

omit [DecidablePred isHead] in
/-- Every line is the head of a group or stands below one. -/
theorem mem_of_grouped {lines : List α} {groups : List (α × List α)}
    (h : Grouped isHead lines groups) {line : α} :
    line ∈ lines ↔ ∃ group ∈ groups, line = group.1 ∨ line ∈ group.2 := by
  rw [h.lines_eq]
  simp only [List.mem_flatMap, List.mem_cons]

omit [DecidablePred isHead] in
/-- Groups depend only on which elements of the list are heads. -/
theorem Grouped.congr {isHead' : α → Prop} {lines : List α} {groups : List (α × List α)}
    (h : Grouped isHead lines groups) (hiff : ∀ line ∈ lines, isHead line ↔ isHead' line) :
    Grouped isHead' lines groups where
  lines_eq := h.lines_eq
  head group hgroup :=
    (hiff _ ((mem_of_grouped h).mpr ⟨group, hgroup, Or.inl rfl⟩)).mp (h.head group hgroup)
  below group hgroup line hline hhead :=
    h.below group hgroup line hline
      ((hiff line ((mem_of_grouped h).mpr ⟨group, hgroup, Or.inr hline⟩)).mpr hhead)

/-- What a list is cut into: a part without heads, then groups. -/
theorem clusters_grouped (lines : List α) :
    ∃ rest, lines = (clusters (isHead ·) lines).1 ++ rest ∧
      (∀ line ∈ (clusters (isHead ·) lines).1, ¬isHead line) ∧
      Grouped isHead rest (clusters (isHead ·) lines).2 := by
  induction lines with
  | nil => exact ⟨[], rfl, by simp [clusters], rfl, by simp [clusters], by simp [clusters]⟩
  | cons a lines ih =>
    obtain ⟨rest, hlines, hlead, hgroups⟩ := ih
    by_cases ha : isHead a
    · -- `a` opens a group with the headless part of what follows
      refine ⟨a :: lines, by simp [clusters, ha], by simp [clusters, ha], ?_⟩
      simp only [clusters, ha, decide_true, if_true]
      refine ⟨?_, ?_, ?_⟩
      · rw [List.flatMap_cons, ← hgroups.lines_eq, List.cons_append, ← hlines]
      · exact List.forall_mem_cons.mpr ⟨ha, hgroups.head⟩
      · exact List.forall_mem_cons.mpr ⟨hlead, hgroups.below⟩
    · refine ⟨rest, ?_, ?_, ?_⟩
      · simp only [clusters, ha, decide_false, Bool.false_eq_true, if_false, List.cons_append]
        rw [← hlines]
      · simpa [clusters, ha] using hlead
      · simpa [clusters, ha] using hgroups

/-- Lines in front that are no heads go to the part before the first head. -/
theorem clusters_append {lead : List α} (hlead : ∀ a ∈ lead, ¬isHead a) (lines : List α) :
    clusters (isHead ·) (lead ++ lines) =
      (lead ++ (clusters (isHead ·) lines).1, (clusters (isHead ·) lines).2) := by
  induction lead with
  | nil => rfl
  | cons a lead ih =>
    obtain ⟨ha, hlead⟩ := List.forall_mem_cons.mp hlead
    simp [clusters, ha, ih hlead]

/-- **Groups are found.** A list is cut into groups, with nothing before the first head,
    exactly when the groups make it up. -/
theorem clusters_eq_nil_iff {lines : List α} {groups : List (α × List α)} :
    clusters (isHead ·) lines = ([], groups) ↔ Grouped isHead lines groups := by
  constructor
  · intro h
    obtain ⟨rest, hlines, -, hgroups⟩ := @clusters_grouped α isHead _ lines
    rw [h] at hlines hgroups
    rw [hlines]
    exact hgroups
  · rintro ⟨rfl, hhead, hbelow⟩
    -- on the groups: the lines of the first one stand before the head of the second
    induction groups with
    | nil => rfl
    | cons group groups ih =>
      obtain ⟨hhead, hheads⟩ := List.forall_mem_cons.mp hhead
      obtain ⟨hbelow, hbelows⟩ := List.forall_mem_cons.mp hbelow
      rw [List.flatMap_cons, List.cons_append, clusters, clusters_append hbelow,
        ih hheads hbelows]
      simp [hhead]

end Groups

/-- Related lists are related alike by a relation that agrees on their elements. -/
theorem forall₂_congr_left {α β : Type} {R S : α → β → Prop} {as : List α} {bs : List β}
    (h : ∀ a ∈ as, ∀ b, R a b ↔ S a b) : List.Forall₂ R as bs ↔ List.Forall₂ S as bs := by
  constructor
  · intro hR
    have hboth := (List.forall₂_and_left as bs).mpr ⟨h, hR⟩
    exact hboth.imp fun a b hab => (hab.1 b).mp hab.2
  · intro hS
    have hboth := (List.forall₂_and_left as bs).mpr ⟨h, hS⟩
    exact hboth.imp fun a b hab => (hab.1 b).mpr hab.2

/-- A property of the second list can be split off. -/
theorem forall₂_and_right {α β : Type} {R : α → β → Prop} {p : β → Prop} {as : List α}
    {bs : List β} :
    List.Forall₂ (fun a b => R a b ∧ p b) as bs ↔ List.Forall₂ R as bs ∧ ∀ b ∈ bs, p b := by
  constructor
  · intro h
    induction h with
    | nil => simp
    | cons hab _ ih => exact ⟨.cons hab.1 ih.1, List.forall_mem_cons.mpr ⟨hab.2, ih.2⟩⟩
  · rintro ⟨h, hp⟩
    induction h with
    | nil => exact .nil
    | cons hab _ ih =>
      obtain ⟨hb, hbs⟩ := List.forall_mem_cons.mp hp
      exact .cons ⟨hab, hb⟩ (ih hbs)

/-- Every element of the second list has a partner in the first. -/
theorem exists_left_of_forall₂ {α β : Type} {R : α → β → Prop} {as : List α} {bs : List β} {b : β}
    (h : List.Forall₂ R as bs) (hb : b ∈ bs) : ∃ a ∈ as, R a b := by
  induction h with
  | nil => simp at hb
  | @cons a b' as bs hab _ ih =>
    obtain rfl | hb := List.mem_cons.mp hb
    · exact ⟨a, List.mem_cons_self, hab⟩
    · obtain ⟨a', ha', hab'⟩ := ih hb
      exact ⟨a', List.mem_cons_of_mem a ha', hab'⟩

theorem exists_right_of_forall₂ {α β : Type} {R : α → β → Prop} {as : List α} {bs : List β} {a : α}
    (h : List.Forall₂ R as bs) (ha : a ∈ as) : ∃ b ∈ bs, R a b :=
  exists_left_of_forall₂ (R := flip R) (List.Forall₂.flip h) ha

/-! ### Functions and methods -/

/-- A line whose content has no trailing blank. -/
def SourceLine.Tidy (line : SourceLine) : Prop := NoTrailingBlank line.content

/-- Placing faults on a line changes no result. -/
theorem atLine_eq_ok_iff {α : Type} {line : Nat} {outcome : Except Fault α} {a : α} :
    atLine line outcome = .ok a ↔ outcome = .ok a := by
  cases outcome <;> simp [atLine]

/-- A body is made of the text behind the colon and the lines below. -/
theorem body_iff {inline : List Char} {below : List SourceLine} {body : List String} :
    Body inline below body ↔ body = bodyOf inline below := by
  constructor
  · rintro (_ | ⟨hinline, _⟩)
    · simp [bodyOf]
    · simp [bodyOf, hinline]
  · rintro rfl
    by_cases hinline : inline = []
    · subst hinline
      have hbody : bodyOf [] below = below.map fun l => String.ofList l.content := by
        simp [bodyOf]
      exact hbody ▸ .below below
    · have hbody : bodyOf inline below =
          String.ofList inline :: below.map fun l => String.ofList l.content := by
        simp [bodyOf, hinline]
      exact hbody ▸ .inline hinline below

/-- A function is made of its signature and its body, which must not be empty. -/
theorem makesFunction_iff {signature : Signature} {head : SourceLine} {below : List SourceLine}
    {decl : Function} :
    MakesFunction signature head below decl ↔
      decl = Function.ofSignature signature below head.number ∧ decl.body ≠ [] := by
  constructor
  · intro h
    refine ⟨?_, h.body_ne_nil⟩
    rw [Function.ofSignature, ← body_iff.mp h.body, ← h.name, ← h.params, ← h.line]
  · rintro ⟨rfl, hne⟩
    exact ⟨rfl, rfl, body_iff.mpr rfl, hne, rfl⟩

/-- A member line gives a method when it is not indented less than the first one. -/
theorem methodOf_eq_ok_iff {memberIndent : Nat} {head : SourceLine} {below : List SourceLine}
    {method : Function} (hhead : head.Tidy) :
    methodOf memberIndent head below = .ok method ↔
      memberIndent ≤ head.indent ∧ ∃ signature, MemberLine head.content signature ∧
        method = Function.ofSignature signature below head.number := by
  rw [methodOf, atLine_eq_ok_iff]
  split
  case isTrue h => simp [Nat.not_le.mpr h]
  case isFalse h =>
    rw [map_eq_ok_iff, and_iff_right (Nat.not_lt.mp h)]
    simp only [readMember_eq_ok_iff hhead]

/-- The groups that the lines of a class are cut into: each line that is not indented deeper
    than the first one opens a group. -/
theorem grouped_members (first : SourceLine) (rest : List SourceLine) :
    Grouped (·.indent ≤ first.indent) (first :: rest)
      (clusters (·.indent ≤ first.indent) (first :: rest)).2 := by
  refine clusters_eq_nil_iff.mp (Prod.ext ?_ rfl)
  simp [clusters]

/-- The methods of a class are read from its groups when no line is indented less than the
    first one. -/
theorem methodsOf_cons_eq_ok_iff {first : SourceLine} {rest : List SourceLine}
    {methods : List Function} (htidy : ∀ line ∈ first :: rest, line.Tidy) :
    methodsOf (first :: rest) = .ok methods ↔
      (∀ line ∈ first :: rest, first.indent ≤ line.indent) ∧
        List.Forall₂ (fun group method => ∃ signature, MemberLine group.1.content signature ∧
            method = Function.ofSignature signature group.2 group.1.number)
          (clusters (·.indent ≤ first.indent) (first :: rest)).2 methods := by
  have hgroups := grouped_members first rest
  rw [methodsOf, mapM_eq_ok_iff, forall₂_congr_left fun group hgroup method =>
    methodOf_eq_ok_iff (htidy _ ((mem_of_grouped hgroups).mpr ⟨group, hgroup, Or.inl rfl⟩)),
    List.forall₂_and_left]
  refine and_congr_left fun _ => ⟨fun hhead line hline => ?_, fun hall group hgroup => ?_⟩
  · obtain ⟨group, hgroup, rfl | hbelow⟩ := (mem_of_grouped hgroups).mp hline
    · exact hhead group hgroup
    · exact Nat.le_of_not_le (hgroups.below group hgroup line hbelow)
  · exact hall _ ((mem_of_grouped hgroups).mpr ⟨group, hgroup, Or.inl rfl⟩)

/-- **Members.** The lines that a class owns are read as methods with bodies exactly when the
    grammar makes these methods of them. -/
theorem methodsOf_iff {below : List SourceLine} {methods : List Function}
    (htidy : ∀ line ∈ below, line.Tidy) :
    methodsOf below = .ok methods ∧ (∀ method ∈ methods, method.body ≠ []) ↔
      Methods below methods := by
  cases below with
  | nil =>
    constructor
    · rintro ⟨hmethods, -⟩
      obtain rfl := Except.ok.inj hmethods
      exact .none
    · rintro ⟨⟩
      exact ⟨rfl, by simp⟩
  | cons first rest =>
    rw [methodsOf_cons_eq_ok_iff htidy, and_assoc, ← forall₂_and_right]
    -- with no line indented less than the first one, "at most" and "exactly" agree
    have hiff : (∀ line ∈ first :: rest, first.indent ≤ line.indent) →
        ∀ line ∈ first :: rest, line.indent ≤ first.indent ↔ line.indent = first.indent :=
      fun hindent line hline => ⟨fun h => Nat.le_antisymm h (hindent line hline), Nat.le_of_eq⟩
    constructor
    · rintro ⟨hindent, hmethods⟩
      refine .some hindent ((grouped_members first rest).congr (hiff hindent)) (hmethods.imp ?_)
      rintro group method ⟨⟨signature, hline, hmethod⟩, hbody⟩
      exact ⟨signature, hline, makesFunction_iff.mpr ⟨hmethod, hbody⟩⟩
    · rintro (_ | ⟨hindent, hgroups, hmethods⟩)
      -- groups are unique, so these are the ones that the lines are cut into
      have hclusters := clusters_eq_nil_iff.mpr
        (hgroups.congr fun line hline => (hiff hindent line hline).symm)
      rw [hclusters]
      refine ⟨hindent, hmethods.imp ?_⟩
      rintro group method ⟨signature, hline, hmakes⟩
      obtain ⟨hmethod, hbody⟩ := makesFunction_iff.mp hmakes
      exact ⟨⟨signature, hline, hmethod⟩, hbody⟩

/-! ### Declarations -/

/-- **Blocks.** A head line and the indented lines below it are read as a declaration exactly
    when the grammar makes it of them. -/
theorem Item.ofBlock_eq_ok_iff {head : SourceLine} {below : List SourceLine} {item : Item}
    (hhead : head.Tidy) (hbelow : ∀ line ∈ below, line.Tidy) :
    Item.ofBlock head below = .ok item ↔ Declares head below item := by
  rw [Item.ofBlock, bind_eq_ok_iff]
  simp only [atLine_eq_ok_iff, readHead_eq_ok_iff hhead]
  constructor
  -- The reader tells declarations apart by the head line, and the grammar by its rules: one case
  -- for each kind of head in either direction.
  · rintro ⟨opened, hline, h⟩
    cases opened with
    | server port =>
      cases below with
      | cons line rest => cases h
      | nil =>
        obtain rfl := Except.ok.inj h
        exact .server hline
    | endpoint method path inline =>
      dsimp only at h
      split at h
      case h_1 => cases h
      case h_2 hne =>
        obtain rfl := Except.ok.inj h
        exact .endpoint hline (body_iff.mpr rfl) hne
    | function signature =>
      dsimp only at h
      split at h
      case isTrue => cases h
      case isFalse hne =>
        obtain rfl := Except.ok.inj h
        exact .function hline (makesFunction_iff.mpr ⟨rfl, hne⟩)
    | classDecl name =>
      obtain ⟨methods, hmethods, h⟩ := bind_eq_ok_iff.mp h
      split at h
      case h_1 => cases h
      case h_2 hnone =>
        obtain rfl := Except.ok.inj h
        refine .classDecl hline ((methodsOf_iff hbelow).mp ⟨hmethods, fun method hmethod => ?_⟩)
        simpa using List.find?_eq_none.mp hnone method hmethod
  · intro h
    cases h with
    | server hline => exact ⟨_, hline, rfl⟩
    | endpoint hline hbody hne =>
      refine ⟨_, hline, ?_⟩
      obtain rfl := body_iff.mp hbody
      dsimp only
      split
      case h_1 hnil => exact absurd hnil hne
      case h_2 => rfl
    | function hline hdecl =>
      obtain ⟨rfl, hne⟩ := makesFunction_iff.mp hdecl
      refine ⟨_, hline, ?_⟩
      dsimp only
      rw [if_neg hne]
      rfl
    | classDecl hline hmethods =>
      obtain ⟨hread, hbodies⟩ := (methodsOf_iff hbelow).mpr hmethods
      refine ⟨_, hline, bind_eq_ok_iff.mpr ⟨_, hread, ?_⟩⟩
      split
      case h_1 method hfound =>
        refine absurd ?_ (hbodies method (List.mem_of_find?_eq_some hfound))
        simpa using List.find?_some hfound
      case h_2 => rfl

/-! ### Texts -/

/-- A line is kept when it is significant, with its indentation and its trimmed content. -/
theorem SourceLine.ofLine?_eq (line : List Char) (number : Nat) :
    SourceLine.ofLine? line number =
      if isSignificant line then some ⟨number, indentation line, trim line⟩ else none := by
  rw [SourceLine.ofLine?, isSignificant]
  cases htrim : trim line with
  | nil => simp
  | cons c rest => by_cases hc : c = '#' <;> simp [hc]

/-- The lines that are read are the significant lines of the text. -/
theorem significantLines_eq_sourceLines (text : List Char) :
    significantLines text = sourceLines text := by
  simp only [significantLines, sourceLines, numberedLines, SourceLine.ofLine?_eq]
  rw [← List.filterMap_eq_map, List.filterMap_filter]
  rfl

/-- The content of a significant line has no trailing blank. -/
theorem tidy_of_mem_sourceLines {text : List Char} {line : SourceLine}
    (h : line ∈ sourceLines text) : line.Tidy := by
  obtain ⟨source, -, rfl⟩ := List.mem_map.mp h
  exact noTrailingBlank_trim source.1

/-- The groups of tidy lines are read as the declarations that the grammar makes of them. -/
theorem mapM_ofBlock_eq_ok_iff {lines : List SourceLine}
    {groups : List (SourceLine × List SourceLine)} {items : List Item}
    (htidy : ∀ line ∈ lines, line.Tidy) (hgroups : Grouped (·.indent = 0) lines groups) :
    groups.mapM (fun group => Item.ofBlock group.1 group.2) = .ok items ↔
      List.Forall₂ (fun group item => Declares group.1 group.2 item) groups items := by
  rw [mapM_eq_ok_iff]
  refine forall₂_congr_left fun group hgroup item => Item.ofBlock_eq_ok_iff ?_ ?_
  · exact htidy _ ((mem_of_grouped hgroups).mpr ⟨group, hgroup, Or.inl rfl⟩)
  · intro line hline
    exact htidy _ ((mem_of_grouped hgroups).mpr ⟨group, hgroup, Or.inr hline⟩)

/-- Tidy lines are read as declarations exactly when they describe them. -/
theorem Service.ofLines_eq_ok_iff {lines : List SourceLine} {service : Service}
    (htidy : ∀ line ∈ lines, line.Tidy) :
    Service.ofLines lines = .ok service ↔ Describes lines service.items := by
  rw [Service.ofLines]
  constructor
  · intro h
    split at h
    case h_1 => cases h
    case h_2 groups hclusters =>
      have hgroups := clusters_eq_nil_iff.mp hclusters
      obtain ⟨items, hread, rfl⟩ := map_eq_ok_iff.mp h
      exact ⟨groups, hgroups, (mapM_ofBlock_eq_ok_iff htidy hgroups).mp hread⟩
  · rintro ⟨groups, hgroups, hdeclares⟩
    rw [clusters_eq_nil_iff.mpr hgroups]
    exact map_eq_ok_iff.mpr
      ⟨service.items, (mapM_ofBlock_eq_ok_iff htidy hgroups).mpr hdeclares, rfl⟩

/-- What is read is what the significant lines describe. -/
theorem Service.describes_of_parse {text : String} {service : Service}
    (h : Service.parse text = .ok service) :
    Describes (sourceLines text.toList) service.items := by
  rw [Service.parse_eq, significantLines_eq_sourceLines] at h
  exact (Service.ofLines_eq_ok_iff fun line hline => tidy_of_mem_sourceLines hline).mp h

/-- What the significant lines describe is read. -/
theorem Service.parse_of_describes {text : String} {service : Service}
    (h : Describes (sourceLines text.toList) service.items) :
    Service.parse text = .ok service := by
  rw [Service.parse_eq, significantLines_eq_sourceLines]
  exact (Service.ofLines_eq_ok_iff fun line hline => tidy_of_mem_sourceLines hline).mpr h

/-- **Reading accepts exactly the grammar.** A text is read as a service description exactly
    when its significant lines describe the declarations of that service, in order. -/
theorem Service.parse_eq_ok_iff (text : String) (service : Service) :
    Service.parse text = .ok service ↔ Describes (sourceLines text.toList) service.items := by
  rw [Service.parse_eq, significantLines_eq_sourceLines]
  exact Service.ofLines_eq_ok_iff fun line hline => tidy_of_mem_sourceLines hline

end ServiceLang
