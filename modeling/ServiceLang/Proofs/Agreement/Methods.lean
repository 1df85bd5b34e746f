import Mathlib.Data.List.Nodup
import ServiceLang.Proofs.Agreement.Margin

namespace ServiceLang

open Text

/-!
# Methods of a class

A class owns the significant lines below it up to the next declaration, and comments do not count.
In the outline its block ends at the first visible line at the left margin, and a comment there
counts. So the outline has the methods before the first comment at the margin, and only these.

* `Grouped.mem_below_iff`: the lines that a head owns, by their numbers;
* `Owned.inBlock_iff`: an owned line lies in the block unless a comment at the margin comes first;
* `Methods.exists_member`, `Methods.exists_method`: methods and the lines that open them;
* `Outline.denotes_methods`: the methods of a class and the methods of its entry.
-/

/-! ### The lines that a head owns -/

/-- **Owned lines.** In a list ordered by a number, a head owns the elements behind it up to the
    next head. -/
theorem Grouped.mem_below_iff {α : Type} {isHead : α → Prop} {lines : List α}
    {groups : List (α × List α)} {number : α → Nat} {group : α × List α} {line : α}
    (h : Grouped isHead lines groups) (hsorted : lines.Pairwise fun a b => number a < number b)
    (hgroup : group ∈ groups) :
    line ∈ group.2 ↔ line ∈ lines ∧ number group.1 < number line ∧
      ∀ other ∈ lines, number group.1 < number other → number other ≤ number line →
        ¬isHead other := by
  obtain ⟨earlier, later, rfl⟩ := List.append_of_mem hgroup
  have hbelow := h.below group hgroup
  have hnext : ∀ next ∈ later, isHead next.1 := fun next hnext =>
    h.head next (List.mem_append_right _ (List.mem_cons_of_mem _ hnext))
  have hlines := h.lines_eq
  rw [List.flatMap_append, List.flatMap_cons] at hlines
  subst hlines
  obtain ⟨-, hrest, hbefore⟩ := List.pairwise_append.mp hsorted
  obtain ⟨hgroupRest, -, hafter⟩ := List.pairwise_append.mp hrest
  have hhead := (List.pairwise_cons.mp hgroupRest).1
  have hfirst := hafter group.1 List.mem_cons_self
  simp only [List.mem_append, List.mem_cons] at hbefore ⊢
  constructor
  · intro hline
    refine ⟨Or.inr (Or.inl (Or.inr hline)), hhead line hline, ?_⟩
    rintro other (hother | (rfl | hother) | hother) hlt hle
    · exact absurd (hbefore other hother group.1 (Or.inl (Or.inl rfl))) (by omega)
    · exact absurd hlt (Nat.lt_irrefl _)
    · exact hbelow other hother
    · exact absurd (hafter line (List.mem_cons_of_mem _ hline) other hother) (by omega)
  · rintro ⟨hline | (rfl | hline) | hline, hlt, hnone⟩
    · exact absurd (hbefore line hline group.1 (Or.inl (Or.inl rfl))) (by omega)
    · exact absurd hlt (Nat.lt_irrefl _)
    · exact hline
    · -- the next head comes no later than the line
      cases later with
      | nil => simp at hline
      | cons next later =>
        have hmem : next.1 ∈ (next :: later).flatMap fun group => group.1 :: group.2 := by simp
        have hle : number next.1 ≤ number line := by
          obtain ⟨-, hlater, -⟩ := List.pairwise_append.mp hrest
          rw [List.flatMap_cons, List.cons_append] at hlater hline
          obtain rfl | hbehind := List.mem_cons.mp hline
          · exact Nat.le_refl _
          · exact Nat.le_of_lt ((List.pairwise_cons.mp hlater).1 line hbehind)
        exact absurd (hnext next List.mem_cons_self)
          (hnone next.1 (Or.inr (Or.inr hmem)) (hfirst next.1 hmem) hle)

/-- Significant lines stand in the order of their numbers. -/
theorem pairwise_sourceLines (text : List Char) :
    (sourceLines text).Pairwise fun a b => a.number < b.number := by
  rw [sourceLines_eq_map, List.pairwise_map, indices]
  exact (List.pairwise_lt_range.filter _).imp fun h => Nat.succ_lt_succ h

/-- Line `j` is a significant line below line `i` with no declaration between them or on it. -/
structure Owned (lines : List (List Char)) (i j : Nat) : Prop where
  significant : isSignificant (lineAt lines j) = true
  lt : i < j
  between : ∀ k, i < k → k ≤ j → ¬AtMargin lines k

/-- The lines of a group are the lines that its head owns. -/
theorem mem_group_iff_owned {text : List Char} {groups : List (SourceLine × List SourceLine)}
    {group : SourceLine × List SourceLine} {line : SourceLine} {i : Nat}
    (h : Grouped (·.indent = 0) (sourceLines text) groups) (hgroup : group ∈ groups)
    (hhead : group.1 = sourceLineAt (lines text) i) :
    line ∈ group.2 ↔ ∃ j, j < (lines text).length ∧ Owned (lines text) i j ∧
      line = sourceLineAt (lines text) j := by
  rw [h.mem_below_iff (pairwise_sourceLines text) hgroup, hhead]
  constructor
  · rintro ⟨hline, hlt, hbetween⟩
    obtain ⟨j, hj, hsignificant, rfl⟩ := mem_sourceLines_iff.mp hline
    refine ⟨j, hj, ⟨hsignificant, Nat.lt_of_succ_lt_succ hlt, fun k hik hkj hmargin => ?_⟩, rfl⟩
    refine hbetween (sourceLineAt (lines text) k) ?_ (Nat.succ_lt_succ hik)
      (Nat.succ_le_succ hkj) hmargin.2
    exact mem_sourceLines_iff.mpr ⟨k, Nat.lt_of_le_of_lt hkj hj, hmargin.1, rfl⟩
  · rintro ⟨j, hj, howned, rfl⟩
    refine ⟨mem_sourceLines_iff.mpr ⟨j, hj, howned.significant, rfl⟩,
      Nat.succ_lt_succ howned.lt, fun other hother hlt hle hindent => ?_⟩
    obtain ⟨k, -, hsignificant, rfl⟩ := mem_sourceLines_iff.mp hother
    exact howned.between k (Nat.lt_of_succ_lt_succ hlt) (Nat.le_of_succ_le_succ hle)
      ⟨hsignificant, hindent⟩

/-! ### Owned lines and blocks -/

section Blocks

variable {lines : List (List Char)} {i j : Nat}

/-- A visible line at the margin opens a declaration or is a comment. -/
theorem atMargin_or_comment {k : Nat} (hvisible : isBlank (lineAt lines k) = false)
    (hmargin : indentation (lineAt lines k) = 0) :
    AtMargin lines k ∨ (lineAt lines k).head? = some '#' := by
  by_cases hcomment : (lineAt lines k).head? = some '#'
  · exact Or.inr hcomment
  · refine Or.inl ⟨isSignificant_iff.mpr ⟨hvisible, ?_⟩, hmargin⟩
    rwa [trimStart_of_indentation_eq_zero hmargin]

/-- **Where blocks end.** A line that a class at the margin owns lies in the block below the class
    exactly when no comment at the margin comes between. -/
theorem Owned.inBlock_iff (h : Owned lines i j) (hi : indentation (lineAt lines i) = 0) :
    InBlock lines i j ↔ ∀ k, i < k → k < j → (lineAt lines k).head? ≠ some '#' := by
  constructor
  · rintro ⟨-, hreach⟩ k hik hkj hcomment
    -- the comment is visible and not indented
    obtain ⟨rest, hline⟩ := List.head?_eq_some_iff.mp hcomment
    have hspace : isSpace '#' = false := by decide
    have hvisible : isBlank (lineAt lines k) = false := by simp [hline, isBlank, hspace]
    have hmargin : indentation (lineAt lines k) = 0 := by simp [hline, indentation, hspace]
    exact hreach.indentation_ne_zero hik (Nat.lt_succ_of_lt hkj) hvisible hmargin
  · intro hnone
    refine ⟨h.lt, fun k hk hik => ?_⟩
    rw [hi]
    by_contra hends
    obtain ⟨hvisible, hmargin⟩ := not_or.mp hends
    obtain hdecl | hcomment := atMargin_or_comment (Bool.not_eq_true _ ▸ hvisible)
      (Nat.eq_zero_of_not_pos hmargin)
    · exact h.between k hik (Nat.le_of_lt_succ hk) hdecl
    · -- line `j` is significant, so the comment comes before it
      obtain hkj | rfl := Nat.lt_or_eq_of_le (Nat.le_of_lt_succ hk)
      · exact hnone k hik hkj hcomment
      · have hhead := (isSignificant_iff.mp h.significant).2
        rw [trimStart_of_indentation_eq_zero (Nat.eq_zero_of_not_pos hmargin)] at hhead
        exact hhead hcomment

/-- The significant lines of the block below a line are lines that it owns. -/
theorem InBlock.owned (h : InBlock lines i j)
    (hsignificant : isSignificant (lineAt lines j) = true) : Owned lines i j := by
  refine ⟨hsignificant, h.1, fun k hik hkj hmargin => ?_⟩
  have hvisible := (isSignificant_iff.mp hmargin.1).1
  exact h.2.indentation_ne_zero hik (Nat.lt_succ_of_le hkj) hvisible hmargin.2

/-- A line with the method pattern is significant. -/
theorem isSignificant_of_method? {line : List Char} {found : List Char × List Char}
    (h : Pattern.method? (trimStart line) = some found) : isSignificant line = true := by
  have hletter : (trimStart line).head? = some 'm' ∨ (trimStart line).head? = some 'f' := by
    rw [Pattern.method?] at h
    cases hmethod : Pattern.callable? "method" (trimStart line) with
    | some found' => exact Or.inl (Pattern.head?_of_callable? hmethod (by decide))
    | none =>
      rw [hmethod] at h
      exact Or.inr (Pattern.head?_of_func? h)
  refine isSignificant_iff.mpr ⟨isBlank_of_match rfl h, ?_⟩
  obtain hletter | hletter := hletter <;> rw [hletter] <;> decide

end Blocks

/-! ### Methods and the lines that open them -/

section Members

variable {below : List SourceLine} {methods : List Function}

/-- The line opens the method. -/
def OpensMethod (line : SourceLine) (method : Function) : Prop :=
  ∃ signature below, MemberLine line.content signature ∧ MakesFunction signature line below method

theorem OpensMethod.line_eq {line : SourceLine} {method : Function} (h : OpensMethod line method) :
    method.line = line.number := by
  obtain ⟨signature, below, -, hmakes⟩ := h
  exact hmakes.line

/-- Every method of a class is opened by a line of the class. -/
theorem Methods.exists_member (h : Methods below methods) {method : Function}
    (hmethod : method ∈ methods) : ∃ line ∈ below, OpensMethod line method := by
  cases h with
  | none => simp at hmethod
  | some _ hgroups hmethods =>
    obtain ⟨group, hgroup, signature, hline, hmakes⟩ := exists_left_of_forall₂ hmethods hmethod
    exact ⟨group.1, (mem_of_grouped hgroups).mpr ⟨group, hgroup, Or.inl rfl⟩, signature, group.2,
      hline, hmakes⟩

/-- Every line that is indented as the first member opens a method of the class. -/
theorem Methods.exists_method (h : Methods below methods) {first : Function}
    (hfirst : first ∈ methods.head?) :
    ∃ member ∈ below, first.line = member.number ∧
      ∀ line ∈ below, line.indent = member.indent →
        ∃ method ∈ methods, OpensMethod line method := by
  cases h with
  | none => simp at hfirst
  | @some member rest groups _ hindent hgroups hmethods =>
    refine ⟨member, List.mem_cons_self, ?_, fun line hline hsame => ?_⟩
    · -- the first group is the one of the first line
      cases hmethods with
      | nil => simp at hfirst
      | cons hmakes _ =>
        obtain rfl := Option.some.inj hfirst
        obtain ⟨signature, -, hmakes⟩ := hmakes
        have hlines := hgroups.lines_eq
        rw [List.flatMap_cons, List.cons_append] at hlines
        rw [hmakes.line, (List.cons.inj hlines).1]
    · obtain ⟨group, hgroup, rfl | hbelow⟩ := (mem_of_grouped hgroups).mp hline
      · obtain ⟨method, hmethod, signature, hline, hmakes⟩ :=
          exists_right_of_forall₂ hmethods hgroup
        exact ⟨method, hmethod, signature, group.2, hline, hmakes⟩
      · exact absurd hsame (hgroups.below group hgroup line hbelow)

end Members

/-! ### Classes and their entries -/

section Entries

variable {lines : List (List Char)} {i j n : Nat} {entry : ClassEntry}

/-- The outline has one class for each opener. -/
theorem IsOutline.exists_class {outline : Outline} (h : IsOutline lines outline)
    (hopener : Opener lines i) (hi : i < lines.length) :
    ∃ entry, outline.classes.filter (fun entry => entry.line + 1 = i + 1) = [entry] ∧
      IsClass lines lines.length i entry := by
  have hone : (indices (Opener lines) lines.length).filter (· = i) = [i] := by
    have hmem : i ∈ indices (Opener lines) lines.length := mem_indices.mpr ⟨hi, hopener⟩
    have hnodup : (indices (Opener lines) lines.length).Nodup := List.nodup_range.filter _
    rw [List.filter_eq, List.count_eq_one_of_mem hnodup hmem]
    rfl
  have hclasses := List.rel_filter (p := fun j => decide (j = i))
    (q := fun entry : ClassEntry => decide (entry.line + 1 = i + 1))
    (fun j entry hentry => by simp [hentry.placed.number_eq]) h.classes
  rw [hone] at hclasses
  cases hentries : outline.classes.filter fun entry => decide (entry.line + 1 = i + 1) with
  | nil => rw [hentries] at hclasses; cases hclasses
  | cons entry rest =>
    rw [hentries] at hclasses
    cases hclasses with
    | cons hentry hrest => cases hrest; exact ⟨entry, rfl, hentry⟩

/-- A class line at the margin is an opener. -/
theorem HeadLine.opener {name : List Char}
    (h : HeadLine (sourceLineAt lines i).content (.classDecl name))
    (hi : indentation (lineAt lines i) = 0) : Opener lines i := by
  have hfound := h.class?_lineAt
  exact opener_iff.mpr ⟨opensClass_iff.mpr (by rw [hfound]; rfl),
    outside_of_indentation_eq_zero (isBlank_of_match rfl hfound) hi⟩

/-- The method pattern on a line that opens a method. -/
theorem MemberLine.method?_lineAt {signature : Signature}
    (h : MemberLine (sourceLineAt lines j).content signature) :
    ∃ args, Pattern.method? (trimStart (lineAt lines j)) = some (signature.name, args) ∧
      signature.params = pieces args := by
  obtain ⟨tail, htail⟩ := exists_trimStart_lineAt lines j
  rw [htail]
  exact h.method?_append tail

/-- The entry of a line that opens a method is the entry of that method. -/
theorem OpensMethod.denotes {method : Function} {found : FunctionEntry}
    (h : OpensMethod (sourceLineAt lines j) method)
    (hfound : IsFunction lines Pattern.method? j found) : found.Denotes method := by
  obtain ⟨signature, below, hline, hmakes⟩ := h
  obtain ⟨args, hmatch, hparams⟩ := hline.method?_lineAt
  exact hfound.denotes hmatch hparams hmakes

/-- A line that opens a method and lies in the block of a class is a method line of the class. -/
theorem OpensMethod.methodInBlock {method : Function}
    (h : OpensMethod (sourceLineAt lines j) method) (howned : Owned lines i j)
    (hblock : InBlock lines i j) : MethodInBlock lines i j := by
  obtain ⟨signature, below, hline, -⟩ := h
  obtain ⟨args, hmatch, -⟩ := hline.method?_lineAt
  exact ⟨hblock, (isSignificant_iff.mp howned.significant).1, by rw [hmatch]; rfl⟩

variable {m : Function}

/-- The entries of a class are on the method lines of its block. -/
theorem IsClass.exists_position (h : IsClass lines n i entry) {e : FunctionEntry}
    (he : e ∈ entry.methods) :
    ∃ j, j < n ∧ MethodInBlock lines i j ∧ IsFunction lines Pattern.method? j e := by
  obtain ⟨j, hj, hfound⟩ := exists_left_of_forall₂ h.methods he
  obtain ⟨hjn, hmethod⟩ := mem_indices.mp hj
  exact ⟨j, hjn, hmethod, hfound⟩

/-- **Entries on the line of a method.** -/
theorem IsClass.denotes_of_line (h : IsClass lines n i entry) {e : FunctionEntry}
    (he : e ∈ entry.methods) (hm : OpensMethod (sourceLineAt lines j) m) (hline : e.line = j) :
    e.Denotes m ∧ InBlock lines i j := by
  obtain ⟨j', -, hmethod, hfound⟩ := h.exists_position he
  obtain rfl : j' = j := hfound.placed.number_eq.symm.trans hline
  exact ⟨hm.denotes hfound, hmethod.1⟩

/-- The entry of a class has a method that the class owns exactly when no comment at the margin
    comes between. -/
theorem IsClass.exists_denotes_iff (h : IsClass lines n i entry)
    (hi : indentation (lineAt lines i) = 0) (hj : j < n) (howned : Owned lines i j)
    (hm : OpensMethod (sourceLineAt lines j) m) :
    (∃ e ∈ entry.methods, e.Denotes m) ↔
      ∀ k, i < k → k < j → (lineAt lines k).head? ≠ some '#' := by
  rw [← howned.inBlock_iff hi]
  constructor
  · rintro ⟨e, he, hdenotes⟩
    have hline : e.line + 1 = j + 1 := hdenotes.line.trans hm.line_eq
    exact (h.denotes_of_line he hm (Nat.succ.inj hline)).2
  · intro hblock
    have hmethod := mem_indices.mpr ⟨hj, hm.methodInBlock howned hblock⟩
    obtain ⟨e, he, hfound⟩ := exists_right_of_forall₂ h.methods hmethod
    exact ⟨e, he, hm.denotes hfound⟩

end Entries

/-- **Outline and declarations agree on methods up to comments at the margin.** A class of a
    service description has one entry in the outline. The entry has a method of the class exactly
    when no comment at the left margin comes between the two, and every entry on the line of a
    method is the entry of that method. Each method of the entry that is indented as the first
    member of the class is a method of the class. -/
theorem Outline.denotes_methods (text : String) (service : Service)
    (h : Service.parse text = .ok service) (c : ClassDecl)
    (hc : Item.classDecl c ∈ service.items) :
    ∃ entry, (Outline.ofText text).classes.filter (fun entry => entry.line + 1 = c.line) =
        [entry] ∧
      (∀ m ∈ c.methods,
        ((∃ e ∈ entry.methods, e.Denotes m) ↔ ∀ k, c.line < k + 1 → k + 1 < m.line →
          (lineAt (Text.lines text.toList) k).head? ≠ some '#') ∧
        ∀ e ∈ entry.methods, e.line + 1 = m.line → e.Denotes m) ∧
      ∀ first ∈ c.methods.head?, ∀ e ∈ entry.methods,
        e.span.start = indentation (lineAt (Text.lines text.toList) (first.line - 1)) →
          ∃ m ∈ c.methods, e.Denotes m := by
  obtain ⟨groups, hgroups, hitems⟩ := Service.describes_of_parse h
  obtain ⟨group, hgroup, hdeclares⟩ := exists_left_of_forall₂ hitems hc
  -- the head of the class, by position
  have hmem := (mem_of_grouped hgroups).mpr ⟨group, hgroup, Or.inl rfl⟩
  obtain ⟨i, hi, hsignificant, hhead⟩ := mem_sourceLines_iff.mp hmem
  have hmargin : indentation (lineAt (Text.lines text.toList) i) = 0 := by
    have hindent := hgroups.head group hgroup
    rw [hhead] at hindent
    exact hindent
  have howned : ∀ line, line ∈ group.2 ↔ _ := fun _ => mem_group_iff_owned hgroups hgroup hhead
  obtain ⟨head, below⟩ := group
  obtain rfl : head = _ := hhead
  cases hdeclares with
  | classDecl hline hmethods =>
    obtain ⟨entry, hentries, hentry⟩ := (Outline.isOutline_ofText text).exists_class
      (hline.opener hmargin) hi
    refine ⟨entry, hentries, fun m hm => ?_, fun first hfirst e he hstart => ?_⟩
    · -- from a method to its line, which the class owns
      obtain ⟨line, hbelow, hopens⟩ := hmethods.exists_member hm
      obtain ⟨j, hj, hj', rfl⟩ := (howned line).mp hbelow
      have hnumber : m.line = j + 1 := hopens.line_eq
      rw [hnumber, hentry.exists_denotes_iff hmargin hj hj' hopens]
      refine ⟨?_, fun e he hsame => (hentry.denotes_of_line he hopens (Nat.succ.inj hsame)).1⟩
      simp only [sourceLineAt, Nat.succ_lt_succ_iff]
    · -- from an entry to its line, which is indented as the first member
      obtain ⟨member, hmember, hfirstLine, hall⟩ := hmethods.exists_method hfirst
      obtain ⟨j₀, -, -, rfl⟩ := (howned member).mp hmember
      obtain ⟨j, hj, hmethod, hfound⟩ := hentry.exists_position he
      obtain ⟨found, hsome⟩ := Option.isSome_iff_exists.mp hmethod.2.2
      have hbelow := (howned _).mpr
        ⟨j, hj, hmethod.1.owned (isSignificant_of_method? hsome), rfl⟩
      obtain ⟨m, hm, hopens⟩ := hall _ hbelow (by
        rw [hfirstLine, hfound.placed.start_eq] at hstart
        exact hstart)
      exact ⟨m, hm, hopens.denotes hfound⟩

/-- A comment at the margin ends the block of a class in the outline, but not the class: the
    method before it has an entry, and the one behind it has none. -/
theorem Outline.denotes_methods_comment :
    Service.parse "class C:\n method a(): 1\n#\n func b(x): 2" =
        .ok ⟨[.classDecl ⟨"C", [⟨"a", [], ["1"], 2⟩, ⟨"b", ["x"], ["2"], 4⟩], 1⟩]⟩ ∧
      ∃ entry, (Outline.ofText "class C:\n method a(): 1\n#\n func b(x): 2").classes.filter
          (fun entry => entry.line + 1 = 1) = [entry] ∧
        (∃ e ∈ entry.methods, e.Denotes ⟨"a", [], ["1"], 2⟩) ∧
        ¬∃ e ∈ entry.methods, e.Denotes ⟨"b", ["x"], ["2"], 4⟩ := by
  have hparse : Service.parse "class C:\n method a(): 1\n#\n func b(x): 2" =
      .ok ⟨[.classDecl ⟨"C", [⟨"a", [], ["1"], 2⟩, ⟨"b", ["x"], ["2"], 4⟩], 1⟩]⟩ := by
    decide +kernel
  have hcomment : (lineAt (Text.lines "class C:\n method a(): 1\n#\n func b(x): 2".toList)
      2).head? = some '#' := by
    decide +kernel
  obtain ⟨entry, hentry, hmethods, -⟩ :=
    Outline.denotes_methods _ _ hparse _ List.mem_cons_self
  refine ⟨hparse, entry, hentry, ?_, ?_⟩
  · refine (hmethods ⟨"a", [], ["1"], 2⟩ List.mem_cons_self).1.mpr fun k hk hk' => ?_
    exact absurd hk' (by simp only at hk ⊢; omega)
  · rw [(hmethods ⟨"b", ["x"], ["2"], 4⟩ (List.mem_cons_of_mem _ List.mem_cons_self)).1]
    exact fun hnone => hnone 2 (by decide) (by decide) hcomment

end ServiceLang
