import ServiceLang.Proofs.Service.Parse

namespace ServiceLang

open Text

/-!
# Where syntax errors lie

A syntax error names a line that is neither blank nor a comment, also when it is found only once
a later line ends the block that misses something.

* `LiesOn e lines`: the error lies on one of these lines;
* `liesOn_of_methodsOf`, `Item.liesOn_of_ofBlock`: the lines of a class, and of a declaration;
* `Service.liesOn_of_parse`: a whole text;
* `Fault.isTrimmed_text`: in words no fault begins or ends with a blank, whatever text it quotes.
-/

/-! ### Lines of errors -/

/-- A fault that is placed on a line lies there. -/
theorem line_of_atLine_eq_error {α : Type} {line : Nat} {outcome : Except Fault α}
    {e : SyntaxError} (h : atLine line outcome = .error e) : e.line = line := by
  cases outcome with
  | ok a => cases h
  | error fault => rw [← Except.error.inj h]

/-- The error lies on one of the lines. -/
def LiesOn (e : SyntaxError) (lines : List SourceLine) : Prop :=
  ∃ line ∈ lines, line.number = e.line

/-- The line of a method is that of its member line. -/
theorem line_of_methodOf {memberIndent : Nat} {head : SourceLine} {below : List SourceLine}
    {method : Function} (h : methodOf memberIndent head below = .ok method) :
    method.line = head.number := by
  unfold methodOf at h
  rw [atLine_eq_ok_iff] at h
  split at h
  · cases h
  · obtain ⟨signature, -, rfl⟩ := map_eq_ok_iff.mp h
    rfl

/-- An error in a class lies on one of the lines of the class. -/
theorem liesOn_of_methodsOf {below : List SourceLine} {e : SyntaxError}
    (h : methodsOf below = .error e) : LiesOn e below := by
  cases below with
  | nil => cases h
  | cons first rest =>
    obtain ⟨group, hgroup, he⟩ := exists_of_mapM_eq_error h
    have hhead : group.1 ∈ first :: rest :=
      (mem_of_grouped (grouped_members first rest)).mpr ⟨group, hgroup, .inl rfl⟩
    exact ⟨group.1, hhead, (line_of_atLine_eq_error he).symm⟩

/-- Every method of a class stands on one of the lines of the class. -/
theorem exists_line_of_methodsOf {below : List SourceLine} {methods : List Function}
    (h : methodsOf below = .ok methods) {method : Function} (hmethod : method ∈ methods) :
    ∃ line ∈ below, line.number = method.line := by
  cases below with
  | nil =>
    rw [← Except.ok.inj h] at hmethod
    cases hmethod
  | cons first rest =>
    obtain ⟨group, hgroup, hok⟩ := exists_left_of_forall₂ (mapM_eq_ok_iff.mp h) hmethod
    have hhead : group.1 ∈ first :: rest :=
      (mem_of_grouped (grouped_members first rest)).mpr ⟨group, hgroup, .inl rfl⟩
    exact ⟨group.1, hhead, (line_of_methodOf hok).symm⟩

/-- **Blocks.** An error in a declaration lies on one of its lines. A method without a body is
    reported on its own line, although the whole class has been read by then. -/
theorem Item.liesOn_of_ofBlock {head : SourceLine} {below : List SourceLine} {e : SyntaxError}
    (h : Item.ofBlock head below = .error e) : LiesOn e (head :: below) := by
  have onHead (fault : Fault) : LiesOn ⟨head.number, fault⟩ (head :: below) :=
    ⟨head, List.mem_cons_self, rfl⟩
  rw [Item.ofBlock] at h
  obtain hhead | ⟨opened, -, hblock⟩ := bind_eq_error_iff.mp h
  · exact ⟨head, List.mem_cons_self, (line_of_atLine_eq_error hhead).symm⟩
  cases opened with
  | server port =>
    cases below with
    | nil => cases hblock
    | cons line rest =>
      rw [← Except.error.inj hblock]
      exact ⟨line, List.mem_cons_of_mem head List.mem_cons_self, rfl⟩
  | endpoint method path inline =>
    dsimp only at hblock
    split at hblock
    · rw [← Except.error.inj hblock]
      exact onHead _
    · cases hblock
  | function signature =>
    dsimp only at hblock
    split at hblock
    · rw [← Except.error.inj hblock]
      exact onHead _
    · cases hblock
  | classDecl name =>
    -- a faulty member, or a method that turns out to have no body
    obtain hmembers | ⟨methods, hmethods, hbody⟩ := bind_eq_error_iff.mp hblock
    · obtain ⟨line, hline, hnumber⟩ := liesOn_of_methodsOf hmembers
      exact ⟨line, List.mem_cons_of_mem head hline, hnumber⟩
    · split at hbody
      · rename_i method hfound
        obtain ⟨line, hline, hnumber⟩ :=
          exists_line_of_methodsOf hmethods (List.mem_of_find?_eq_some hfound)
        rw [← Except.error.inj hbody]
        exact ⟨line, List.mem_cons_of_mem head hline, hnumber⟩
      · cases hbody

/-- An error lies on one of the lines. -/
theorem Service.liesOn_of_ofLines {lines : List SourceLine} {e : SyntaxError}
    (h : Service.ofLines lines = .error e) : LiesOn e lines := by
  have hcut := @clusters_grouped SourceLine (·.indent = 0) _ lines
  rw [Service.ofLines] at h
  split at h
  · rename_i line lead groups hclusters
    obtain ⟨rest, hlines, -, -⟩ := hcut
    rw [hclusters] at hlines
    rw [← Except.error.inj h, hlines]
    exact ⟨line, List.mem_cons_self, rfl⟩
  · rename_i groups hclusters
    have hgroups := clusters_eq_nil_iff.mp hclusters
    obtain ⟨group, hgroup, he⟩ := exists_of_mapM_eq_error (map_eq_error_iff.mp h)
    obtain ⟨line, hline, hnumber⟩ := Item.liesOn_of_ofBlock he
    refine ⟨line, (mem_of_grouped hgroups).mpr ⟨group, hgroup, ?_⟩, hnumber⟩
    exact List.mem_cons.mp hline

/-- **Whole texts.** A syntax error lies on a line that is neither blank nor a comment. -/
theorem Service.liesOn_of_parse {text : String} {e : SyntaxError}
    (h : Service.parse text = .error e) : LiesOn e (sourceLines text.toList) := by
  rw [Service.parse_eq, significantLines_eq_sourceLines] at h
  exact Service.liesOn_of_ofLines h

/-! ### Faults in words -/

/-- **Faults in words.** What is said of a fault begins and ends with a visible character, since a
    text that it quotes stands between quotes. -/
theorem Fault.isTrimmed_text (fault : Fault) : IsTrimmed fault.text.toList := by
  have hquoted (lead quote : String) (hlead : StartsVisibly lead.toList) :
      IsTrimmed (lead ++ quote ++ "'").toList := by
    have hquote : NoTrailingBlank ['\''] := by
      show StopsAt isSpace ['\'']
      exact stopsAt_cons.mpr (by decide)
    rw [String.toList_append, String.toList_append]
    exact .append hlead hquote (by decide) quote.toList
  cases fault with
  | unexpectedToken token => exact hquoted _ token ⟨'u', _, rfl, by decide⟩
  | invalidPort value => exact hquoted _ value ⟨'i', _, rfl, by decide⟩
  | unknownMethod method => exact hquoted _ method ⟨'u', _, rfl, by decide⟩
  | expectedPath => exact .of_ends rfl rfl (by decide) (by decide)
  | unterminatedString => exact .of_ends rfl rfl (by decide) (by decide)
  | expectedIdentifier keyword => exact hquoted _ keyword ⟨'e', _, rfl, by decide⟩
  | missingColon construct =>
    cases construct <;> exact .of_ends rfl rfl (by decide) (by decide)
  | unclosedParams => exact .of_ends rfl rfl (by decide) (by decide)
  | missingBody construct =>
    cases construct <;> exact .of_ends rfl rfl (by decide) (by decide)
  | unexpectedIndent => exact .of_ends rfl rfl (by decide) (by decide)

end ServiceLang
