import ServiceLang.Proofs.Service.Parse
import ServiceLang.Proofs.Text.Lines

namespace ServiceLang

open Text

/-!
# The texts in a description

A description is made of parts of its lines, so its names, parameters, paths and bodies can be
written down again without being mistaken for something else.

* `IsInline`, `IsLine`: texts that may stand behind a colon, and on a line of their own;
* `Function.Lexical`, `Item.Lexical`: what holds of the texts in a declaration;
* `Declares.lexical`, `Service.lexical_of_parse`: it holds of whatever has been read.
-/

/-! ### Parameters -/

/-- No comma is blank. -/
theorem comma_not_mem_of_blank {gap : List Char} (h : Blank gap) : ',' ∉ gap :=
  fun hmem => absurd (h ',' hmem) (by decide)

/-- A text without commas before another one goes to the first piece of that one. -/
theorem splitOn_append_left {lead : List Char} (h : ',' ∉ lead) (s : List Char) :
    (lead ++ s).splitOn ',' = (s.splitOn ',').modifyHead (lead ++ ·) := by
  induction lead with
  | nil => cases hs : s.splitOn ',' <;> simp [hs]
  | cons c lead ih =>
    obtain ⟨hc, hlead⟩ := not_or.mp (mt List.mem_cons.mpr h)
    rw [List.cons_append, List.splitOn_cons_eq_if_modifyHead, ih hlead]
    cases hs : s.splitOn ',' <;> simp [Ne.symm hc]

/-- A text without commas behind another one goes to the last piece of that one. -/
theorem exists_splitOn_append_right {tail : List Char} (h : ',' ∉ tail) (s : List Char) :
    ∃ front last, s.splitOn ',' = front ++ [last] ∧
      (s ++ tail).splitOn ',' = front ++ [last ++ tail] := by
  induction s with
  | nil =>
    have htail := splitOn_append_left h []
    rw [List.append_nil] at htail
    exact ⟨[], [], rfl, by simp [htail]⟩
  | cons c s ih =>
    obtain ⟨front, last, hs, htail⟩ := ih
    rw [List.cons_append, List.splitOn_cons_eq_if_modifyHead, List.splitOn_cons_eq_if_modifyHead,
      hs, htail]
    by_cases hc : c = ','
    · exact ⟨[] :: front, last, by simp [hc], by simp [hc]⟩
    · cases front with
      | nil => exact ⟨[], c :: last, by simp [hc], by simp [hc]⟩
      | cons piece front => exact ⟨(c :: piece) :: front, last, by simp [hc], by simp [hc]⟩

/-- Blanks in front change no parameter. -/
theorem pieces_blank_append {gap : List Char} (h : Blank gap) (args : List Char) :
    pieces (gap ++ args) = pieces args := by
  rw [pieces, pieces, splitOn_append_left (comma_not_mem_of_blank h)]
  cases args.splitOn ',' <;> simp [trim_blank_append h]

/-- Blanks at the end change no parameter. -/
theorem pieces_append_blank {gap : List Char} (h : Blank gap) (args : List Char) :
    pieces (args ++ gap) = pieces args := by
  obtain ⟨front, last, hargs, htail⟩ := exists_splitOn_append_right (comma_not_mem_of_blank h) args
  rw [pieces, pieces, hargs, htail, List.map_append, List.map_append, List.map_singleton,
    List.map_singleton, trim_append h]

/-- Blanks around the text between parentheses do not count. -/
theorem pieces_trim (args : List Char) : pieces (trim args) = pieces args := by
  obtain ⟨gap, hgap, htrim⟩ := exists_blank_trimStart_eq args
  have hargs : args = args.takeWhile isSpace ++ trimStart args :=
    List.takeWhile_append_dropWhile.symm
  have hlead : Blank (args.takeWhile isSpace) := List.all_eq_true.mp List.all_takeWhile
  calc pieces (trim args) = pieces (trim args ++ gap) := (pieces_append_blank hgap _).symm
    _ = pieces (trimStart args) := by rw [htrim]
    _ = pieces (args.takeWhile isSpace ++ trimStart args) := (pieces_blank_append hlead _).symm
    _ = pieces args := by rw [← hargs]

/-- What stands between two commas is part of the text and has no comma. -/
theorem mem_of_mem_splitOn {args piece : List Char} (h : piece ∈ args.splitOn ',') :
    ∀ c ∈ piece, c ∈ args ∧ c ≠ ',' := by
  induction args generalizing piece with
  | nil =>
    obtain rfl := List.mem_singleton.mp h
    simp
  | cons d args ih =>
    rw [List.splitOn_cons_eq_if_modifyHead] at h
    have hwiden : ∀ other ∈ args.splitOn ',', ∀ c ∈ other, c ∈ d :: args ∧ c ≠ ',' :=
      fun other hother c hc =>
        ⟨List.mem_cons_of_mem d (ih hother c hc).1, (ih hother c hc).2⟩
    split at h
    case isTrue =>
      obtain rfl | hpiece := List.mem_cons.mp h
      · simp
      · exact hwiden piece hpiece
    case isFalse hd =>
      -- the character goes to the first piece of the rest
      cases hsplit : args.splitOn ',' with
      | nil => exact absurd hsplit (List.splitOn_ne_nil ',' args)
      | cons first others =>
        rw [hsplit, List.modifyHead_cons] at h
        obtain rfl | hpiece := List.mem_cons.mp h
        · refine List.forall_mem_cons.mpr ⟨⟨List.mem_cons_self, by simpa using hd⟩, ?_⟩
          exact hwiden first (hsplit ▸ List.mem_cons_self)
        · exact hwiden piece (hsplit ▸ List.mem_cons_of_mem first hpiece)

/-- A comma separates parameters. -/
theorem pieces_append_comma (front rest : List Char) :
    pieces (front ++ ',' :: rest) = pieces front ++ pieces rest := by
  simp only [pieces, List.splitOn_append_cons_self, List.map_append, List.filter_append]

/-- A trimmed text without commas is one parameter. -/
theorem pieces_of_isTrimmed {param : List Char} (h : IsTrimmed param) (hcomma : ',' ∉ param) :
    pieces param = [param] := by
  simp [pieces, List.splitOn_eq_singleton hcomma, h.trim_eq, h.ne_nil]

/-! ### Texts on one line -/

/-- A text that may stand behind a colon: trimmed, not empty and on one line. -/
structure IsInline (s : List Char) : Prop where
  trimmed : IsTrimmed s
  newline : '\n' ∉ s

/-- A text that may stand on a line of its own, where a `#` in front would make it a comment. -/
structure IsLine (s : List Char) : Prop extends IsInline s where
  head : s.head? ≠ some '#'

/-- A text that may stand between the commas and parentheses of a parameter list. -/
structure IsParam (s : List Char) : Prop extends IsInline s where
  comma : ',' ∉ s
  close : ')' ∉ s

/-- A body: its first line may stand behind a colon, the others on lines of their own. -/
inductive IsBody : List String → Prop where
  | cons {first : String} {rest : List String} (hfirst : IsInline first.toList)
      (hrest : ∀ line ∈ rest, IsLine line.toList) : IsBody (first :: rest)

/-- A body has a line. -/
theorem IsBody.ne_nil {body : List String} (h : IsBody body) : body ≠ [] := by
  obtain ⟨-, -⟩ := h
  exact List.cons_ne_nil _ _

/-- The content of a significant line may stand on a line. -/
theorem isLine_of_mem_sourceLines {text : List Char} {line : SourceLine}
    (h : line ∈ sourceLines text) : IsLine line.content := by
  obtain ⟨source, hsource, rfl⟩ := List.mem_map.mp h
  obtain ⟨hmem, hsignificant⟩ := List.mem_filter.mp hsource
  rw [isSignificant, decide_eq_true_eq] at hsignificant
  refine ⟨⟨IsTrimmed.of_trim hsignificant.1, fun hnewline => ?_⟩, hsignificant.2⟩
  have hline : source.1 ∈ lines text := by
    rw [← List.zipIdx_map_fst 1 (lines text)]
    exact List.mem_map_of_mem hmem
  exact newline_not_mem_of_mem_lines hline (mem_of_mem_trim hnewline)

/-! ### Parts of lines -/

/-- What follows a word has no line feed when the line has none. -/
theorem newline_not_mem_of_spaced {word rest s : List Char} (h : Spaced word rest s)
    (hs : '\n' ∉ s) : '\n' ∉ rest := by
  obtain ⟨gap, -, -, rfl⟩ := h
  exact fun hmem => hs (List.mem_append_right _ hmem)

/-- The text behind a colon may stand there again. -/
theorem Opens.isInline {s inline : List Char} (h : Opens s inline) (hs : '\n' ∉ s)
    (hne : inline ≠ []) : IsInline inline := by
  obtain ⟨gap, raw, -, rfl, rfl⟩ := h
  refine ⟨IsTrimmed.of_trim hne, fun hnewline => hs ?_⟩
  exact List.mem_append_right _ (List.mem_cons_of_mem _ (mem_of_mem_trim hnewline))

/-- The parameters of a signature may be written again. -/
theorem IsSignature.isParam {s : List Char} {signature : Signature} (h : IsSignature s signature)
    (hs : '\n' ∉ s) : ∀ param ∈ signature.params, IsParam param := by
  obtain ⟨gap, args, rest, rfl, -, -, hclose, hparams, -⟩ := h
  intro param hparam
  rw [hparams] at hparam
  obtain ⟨htrimmed, hne⟩ := List.mem_filter.mp hparam
  obtain ⟨piece, hpiece, rfl⟩ := List.mem_map.mp htrimmed
  -- every character of the parameter stands between the parentheses
  have hmem : ∀ c ∈ trim piece, c ∈ args ∧ c ≠ ',' :=
    fun c hc => mem_of_mem_splitOn hpiece c (mem_of_mem_trim hc)
  refine ⟨⟨IsTrimmed.of_trim (by simpa using hne), fun hnewline => hs ?_⟩, ?_, ?_⟩
  · have hargs := (hmem _ hnewline).1
    simp [hargs]
  · exact fun hcomma => (hmem _ hcomma).2 rfl
  · exact fun hmember => hclose (hmem _ hmember).1

/-- The text behind the colon of a signature may stand there again. -/
theorem IsSignature.isInline {s : List Char} {signature : Signature} (h : IsSignature s signature)
    (hs : '\n' ∉ s) (hne : signature.inline ≠ []) : IsInline signature.inline := by
  obtain ⟨gap, args, rest, rfl, -, -, -, -, hopen⟩ := h
  exact hopen.isInline (fun hmem => hs (by simp [hmem])) hne

/-- What a body is made of may be written again. -/
theorem Body.isBody {inline : List Char} {below : List SourceLine} {body : List String}
    (h : Body inline below body) (hinline : inline ≠ [] → IsInline inline)
    (hbelow : ∀ line ∈ below, IsLine line.content) (hne : body ≠ []) : IsBody body := by
  have hlines : ∀ below' : List SourceLine, below' ⊆ below →
      ∀ line ∈ below'.map (fun l => String.ofList l.content), IsLine line.toList := by
    intro below' hsubset line hline
    obtain ⟨source, hsource, rfl⟩ := List.mem_map.mp hline
    rw [String.toList_ofList]
    exact hbelow source (hsubset hsource)
  cases h with
  | below =>
    cases below with
    | nil => exact absurd rfl hne
    | cons first rest =>
      refine .cons ?_ (hlines rest (List.subset_cons_self first rest))
      rw [String.toList_ofList]
      exact (hbelow first List.mem_cons_self).toIsInline
  | inline hinline_ne =>
    refine .cons ?_ (hlines below (List.Subset.refl below))
    rw [String.toList_ofList]
    exact hinline hinline_ne

/-! ### Declarations -/

/-- The texts of a function or method. -/
structure Function.Lexical (decl : Function) : Prop where
  name : IsIdent decl.name.toList
  params : ∀ param ∈ decl.params, IsParam param.toList
  body : IsBody decl.body

/-- The texts of a declaration, and the bound of a port. -/
inductive Item.Lexical : Item → Prop where
  | server {port line : Nat} (hport : port ≤ maxPort) : Lexical (.server port line)
  | endpoint {decl : Endpoint} (hquote : '"' ∉ decl.path.toList)
      (hnewline : '\n' ∉ decl.path.toList) (hbody : IsBody decl.body) :
      Lexical (.endpoint decl)
  | function {decl : Function} (hdecl : decl.Lexical) : Lexical (.function decl)
  | classDecl {decl : ClassDecl} (hname : IsIdent decl.name.toList)
      (hmethods : ∀ method ∈ decl.methods, method.Lexical) : Lexical (.classDecl decl)

/-- The texts in a function may be written again. -/
theorem MakesFunction.lexical {s : List Char} {signature : Signature} {head : SourceLine}
    {below : List SourceLine} {decl : Function} (h : MakesFunction signature head below decl)
    (hsignature : IsSignature s signature) (hs : '\n' ∉ s)
    (hbelow : ∀ line ∈ below, IsLine line.content) : decl.Lexical where
  name := by
    obtain ⟨gap, args, rest, -, hident, -⟩ := hsignature
    rw [h.name, String.toList_ofList]
    exact hident
  params := by
    intro param hparam
    rw [h.params] at hparam
    obtain ⟨piece, hpiece, rfl⟩ := List.mem_map.mp hparam
    rw [String.toList_ofList]
    exact hsignature.isParam hs piece hpiece
  body := h.body.isBody (hsignature.isInline hs) hbelow h.body_ne_nil

/-- The texts in methods may be written again. -/
theorem Methods.lexical {lines : List SourceLine} {methods : List Function}
    (h : Methods lines methods) (hlines : ∀ line ∈ lines, IsLine line.content) :
    ∀ method ∈ methods, method.Lexical := by
  intro method hmethod
  cases h with
  | none => cases hmethod
  | some _ hgroups hmethods =>
    obtain ⟨group, hgroup, signature, ⟨keyword, -, s, hspaced, hsignature⟩, hmakes⟩ :=
      exists_left_of_forall₂ hmethods hmethod
    have hhead := hlines _ ((mem_of_grouped hgroups).mpr ⟨group, hgroup, .inl rfl⟩)
    refine hmakes.lexical hsignature (newline_not_mem_of_spaced hspaced hhead.newline) ?_
    exact fun line hline => hlines line ((mem_of_grouped hgroups).mpr ⟨group, hgroup, .inr hline⟩)

/-- **Declarations.** Lines that are neither blank nor comments make declarations whose texts can
    be written down again. -/
theorem Declares.lexical {head : SourceLine} {below : List SourceLine} {item : Item}
    (h : Declares head below item) (hhead : IsLine head.content)
    (hbelow : ∀ line ∈ below, IsLine line.content) : item.Lexical := by
  cases h with
  | server hline =>
    obtain ⟨-, ds, -, -, -, -, hport⟩ := hline
    exact .server hport
  | endpoint hline hbody hne =>
    obtain - | ⟨hkeyword, hrequest, hpath, hopen⟩ := hline
    have hrest := newline_not_mem_of_spaced hrequest
      (newline_not_mem_of_spaced hkeyword hhead.newline)
    refine .endpoint ?_ ?_ (hbody.isBody (hopen.isInline ?_) hbelow hne)
    · rwa [String.toList_ofList]
    · rw [String.toList_ofList]
      exact fun hmem => hrest (by simp [hmem])
    · exact fun hmem => hrest (by simp [hmem])
  | function hline hdecl =>
    obtain - | - | ⟨hkeyword, hsignature⟩ := hline
    exact .function (hdecl.lexical hsignature (newline_not_mem_of_spaced hkeyword hhead.newline)
      hbelow)
  | classDecl hline hmethods =>
    obtain - | - | - | ⟨hkeyword, hname, -⟩ := hline
    refine .classDecl ?_ (hmethods.lexical hbelow)
    rwa [String.toList_ofList]

/-- **Whatever has been read can be written down again.** -/
theorem Service.lexical_of_parse {text : String} {service : Service}
    (h : Service.parse text = .ok service) : ∀ item ∈ service.items, item.Lexical := by
  obtain ⟨groups, hgroups, hitems⟩ := Service.describes_of_parse h
  intro item hitem
  obtain ⟨group, hgroup, hdeclares⟩ := exists_left_of_forall₂ hitems hitem
  have hlines : ∀ line, line = group.1 ∨ line ∈ group.2 → IsLine line.content :=
    fun line hline =>
      isLine_of_mem_sourceLines ((mem_of_grouped hgroups).mpr ⟨group, hgroup, hline⟩)
  exact hdeclares.lexical (hlines _ (.inl rfl)) fun line hline => hlines line (.inr hline)

end ServiceLang
