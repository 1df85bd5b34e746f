import ServiceLang.Proofs.Agreement.Margin
import ServiceLang.Proofs.Feature.Cursor
import ServiceLang.Proofs.Feature.Hover

namespace ServiceLang

open Text

/-!
# Hovering over declarations

What an editor shows on the names and paths that a service description declares:

* `exists_lineAt_of_mem`: a declaration has a line at the left margin, which the outline reads too;
* `NameShown`, `Service.nameShown_of_parse`: every offset of a declared name shows the last function
  of the name, or else its last class;
* `PathShown`, `Service.pathShown_of_parse`: every offset of a declared path shows something exactly
  when the word characters behind its closing quote are colons.
-/

/-! ### The line of a declaration -/

/-- A declaration is made by a line at the left margin. -/
theorem exists_lineAt_of_mem {text : String} {service : Service} {item : Item}
    (h : Service.parse text = .ok service) (hitem : item ∈ service.items) :
    ∃ i, i < (lines text.toList).length ∧ AtMargin (lines text.toList) i ∧
      DeclaredAt (lines text.toList) i item := by
  obtain ⟨i, hi, hdeclared⟩ :=
    exists_left_of_forall₂ (forall₂_declaredAt (Service.describes_of_parse h)) hitem
  obtain ⟨hlt, hmargin⟩ := mem_indices.mp hi
  exact ⟨i, hlt, hmargin, hdeclared⟩

section Margin

variable {lines : List (List Char)} {i : Nat}

/-- A line at the margin is its content, and blanks. -/
theorem AtMargin.exists_getElem? (h : AtMargin lines i) (hi : i < lines.length) :
    ∃ tail, Blank tail ∧ trimStart (lineAt lines i) = (sourceLineAt lines i).content ++ tail ∧
      lines[i]? = some ((sourceLineAt lines i).content ++ tail) := by
  obtain ⟨tail, htail, hline⟩ := exists_blank_trimStart_eq (lineAt lines i)
  refine ⟨tail, htail, hline, ?_⟩
  rw [trimStart_of_indentation_eq_zero h.2] at hline
  rw [getElem?_eq_some_lineAt hi]
  exact congrArg some hline

/-- A pattern found on a line at the margin has an entry in the outline. -/
theorem AtMargin.exists_entry {α β : Type} {pattern : List Char → Option α}
    {IsEntry : Nat → β → Prop} {entries : List β} {found : α} (h : AtMargin lines i)
    (hi : i < lines.length)
    (hentries : List.Forall₂ IsEntry (indices (MatchesOutside lines pattern) lines.length) entries)
    (hfound : pattern (trimStart (lineAt lines i)) = some found) :
    ∃ entry ∈ entries, IsEntry i entry := by
  have hvisible := (isSignificant_iff.mp h.1).1
  have hmatches : MatchesOutside lines pattern i :=
    ⟨outside_of_indentation_eq_zero hvisible h.2, by rw [hfound]; rfl⟩
  exact exists_right_of_forall₂ hentries (mem_indices.mpr ⟨hi, hmatches⟩)

end Margin

/-! ### Names -/

/-- The name stands on the line behind the keyword and blanks, and every place on the name shows
    something. Unless the name is a keyword, that is the text for the last function of the name or
    else for its last class, as `Outline.nameCard?` spells it out. Lines are counted from 1. -/
def NameShown (text keyword name : String) (line : Nat) : Prop :=
  ∃ gap rest, gap ≠ [] ∧ Blank gap ∧ 1 ≤ line ∧
    (lines text.toList)[line - 1]? = some (keyword.toList ++ gap ++ name.toList ++ rest) ∧
    ∀ p : Position, p.line.toNat + 1 = line →
      unitLength (keyword.toList ++ gap) ≤ p.character.toNat →
      p.character.toNat < unitLength (keyword.toList ++ gap ++ name.toList) →
      ∃ card, hoverAt text p = some ⟨.markdown card, none⟩ ∧
        (name ∉ keywords → (Outline.ofText text).nameCard? name = some card)

/-- **Names.** A name behind a keyword is shown when only colons go on from it as one word and the
    outline knows it. -/
theorem nameShown_of_line {text keyword name : String} {i : Nat} (gap rest : List Char)
    (hline : (lines text.toList)[i]? = some (keyword.toList ++ gap ++ name.toList ++ rest))
    (hne : gap ≠ []) (hgap : Blank gap) (hname : IsIdent name.toList)
    (hrest : ∀ c ∈ rest.takeWhile isCursorChar, c = ':')
    (hcard : ((Outline.ofText text).nameCard? name).isSome) :
    NameShown text keyword name (i + 1) := by
  refine ⟨gap, rest, hne, hgap, Nat.succ_pos i, hline, ?_⟩
  intro p hp hlo hhi
  have hbare : bareWord (name.toList ++ rest.takeWhile isCursorChar) = name.toList :=
    bareWord_append_colons (hname.not_mem (by decide)) (hname.not_mem (by decide)) hrest
  have hvisible : name.toList ≠ [] := by
    obtain ⟨c, tail, hcons, -⟩ := hname
    rw [hcons]
    exact List.cons_ne_nil c tail
  have hword : wordUnder text.toList p.line.toNat p.character.toNat = some name.toList := by
    rw [Nat.succ.inj hp, wordUnder_eq hline (stopsAt_reverse_of_blank hne hgap)
      (fun c hc => isCursorChar_of_isIdentChar (hname.isIdentChar_of_mem hc)) hlo hhi
      (by rwa [hbare]), hbare]
  rw [hoverAt_of_wordUnder hword, String.ofList_toList]
  obtain ⟨card, hcard⟩ := Option.isSome_iff_exists.mp hcard
  by_cases hkeyword : name ∈ keywords
  · obtain ⟨shown, hshown⟩ :=
      Option.isSome_iff_exists.mp ((Outline.ofText text).isSome_card?_of_keyword hkeyword)
    exact ⟨shown, by rw [hshown]; rfl, fun hnot => absurd hkeyword hnot⟩
  · refine ⟨card, ?_, fun _ => hcard⟩
    rw [Outline.card?_of_nameCard? hkeyword hcard]
    rfl

/-- Words end at blanks, and at any other character that belongs to no word. -/
theorem takeWhile_isCursorChar_of_blank {gap rest : List Char} {c : Char} (hgap : Blank gap)
    (hc : isCursorChar c = false) : (gap ++ c :: rest).takeWhile isCursorChar = [] :=
  takeWhile_of_stopsAt (stopsAt_blank_append (fun _ => isCursorChar_of_isSpace) hgap hc)

/-- Behind a class name one colon at most goes on as one word, since blanks follow it. -/
theorem eq_colon_of_mem_takeWhile {gap tail : List Char} (hgap : Blank gap) (htail : Blank tail) :
    ∀ c ∈ (gap ++ ':' :: tail).takeWhile isCursorChar, c = ':' := by
  cases gap with
  | nil =>
    intro c hc
    have hstop : tail.takeWhile isCursorChar = [] := by
      refine takeWhile_of_stopsAt fun d hd => ?_
      exact isCursorChar_of_isSpace (htail d (List.mem_of_mem_head? hd))
    rw [List.nil_append, List.takeWhile_cons_of_pos (by decide), hstop] at hc
    exact List.mem_singleton.mp hc
  | cons b gap =>
    have hb := isCursorChar_of_isSpace (hgap b List.mem_cons_self)
    intro c hc
    rw [List.cons_append, List.takeWhile_cons_of_neg (by simp [hb])] at hc
    exact absurd hc List.not_mem_nil

/-- The name of a function is shown where it is declared. -/
theorem nameShown_of_function {text : String} {service : Service} {decl : Function}
    (h : Service.parse text = .ok service) (hitem : .function decl ∈ service.items) :
    NameShown text "func" decl.name decl.line := by
  obtain ⟨i, hi, hmargin, below, hdeclares⟩ := exists_lineAt_of_mem h hitem
  obtain ⟨tail, -, hstart, hline⟩ := hmargin.exists_getElem? hi
  cases hdeclares with
  | @function _ signature _ hhead hdecl =>
    obtain ⟨args, hfound, hparams⟩ := hhead.function?_append tail
    rw [← hstart] at hfound
    obtain ⟨entry, hentry, hfunction⟩ :=
      hmargin.exists_entry hi (Outline.isOutline_ofText text).functions hfound
    have hentryName := (hfunction.denotes hfound hparams hdecl).name
    have hname : decl.name.toList = signature.name := by
      rw [hdecl.name, String.toList_ofList]
    cases hhead with
    | function hkeyword hsignature =>
      obtain ⟨gap, hne, hgap, hcontent⟩ := hkeyword
      obtain ⟨inner, raw, after, rfl, hident, hinner, -⟩ := hsignature
      rw [hdecl.line]
      refine nameShown_of_line gap (inner ++ '(' :: (raw ++ ')' :: after ++ tail)) ?_ hne hgap
        (by rwa [hname]) ?_ ?_
      · rw [hline, hcontent, hname]
        simp
      · rw [takeWhile_isCursorChar_of_blank hinner (by decide +kernel)]
        exact fun c hc => absurd hc List.not_mem_nil
      · rw [← hentryName]
        exact Outline.isSome_nameCard?_of_function hentry

/-- The name of a class is shown where it is declared. -/
theorem nameShown_of_class {text : String} {service : Service} {decl : ClassDecl}
    (h : Service.parse text = .ok service) (hitem : .classDecl decl ∈ service.items) :
    NameShown text "class" decl.name decl.line := by
  obtain ⟨i, hi, hmargin, below, hdeclares⟩ := exists_lineAt_of_mem h hitem
  obtain ⟨tail, htail, -, hline⟩ := hmargin.exists_getElem? hi
  cases hdeclares with
  | @classDecl _ name _ hhead _ =>
    have hfound := hhead.class?_lineAt
    have hclasses := (Outline.isOutline_ofText text).classes
    rw [indices_opener] at hclasses
    obtain ⟨entry, hentry, hclass⟩ := hmargin.exists_entry hi hclasses hfound
    have hentryName : entry.name = String.ofList name := by
      rw [← Option.some.inj (hclass.name.symm.trans hfound), String.ofList_toList]
    cases hhead with
    | classDecl hkeyword hname hopen =>
      obtain ⟨gap, hne, hgap, hcontent⟩ := hkeyword
      obtain ⟨inner, raw, hinner, rfl, hraw⟩ := hopen
      have hblank : Blank (raw ++ tail) :=
        List.forall_mem_append.mpr
          ⟨List.dropWhile_eq_nil_iff.mp (trim_eq_nil_iff.mp hraw.symm), htail⟩
      refine nameShown_of_line gap (inner ++ ':' :: (raw ++ tail)) ?_ hne hgap
        (by rwa [String.toList_ofList]) (eq_colon_of_mem_takeWhile hinner hblank) ?_
      · rw [hline, hcontent, String.toList_ofList]
        simp
      · rw [← hentryName]
        exact Outline.isSome_nameCard?_of_class hentry

/-- **Declared names.** In a service description every place on the name of a function or class,
    on the line that declares it, shows something. Unless the name is a keyword, that is the last
    function of the name, or else its last class. -/
theorem Service.nameShown_of_parse (text : String) (service : Service)
    (h : Service.parse text = .ok service) :
    (∀ decl, .function decl ∈ service.items → NameShown text "func" decl.name decl.line) ∧
      ∀ decl, .classDecl decl ∈ service.items → NameShown text "class" decl.name decl.line :=
  ⟨fun _ => nameShown_of_function h, fun _ => nameShown_of_class h⟩

/-- The blanks between a keyword and a name are those that the line has behind the keyword, so a
    place on the line tells whether it is one on the name. -/
theorem NameShown.hoverAt_eq {text keyword name card : String} {line : Nat} {content : List Char}
    (h : NameShown text keyword name line) (hname : IsIdent name.toList) (hkeyword : name ∉ keywords)
    (hcard : (Outline.ofText text).nameCard? name = some card)
    (hcontent : (lines text.toList)[line - 1]? = some content) {p : Position}
    (hp : p.line.toNat + 1 = line)
    (hlo : unitLength (keyword.toList ++ (content.drop keyword.toList.length).takeWhile isSpace) ≤
      p.character.toNat)
    (hhi : p.character.toNat < unitLength
      (keyword.toList ++ (content.drop keyword.toList.length).takeWhile isSpace ++ name.toList)) :
    hoverAt text p = some ⟨.markdown card, none⟩ := by
  obtain ⟨gap, rest, -, hgap, -, hline, hshown⟩ := h
  have hgapEq : (content.drop keyword.toList.length).takeWhile isSpace = gap := by
    rw [← Option.some.inj (hline.symm.trans hcontent), List.append_assoc, List.append_assoc,
      List.drop_left]
    obtain ⟨c, tail, hcons, hc⟩ := hname.startsVisibly rest
    rw [hcons]
    exact (takeWhile_dropWhile_iff.mpr ⟨rfl, hgap, stopsAt_cons.mpr hc⟩).1
  rw [hgapEq] at hlo hhi
  obtain ⟨shown, hhover, hshown⟩ := hshown p hp hlo hhi
  rw [hhover, Option.some.inj ((hshown hkeyword).symm.trans hcard)]

/-- A class that shares its name with a function, one with a method and one without. -/
def sharedNames : String := "class A:\nfunc\tA (x): x\nclass B:\n  method n(y): y\nclass C:"

/-- The name of the function shows the function also where the class is declared, and the other
    two names show their classes. -/
theorem Service.nameShown_of_parse_shared :
    Service.parse sharedNames = .ok ⟨[.classDecl ⟨"A", [], 1⟩, .function ⟨"A", ["x"], ["x"], 2⟩,
        .classDecl ⟨"B", [⟨"n", ["y"], ["y"], 4⟩], 3⟩, .classDecl ⟨"C", [], 5⟩]⟩ ∧
      hoverAt sharedNames ⟨0, 6⟩ =
        some ⟨.markdown "**func** `A(x)`\n\nDeclared on line 2.", none⟩ ∧
      hoverAt sharedNames ⟨1, 5⟩ =
        some ⟨.markdown "**func** `A(x)`\n\nDeclared on line 2.", none⟩ ∧
      hoverAt sharedNames ⟨2, 6⟩ =
        some ⟨.markdown "**class** `B`\n\nDeclared on line 3.\n\nMethods:\n- `n(y)`", none⟩ ∧
      hoverAt sharedNames ⟨4, 6⟩ =
        some ⟨.markdown "**class** `C`\n\nDeclared on line 5.\n\nNo methods.", none⟩ := by
  have hparse : Service.parse sharedNames =
      .ok ⟨[.classDecl ⟨"A", [], 1⟩, .function ⟨"A", ["x"], ["x"], 2⟩,
        .classDecl ⟨"B", [⟨"n", ["y"], ["y"], 4⟩], 3⟩, .classDecl ⟨"C", [], 5⟩]⟩ := by
    decide +kernel
  have hshown := Service.nameShown_of_parse _ _ hparse
  have hclass := hshown.2 ⟨"A", [], 1⟩ List.mem_cons_self
  have hfunction := hshown.1 ⟨"A", ["x"], ["x"], 2⟩ (List.mem_cons_of_mem _ List.mem_cons_self)
  have hmethods := hshown.2 ⟨"B", [⟨"n", ["y"], ["y"], 4⟩], 3⟩ (by simp)
  have hnone := hshown.2 ⟨"C", [], 5⟩ (by simp)
  have hident : ∀ c, isIdentStart c = true → IsIdent [c] := fun c hc => ⟨c, [], rfl, hc, by simp⟩
  have hcard : (Outline.ofText sharedNames).nameCard? "A" =
      some "**func** `A(x)`\n\nDeclared on line 2." := by
    decide +kernel
  refine ⟨hparse, ?_, ?_, ?_, ?_⟩
  · exact hclass.hoverAt_eq (hident 'A' rfl) (by decide) hcard rfl rfl (by decide) (by decide)
  · exact hfunction.hoverAt_eq (hident 'A' rfl) (by decide) hcard rfl rfl (by decide) (by decide)
  · exact hmethods.hoverAt_eq (hident 'B' rfl) (by decide) (by decide +kernel) rfl rfl (by decide)
      (by decide)
  · exact hnone.hoverAt_eq (hident 'C' rfl) (by decide) (by decide +kernel) rfl rfl (by decide)
      (by decide)

/-! ### Paths -/

/-- The path stands between quotes on the line, the first ones there. A place on the path shows
    something exactly when what goes on as one word behind the closing quote is colons only. Lines
    are counted from 1. -/
def PathShown (text path : String) (line : Nat) : Prop :=
  ∃ lead rest, '"' ∉ lead ∧ 1 ≤ line ∧
    (lines text.toList)[line - 1]? = some (lead ++ '"' :: path.toList ++ '"' :: rest) ∧
    ∀ p : Position, p.line.toNat + 1 = line →
      unitLength (lead ++ ['"']) ≤ p.character.toNat →
      p.character.toNat < unitLength (lead ++ '"' :: path.toList) →
      ((hoverAt text p).isSome ↔ ∀ c ∈ rest.takeWhile isCursorChar, c = ':')

/-- **Paths.** The word on a quoted path is the path when only colons follow. Otherwise a quote is
    left inside the word, and such a word shows nothing. -/
theorem pathShown_of_line {text path : String} {i : Nat} (lead rest : List Char)
    (hline : (lines text.toList)[i]? = some (lead ++ '"' :: path.toList ++ '"' :: rest))
    (hquote : '"' ∉ lead) (hlead : StopsAt isCursorChar lead.reverse)
    (hpath : ∀ c ∈ path.toList, isIdentChar c = true ∨ c = '/')
    (hcard : ((Outline.ofText text).card? path).isSome) : PathShown text path (i + 1) := by
  refine ⟨lead, rest, hquote, Nat.succ_pos i, hline, ?_⟩
  intro p hp hlo hhi
  have hpart : ∀ c ∈ '"' :: path.toList ++ ['"'], isCursorChar c = true := by
    intro c hc
    rw [List.cons_append, List.mem_cons, List.mem_append, List.mem_singleton] at hc
    obtain rfl | hc | rfl := hc
    · decide +kernel
    · obtain hident | rfl := hpath c hc
      · exact isCursorChar_of_isIdentChar hident
      · decide +kernel
    · decide +kernel
  have hcut : lead ++ '"' :: path.toList ++ '"' :: rest =
      lead ++ ('"' :: path.toList ++ ['"']) ++ rest := by
    simp
  have hword : bareWord ('"' :: path.toList ++ '"' :: rest.takeWhile isCursorChar) ≠ [] →
      wordUnder text.toList p.line.toNat p.character.toNat =
        some (bareWord ('"' :: path.toList ++ '"' :: rest.takeWhile isCursorChar)) := by
    intro hbare
    have hrun : '"' :: path.toList ++ '"' :: rest.takeWhile isCursorChar =
        '"' :: path.toList ++ ['"'] ++ rest.takeWhile isCursorChar := by
      simp
    simp only [unitLength_append, unitLength] at hlo hhi
    rw [hcut] at hline
    rw [hrun] at hbare ⊢
    rw [Nat.succ.inj hp]
    exact wordUnder_eq hline hlead hpart (by omega)
      (by simp only [unitLength_append, unitLength]; omega) hbare
  constructor
  · intro hsome c hc
    by_contra hne
    have hleft : '"' ∈ bareWord ('"' :: path.toList ++ '"' :: rest.takeWhile isCursorChar) :=
      quote_mem_bareWord ⟨c, hc, hne⟩
    rw [hoverAt_of_wordUnder (hword (List.ne_nil_of_mem hleft)),
      Outline.card?_eq_none_of_quote (Outline.isOutline_ofText text)
        (by rwa [String.toList_ofList])] at hsome
    contradiction
  · intro hcolons
    have hvisible : path.toList ≠ [] := by
      -- the place lies inside the path
      intro hnil
      rw [hnil] at hhi
      omega
    rw [bareWord_quoted hcolons] at hword
    rw [hoverAt_of_wordUnder (hword hvisible), String.ofList_toList, Option.isSome_map]
    exact hcard

/-- No quote stands before the path of an endpoint. -/
theorem quote_not_mem_lead {gap inner : List Char} (method : HttpMethod) (hgap : Blank gap)
    (hinner : Blank inner) : '"' ∉ "endpoint".toList ++ gap ++ method.name.toList ++ inner := by
  have hblank : ∀ s : List Char, Blank s → '"' ∉ s :=
    fun s hs hmem => absurd (hs _ hmem) (by decide)
  have hname : '"' ∉ method.name.toList := by
    cases method <;> decide
  have hkeyword : '"' ∉ "endpoint".toList := by decide
  simp only [List.mem_append, not_or]
  exact ⟨⟨⟨hkeyword, hblank gap hgap⟩, hname⟩, hblank inner hinner⟩

/-- **Declared paths.** In a service description, take an endpoint whose path is made of ASCII
    letters, digits, underscores and slashes. A place on the path, on the line that declares it,
    shows something exactly when the word characters that follow the closing quote without a blank
    are colons. -/
theorem Service.pathShown_of_parse (text : String) (service : Service)
    (h : Service.parse text = .ok service) (decl : Endpoint)
    (hitem : .endpoint decl ∈ service.items)
    (hpath : ∀ c ∈ decl.path.toList, isIdentChar c = true ∨ c = '/') :
    PathShown text decl.path decl.line := by
  obtain ⟨i, hi, hmargin, below, hdeclares⟩ := exists_lineAt_of_mem h hitem
  obtain ⟨tail, -, hstart, hline⟩ := hmargin.exists_getElem? hi
  cases hdeclares with
  | @endpoint _ method path _ _ hhead _ _ =>
    have hfound := hhead.endpoint?_append tail
    rw [← hstart] at hfound
    obtain ⟨entry, hentry, hendpoint⟩ :=
      hmargin.exists_entry hi (Outline.isOutline_ofText text).endpoints hfound
    have hentryPath : entry.path = String.ofList path := by
      have heq := Option.some.inj (hendpoint.found.symm.trans hfound)
      rw [← (Prod.mk.inj heq).2, String.ofList_toList]
    cases hhead with
    | @endpoint _ _ rest _ _ hkeyword hrequest _ _ =>
      obtain ⟨gap, -, hgap, hcontent⟩ := hkeyword
      obtain ⟨inner, hne, hinner, rfl⟩ := hrequest
      refine pathShown_of_line ("endpoint".toList ++ gap ++ method.name.toList ++ inner)
        (rest ++ tail) ?_ (quote_not_mem_lead method hgap hinner)
        (stopsAt_reverse_of_blank hne hinner) hpath ?_
      · rw [hline, hcontent, String.toList_ofList]
        simp
      · rw [← hentryPath]
        exact Outline.isSome_card?_of_endpoint hentry

/-- The path stands behind the first quote of its line, so a place on the line tells whether it is
    one on the path. -/
theorem PathShown.isSome_iff {text path : String} {line : Nat} {lead rest : List Char}
    (h : PathShown text path line) (hlead : '"' ∉ lead)
    (hcontent : (lines text.toList)[line - 1]? = some (lead ++ '"' :: path.toList ++ '"' :: rest))
    {p : Position} (hp : p.line.toNat + 1 = line)
    (hlo : unitLength (lead ++ ['"']) ≤ p.character.toNat)
    (hhi : p.character.toNat < unitLength (lead ++ '"' :: path.toList)) :
    (hoverAt text p).isSome ↔ ∀ c ∈ rest.takeWhile isCursorChar, c = ':' := by
  obtain ⟨before, after, hbefore, -, hline, hshown⟩ := h
  have hcut : ∀ s t : List Char, '"' ∉ s → (s ++ '"' :: t).takeWhile (· != '"') = s := by
    intro s t hs
    have hrun : ∀ c ∈ s, (c != '"') = true := fun c hc => bne_iff_ne.mpr (ne_of_mem_of_not_mem hc hs)
    exact (takeWhile_dropWhile_iff.mpr ⟨rfl, hrun, stopsAt_cons.mpr (by decide)⟩).1
  have heq := Option.some.inj (hline.symm.trans hcontent)
  rw [List.append_assoc, List.append_assoc] at heq
  obtain rfl : before = lead := by
    rw [← hcut before _ hbefore, ← hcut lead _ hlead]
    exact congrArg (List.takeWhile (· != '"')) heq
  have hafter : after = rest := (List.cons.inj
    (List.append_cancel_left (List.cons.inj (List.append_cancel_left heq)).2)).2
  rw [← hafter]
  exact hshown p hp hlo hhi

/-- A path with a colon and a blank behind it shows something, and a path with a body directly
    behind its colon shows nothing. -/
theorem Service.pathShown_of_parse_spaced :
    Service.parse "endpoint GET \"/a_1\": x" = .ok ⟨[.endpoint ⟨.get, "/a_1", ["x"], 1⟩]⟩ ∧
      Service.parse "endpoint GET \"/a_1\":x" = .ok ⟨[.endpoint ⟨.get, "/a_1", ["x"], 1⟩]⟩ ∧
      (∀ c ∈ "/a_1".toList, isIdentChar c = true ∨ c = '/') ∧
      PathShown "endpoint GET \"/a_1\": x" "/a_1" 1 ∧ PathShown "endpoint GET \"/a_1\":x" "/a_1" 1 ∧
      (hoverAt "endpoint GET \"/a_1\": x" ⟨0, 14⟩).isSome = true ∧
      (hoverAt "endpoint GET \"/a_1\":x" ⟨0, 14⟩).isSome = false := by
  have hspaced : Service.parse "endpoint GET \"/a_1\": x" =
      .ok ⟨[.endpoint ⟨.get, "/a_1", ["x"], 1⟩]⟩ := by
    decide +kernel
  have hadjacent : Service.parse "endpoint GET \"/a_1\":x" =
      .ok ⟨[.endpoint ⟨.get, "/a_1", ["x"], 1⟩]⟩ := by
    decide +kernel
  have hall : "/a_1".toList.all (fun c => isIdentChar c || c == '/') = true := rfl
  have hpath : ∀ c ∈ "/a_1".toList, isIdentChar c = true ∨ c = '/' := by
    intro c hc
    have hc := List.all_eq_true.mp hall c hc
    rwa [Bool.or_eq_true, beq_iff_eq] at hc
  have hshown := Service.pathShown_of_parse _ _ hspaced ⟨.get, "/a_1", ["x"], 1⟩
    List.mem_cons_self hpath
  have hhidden := Service.pathShown_of_parse _ _ hadjacent ⟨.get, "/a_1", ["x"], 1⟩
    List.mem_cons_self hpath
  have hlead : '"' ∉ "endpoint GET ".toList := by decide
  refine ⟨hspaced, hadjacent, hpath, hshown, hhidden, ?_, ?_⟩
  · have hiff : (hoverAt "endpoint GET \"/a_1\": x" ⟨0, 14⟩).isSome ↔
        ∀ c ∈ ": x".toList.takeWhile isCursorChar, c = ':' :=
      hshown.isSome_iff hlead rfl rfl (by decide) (by decide)
    have hrun : ": x".toList.takeWhile isCursorChar = [':'] := by decide +kernel
    rw [hiff, hrun]
    exact fun c hc => List.mem_singleton.mp hc
  · have hiff : (hoverAt "endpoint GET \"/a_1\":x" ⟨0, 14⟩).isSome ↔
        ∀ c ∈ ":x".toList.takeWhile isCursorChar, c = ':' :=
      hhidden.isSome_iff hlead rfl rfl (by decide) (by decide)
    have hrun : 'x' ∈ ":x".toList.takeWhile isCursorChar := by decide +kernel
    rw [Bool.eq_false_iff, ne_eq, hiff]
    exact fun hcolons => absurd (hcolons 'x' hrun) (by decide)

/-- A body directly behind the colon belongs to the word on the path, which then shows nothing. -/
theorem hoverAt_path_of_adjacent_body :
    Service.parse "endpoint GET \"/a\":x" = .ok ⟨[.endpoint ⟨.get, "/a", ["x"], 1⟩]⟩ ∧
      hoverAt "endpoint GET \"/a\":x" ⟨0, 14⟩ = none := by
  constructor <;> decide +kernel

end ServiceLang
