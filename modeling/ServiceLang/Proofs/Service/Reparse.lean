import ServiceLang.Proofs.Service.Rendering
import ServiceLang.Proofs.Text.Number

namespace ServiceLang

open Text

/-!
# Written descriptions are read again

* `pieces_intercalate`: parameters are found again between their commas;
* `Function.makes`, `Item.makes`: the rows of a declaration make that declaration;
* `Service.parse_render_of_lexical`: so a description whose texts can be written down is read from
  its written form, with the line numbers of that form;
* `Service.parse_render_of_parse`: every description that has been read is one of these.
-/

/-! ### Texts on a row -/

/-- A character of an intercalated text is in the separator or in one of the texts. -/
theorem not_mem_intercalate {sep : List Char} {texts : List (List Char)} {c : Char}
    (hsep : c ∉ sep) (h : ∀ text ∈ texts, c ∉ text) : c ∉ sep.intercalate texts := by
  induction texts with
  | nil => simp
  | cons text texts ih =>
    obtain ⟨htext, htexts⟩ := List.forall_mem_cons.mp h
    cases texts with
    | nil => rwa [List.intercalate_singleton]
    | cons next texts =>
      rw [List.intercalate_cons_cons, List.mem_append, List.mem_append, not_or, not_or]
      exact ⟨⟨htext, hsep⟩, ih htexts⟩

/-- **Parameters are found again** between their commas. -/
theorem pieces_intercalate {params : List (List Char)} (h : ∀ param ∈ params, IsParam param) :
    pieces (", ".toList.intercalate params) = params := by
  induction params with
  | nil => rfl
  | cons param params ih =>
    obtain ⟨hparam, hparams⟩ := List.forall_mem_cons.mp h
    have hpiece := pieces_of_isTrimmed hparam.trimmed hparam.comma
    cases params with
    | nil => rwa [List.intercalate_singleton]
    | cons next params =>
      have hblank : Blank [' '] := by simp [Blank, isSpace]
      calc pieces (", ".toList.intercalate (param :: next :: params))
          = pieces (param ++ ',' :: ([' '] ++ ", ".toList.intercalate (next :: params))) := by
            rw [List.intercalate_cons_cons, List.append_assoc]
            rfl
        _ = pieces param ++ pieces (", ".toList.intercalate (next :: params)) := by
            rw [pieces_append_comma, pieces_blank_append hblank]
        _ = param :: next :: params := by rw [hpiece, ih hparams, List.singleton_append]

/-- A text without blanks is on one line. -/
theorem newline_not_mem_of_blankFree {s : List Char} (h : BlankFree s) : '\n' ∉ s :=
  fun hmem => absurd (h '\n' hmem) (by decide)

/-- So is an identifier. -/
theorem newline_not_mem_of_isIdent {name : List Char} (h : IsIdent name) : '\n' ∉ name := by
  obtain ⟨c, rest, rfl, hc, hrest⟩ := h
  refine newline_not_mem_of_blankFree (List.forall_mem_cons.mpr ⟨?_, fun x hx => ?_⟩)
  · exact isSpace_of_isIdentChar (by rw [isIdentChar, hc, Bool.true_or])
  · exact isSpace_of_isIdentChar (hrest x hx)

/-- A number may stand behind a colon. -/
theorem isInline_digits (n : Nat) : IsInline (digits n) := by
  have hfree := blankFree_digits n
  have hne : digits n ≠ [] := Nat.toDigits_ne_nil
  refine ⟨⟨?_, ?_⟩, newline_not_mem_of_blankFree hfree⟩
  · obtain ⟨c, rest, hdigits⟩ := List.exists_cons_of_ne_nil hne
    exact ⟨c, rest, hdigits, hfree c (hdigits ▸ List.mem_cons_self)⟩
  · intro c hc
    exact hfree c (List.mem_reverse.mp (List.mem_of_mem_head? hc))

/-- What a row starts with decides that it is no comment, and what it ends with that it has no
    trailing blank. -/
theorem IsLine.append {lead middle tail : List Char} (hlead : IsLine lead)
    (hmiddle : '\n' ∉ middle) (htail : IsInline tail) : IsLine (lead ++ middle ++ tail) where
  trimmed := IsTrimmed.append hlead.trimmed.1 htail.trimmed.2 htail.trimmed.ne_nil middle
  newline := by
    rw [List.mem_append, List.mem_append, not_or, not_or]
    exact ⟨⟨hlead.newline, hmiddle⟩, htail.newline⟩
  head := by
    obtain ⟨c, rest, rfl, -⟩ := hlead.trimmed.1
    exact hlead.head

/-- A keyword may stand on a line. -/
theorem isLine_keyword (keyword : String)
    (h : keyword ∈ ["server", "endpoint", "func", "class", "method"]) : IsLine keyword.toList := by
  simp only [List.mem_cons, List.not_mem_nil, or_false] at h
  obtain rfl | rfl | rfl | rfl | rfl := h
  · exact ⟨⟨.of_ends rfl rfl rfl rfl, by decide⟩, by decide⟩
  · exact ⟨⟨.of_ends rfl rfl rfl rfl, by decide⟩, by decide⟩
  · exact ⟨⟨.of_ends rfl rfl rfl rfl, by decide⟩, by decide⟩
  · exact ⟨⟨.of_ends rfl rfl rfl rfl, by decide⟩, by decide⟩
  · exact ⟨⟨.of_ends rfl rfl rfl rfl, by decide⟩, by decide⟩

/-- A colon and a blank open the text behind them. -/
theorem opens_inline {inline : List Char} (h : IsInline inline) :
    Opens (':' :: ' ' :: inline) inline := by
  have hblank : Blank [' '] := by simp [Blank, isSpace]
  refine ⟨[], ' ' :: inline, by simp [Blank], rfl, ?_⟩
  exact ((trim_blank_append hblank inline).trans h.trimmed.trim_eq).symm

/-- One blank separates a word from what follows. -/
theorem spaced_cons (word rest : List Char) : Spaced word rest (word ++ ' ' :: rest) :=
  ⟨[' '], by simp, by simp [Blank, isSpace], by simp⟩

/-! ### Blocks -/

/-- No row of a block is indented less than its title. -/
theorem le_indent_of_mem_blockRows {indent : Nat} {title : List Char} {body : List String}
    {row : Row} (h : row ∈ blockRows indent title body) : indent ≤ row.indent := by
  cases body with
  | nil =>
    obtain rfl := List.mem_singleton.mp h
    exact Nat.le_refl indent
  | cons first rest =>
    obtain rfl | hrow := List.mem_cons.mp h
    · exact Nat.le_refl indent
    · obtain ⟨line, -, rfl⟩ := List.mem_map.mp hrow
      exact Nat.le_add_right indent 4

/-- The rows of a block are lines when its title is a keyword and more. -/
theorem isLine_of_mem_blockRows {indent : Nat} {keyword rest : List Char} {body : List String}
    (hkeyword : IsLine keyword) (hrest : '\n' ∉ rest) (hbody : IsBody body) {row : Row}
    (h : row ∈ blockRows indent (keyword ++ rest) body) : IsLine row.content := by
  obtain ⟨hfirst, hbelow⟩ := hbody
  obtain rfl | hrow := List.mem_cons.mp h
  · have hline := hkeyword.append (show '\n' ∉ rest ++ [' '] by simp [hrest]) hfirst
    simpa using hline
  · obtain ⟨line, hline, rfl⟩ := List.mem_map.mp hrow
    exact hbelow line hline

/-- The lines of a body are read from the text behind the colon and the rows below. -/
theorem body_numbered {first : String} (hfirst : IsInline first.toList) (rest : List String)
    (line indent : Nat) :
    Body first.toList (numbered line (rest.map fun text => ⟨indent, text.toList⟩))
      (first :: rest) := by
  have hrest : (numbered line (rest.map fun text => ⟨indent, text.toList⟩)).map
      (fun source => String.ofList source.content) = rest := by
    induction rest generalizing line with
    | nil => rfl
    | cons text rest ih =>
      rw [List.map_cons, numbered_cons, List.map_cons, ih, String.ofList_toList]
  have hbody := Body.inline hfirst.trimmed.ne_nil
    (numbered line (rest.map fun text => ⟨indent, text.toList⟩))
  rwa [hrest, String.ofList_toList] at hbody

/-- **Blocks.** A title and a body make what the title, the first line of the body and that body
    make. -/
theorem makes_blockRows {β : Type} {R : SourceLine → List SourceLine → β → Prop} {indent line : Nat}
    {title : List Char} {body : List String} {b : β} (hbody : IsBody body)
    (h : ∀ inline below, IsInline inline → Body inline below body →
      R ⟨line, indent, title ++ ' ' :: inline⟩ below b) :
    Makes indent R line (blockRows indent title body) b := by
  obtain ⟨hfirst, -⟩ := hbody
  refine ⟨_, _, numbered_cons line _ _, rfl, fun source hsource => ?_,
    h _ _ hfirst (body_numbered hfirst _ _ _)⟩
  obtain ⟨row, hrow, hindent⟩ := exists_of_mem_numbered hsource
  obtain ⟨text, -, rfl⟩ := List.mem_map.mp hrow
  rw [hindent]
  exact Nat.lt_add_of_pos_right (by decide)

/-! ### Functions and methods -/

namespace Function.Lexical

variable {decl : Function}

/-- The parameters of a function are found again in its written parameter list. -/
theorem pieces_args (h : decl.Lexical) : pieces decl.args = decl.params.map String.toList := by
  refine pieces_intercalate fun param hparam => ?_
  obtain ⟨text, htext, rfl⟩ := List.mem_map.mp hparam
  exact h.params text htext

/-- A character of the written parameter list is in a parameter or in a separator. -/
theorem not_mem_args {c : Char} (hsep : c ∉ ", ".toList)
    (h : ∀ param ∈ decl.params, c ∉ param.toList) : c ∉ decl.args := by
  refine not_mem_intercalate hsep fun param hparam => ?_
  obtain ⟨text, htext, rfl⟩ := List.mem_map.mp hparam
  exact h text htext

/-- A written title is a signature. -/
theorem isSignature (h : decl.Lexical) {inline : List Char} (hinline : IsInline inline) :
    IsSignature (decl.title ++ ' ' :: inline)
      ⟨decl.name.toList, decl.params.map String.toList, inline⟩ := by
  refine ⟨[], decl.args, ':' :: ' ' :: inline, by simp [title], h.name, by simp [Blank], ?_,
    h.pieces_args.symm, opens_inline hinline⟩
  exact not_mem_args (by decide) fun param hparam => (h.params param hparam).close

/-- The rows of a function make it: a signature behind its keyword, and a body. -/
theorem makes (h : decl.Lexical) (keyword : String) (indent line : Nat) :
    Makes indent (fun head below made => ∃ s signature, Spaced keyword.toList s head.content ∧
        IsSignature s signature ∧ MakesFunction signature head below made)
      line (decl.rows keyword indent) (decl.number line) := by
  refine makes_blockRows h.body fun inline below hinline hbody => ?_
  refine ⟨_, _, ?_, h.isSignature hinline, ?_⟩
  · have hspaced := spaced_cons keyword.toList (decl.title ++ ' ' :: inline)
    simpa using hspaced
  · exact ⟨String.ofList_toList.symm, by simp [number], hbody, h.body.ne_nil, rfl⟩

/-- The rows of a function are significant lines. -/
theorem isLine_of_mem_rows (h : decl.Lexical) {keyword : String} (hkeyword : IsLine keyword.toList)
    {indent : Nat} {row : Row} (hrow : row ∈ decl.rows keyword indent) : IsLine row.content := by
  refine isLine_of_mem_blockRows hkeyword ?_ h.body hrow
  have hargs : '\n' ∉ decl.args :=
    not_mem_args (by decide) fun param hparam => (h.params param hparam).newline
  simp [title, newline_not_mem_of_isIdent h.name, hargs]

end Function.Lexical

/-- Where no line is indented less than the member lines, each group gives one method. -/
theorem Methods.of_grouped {lines : List SourceLine} {groups : List (SourceLine × List SourceLine)}
    {methods : List Function} {margin : Nat} (hindent : ∀ line ∈ lines, margin ≤ line.indent)
    (hgroups : Grouped (·.indent = margin) lines groups)
    (hmethods : List.Forall₂ (fun group method => ∃ signature,
      MemberLine group.1.content signature ∧ MakesFunction signature group.1 group.2 method)
      groups methods) : Methods lines methods := by
  cases groups with
  | nil =>
    obtain rfl := List.forall₂_nil_left_iff.mp hmethods
    rw [hgroups.lines_eq]
    exact .none
  | cons group groups =>
    -- the first line opens the first group, so its indentation is the margin
    have hfirst : group.1.indent = margin := hgroups.head group List.mem_cons_self
    have hlines : lines = group.1 :: (group.2 ++ groups.flatMap fun group => group.1 :: group.2) :=
      hgroups.lines_eq
    subst hfirst
    rw [hlines] at hindent hgroups ⊢
    exact .some hindent hgroups hmethods

/-- The rows of methods are indented. -/
theorem le_indent_of_mem_methodRows {methods : List Function} {first : Nat} {line : SourceLine}
    (h : line ∈ numbered first (methods.flatMap Function.methodRows)) : 4 ≤ line.indent := by
  obtain ⟨row, hrow, hindent⟩ := exists_of_mem_numbered h
  obtain ⟨method, -, hrow⟩ := List.mem_flatMap.mp hrow
  rw [hindent]
  exact le_indent_of_mem_blockRows hrow

/-- The rows of methods are read as these methods. -/
theorem methods_numbered {methods : List Function} (h : ∀ method ∈ methods, method.Lexical)
    (first : Nat) :
    Methods (numbered first (methods.flatMap Function.methodRows))
      (placed Function.methodRows Function.number first methods) := by
  obtain ⟨groups, hgroups, hmethods⟩ :=
    exists_grouped_numbered (fun method hmethod => (h method hmethod).makes "method" 4) first
  refine .of_grouped (fun line => le_indent_of_mem_methodRows) hgroups (hmethods.imp ?_)
  rintro group method ⟨s, signature, hspaced, hsignature, hmakes⟩
  exact ⟨signature, ⟨"method", by simp, s, hspaced, hsignature⟩, hmakes⟩

/-! ### Declarations -/

namespace Item

/-- **The rows of a declaration make that declaration**, wherever they are written. -/
theorem Lexical.makes {item : Item} (h : item.Lexical) (line : Nat) :
    Makes 0 Declares line item.rows (item.number line) := by
  cases h with
  | @server port _ hport =>
    have hread : IsPort (digits port) port :=
      readBounded_maxPort_eq_some_iff.mp (readBounded_digits hport)
    exact ⟨_, _, numbered_cons line _ _, rfl, by simp [numbered],
      .server (.server (spaced_cons _ _) hread)⟩
  | @endpoint decl hquote _ hbody =>
    refine makes_blockRows hbody fun inline below hinline hread => ?_
    have hhead : HeadLine ("endpoint".toList ++ ' ' :: decl.title ++ ' ' :: inline)
        (.endpoint decl.method decl.path.toList inline) := by
      have hspaced := spaced_cons "endpoint".toList (decl.method.name.toList ++ ' ' ::
        ('"' :: decl.path.toList ++ '"' :: ':' :: ' ' :: inline))
      refine .endpoint ?_ (spaced_cons _ _) hquote (opens_inline hinline)
      simpa [Endpoint.title] using hspaced
    have hdeclares : Declares ⟨line, 0, _⟩ _ _ := .endpoint hhead hread hbody.ne_nil
    rwa [String.ofList_toList] at hdeclares
  | @function decl hdecl =>
    -- A function is written like a method, with another keyword and no indentation.
    obtain ⟨head, below, hrows, hhead, hbelow, s, signature, hspaced, hsignature, hmakes⟩ :=
      hdecl.makes "func" 0 line
    exact ⟨head, below, hrows, hhead, hbelow, .function (.function hspaced hsignature) hmakes⟩
  | @classDecl decl hname hmethods =>
    have hhead : HeadLine decl.row.content (.classDecl decl.name.toList) :=
      .classDecl (spaced_cons _ _) hname ⟨[], [], by simp [Blank], rfl, rfl⟩
    refine ⟨_, _, numbered_cons line _ _, rfl, fun source hsource => ?_, ?_⟩
    · have hindent := le_indent_of_mem_methodRows hsource
      omega
    · have hdeclares : Declares ⟨line, 0, _⟩ _ _ := .classDecl hhead
        (methods_numbered hmethods (line + 1))
      rwa [String.ofList_toList] at hdeclares

/-- The rows of a declaration are significant lines. -/
theorem Lexical.isLine_of_mem_rows {item : Item} (h : item.Lexical) {row : Row}
    (hrow : row ∈ item.rows) : IsLine row.content := by
  cases h with
  | @server port _ hport =>
    rw [List.mem_singleton.mp hrow]
    have hline := (isLine_keyword "server" (by simp)).append
      (show '\n' ∉ [' '] by decide) (isInline_digits port)
    simpa using hline
  | @endpoint decl hquote hnewline hbody =>
    refine isLine_of_mem_blockRows (isLine_keyword "endpoint" (by simp)) ?_ hbody hrow
    simp [Endpoint.title, newline_not_mem_of_blankFree decl.method.blankFree_name, hnewline]
  | @function decl hdecl =>
    exact hdecl.isLine_of_mem_rows (isLine_keyword _ (by simp)) hrow
  | @classDecl decl hname hmethods =>
    obtain rfl | hrow := List.mem_cons.mp hrow
    · have hcolon : IsInline [':'] := ⟨.of_ends rfl rfl rfl rfl, by decide⟩
      have hline := (isLine_keyword "class" (by simp)).append
        (show '\n' ∉ ' ' :: decl.name.toList by simp [newline_not_mem_of_isIdent hname]) hcolon
      simpa [ClassDecl.row] using hline
    · obtain ⟨method, hmethod, hrow⟩ := List.mem_flatMap.mp hrow
      exact (hmethods method hmethod).isLine_of_mem_rows (isLine_keyword _ (by simp)) hrow

/-- The line number of a method is not written. -/
theorem methodRows_number (line : Nat) (method : Function) :
    (method.number line).methodRows = method.methodRows := rfl

/-- A line number that is forgotten does not matter. -/
theorem number_number (line : Nat) (method : Function) :
    (method.number line).number 0 = method.number 0 := rfl

/-- Rows do not show line numbers. -/
theorem rows_number (line : Nat) (item : Item) : (item.number line).rows = item.rows := by
  cases item with
  | server | endpoint | function => rfl
  | classDecl decl =>
    show decl.row :: (placed Function.methodRows Function.number (line + 1) decl.methods).flatMap
      Function.methodRows = decl.row :: decl.methods.flatMap Function.methodRows
    rw [List.flatMap_def, map_placed methodRows_number, ← List.flatMap_def]

/-- A declaration that is numbered has this number. -/
theorem line_number (line : Nat) (item : Item) : (item.number line).line = line := by
  cases item <;> rfl

/-- Numbering changes nothing but line numbers. -/
theorem unnumbered_number (line : Nat) (item : Item) :
    (item.number line).unnumbered = item.unnumbered := by
  cases item with
  | server | endpoint | function => rfl
  | classDecl decl =>
    show Item.classDecl ⟨decl.name, (placed Function.methodRows Function.number (line + 1)
      decl.methods).map (Function.number 0), 0⟩ = _
    rw [map_placed number_number]
    rfl

end Item

/-! ### Descriptions -/

namespace Service

variable {service : Service}

/-- The rows of a description are significant lines. -/
theorem isLine_of_mem_rows (h : ∀ item ∈ service.items, item.Lexical) :
    ∀ row ∈ service.rows, IsLine row.content := by
  intro row hrow
  obtain ⟨item, hitem, hrow⟩ := List.mem_flatMap.mp hrow
  exact (h item hitem).isLine_of_mem_rows hrow

/-- **The written form is read back**, with its own line numbers. -/
theorem parse_render_of_lexical (h : ∀ item ∈ service.items, item.Lexical) :
    Service.parse service.render = .ok service.renumbered := by
  apply parse_of_describes
  rw [render, String.toList_ofList, sourceLines_written (isLine_of_mem_rows h)]
  exact exists_grouped_numbered (fun item hitem => (h item hitem).makes) 1

/-- Renumbering changes only line numbers. -/
theorem unnumbered_renumbered (service : Service) :
    service.renumbered.items.map Item.unnumbered = service.items.map Item.unnumbered :=
  map_placed Item.unnumbered_number 1 service.items

/-- **Line numbers are lines of the written form.** Each declaration, and each method of it, stands
    there from its line on. -/
theorem standsAt_of_mem_renumbered (h : ∀ item ∈ service.items, item.Lexical) {item : Item}
    (hitem : item ∈ service.renumbered.items) :
    StandsAt service.render.toList item.line item.rows ∧
      ∀ method ∈ item.methods, StandsAt service.render.toList method.line method.methodRows := by
  have hlines := isLine_of_mem_rows h
  rw [render, String.toList_ofList]
  obtain ⟨source, before, after, rfl, hrows⟩ := exists_of_mem_placed hitem
  rw [Item.line_number, Item.rows_number, Nat.add_comm]
  refine ⟨standsAt_of_append hlines hrows, fun method hmethod => ?_⟩
  cases source with
  | server | endpoint | function => cases hmethod
  | classDecl decl =>
    obtain ⟨source, before', after', rfl, hmethods⟩ := exists_of_mem_placed hmethod
    -- the rows before the method are those before its class, the head and those of other methods
    have hsplit : service.rows =
        (before ++ decl.row :: before') ++ source.methodRows ++ (after' ++ after) := by
      rw [Service.rows, hrows, Item.rows, hmethods]
      simp
    have hstands := standsAt_of_append hlines hsplit
    have hline : (before ++ decl.row :: before').length + 1 =
        before.length + 1 + 1 + before'.length := by
      rw [List.length_append, List.length_cons]
      omega
    rw [hline] at hstands
    exact hstands

/-- **Reading is stable.** A description that has been read is read again from its written form. The
    two differ in line numbers only, and the new line numbers are the lines of the written form at
    which the declarations and methods stand. -/
theorem parse_render_of_parse {text : String} (h : Service.parse text = .ok service) :
    Service.parse service.render = .ok service.renumbered ∧
      service.renumbered.items.map Item.unnumbered = service.items.map Item.unnumbered ∧
      ∀ item ∈ service.renumbered.items,
        StandsAt service.render.toList item.line item.rows ∧
          ∀ method ∈ item.methods,
            StandsAt service.render.toList method.line method.methodRows := by
  have hlexical := lexical_of_parse h
  refine ⟨parse_render_of_lexical hlexical, unnumbered_renumbered service, ?_⟩
  exact fun item hitem => standsAt_of_mem_renumbered hlexical hitem

/-- The first line of a body may start with a `#`, which would make a line of its own a comment. -/
theorem parse_render_of_parse_inline :
    Service.parse "class  K :\n  func m( a ,, b ):# first\n      second\n\nserver +080" =
        .ok ⟨[.classDecl ⟨"K", [⟨"m", ["a", "b"], ["# first", "second"], 2⟩], 1⟩, .server 80 5]⟩ ∧
      Service.parse "class K:\n    method m(a, b): # first\n        second\nserver 80\n" =
        .ok ⟨[.classDecl ⟨"K", [⟨"m", ["a", "b"], ["# first", "second"], 2⟩], 1⟩, .server 80 4]⟩ := by
  have hread : Service.parse
      "class  K :\n  func m( a ,, b ):# first\n      second\n\nserver +080" =
      .ok ⟨[.classDecl ⟨"K", [⟨"m", ["a", "b"], ["# first", "second"], 2⟩], 1⟩, .server 80 5]⟩ := by
    decide +kernel
  have hrender : Service.render
      ⟨[.classDecl ⟨"K", [⟨"m", ["a", "b"], ["# first", "second"], 2⟩], 1⟩, .server 80 5]⟩ =
      "class K:\n    method m(a, b): # first\n        second\nserver 80\n" := by
    decide +kernel
  have hagain := (parse_render_of_parse hread).1
  rw [hrender] at hagain
  exact ⟨hread, hagain⟩

end Service

end ServiceLang
