import ServiceLang.Feature.Hover
import ServiceLang.Proofs.Outline.Index
import ServiceLang.Proofs.Outline.Pattern
import ServiceLang.Proofs.Outline.Scan
import ServiceLang.Proofs.Service.Parse

namespace ServiceLang

open Text

/-!
# What words show

* `keywordCard?_eq_none_iff`: the six words with a fixed description;
* `Outline.nameCard?`: the text for a declared name, that of its last function or else its last class;
* `Outline.card?_of_nameCard?`: other words show that one when there is one;
* `Outline.isSome_card?_of_endpoint`: the path of an endpoint shows something;
* `Outline.card?_eq_none_of_quote`: a word with a quote in it shows nothing, since no keyword, name
  or path has one.
-/

/-! ### Keywords -/

/-- The words with a fixed description. -/
def keywords : List String := ["server", "endpoint", "func", "class", "GET", "POST"]

/-- Only keywords have cards of their own. -/
theorem keywordCard?_eq_none_iff {word : String} : keywordCard? word = none ↔ word ∉ keywords := by
  unfold keywordCard?
  split <;> simp_all [keywords]

/-- A keyword shows its description, whatever is declared. -/
theorem Outline.isSome_card?_of_keyword (outline : Outline) {word : String} (h : word ∈ keywords) :
    (outline.card? word).isSome := by
  rw [Outline.card?]
  cases hcard : keywordCard? word with
  | none => exact absurd h (keywordCard?_eq_none_iff.mp hcard)
  | some card => rfl

/-- A word that is no keyword is looked up in the index. -/
theorem Outline.card?_of_not_mem_keywords (outline : Outline) {word : String}
    (h : word ∉ keywords) : outline.card? word = (Index.ofOutline outline).card? word := by
  rw [Outline.card?, keywordCard?_eq_none_iff.mpr h]

/-! ### Declared names -/

/-- The methods of a class as they are listed, one line for each. -/
def methodList : List FunctionEntry → String
  | [] => ""
  | m :: rest => "\n- `" ++ m.name ++ "(" ++ m.args ++ ")`" ++ methodList rest

/-- What is to be read about a declared name. The last function of the name comes first: its name
    and parameters, and the line that declares it, counted from 1. Without one it is the last class
    of the name: the name, the line, and its methods. -/
def Outline.nameCard? (outline : Outline) (name : String) : Option String :=
  match (outline.functions.filter (·.name = name)).getLast?,
      (outline.classes.filter (·.name = name)).getLast? with
  | some f, _ => some ("**func** `" ++ f.name ++ "(" ++ f.args ++ ")`\n\nDeclared on line " ++
      toString (f.line + 1) ++ ".")
  | none, some c => some ("**class** `" ++ c.name ++ "`\n\nDeclared on line " ++
      toString (c.line + 1) ++ "." ++
      if c.methods = [] then "\n\nNo methods." else "\n\nMethods:" ++ methodList c.methods)
  | none, none => none

/-- The name of a function has a description. -/
theorem Outline.isSome_nameCard?_of_function {outline : Outline} {entry : FunctionEntry}
    (h : entry ∈ outline.functions) : (outline.nameCard? entry.name).isSome := by
  have hmem : entry ∈ outline.functions.filter (·.name = entry.name) :=
    List.mem_filter.mpr ⟨h, decide_eq_true rfl⟩
  rw [nameCard?, List.getLast?_eq_some_getLast (List.ne_nil_of_mem hmem)]
  rfl

/-- The name of a class has a description, that of a function if there is one of the name. -/
theorem Outline.isSome_nameCard?_of_class {outline : Outline} {entry : ClassEntry}
    (h : entry ∈ outline.classes) : (outline.nameCard? entry.name).isSome := by
  have hmem : entry ∈ outline.classes.filter (·.name = entry.name) :=
    List.mem_filter.mpr ⟨h, decide_eq_true rfl⟩
  rw [nameCard?, List.getLast?_eq_some_getLast (List.ne_nil_of_mem hmem)]
  cases (outline.functions.filter (·.name = entry.name)).getLast? <;> rfl

/-- A function shows its name, its parameters and its line. -/
theorem functionCard_eq (f : FunctionEntry) :
    functionCard f = "**func** `" ++ f.name ++ "(" ++ f.args ++ ")`\n\nDeclared on line " ++
      toString (f.line + 1) ++ "." := by
  have hline : ")`\n\nDeclared on line " = ")`\n\nDeclared on " ++ "line " := by decide
  show "**func** `" ++ f.name ++ "(" ++ f.args ++ ")`\n\nDeclared on " ++
    ("line " ++ toString (f.line + 1)) ++ "." = _
  simp only [hline, String.append_assoc]

/-- Methods are listed one after another. -/
theorem foldl_method_eq (methods : List FunctionEntry) (text : String) :
    methods.foldl (fun text m => text ++ s!"\n- `{m.name}({m.args})`") text =
      text ++ methodList methods := by
  induction methods generalizing text with
  | nil => exact String.append_empty.symm
  | cons m rest ih =>
    rw [List.foldl_cons, ih, methodList, String.append_assoc]
    rfl

/-- A class shows its name, its line and its methods. -/
theorem classCard_eq (c : ClassEntry) :
    classCard c = "**class** `" ++ c.name ++ "`\n\nDeclared on line " ++ toString (c.line + 1) ++
      "." ++ if c.methods = [] then "\n\nNo methods." else "\n\nMethods:" ++ methodList c.methods := by
  have hline : "`\n\nDeclared on line " = "`\n\nDeclared on " ++ "line " := by decide
  have hcard : classCard c = "**class** `" ++ c.name ++ "`\n\nDeclared on " ++
      ("line " ++ toString (c.line + 1)) ++ "." ++
      if c.methods = [] then "\n\nNo methods." else "\n\nMethods:" ++ methodList c.methods := by
    obtain ⟨name, line, span, methods⟩ := c
    cases methods with
    | nil => rfl
    | cons m rest =>
      rw [if_neg (List.cons_ne_nil m rest), ← foldl_method_eq]
      rfl
  rw [hcard]
  simp only [hline, String.append_assoc]

/-- **Names.** Functions come first, then classes, and the last declaration counts. -/
theorem Outline.card?_of_nameCard? {outline : Outline} {word card : String}
    (hword : word ∉ keywords) (h : outline.nameCard? word = some card) :
    outline.card? word = some card := by
  rw [card?_of_not_mem_keywords _ hword, Index.card?, Index.function?_ofOutline,
    Index.class?_ofOutline]
  rw [nameCard?] at h
  cases hfunction : (outline.functions.filter (·.name = word)).getLast? with
  | some f =>
    rw [hfunction] at h
    rw [← h]
    exact congrArg some (functionCard_eq f)
  | none =>
    cases hclass : (outline.classes.filter (·.name = word)).getLast? with
    | some c =>
      rw [hfunction, hclass] at h
      rw [← h]
      exact congrArg some (classCard_eq c)
    | none =>
      rw [hfunction, hclass] at h
      cases h

/-- The path of an endpoint shows something, its endpoints if nothing else. -/
theorem Outline.isSome_card?_of_endpoint {outline : Outline} {entry : EndpointEntry}
    (h : entry ∈ outline.endpoints) : (outline.card? entry.path).isSome := by
  by_cases hword : entry.path ∈ keywords
  · exact outline.isSome_card?_of_keyword hword
  · have hmem : entry ∈ (Index.ofOutline outline).endpointsAt entry.path := by
      rw [Index.endpointsAt_ofOutline]
      exact List.mem_filter.mpr ⟨h, decide_eq_true rfl⟩
    rw [card?_of_not_mem_keywords _ hword, Index.card?]
    split
    case h_5 hnil =>
      rw [hnil] at hmem
      exact absurd hmem List.not_mem_nil
    all_goals rfl

/-! ### Quotes -/

namespace Pattern

/-- A function line names an identifier. -/
theorem isIdent_of_callable? {keyword : String} {s : List Char} {found : List Char × List Char}
    (h : callable? keyword s = some found) : IsIdent found.1 := by
  obtain ⟨rest, -, h⟩ := Option.bind_eq_some_iff.mp h
  obtain ⟨⟨name, after⟩, hident, h⟩ := Option.bind_eq_some_iff.mp h
  obtain rfl := Option.some.inj h
  exact (takeIdent?_eq_some_iff.mp hident).1

theorem isIdent_of_method? {s : List Char} {found : List Char × List Char}
    (h : method? s = some found) : IsIdent found.1 := by
  rw [method?, Option.orElse_eq_orElse, Option.orElse_eq_or, Option.or_eq_some_iff] at h
  obtain h | ⟨-, h⟩ := h
  · exact isIdent_of_callable? h
  · exact isIdent_of_callable? h

theorem isIdent_of_class? {s name : List Char} (h : class? s = some name) : IsIdent name := by
  obtain ⟨rest, -, h⟩ := Option.bind_eq_some_iff.mp h
  obtain ⟨⟨found, after⟩, hident, h⟩ := Option.bind_eq_some_iff.mp h
  obtain rfl := Option.some.inj h
  exact (takeIdent?_eq_some_iff.mp hident).1

/-- A path ends before a quote, whether it is quoted or not. -/
theorem quote_not_mem_of_path? {s path : List Char} (h : path? s = some path) : '"' ∉ path := by
  unfold path? at h
  intro hquote
  split at h
  case h_1 =>
    obtain rfl := Option.some.inj h
    exact absurd (List.mem_takeWhile_imp hquote) (by decide)
  case h_2 =>
    split at h
    case h_1 => simp at h
    case h_2 =>
      obtain rfl := Option.some.inj h
      exact absurd (List.mem_takeWhile_imp hquote) (by decide)

/-- There is no quote in the path of an endpoint line. -/
theorem quote_not_mem_of_endpoint? {s : List Char} {found : List Char × List Char}
    (h : endpoint? s = some found) : '"' ∉ found.2 := by
  obtain ⟨rest, -, h⟩ := Option.bind_eq_some_iff.mp h
  simp only at h
  split at h
  case h_2 => simp at h
  case h_1 =>
    split at h
    case isFalse => simp at h
    case isTrue =>
      obtain ⟨path, hpath, rfl⟩ := Option.map_eq_some_iff.mp h
      exact quote_not_mem_of_path? hpath

end Pattern

/-- No element is left when none has the key. -/
theorem filter_eq_nil_of_ne {α : Type} {as : List α} {f : α → String} {key : String}
    (h : ∀ a ∈ as, f a ≠ key) : as.filter (f · = key) = [] :=
  List.filter_eq_nil_iff.mpr fun a ha => by simpa using h a ha

/-- **Quotes.** A word with a quote in it shows nothing. -/
theorem Outline.card?_eq_none_of_quote {lines : List (List Char)} {outline : Outline}
    (h : IsOutline lines outline) {word : String} (hquote : '"' ∈ word.toList) :
    outline.card? word = none := by
  have hkeyword : word ∉ keywords := by
    have hplain : ∀ k ∈ keywords, k.toList.contains '"' = false := by decide
    intro hmem
    have hnot := hplain word hmem
    rw [List.contains_iff_mem.mpr hquote] at hnot
    exact absurd hnot (by decide)
  -- The names of an outline are identifiers and its paths are quoted: none has a quote in it.
  have hident : ∀ name : String, IsIdent name.toList → name ≠ word := by
    rintro name hname rfl
    exact hname.not_mem (by decide) hquote
  have hfunctions : outline.functions.filter (·.name = word) = [] := by
    refine filter_eq_nil_of_ne fun entry hentry => ?_
    obtain ⟨i, -, hfunction⟩ := exists_left_of_forall₂ h.functions hentry
    exact hident _ (Pattern.isIdent_of_callable? hfunction.found)
  have hclasses : outline.classes.filter (·.name = word) = [] := by
    refine filter_eq_nil_of_ne fun entry hentry => ?_
    obtain ⟨i, -, hclass⟩ := exists_left_of_forall₂ h.classes hentry
    exact hident _ (Pattern.isIdent_of_class? hclass.name)
  have hmethods : (outline.classes.flatMap Index.sites).filter (·.method.name = word) = [] := by
    refine filter_eq_nil_of_ne fun site hsite => ?_
    obtain ⟨entry, hentry, hsite⟩ := List.mem_flatMap.mp hsite
    obtain ⟨method, hmethod, rfl⟩ := List.mem_map.mp hsite
    obtain ⟨i, -, hclass⟩ := exists_left_of_forall₂ h.classes hentry
    obtain ⟨j, -, hfunction⟩ := exists_left_of_forall₂ hclass.methods hmethod
    exact hident _ (Pattern.isIdent_of_method? hfunction.found)
  have hendpoints : outline.endpoints.filter (·.path = word) = [] := by
    refine filter_eq_nil_of_ne fun entry hentry => ?_
    obtain ⟨i, -, hendpoint⟩ := exists_left_of_forall₂ h.endpoints hentry
    rintro rfl
    exact Pattern.quote_not_mem_of_endpoint? hendpoint.found hquote
  rw [card?_of_not_mem_keywords _ hkeyword, Index.card?, Index.function?_ofOutline,
    Index.class?_ofOutline, Index.methodSites_ofOutline, Index.endpointsAt_ofOutline, hfunctions,
    hclasses, hmethods, hendpoints]
  rfl

/-! ### Places -/

/-- What a place shows is what the word there shows. -/
theorem hoverAt_of_wordUnder {text : String} {p : Position} {word : List Char}
    (h : wordUnder text.toList p.line.toNat p.character.toNat = some word) :
    hoverAt text p =
      ((Outline.ofText text).card? (String.ofList word)).map (⟨.markdown ·, none⟩) := by
  rw [hoverAt, h, Option.bind_eq_bind, Option.bind_some, Option.map_eq_bind]
  rfl

end ServiceLang
