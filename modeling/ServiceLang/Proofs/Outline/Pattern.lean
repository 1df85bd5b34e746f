import Mathlib.Data.List.TakeWhile
import ServiceLang.Proofs.Outline.Blocks
import ServiceLang.Proofs.Text.Scan

namespace ServiceLang

open Text

/-!
# Patterns and spans of lines

* `Pattern.match_cases`: a line matches at most one of the patterns tried outside classes;
* `opensClass_iff`: so the class pattern alone makes a line one that opens a class;
* `placed_ofContent`: the content span of a line that is not blank.
-/

/-! ### Patterns -/

namespace Pattern

/-- A keyword pattern matches only texts that start as the keyword does. -/
theorem head?_of_afterKeyword? {keyword : String} {s rest : List Char} {c : Char}
    (h : afterKeyword? keyword s = some rest) (hc : keyword.toList.head? = some c) :
    s.head? = some c := by
  rw [afterKeyword?] at h
  split at h
  case h_1 hstrip => rw [strip?_eq_some_iff.mp hstrip, List.head?_append, hc, Option.some_or]
  case h_2 => simp at h

/-- A server line starts with the first letter of its keyword. -/
theorem head?_of_server? {s run : List Char} (h : server? s = some run) :
    s.head? = some 's' := by
  obtain ⟨rest, hrest, -⟩ := Option.bind_eq_some_iff.mp h
  exact head?_of_afterKeyword? hrest (by decide)

theorem head?_of_endpoint? {s : List Char} {found : List Char × List Char}
    (h : endpoint? s = some found) : s.head? = some 'e' := by
  obtain ⟨rest, hrest, -⟩ := Option.bind_eq_some_iff.mp h
  exact head?_of_afterKeyword? hrest (by decide)

theorem head?_of_callable? {keyword : String} {s : List Char} {found : List Char × List Char}
    {c : Char} (h : callable? keyword s = some found) (hc : keyword.toList.head? = some c) :
    s.head? = some c := by
  obtain ⟨rest, hrest, -⟩ := Option.bind_eq_some_iff.mp h
  exact head?_of_afterKeyword? hrest hc

theorem head?_of_class? {s name : List Char} (h : class? s = some name) :
    s.head? = some 'c' := by
  obtain ⟨rest, hrest, -⟩ := Option.bind_eq_some_iff.mp h
  exact head?_of_afterKeyword? hrest (by decide)

/-- The patterns tried outside classes, of which a text matches at most one. -/
inductive Match (s : List Char) : Prop where
  | none (hserver : server? s = none) (hendpoint : endpoint? s = none)
      (hfunction : callable? "func" s = none) (hclass : class? s = none)
  | server {run : List Char} (hserver : server? s = some run) (hendpoint : endpoint? s = none)
      (hfunction : callable? "func" s = none) (hclass : class? s = none)
  | endpoint {found : List Char × List Char} (hserver : server? s = none)
      (hendpoint : endpoint? s = some found) (hfunction : callable? "func" s = none)
      (hclass : class? s = none)
  | function {found : List Char × List Char} (hserver : server? s = none)
      (hendpoint : endpoint? s = none) (hfunction : callable? "func" s = some found)
      (hclass : class? s = none)
  | classDecl {name : List Char} (hserver : server? s = none) (hendpoint : endpoint? s = none)
      (hfunction : callable? "func" s = none) (hclass : class? s = some name)

/-- A line with another first letter does not have the pattern. -/
theorem eq_none_of_head? {α : Type} {pattern : List Char → Option α} {s : List Char} {c d : Char}
    (hpattern : ∀ found, pattern s = some found → s.head? = some d) (hs : s.head? = some c)
    (hne : c ≠ d) : pattern s = none := by
  refine Option.eq_none_iff_forall_ne_some.mpr fun found hfound => hne ?_
  rw [hpattern found hfound, Option.some.injEq] at hs
  exact hs.symm

/-- The keywords start with different letters, so no two of the patterns match one text. -/
theorem match_cases (s : List Char) : Match s := by
  have hfunc : ∀ found, callable? "func" s = some found → s.head? = some 'f' :=
    fun _ h => head?_of_callable? h (by decide)
  have hclassDecl : ∀ name, class? s = some name → s.head? = some 'c' :=
    fun _ => head?_of_class?
  cases hserver : server? s with
  | some run =>
    have hs := head?_of_server? hserver
    exact .server hserver (eq_none_of_head? (fun _ => head?_of_endpoint?) hs (by decide))
      (eq_none_of_head? hfunc hs (by decide)) (eq_none_of_head? hclassDecl hs (by decide))
  | none =>
    cases hendpoint : endpoint? s with
    | some found =>
      have hs := head?_of_endpoint? hendpoint
      exact .endpoint hserver hendpoint (eq_none_of_head? hfunc hs (by decide))
        (eq_none_of_head? hclassDecl hs (by decide))
    | none =>
      cases hfunction : callable? "func" s with
      | some found =>
        exact .function hserver hendpoint hfunction
          (eq_none_of_head? hclassDecl (hfunc found hfunction) (by decide))
      | none =>
        cases hclass : class? s with
        | some name => exact .classDecl hserver hendpoint hfunction hclass
        | none => exact .none hserver hendpoint hfunction hclass

end Pattern

/-! ### Lines and spans -/

/-- A line is blank when nothing is left of it. -/
theorem isBlank_iff {line : List Char} : isBlank line = true ↔ trimStart line = [] := by
  rw [isBlank, List.all_eq_true, trimStart, List.dropWhile_eq_nil_iff]

/-- A line that is not blank is indented less than it is long without its trailing blanks. -/
theorem indentation_le_trimEnd {line : List Char} (h : isBlank line = false) :
    indentation line ≤ (trimEnd line).length := by
  cases hcontent : trimStart line with
  | nil => simp [isBlank_iff.mpr hcontent] at h
  | cons c rest =>
    obtain ⟨hline, -, hc⟩ := (takeWhile_dropWhile_iff (p := isSpace)).mp ⟨rfl, hcontent⟩
    -- trailing blanks are dropped up to `c` at most, and the indentation stands before it
    have hreverse : line.reverse = rest.reverse ++ c :: (line.takeWhile isSpace).reverse := by
      conv_lhs => rw [hline]
      simp
    have hdrop := dropWhile_append_cons (stopsAt_cons.mp hc) rest.reverse
      (line.takeWhile isSpace).reverse
    rw [← hreverse] at hdrop
    simp only [indentation, trimEnd, hdrop, List.length_reverse, List.length_append,
      List.length_cons]
    omega

/-- The entry of a line spans its content. -/
theorem placed_ofContent {lines : List (List Char)} {i : Nat}
    (h : isBlank (lineAt lines i) = false) :
    Placed lines i i (.ofContent (lineAt lines i)) := by
  have hle := indentation_le_trimEnd h
  refine ⟨rfl, ?_, ?_⟩ <;> simp only [Span.ofContent, Span.between] <;> omega

/-- A line with something behind its indentation is not blank. -/
theorem isBlank_of_match {α : Type} {pattern : List Char → Option α} {line : List Char} {found : α}
    (hnil : pattern [] = none) (h : pattern (trimStart line) = some found) :
    isBlank line = false := by
  rw [← Bool.not_eq_true, isBlank_iff]
  intro hblank
  rw [hblank, hnil] at h
  contradiction

/-- The class pattern alone makes a line one that opens a class. -/
theorem opensClass_iff {line : List Char} :
    OpensClass line ↔ (Pattern.class? (trimStart line)).isSome := by
  constructor
  · exact fun h => h.2.1
  · intro h
    cases Pattern.match_cases (trimStart line) with
    | classDecl hserver hendpoint hfunction hclass =>
      exact ⟨isBlank_of_match rfl hclass, h, hserver, hendpoint, hfunction⟩
    | none _ _ _ hclass => simp [hclass] at h
    | server _ _ _ hclass => simp [hclass] at h
    | endpoint _ _ _ hclass => simp [hclass] at h
    | function _ _ _ hclass => simp [hclass] at h

end ServiceLang
