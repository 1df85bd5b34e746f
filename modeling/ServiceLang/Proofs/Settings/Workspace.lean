import ServiceLang.Proofs.Files.Parent
import ServiceLang.Proofs.Settings.Template

namespace ServiceLang

open Text

/-!
# Commands in a workspace

A command can name a program of the workspace in two ways: as a relative path, which is seen from
the root of the workspace, or behind the variable for the root.

* `Path.Same`: two texts that name the same path;
* `Path.names_join`: the names of a path seen from another one;
* `expandCommand_of_literal`, `expandCommand_folder`: both kinds of commands, expanded;
* `resolveCommand_inside`: what both of them come to.
-/

namespace Path

/-- Whether a path starts with the directory that it is seen from. -/
def startsHere (p : String) : Bool := !isAbsolute p && (parts p).head? == some "."

/-- Two texts that name the same path: they start in the same way and have the same names. Doubled
    slashes, and the part `.` behind another one, do not count. -/
structure Same (p q : String) : Prop where
  isAbsolute_eq : isAbsolute p = isAbsolute q
  startsHere_eq : startsHere p = startsHere q
  names_eq : names p = names q

instance (p q : String) : Decidable (Same p q) :=
  decidable_of_iff
    (isAbsolute p = isAbsolute q ∧ startsHere p = startsHere q ∧ names p = names q)
    ⟨fun h => ⟨h.1, h.2.1, h.2.2⟩, fun h => ⟨h.isAbsolute_eq, h.startsHere_eq, h.names_eq⟩⟩

theorem Same.refl (p : String) : Same p p := ⟨rfl, rfl, rfl⟩

/-! ### Paths seen from a root -/

section Join

variable {root p : String} (hroot : root ≠ "") (hend : endsInSlash root = false)
  (hrelative : isAbsolute p = false)
include hroot hend hrelative

theorem join_eq_append : join root p = root ++ "/" ++ p := by
  simp [join, hroot, hend, hrelative]

theorem toList_join : (join root p).toList = root.toList ++ '/' :: p.toList := by
  rw [join_eq_append hroot hend hrelative, String.toList_append, String.toList_append,
    List.append_assoc]
  rfl

theorem isAbsolute_join : isAbsolute (join root p) = isAbsolute root := by
  unfold isAbsolute
  rw [toList_join hroot hend hrelative]
  cases hlist : root.toList with
  | nil => exact absurd (String.toList_eq_nil_iff.mp hlist) hroot
  | cons c s => rfl

theorem parts_join : parts (join root p) = parts root ++ parts p := by
  unfold parts
  rw [toList_join hroot hend hrelative, splitSlashes_append_slash, List.filter_append]

/-- The names of a path seen from a root are those of both. -/
theorem names_join : names (join root p) = names root ++ names p := by
  unfold names
  rw [parts_join hroot hend hrelative, List.filter_append]

/-- Seen from a relative root twice, a path is the same only if the root has no names. -/
theorem same_join_join_iff (hhere : isAbsolute root = false) :
    Same (join root (join root p)) (join root p) ↔ names root = [] := by
  have hinner : isAbsolute (join root p) = false := by
    rw [isAbsolute_join hroot hend hrelative, hhere]
  have hnames := names_join hroot hend hinner
  rw [names_join hroot hend hrelative] at hnames
  constructor
  · intro h
    have hsame := h.names_eq
    rw [hnames, names_join hroot hend hrelative, List.append_left_eq_self] at hsame
    exact hsame
  · intro h
    refine ⟨?_, ?_, ?_⟩
    · rw [isAbsolute_join hroot hend hinner, hinner, hhere]
    · -- both begin with the first part of the root, if it has one
      unfold startsHere
      rw [isAbsolute_join hroot hend hinner, hinner, hhere, parts_join hroot hend hinner,
        parts_join hroot hend hrelative]
      cases parts root <;> rfl
    · rw [hnames, names_join hroot hend hrelative, h, List.nil_append]

end Join

end Path

/-! ### Both kinds of commands -/

/-- A command without variables stays as it is. -/
theorem expandCommand_of_literal {s : List Char} (h : Literal s) (root : String) :
    expandCommand root s = .ok s := by
  have hexpand := expandCommand_text root ⟨[], s, none, h, by simp⟩
  simpa [Template.text, Template.openText, Template.expand, Template.variableNames,
    Template.expansion] using hexpand

/-- The variable for the root of the workspace. -/
def folderVariable : String := "$\x7bworkspaceFolder\x7d"

/-- Nothing, and the variable for the root behind it. -/
def folderStep : TemplateStep where
  literal := []
  name := "workspaceFolder".toList
  literal_plain := literal_nil
  name_closed := by decide

theorem folderStep_text : folderStep.text = folderVariable.toList := rfl

theorem folderStep_variableName : folderStep.variableName = "workspaceFolder" := rfl

/-- The root stands in the place of its variable, whatever it contains. -/
theorem expandCommand_folder {s : List Char} (h : Literal s) (root : String) :
    expandCommand root (folderVariable.toList ++ s) = .ok (root.toList ++ s) := by
  have hexpand := expandCommand_text root ⟨[folderStep], s, none, h, by simp⟩
  have hliteral : folderStep.literal = [] := rfl
  simpa [Template.text, Template.openText, folderStep_text, Template.expand,
    Template.variableNames, Template.expansion, folderStep_variableName, hliteral,
    workspaceVariables, workspaceValue] using hexpand

/-- A command without outer blanks, once it is expanded. -/
theorem resolveCommand_of_expandCommand {command root : String} {expanded : List Char}
    (htrim : trim command.toList = command.toList) (hne : command.toList ≠ [])
    (h : expandCommand root command.toList = .ok expanded) :
    resolveCommand (some command) root =
      .ok (if Path.isAbsolute (String.ofList expanded) || !expanded.contains '/' then
        String.ofList expanded else Path.join root (String.ofList expanded)) := by
  unfold resolveCommand
  rw [Option.getD_some, htrim]
  split
  case h_1 hnil => exact absurd hnil hne
  case h_2 =>
    rw [h]
    rfl

/-- **Inside a workspace.** A relative path is seen from the root. Behind the variable for the root
    it comes to the same path when the root is absolute or has no names; from any other root it is
    seen twice, since what the variable stands for is itself a relative path. -/
theorem resolveCommand_inside {root p : String} (hroot : root ≠ "")
    (hend : Path.endsInSlash root = false) (hrelative : Path.isAbsolute p = false)
    (hslash : '/' ∈ p.toList) (hplain : Literal p.toList) (htrim : trim p.toList = p.toList) :
    resolveCommand (some p) root = .ok (Path.join root p) ∧
      ∃ q, resolveCommand (some (folderVariable ++ "/" ++ p)) root = .ok q ∧
        (Path.isAbsolute root = true → q = Path.join root p) ∧
        (Path.isAbsolute root = false → q = Path.join root (Path.join root p)) ∧
        (Path.Same q (Path.join root p) ↔ Path.isAbsolute root = true ∨ Path.names root = []) := by
  have hne : p.toList ≠ [] := List.ne_nil_of_mem hslash
  constructor
  · have hexpand := expandCommand_of_literal hplain root
    rw [resolveCommand_of_expandCommand htrim hne hexpand]
    simp [hrelative, hslash]
  · have hliteral : Literal ('/' :: p.toList) := literal_cons_iff.mpr ⟨by simp, hplain⟩
    have hcommand : (folderVariable ++ "/" ++ p).toList =
        folderVariable.toList ++ '/' :: p.toList := by
      simp [String.toList_append]
    have hexpand := expandCommand_folder hliteral root
    rw [← hcommand] at hexpand
    -- the command begins with the variable and ends as the path does
    have htrimmed : trim (folderVariable ++ "/" ++ p).toList =
        (folderVariable ++ "/" ++ p).toList := by
      have hp : NoTrailingBlank p.toList := htrim ▸ noTrailingBlank_trim p.toList
      rw [hcommand]
      refine trim_eq_self (stopsAt_cons.mpr (by decide)) ?_
      exact (hp.append hne ['/']).append (by simp) _
    have hresolve := resolveCommand_of_expandCommand htrimmed (by rw [hcommand]; simp) hexpand
    have hjoin : String.ofList (root.toList ++ '/' :: p.toList) = Path.join root p := by
      rw [← Path.toList_join hroot hend hrelative, String.ofList_toList]
    rw [hjoin, Path.isAbsolute_join hroot hend hrelative] at hresolve
    cases habsolute : Path.isAbsolute root with
    | true =>
      refine ⟨Path.join root p, ?_, fun _ => rfl, by simp, ?_⟩
      · rw [hresolve]
        simp [habsolute]
      · exact iff_of_true (Path.Same.refl _) (.inl rfl)
    | false =>
      -- the expanded command is relative and has a slash, so it is seen from the root as well
      refine ⟨Path.join root (Path.join root p), ?_, by simp, fun _ => rfl, ?_⟩
      · rw [hresolve]
        simp [habsolute]
      · rw [Path.same_join_join_iff hroot hend hrelative habsolute]
        simp

/-- An absolute root that looks like a variable, and a root that is the directory itself. -/
theorem resolveCommand_inside_of_roots :
    (∃ q, resolveCommand (some (folderVariable ++ "/" ++ "./b\x7d/ls")) "/w$\x7bx\x7d" = .ok q ∧
        Path.Same q "/w$\x7bx\x7d/b\x7d/ls") ∧
      ∃ q, resolveCommand (some (folderVariable ++ "/" ++ "b/ls")) "./." = .ok q ∧
        Path.Same q "./b/ls" := by
  obtain ⟨-, q, hq, habsolute, -, -⟩ := @resolveCommand_inside "/w$\x7bx\x7d" "./b\x7d/ls"
    (by decide) (by decide) (by decide) (by decide) (by decide) (by decide)
  obtain ⟨-, q', hq', -, htwice, -⟩ := @resolveCommand_inside "./." "b/ls"
    (by decide) (by decide) (by decide) (by decide) (by decide) (by decide)
  refine ⟨⟨q, hq, ?_⟩, ⟨q', hq', ?_⟩⟩
  · rw [habsolute (by decide)]
    decide
  · rw [htwice (by decide)]
    decide

/-- A relative root that has a name stands twice before a path behind its variable. -/
theorem resolveCommand_inside_twice :
    Path.isAbsolute "bin/ls" = false ∧ Literal "bin/ls".toList ∧
      trim "bin/ls".toList = "bin/ls".toList ∧
      resolveCommand (some "bin/ls") "ws" = .ok "ws/bin/ls" ∧
      resolveCommand (some (folderVariable ++ "/" ++ "bin/ls")) "ws" = .ok "ws/ws/bin/ls" ∧
      ¬Path.Same "ws/ws/bin/ls" "ws/bin/ls" := by
  decide +kernel

end ServiceLang
