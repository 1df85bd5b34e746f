import Mathlib.Data.List.Infix
import ServiceLang.Settings.Command

namespace ServiceLang

/-!
# Commands as templates

A command is made of literal texts with variables between them, and of a variable at its end that
may be left open.

* `Literal`: a text in which no variable opens;
* `Template`, `Template.text`: the parts of a command, and the command that they make up;
* `Template.segments_text`: the parser of commands finds these parts;
* `Template.exists_text_eq`, `Template.text_injective`: every command has its parts, and only one
  choice of them;
* `Template.expand`: the parts with the values of the variables, or the first unknown one;
* `expandCommand_text`: a command is expanded part by part.
-/

/-- The characters that open a variable. -/
def variableOpening : List Char := ['$', '\x7b']

/-- A text in which no variable opens. -/
def Literal (s : List Char) : Prop := ¬variableOpening <:+: s

instance (s : List Char) : Decidable (Literal s) :=
  inferInstanceAs (Decidable (¬variableOpening <:+: s))

/-- A literal text and the variable behind it. -/
@[ext]
structure TemplateStep where
  literal : List Char
  name : List Char
  literal_plain : Literal literal
  name_closed : '\x7d' ∉ name

/-- The parts of a command: literal texts, each with the variable behind it, the last literal text,
    and what stands in a variable that is never closed, if there is one. -/
@[ext]
structure Template where
  steps : List TemplateStep
  last : List Char
  openName : Option (List Char)
  last_plain : Literal last
  openName_unclosed : ∀ name ∈ openName, '\x7d' ∉ name

/-- The text of a literal text and its variable. -/
def TemplateStep.text (step : TemplateStep) : List Char :=
  step.literal ++ variableOpening ++ step.name ++ ['\x7d']

/-- The name of the variable of a step. -/
def TemplateStep.variableName (step : TemplateStep) : String := String.ofList step.name

namespace Template

/-- The text of the variable that is never closed. -/
def openText (t : Template) : List Char := t.openName.elim [] (variableOpening ++ ·)

/-- The command that a template makes up. -/
def text (t : Template) : List Char := t.steps.flatMap TemplateStep.text ++ t.last ++ t.openText

/-- The names of the variables of a template, in their order. -/
def variableNames (t : Template) : List String := t.steps.map TemplateStep.variableName

end Template

/-- The variables that a command can use. -/
def workspaceVariables : List String :=
  ["workspaceFolder", "workspaceRoot", "workspaceFolderBasename"]

/-- What the variables of a workspace stand for: one of them for the last name of its root, and the
    others for the root itself. -/
def workspaceValue (root name : String) : String :=
  if name = "workspaceFolderBasename" then (Path.fileName? root).getD "" else root

namespace Template

/-- A template with the values of its variables. -/
def expansion (root : String) (t : Template) : List Char :=
  t.steps.flatMap (fun step => step.literal ++ (workspaceValue root step.variableName).toList) ++
    t.last ++ t.openText

/-- A template with the values of its variables, or the first variable that does not exist. -/
def expand (root : String) (t : Template) : Except SettingsError (List Char) :=
  match t.variableNames.find? (· ∉ workspaceVariables) with
  | some name => .error (.unknownVariable name)
  | none => .ok (t.expansion root)

end Template

/-! ### Literal texts -/

theorem literal_nil : Literal [] := by
  intro h
  have hnil := List.eq_nil_of_infix_nil h
  simp [variableOpening] at hnil

/-- A text begins no variable when its first character does not and the rest does not. -/
theorem literal_cons_iff {c : Char} {s : List Char} :
    Literal (c :: s) ↔ ¬(c = '$' ∧ s.head? = some '\x7b') ∧ Literal s := by
  have hstart : variableOpening <+: c :: s ↔ c = '$' ∧ s.head? = some '\x7b' := by
    cases s <;> simp [variableOpening, List.cons_prefix_cons, eq_comm]
  unfold Literal
  rw [List.infix_cons_iff, not_or, hstart]

/-- A text is literal, or literal up to the first variable that opens in it. -/
theorem literal_or_exists (s : List Char) :
    Literal s ∨ ∃ front rest, s = front ++ variableOpening ++ rest ∧ Literal front := by
  induction s with
  | nil => exact .inl literal_nil
  | cons c s ih =>
    by_cases hopen : c = '$' ∧ s.head? = some '\x7b'
    · obtain ⟨rfl, hhead⟩ := hopen
      obtain ⟨rest, rfl⟩ := List.head?_eq_some_iff.mp hhead
      exact .inr ⟨[], rest, rfl, literal_nil⟩
    · obtain hs | ⟨front, rest, rfl, hfront⟩ := ih
      · exact .inl (literal_cons_iff.mpr ⟨hopen, hs⟩)
      · refine .inr ⟨c :: front, rest, rfl, literal_cons_iff.mpr ⟨?_, hfront⟩⟩
        -- where the literal text goes on it starts as the whole does
        rintro ⟨hc, hhead⟩
        apply hopen
        refine ⟨hc, ?_⟩
        simp [List.head?_append, hhead]

/-! ### The parts that the parser finds -/

/-- A literal text is read character by character, unless what follows completes an opening. -/
theorem segmentsFrom_literal {s : List Char} (hs : Literal s) {rest : List Char}
    (hrest : rest.head? ≠ some '\x7b') :
    segmentsFrom none (s ++ rest) = s.map .char ++ segmentsFrom none rest := by
  induction s with
  | nil => rfl
  | cons c s ih =>
    obtain ⟨hopen, hs⟩ := literal_cons_iff.mp hs
    -- the opening would stand in the literal text, or go on into what follows it
    have hnot : ∀ after, c = '$' → s ++ rest ≠ '\x7b' :: after := by
      intro after hc heq
      cases s with
      | nil =>
        apply hrest
        rw [← List.nil_append rest, heq]
        rfl
      | cons d s => exact hopen ⟨hc, by rw [← (List.cons.inj heq).1]; rfl⟩
    rw [List.cons_append, segmentsFrom, ih hs, List.map_cons, List.cons_append]
    exact fun after hc heq => hnot after hc heq

/-- A variable is read up to its closing brace. -/
theorem segmentsFrom_name {name : List Char} (hname : '\x7d' ∉ name) (reversed rest : List Char) :
    segmentsFrom (some reversed) (name ++ '\x7d' :: rest) =
      .variable (reversed.reverse ++ name) :: segmentsFrom none rest := by
  induction name generalizing reversed with
  | nil => simp [segmentsFrom]
  | cons c name ih =>
    rw [List.mem_cons, not_or] at hname
    rw [List.cons_append, segmentsFrom, if_neg (Ne.symm hname.1), ih hname.2]
    simp

/-- Without a closing brace a variable takes the whole rest. -/
theorem segmentsFrom_open {name : List Char} (hname : '\x7d' ∉ name) (reversed : List Char) :
    segmentsFrom (some reversed) name = [.unfinished (reversed.reverse ++ name)] := by
  induction name generalizing reversed with
  | nil => simp [segmentsFrom]
  | cons c name ih =>
    rw [List.mem_cons, not_or] at hname
    rw [segmentsFrom, if_neg (Ne.symm hname.1), ih hname.2]
    simp

/-- A dollar sign with a brace begins the name of a variable. -/
theorem segmentsFrom_opening (s : List Char) :
    segmentsFrom none (variableOpening ++ s) = segmentsFrom (some []) s := rfl

/-- The segments of a literal text and its variable. -/
def TemplateStep.segments (step : TemplateStep) : List Segment :=
  step.literal.map .char ++ [.variable step.name]

namespace Template

/-- The segments of the variable that is never closed. -/
def openSegments (t : Template) : List Segment := (t.openName.map .unfinished).toList

/-- The segments of a template. -/
def segments (t : Template) : List Segment :=
  t.steps.flatMap TemplateStep.segments ++ (t.last.map .char ++ t.openSegments)

/-- A variable that is never closed is found at the end. -/
theorem segmentsFrom_openText (t : Template) : segmentsFrom none t.openText = t.openSegments := by
  unfold openText openSegments
  cases h : t.openName with
  | none => rfl
  | some name =>
    show segmentsFrom none (variableOpening ++ name) = [.unfinished name]
    rw [segmentsFrom_opening, segmentsFrom_open (t.openName_unclosed name h)]
    rfl

/-- A literal text and the variable behind it are found, and then the rest. -/
theorem segmentsFrom_step (step : TemplateStep) (rest : List Char) :
    segmentsFrom none (step.text ++ rest) = step.segments ++ segmentsFrom none rest := by
  have hsplit : step.text ++ rest =
      step.literal ++ (variableOpening ++ (step.name ++ '\x7d' :: rest)) := by
    simp [TemplateStep.text]
  rw [hsplit, segmentsFrom_literal step.literal_plain (by simp [variableOpening]),
    segmentsFrom_opening, segmentsFrom_name step.name_closed]
  simp [TemplateStep.segments]

/-- **Parts.** The parser finds the parts that make up a command. -/
theorem segments_text (t : Template) : ServiceLang.segments t.text = t.segments := by
  have hend : segmentsFrom none (t.last ++ t.openText) = t.last.map .char ++ t.openSegments := by
    rw [segmentsFrom_literal t.last_plain, segmentsFrom_openText]
    unfold openText
    cases t.openName <;> simp [variableOpening]
  unfold ServiceLang.segments text segments
  rw [List.append_assoc, ← hend]
  induction t.steps with
  | nil => rfl
  | cons step steps ih =>
    rw [List.flatMap_cons, List.flatMap_cons, List.append_assoc, List.append_assoc,
      segmentsFrom_step, ih]

/-! ### One choice of parts -/

/-- Characters up to something that is no character are the same when the segments are. -/
theorem chars_append_inj {s s' : List Char} {rest rest' : List Segment}
    (hrest : ∀ c, rest.head? ≠ some (.char c)) (hrest' : ∀ c, rest'.head? ≠ some (.char c))
    (h : s.map Segment.char ++ rest = s'.map .char ++ rest') : s = s' ∧ rest = rest' := by
  induction s generalizing s' with
  | nil =>
    cases s' with
    | nil => exact ⟨rfl, h⟩
    | cons c s' =>
      refine absurd ?_ (hrest c)
      rw [← List.nil_append rest]
      exact congrArg List.head? h
  | cons c s ih =>
    cases s' with
    | nil =>
      refine absurd ?_ (hrest' c)
      rw [← List.nil_append rest']
      exact (congrArg List.head? h).symm
    | cons c' s' =>
      obtain ⟨hc, htail⟩ := List.cons.inj h
      obtain ⟨rfl, hsame⟩ := ih htail
      exact ⟨by rw [Segment.char.inj hc], hsame⟩

/-- A variable that is never closed is no character. -/
theorem head?_openSegments_ne (t : Template) (c : Char) :
    t.openSegments.head? ≠ some (.char c) := by
  unfold openSegments
  cases t.openName <;> simp

/-- The parts that are found tell the template. -/
theorem segments_injective {t u : Template} (h : t.segments = u.segments) : t = u := by
  obtain ⟨steps, last, openName, hlast, hopen⟩ := t
  obtain ⟨steps', last', openName', hlast', hopen'⟩ := u
  have hne := head?_openSegments_ne ⟨steps, last, openName, hlast, hopen⟩
  have hne' := head?_openSegments_ne ⟨steps', last', openName', hlast', hopen'⟩
  unfold segments openSegments at h
  unfold openSegments at hne hne'
  dsimp only at h hne hne'
  induction steps generalizing steps' with
  | nil =>
    cases steps' with
    | nil =>
      obtain ⟨rfl, hsame⟩ := chars_append_inj hne hne' h
      cases openName <;> cases openName' <;> simp at hsame ⊢
      exact hsame
    | cons step' steps' =>
      -- one command goes on with a variable, the other has none that is closed
      rw [List.flatMap_cons, TemplateStep.segments, List.append_assoc, List.append_assoc] at h
      obtain ⟨-, hsame⟩ := chars_append_inj hne (by simp) h
      cases openName <;> simp at hsame
  | cons step steps ih =>
    rw [List.flatMap_cons, TemplateStep.segments, List.append_assoc, List.append_assoc] at h
    cases steps' with
    | nil =>
      obtain ⟨-, hsame⟩ := chars_append_inj (by simp) hne' h
      cases openName' <;> simp at hsame
    | cons step' steps' =>
      rw [List.flatMap_cons, TemplateStep.segments, List.append_assoc, List.append_assoc] at h
      obtain ⟨hliteral, hsame⟩ := chars_append_inj (by simp) (by simp) h
      obtain ⟨hname, hrest⟩ := List.cons.inj hsame
      have hsteps := ih steps' hrest
      have hstep : step = step' := TemplateStep.ext hliteral (Segment.variable.inj hname)
      simp only [Template.mk.injEq] at hsteps ⊢
      exact ⟨by rw [hstep, hsteps.1], hsteps.2⟩

/-- **Uniqueness.** Two templates that make up the same command are the same. -/
theorem text_injective {t u : Template} (h : t.text = u.text) : t = u := by
  apply segments_injective
  rw [← segments_text, ← segments_text, h]

/-- **Existence.** Every command is made up by a template. -/
theorem exists_text_eq (raw : List Char) : ∃ t : Template, t.text = raw := by
  -- on the length: what follows the first variable is a command of its own
  induction hlength : raw.length using Nat.strong_induction_on generalizing raw with
  | _ n ih =>
    obtain hraw | ⟨front, rest, rfl, hfront⟩ := literal_or_exists raw
    · refine ⟨⟨[], raw, none, hraw, by simp⟩, ?_⟩
      simp [text, openText]
    · by_cases hclosed : '\x7d' ∈ rest
      · obtain ⟨name, after, rfl, hname⟩ := List.eq_append_cons_of_mem hclosed
        obtain ⟨t, rfl⟩ := ih after.length (by simp [← hlength]; omega) after rfl
        refine ⟨{ t with steps := ⟨front, name, hfront, hname⟩ :: t.steps }, ?_⟩
        simp [text, openText, TemplateStep.text]
      · refine ⟨⟨[], front, some rest, hfront, ?_⟩, ?_⟩
        · intro name hname
          rwa [← Option.mem_some.mp hname]
        · simp [text, openText]

end Template

/-! ### Expansion -/

/-- The variables of the workspace have values, and no others have. -/
theorem variableValue?_eq_ite (root name : String) :
    variableValue? root name =
      if name ∈ workspaceVariables then some (workspaceValue root name) else none := by
  unfold variableValue? workspaceVariables workspaceValue
  by_cases hfolder : name = "workspaceFolder"
  · subst hfolder
    simp
  · by_cases hroot : name = "workspaceRoot"
    · subst hroot
      simp
    · by_cases hbase : name = "workspaceFolderBasename" <;> simp [hfolder, hroot, hbase]

/-- A variable has a value exactly when it is one of the workspace's. -/
theorem TemplateStep.expand_variable (root : String) (step : TemplateStep) :
    (Segment.variable step.name).expand root =
      if step.variableName ∈ workspaceVariables then
        .ok (workspaceValue root step.variableName).toList
      else .error (.unknownVariable step.variableName) := by
  rw [Segment.expand, TemplateStep.variableName, variableValue?_eq_ite]
  by_cases hknown : String.ofList step.name ∈ workspaceVariables <;> simp [hknown]

/-- The text of a part goes in front. -/
theorem expandSegments_cons_ok {root : String} {segment : Segment} {part : List Char}
    (h : segment.expand root = .ok part) (rest : List Segment) :
    expandSegments root (segment :: rest) = (part ++ ·) <$> expandSegments root rest := by
  unfold expandSegments
  rw [List.mapM_cons, h]
  cases rest.mapM (Segment.expand root) <;> rfl

/-- The error of a part ends the expansion. -/
theorem expandSegments_cons_error {root : String} {segment : Segment} {e : SettingsError}
    (h : segment.expand root = .error e) (rest : List Segment) :
    expandSegments root (segment :: rest) = .error e := by
  unfold expandSegments
  rw [List.mapM_cons, h]
  rfl

/-- Literal characters stay. -/
theorem expandSegments_chars (root : String) (s : List Char) (rest : List Segment) :
    expandSegments root (s.map .char ++ rest) = (s ++ ·) <$> expandSegments root rest := by
  induction s with
  | nil =>
    rw [List.map_nil, List.nil_append]
    cases expandSegments root rest <;> rfl
  | cons c s ih =>
    rw [List.map_cons, List.cons_append, expandSegments_cons_ok rfl, ih]
    cases expandSegments root rest <;> rfl

namespace Template

/-- A variable that is never closed stays as it is written. -/
theorem expandSegments_openSegments (root : String) (t : Template) :
    expandSegments root t.openSegments = .ok t.openText := by
  unfold openSegments openText
  cases t.openName with
  | none => rfl
  | some name =>
    show expandSegments root [.unfinished name] = _
    rw [expandSegments_cons_ok rfl]
    show Except.ok (variableOpening ++ name ++ []) = _
    rw [List.append_nil]
    rfl

/-- The segments of a template have its text with the values of the variables, or the error of its
    first unknown variable. -/
theorem expandSegments_segments (root : String) (t : Template) :
    expandSegments root t.segments = t.expand root := by
  unfold segments expand variableNames expansion
  induction t.steps with
  | nil =>
    rw [List.flatMap_nil, List.nil_append, expandSegments_chars, expandSegments_openSegments]
    rfl
  | cons step steps ih =>
    rw [List.flatMap_cons, TemplateStep.segments, List.append_assoc, List.append_assoc,
      expandSegments_chars, List.singleton_append, List.map_cons]
    have hstep := step.expand_variable root
    by_cases hknown : step.variableName ∈ workspaceVariables
    · rw [if_pos hknown] at hstep
      rw [expandSegments_cons_ok hstep, ih, List.find?_cons_of_neg (by simpa using hknown)]
      cases (steps.map TemplateStep.variableName).find? (· ∉ workspaceVariables) with
      | some name => rfl
      | none => simp [Functor.map, Except.map]
    · rw [if_neg hknown] at hstep
      rw [expandSegments_cons_error hstep, List.find?_cons_of_pos (by simpa using hknown)]
      rfl

end Template

/-- **Expansion.** A command is expanded part by part. -/
theorem expandCommand_text (root : String) (t : Template) :
    expandCommand root t.text = t.expand root := by
  rw [expandCommand, Template.segments_text, Template.expandSegments_segments]

/-- **Variables.** Every command has exactly one choice of parts. It is expanded to its literal
    texts, the values of its variables as they are, and a variable that is never closed as it is
    written, in this order; or the first of its variables that does not exist is reported. -/
theorem expandCommand_of_template :
    (∀ raw : List Char, ∃! t : Template, t.text = raw) ∧
      ∀ (root : String) (t : Template), expandCommand root t.text = t.expand root := by
  refine ⟨fun raw => ?_, expandCommand_text⟩
  obtain ⟨t, ht⟩ := Template.exists_text_eq raw
  exact ⟨t, ht, fun u hu => Template.text_injective (hu.trans ht.symm)⟩

/-- A root that looks like a variable is not expanded, and neither is what only looks like one. -/
example :
    expandCommand "/$\x7bhome\x7d" "$$\x7bworkspaceRoot\x7d/\x7bx\x7d$\x7b$\x7bhome".toList =
      .ok "$/$\x7bhome\x7d/\x7bx\x7d$\x7b$\x7bhome".toList := by
  decide +kernel

end ServiceLang
