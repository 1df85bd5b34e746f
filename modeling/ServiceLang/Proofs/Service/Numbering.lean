import ServiceLang.Proofs.Service.Parse
import ServiceLang.Proofs.Text.Lines

namespace ServiceLang

open Text

/-!
# Line numbers are carried along

Reading copies the numbers of lines into the declarations and into its error, and never computes
with them. A change of the numbers can therefore be made before reading or afterwards.

* `SourceLine.mapNumber`, `Item.mapLines`, `SyntaxError.mapLine`: the change, on lines, on what is
  read from them and on errors;
* `moved`: the change on the outcome of a reader;
* `Item.ofBlock_mapNumber`, `Service.ofLines_mapNumber`: reading commutes with the change;
* `sourceLinesFrom`: the significant lines of rows, numbered from some number on.
-/

/-! ### Changes of line numbers -/

/-- A significant line with its number changed. -/
def SourceLine.mapNumber (f : Nat → Nat) (line : SourceLine) : SourceLine :=
  { line with number := f line.number }

/-- A syntax error with its line changed. -/
def SyntaxError.mapLine (f : Nat → Nat) (e : SyntaxError) : SyntaxError :=
  { e with line := f e.line }

/-- A function or method with its line changed. -/
def Function.mapLine (f : Nat → Nat) (decl : Function) : Function :=
  { decl with line := f decl.line }

/-- A declaration with its line changed, and those of its methods. -/
def Item.mapLines (f : Nat → Nat) : Item → Item
  | .server port line => .server port (f line)
  | .endpoint decl => .endpoint { decl with line := f decl.line }
  | .function decl => .function (decl.mapLine f)
  | .classDecl decl => .classDecl ⟨decl.name, decl.methods.map (Function.mapLine f), f decl.line⟩

/-- A description with all its lines changed. -/
def Service.mapLines (f : Nat → Nat) (service : Service) : Service :=
  ⟨service.items.map (Item.mapLines f)⟩

/-- An outcome with its lines changed: those of its value, or that of its error. -/
def moved {α : Type} (f : Nat → Nat) (move : α → α) : Except SyntaxError α → Except SyntaxError α
  | .ok a => .ok (move a)
  | .error e => .error (e.mapLine f)

section Outcomes

variable {α β : Type} {f : Nat → Nat} {moveα : α → α} {moveβ : β → β}

/-- Two readers in a row carry the numbers along when both do. -/
theorem bind_moved {outcome : Except SyntaxError α} {next next' : α → Except SyntaxError β}
    (h : ∀ a, next' (moveα a) = moved f moveβ (next a)) :
    moved f moveα outcome >>= next' = moved f moveβ (outcome >>= next) := by
  cases outcome with
  | error e => rfl
  | ok a => exact h a

/-- A reader of many things carries the numbers along when it does so for each of them. -/
theorem mapM_moved {γ : Type} {moveγ : γ → γ} {read : γ → Except SyntaxError α}
    (h : ∀ c, read (moveγ c) = moved f moveα (read c)) (cs : List γ) :
    (cs.map moveγ).mapM read = moved f (List.map moveα) (cs.mapM read) := by
  induction cs with
  | nil => rfl
  | cons c cs ih =>
    rw [List.map_cons, List.mapM_cons, List.mapM_cons, h]
    apply bind_moved
    intro a
    rw [ih]
    apply bind_moved
    intro as
    rfl

/-- A fault on a moved line. -/
theorem atLine_moved (n : Nat) (outcome : Except Fault α) :
    atLine (f n) outcome = moved f id (atLine n outcome) := by
  cases outcome <;> rfl

end Outcomes

/-- Heads that the change keeps cut a list in the same places. -/
theorem clusters_map {α : Type} (isHead : α → Bool) (p : α → α) (h : ∀ a, isHead (p a) = isHead a)
    (lines : List α) :
    clusters isHead (lines.map p) = ((clusters isHead lines).1.map p,
      (clusters isHead lines).2.map fun group => (p group.1, group.2.map p)) := by
  induction lines with
  | nil => rfl
  | cons a lines ih =>
    simp only [List.map_cons, clusters, ih, h]
    cases isHead a <;> simp

/-! ### Readers -/

section Readers

variable (f : Nat → Nat)

/-- Line numbers are not part of a body. -/
theorem bodyOf_mapNumber (inline : List Char) (below : List SourceLine) :
    bodyOf inline (below.map (SourceLine.mapNumber f)) = bodyOf inline below := by
  unfold bodyOf
  rw [List.map_map]
  rfl

/-- A function on moved lines is the function, moved. -/
theorem Function.ofSignature_mapNumber (signature : Signature) (below : List SourceLine)
    (n : Nat) :
    Function.ofSignature signature (below.map (SourceLine.mapNumber f)) (f n) =
      (Function.ofSignature signature below n).mapLine f := by
  simp only [Function.ofSignature, Function.mapLine, bodyOf_mapNumber]

/-- A method on moved lines is the method, moved. -/
theorem methodOf_mapNumber (memberIndent : Nat) (head : SourceLine) (below : List SourceLine) :
    methodOf memberIndent (head.mapNumber f) (below.map (SourceLine.mapNumber f)) =
      moved f (Function.mapLine f) (methodOf memberIndent head below) := by
  unfold methodOf
  show atLine (f head.number) (if head.indent < memberIndent then _ else
    (Function.ofSignature · _ (f head.number)) <$> readMember head.content) = _
  split
  · rfl
  · simp only [Function.ofSignature_mapNumber]
    cases readMember head.content <;> rfl

/-- Methods on moved lines are the methods, moved. -/
theorem methodsOf_mapNumber (below : List SourceLine) :
    methodsOf (below.map (SourceLine.mapNumber f)) =
      moved f (List.map (Function.mapLine f)) (methodsOf below) := by
  cases below with
  | nil => rfl
  | cons first rest =>
    have hclusters := clusters_map (fun line : SourceLine => line.indent ≤ first.indent)
      (SourceLine.mapNumber f) (fun _ => rfl) (first :: rest)
    show List.mapM _ (clusters (·.indent ≤ first.indent)
      ((first :: rest).map (SourceLine.mapNumber f))).2 = _
    rw [hclusters]
    exact mapM_moved (fun group => methodOf_mapNumber f first.indent group.1 group.2) _

/-- **Blocks.** A declaration carries the numbers of its lines along, and so does its error. -/
theorem Item.ofBlock_mapNumber (head : SourceLine) (below : List SourceLine) :
    Item.ofBlock (head.mapNumber f) (below.map (SourceLine.mapNumber f)) =
      moved f (Item.mapLines f) (Item.ofBlock head below) := by
  unfold Item.ofBlock
  simp only [SourceLine.mapNumber, atLine_moved]
  apply bind_moved
  intro opened
  cases opened with
  | server port =>
    cases below <;> rfl
  | endpoint method path inline =>
    simp only [id, bodyOf_mapNumber]
    split <;> rfl
  | function signature =>
    simp only [id, Function.ofSignature_mapNumber]
    show (if (Function.ofSignature signature below head.number).body = [] then _ else _) = _
    split <;> rfl
  | classDecl name =>
    simp only [id, methodsOf_mapNumber]
    apply bind_moved
    intro methods
    -- the change keeps the bodies, so the same method is the first without one
    have hfind : (methods.map (Function.mapLine f)).find? (·.body = []) =
        (methods.find? (·.body = [])).map (Function.mapLine f) := List.find?_map
    rw [hfind]
    cases methods.find? (·.body = []) <;> rfl

/-- **Texts.** A description carries the numbers of its lines along, and so does its error. -/
theorem Service.ofLines_mapNumber (lines : List SourceLine) :
    Service.ofLines (lines.map (SourceLine.mapNumber f)) =
      moved f (Service.mapLines f) (Service.ofLines lines) := by
  unfold Service.ofLines
  rw [clusters_map (fun line : SourceLine => line.indent = 0) (SourceLine.mapNumber f)
    (fun _ => rfl)]
  obtain ⟨lead, blocks⟩ := clusters (fun line : SourceLine => line.indent = 0) lines
  cases lead with
  -- the first line is indented: the error is on it, whatever its number
  | cons line lead => rfl
  | nil =>
    show Service.mk <$> (blocks.map _).mapM _ = moved f _ (Service.mk <$> blocks.mapM _)
    rw [mapM_moved (fun group => Item.ofBlock_mapNumber f group.1 group.2) blocks]
    cases blocks.mapM fun group => Item.ofBlock group.1 group.2 <;> rfl

end Readers

/-! ### Significant lines -/

/-- The significant lines of rows that are numbered from `first` on. -/
def sourceLinesFrom (first : Nat) (rows : List (List Char)) : List SourceLine :=
  ((rows.zipIdx first).filter fun row => isSignificant row.1).map fun row =>
    ⟨row.2, indentation row.1, trim row.1⟩

/-- A text is read from its significant lines, which are numbered from 1 on. -/
theorem Service.parse_eq_ofLines (text : String) :
    Service.parse text = Service.ofLines (sourceLinesFrom 1 (lines text.toList)) := by
  rw [Service.parse_eq, significantLines_eq_sourceLines]
  rfl

/-- Rows behind others are numbered on. -/
theorem sourceLinesFrom_append (first : Nat) (front rest : List (List Char)) :
    sourceLinesFrom first (front ++ rest) =
      sourceLinesFrom first front ++ sourceLinesFrom (first + front.length) rest := by
  unfold sourceLinesFrom
  rw [List.zipIdx_append, List.filter_append, List.map_append]

/-- A row that is not significant still counts. -/
theorem sourceLinesFrom_cons (first : Nat) (row : List Char) (rows : List (List Char)) :
    sourceLinesFrom first (row :: rows) =
      if isSignificant row then
        ⟨first, indentation row, trim row⟩ :: sourceLinesFrom (first + 1) rows
      else sourceLinesFrom (first + 1) rows := by
  unfold sourceLinesFrom
  rw [List.zipIdx_cons, List.filter_cons]
  split <;> rfl

/-- A change of numbers that makes the numbers from `first` on those from `first'` on does so for
    the significant lines. -/
theorem sourceLinesFrom_of_offset {f : Nat → Nat} {first first' : Nat} {rows : List (List Char)}
    (h : ∀ i, i < rows.length → f (first + i) = first' + i) :
    (sourceLinesFrom first rows).map (SourceLine.mapNumber f) = sourceLinesFrom first' rows := by
  unfold sourceLinesFrom
  rw [← map_zipIdx_of_offset f h, List.filter_map, List.map_map, List.map_map]
  rfl

end ServiceLang
