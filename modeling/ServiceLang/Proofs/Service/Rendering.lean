import ServiceLang.Proofs.Service.Lexical
import ServiceLang.Text.Number

namespace ServiceLang

open Text

/-!
# Written descriptions

A description is written with one row per declaration. The first line of a body stands behind the
head, the other lines stand below it, indented by four more blanks; the methods of a class are
indented by four.

* `Item.rows`, `Service.render`: the written form;
* `Service.renumbered`: the description with the line numbers of its written form;
* `Item.unnumbered`: what a declaration is apart from its line numbers;
* `StandsAt`: where rows stand in a text;
* `sourceLines_written`: the rows are the significant lines of the text;
* `exists_grouped_numbered`: the rows of declarations form one group for each.
-/

/-! ### Rows -/

/-- A row of a written description. -/
structure Row where
  indent : Nat
  content : List Char

/-- The characters of a row. -/
def Row.chars (row : Row) : List Char := List.replicate row.indent ' ' ++ row.content

/-- The text of rows. -/
def written (rows : List Row) : List Char := (rows.map Row.chars).flatMap (· ++ ['\n'])

/-- A title and a body: the first line of the body behind the title, the others below. -/
def blockRows (indent : Nat) (title : List Char) : (body : List String) → List Row
  | [] => [⟨indent, title⟩]
  | first :: rest =>
    ⟨indent, title ++ ' ' :: first.toList⟩ :: rest.map fun line => ⟨indent + 4, line.toList⟩

/-- The parameters, with a comma and a blank between two. -/
def Function.args (decl : Function) : List Char :=
  ", ".toList.intercalate (decl.params.map String.toList)

/-- A name with its parameters and the colon. -/
def Function.title (decl : Function) : List Char :=
  decl.name.toList ++ '(' :: decl.args ++ "):".toList

/-- A function behind its keyword. -/
def Function.rows (keyword : String) (indent : Nat) (decl : Function) : List Row :=
  blockRows indent (keyword.toList ++ ' ' :: decl.title) decl.body

/-- A method of a class. -/
def Function.methodRows (method : Function) : List Row := method.rows "method" 4

/-- A method with its path in quotes and the colon. -/
def Endpoint.title (decl : Endpoint) : List Char :=
  decl.method.name.toList ++ ' ' :: ('"' :: decl.path.toList ++ "\":".toList)

/-- The row that opens a class. -/
def ClassDecl.row (decl : ClassDecl) : Row :=
  ⟨0, "class".toList ++ ' ' :: (decl.name.toList ++ [':'])⟩

/-- A declaration. -/
def Item.rows : Item → List Row
  | .server port _ => [⟨0, "server".toList ++ ' ' :: digits port⟩]
  | .endpoint decl => blockRows 0 ("endpoint".toList ++ ' ' :: decl.title) decl.body
  | .function decl => decl.rows "func" 0
  | .classDecl decl => decl.row :: decl.methods.flatMap Function.methodRows

/-- The rows of a description. -/
def Service.rows (service : Service) : List Row := service.items.flatMap Item.rows

/-- The written form of a description. -/
def Service.render (service : Service) : String := String.ofList (written service.rows)

/-! ### Line numbers -/

/-- Things whose rows are written one under another from line `first` on, each with the number of
    its first row. -/
def placed {α : Type} (rows : α → List Row) (number : Nat → α → α) : (first : Nat) → List α → List α
  | _, [] => []
  | first, a :: as => number first a :: placed rows number (first + (rows a).length) as

/-- The function on the given line. -/
def Function.number (line : Nat) (decl : Function) : Function := { decl with line }

/-- The declaration with its first row on the given line. -/
def Item.number (line : Nat) : Item → Item
  | .server port _ => .server port line
  | .endpoint decl => .endpoint { decl with line }
  | .function decl => .function (decl.number line)
  | .classDecl decl =>
    .classDecl ⟨decl.name, placed Function.methodRows Function.number (line + 1) decl.methods, line⟩

/-- The description with the line numbers of its written form. -/
def Service.renumbered (service : Service) : Service :=
  ⟨placed Item.rows Item.number 1 service.items⟩

/-- The declaration with all its line numbers forgotten. -/
def Item.unnumbered : Item → Item
  | .server port _ => .server port 0
  | .endpoint decl => .endpoint { decl with line := 0 }
  | .function decl => .function (decl.number 0)
  | .classDecl decl => .classDecl ⟨decl.name, decl.methods.map (Function.number 0), 0⟩

/-- The rows are lines of the text, the first of them line `line`. -/
def StandsAt (text : List Char) (line : Nat) (rows : List Row) : Prop :=
  ∃ before after, lines text = before ++ rows.map Row.chars ++ after ∧ line = before.length + 1

section Placed

variable {α β : Type} {rows : α → List Row} {number : Nat → α → α}

/-- What does not depend on line numbers is not changed by numbering. -/
theorem map_placed {f : α → β} (h : ∀ line a, f (number line a) = f a) (first : Nat) (as : List α) :
    (placed rows number first as).map f = as.map f := by
  induction as generalizing first with
  | nil => rfl
  | cons a as ih => rw [placed, List.map_cons, h, ih, List.map_cons]

/-- Where a thing gets its number from. -/
theorem exists_of_mem_placed {first : Nat} {as : List α} {b : α}
    (h : b ∈ placed rows number first as) :
    ∃ a before after, b = number (first + before.length) a ∧
      as.flatMap rows = before ++ rows a ++ after := by
  induction as generalizing first with
  | nil => cases h
  | cons a as ih =>
    obtain rfl | h := List.mem_cons.mp h
    · exact ⟨a, [], as.flatMap rows, rfl, rfl⟩
    · obtain ⟨a', before, after, rfl, hrows⟩ := ih h
      refine ⟨a', rows a ++ before, after, ?_, ?_⟩
      · rw [List.length_append, Nat.add_assoc]
      · rw [List.flatMap_cons, hrows]
        simp

end Placed

/-! ### Rows as source lines -/

/-- The source lines that rows make from line `first` on. -/
def numbered (first : Nat) (rows : List Row) : List SourceLine :=
  (rows.zipIdx first).map fun row => ⟨row.2, row.1.indent, row.1.content⟩

theorem numbered_cons (first : Nat) (row : Row) (rows : List Row) :
    numbered first (row :: rows) =
      ⟨first, row.indent, row.content⟩ :: numbered (first + 1) rows := rfl

/-- Rows behind others are numbered on. -/
theorem numbered_append (first : Nat) (front rest : List Row) :
    numbered first (front ++ rest) = numbered first front ++ numbered (first + front.length) rest := by
  unfold numbered
  rw [List.zipIdx_append, List.map_append]

/-- A numbered line has the indentation of its row. -/
theorem exists_of_mem_numbered {first : Nat} {rows : List Row} {line : SourceLine}
    (h : line ∈ numbered first rows) : ∃ row ∈ rows, line.indent = row.indent := by
  obtain ⟨row, hrow, rfl⟩ := List.mem_map.mp h
  exact ⟨row.1, List.fst_mem_of_mem_zipIdx hrow, rfl⟩

/-- Spaces are blanks. -/
theorem blank_replicate (n : Nat) : Blank (List.replicate n ' ') := by
  intro c hc
  rw [List.eq_of_mem_replicate hc]
  rfl

/-- The trimmed characters of a row are its content. -/
theorem trim_chars {row : Row} (h : IsLine row.content) : trim row.chars = row.content := by
  rw [Row.chars, trim_blank_append (blank_replicate _), h.trimmed.trim_eq]

/-- The indentation of a written row is that of the row. -/
theorem indentation_chars {row : Row} (h : IsLine row.content) :
    indentation row.chars = row.indent := by
  obtain ⟨c, rest, hcontent, hc⟩ := h.trimmed.1
  have hcut := takeWhile_dropWhile_iff.mpr
    ⟨rfl, blank_replicate row.indent, stopsAt_cons (s := rest).mpr hc⟩
  rw [indentation, Row.chars, hcontent, hcut.1, List.length_replicate]

/-- A written row is significant. -/
theorem isSignificant_chars {row : Row} (h : IsLine row.content) :
    isSignificant row.chars = true := by
  rw [isSignificant, trim_chars h, decide_eq_true_eq]
  exact ⟨h.trimmed.ne_nil, h.head⟩

/-- The lines of the text are the written rows. -/
theorem lines_written {rows : List Row} (h : ∀ row ∈ rows, IsLine row.content) :
    lines (written rows) = rows.map Row.chars := by
  refine lines_flatMap fun line hline => ?_
  obtain ⟨row, hrow, rfl⟩ := List.mem_map.mp hline
  have hcontent := h row hrow
  refine ⟨fun hmem => ?_, hcontent.trimmed.2.append hcontent.trimmed.ne_nil _⟩
  obtain hblank | hmem := List.mem_append.mp hmem
  · exact absurd (List.eq_of_mem_replicate hblank) (by decide)
  · exact hcontent.newline hmem

/-- **The rows are the significant lines of the text.** -/
theorem sourceLines_written {rows : List Row} (h : ∀ row ∈ rows, IsLine row.content) :
    sourceLines (written rows) = numbered 1 rows := by
  rw [sourceLines, lines_written h, List.zipIdx_map, List.filter_map, List.map_map, numbered]
  have hall : ∀ row ∈ rows.zipIdx 1, isSignificant row.1.chars = true :=
    fun row hrow => isSignificant_chars (h row.1 (List.fst_mem_of_mem_zipIdx hrow))
  have hfilter : (rows.zipIdx 1).filter (fun row => isSignificant row.1.chars) = rows.zipIdx 1 :=
    List.filter_eq_self.mpr hall
  refine (congrArg _ hfilter).trans (List.map_congr_left fun row hrow => ?_)
  have hcontent := h row.1 (List.fst_mem_of_mem_zipIdx hrow)
  show SourceLine.mk row.2 (indentation row.1.chars) (trim row.1.chars) = _
  rw [indentation_chars hcontent, trim_chars hcontent]

/-- Source lines in which the rows of one thing form one group: its first row is at the margin
    and the others are not. -/
def Makes {β : Type} (margin : Nat) (R : SourceLine → List SourceLine → β → Prop) (first : Nat)
    (rows : List Row) (b : β) : Prop :=
  ∃ head below, numbered first rows = head :: below ∧ head.indent = margin ∧
    (∀ line ∈ below, margin < line.indent) ∧ R head below b

/-- **Groups.** The rows of things, written one under another, form one group for each. -/
theorem exists_grouped_numbered {α : Type} {margin : Nat}
    {R : SourceLine → List SourceLine → α → Prop} {rows : α → List Row} {number : Nat → α → α}
    {as : List α} (h : ∀ a ∈ as, ∀ line, Makes margin R line (rows a) (number line a))
    (first : Nat) :
    ∃ groups, Grouped (·.indent = margin) (numbered first (as.flatMap rows)) groups ∧
      List.Forall₂ (fun group b => R group.1 group.2 b) groups (placed rows number first as) := by
  induction as generalizing first with
  | nil => exact ⟨[], ⟨rfl, by simp, by simp⟩, .nil⟩
  | cons a as ih =>
    obtain ⟨ha, has⟩ := List.forall_mem_cons.mp h
    obtain ⟨head, below, hnumbered, hhead, hbelow, hR⟩ := ha first
    obtain ⟨groups, hgroups, hrest⟩ := ih has (first + (rows a).length)
    refine ⟨(head, below) :: groups, ⟨?_, ?_, ?_⟩, .cons hR hrest⟩
    · rw [List.flatMap_cons, numbered_append, hnumbered, List.flatMap_cons, ← hgroups.lines_eq]
    · exact List.forall_mem_cons.mpr ⟨hhead, hgroups.head⟩
    · refine List.forall_mem_cons.mpr ⟨fun line hline => ?_, hgroups.below⟩
      have hlt := hbelow line hline
      omega

/-- A part of the rows stands in the text where the rows before it end. -/
theorem standsAt_of_append {rows before part after : List Row}
    (h : ∀ row ∈ rows, IsLine row.content) (hrows : rows = before ++ part ++ after) :
    StandsAt (written rows) (before.length + 1) part := by
  refine ⟨before.map Row.chars, after.map Row.chars, ?_, by rw [List.length_map]⟩
  rw [lines_written h, hrows, List.map_append, List.map_append]

end ServiceLang
