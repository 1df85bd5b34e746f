import ServiceLang.Outline.Basic
import ServiceLang.Outline.Pattern
import ServiceLang.Proofs.Indices

namespace ServiceLang

open Text

/-!
# Blocks of lines and the outline they give

The outline of a text by the positions of its lines, with no scan involved:

* `InBlock lines i j`: line `j` lies in the block below line `i`;
* `Opener lines i`, `Outside lines i`: line `i` opens a class, and lies in no class block;
* `Placed`, `IsServer`, `IsEndpoint`, `IsFunction`, `IsClass`: what an entry says about its line;
* `IsOutline lines outline`: each list of the outline holds exactly the entries of its lines.
-/

/-! ### Blocks -/

/-- Line `i` of a text; a line past the end is blank. -/
def lineAt (lines : List (List Char)) (i : Nat) : List Char := lines.getD i []

/-- A line of the text is found at its position. -/
theorem getElem?_eq_some_lineAt {lines : List (List Char)} {i : Nat} (h : i < lines.length) :
    lines[i]? = some (lineAt lines i) := by
  rw [lineAt, List.getD_eq_getElem?_getD, List.getElem?_eq_getElem h, Option.getD_some]

/-- Every line behind `i` and before `n` is blank or indented deeper than line `i`. -/
def Reaches (lines : List (List Char)) (i n : Nat) : Prop :=
  ∀ k, k < n → i < k → isBlank (lineAt lines k) ∨
    indentation (lineAt lines i) < indentation (lineAt lines k)

/-- Line `j` lies in the block below line `i`, the longest run of lines behind it that are blank
    or indented deeper. -/
def InBlock (lines : List (List Char)) (i j : Nat) : Prop := i < j ∧ Reaches lines i (j + 1)

instance (lines : List (List Char)) (i n : Nat) : Decidable (Reaches lines i n) :=
  Nat.decidableBallLT n _

instance (lines : List (List Char)) (i j : Nat) : Decidable (InBlock lines i j) :=
  inferInstanceAs (Decidable (_ ∧ _))

/-- A line that opens a class wherever no block contains it: it has the class pattern and none
    of the patterns of servers, endpoints and functions. -/
def OpensClass (line : List Char) : Prop :=
  isBlank line = false ∧ (Pattern.class? (trimStart line)).isSome ∧
    Pattern.server? (trimStart line) = none ∧ Pattern.endpoint? (trimStart line) = none ∧
    Pattern.callable? "func" (trimStart line) = none

instance (line : List Char) : Decidable (OpensClass line) :=
  inferInstanceAs (Decidable (_ ∧ _))

/-- Line `i` opens a class: it can, and no earlier opener has it in its block. -/
def Opener (lines : List (List Char)) (i : Nat) : Prop :=
  OpensClass (lineAt lines i) ∧ ∀ j, (_ : j < i) → Opener lines j → ¬InBlock lines j i
termination_by i

/-- Line `i` lies in the block of no opener. -/
def Outside (lines : List (List Char)) (i : Nat) : Prop :=
  ∀ j, j < i → Opener lines j → ¬InBlock lines j i

variable {lines : List (List Char)} {i j n : Nat}

/-- An opener opens a class outside all others. -/
theorem opener_iff : Opener lines i ↔ OpensClass (lineAt lines i) ∧ Outside lines i := by
  rw [Opener, Outside]

/-- Whether a line opens a class is decided from the lines before it. -/
def decideOpener (lines : List (List Char)) (i : Nat) : Decidable (Opener lines i) :=
  have hearlier : ∀ j, j < i → Decidable (Opener lines j → ¬InBlock lines j i) := fun j _ =>
    have := decideOpener lines j
    inferInstance
  have : Decidable (Outside lines i) := @Nat.decidableBallLT i _ hearlier
  decidable_of_iff (OpensClass (lineAt lines i) ∧ Outside lines i) opener_iff.symm
termination_by i

instance (lines : List (List Char)) : DecidablePred (Opener lines) := decideOpener lines

instance (lines : List (List Char)) : DecidablePred (Outside lines) := fun i =>
  Nat.decidableBallLT i _

/-- A block that goes on to a line goes on to every line before it. -/
theorem Reaches.mono {m : Nat} (h : Reaches lines i n) (hmn : m ≤ n) : Reaches lines i m :=
  fun k hk hi => h k (Nat.lt_of_lt_of_le hk hmn) hi

/-- A block goes on over one more line when that line is blank or indented deeper. -/
theorem reaches_succ_iff (hi : i < n) :
    Reaches lines i (n + 1) ↔ Reaches lines i n ∧ (isBlank (lineAt lines n) ∨
      indentation (lineAt lines i) < indentation (lineAt lines n)) := by
  constructor
  · intro h
    exact ⟨h.mono (Nat.le_succ n), h n (Nat.lt_succ_self n) hi⟩
  · rintro ⟨h, hn⟩ k hk hik
    obtain hlt | rfl := Nat.lt_succ_iff_lt_or_eq.mp hk
    · exact h k hlt hik
    · exact hn

/-- **One open block.** At any line at most one opener's block is still going on, since a later
    opener would lie in the block of the earlier one. -/
theorem Opener.eq_of_reaches (hi : Opener lines i) (hj : Opener lines j) (hin : i < n)
    (hjn : j < n) (hireach : Reaches lines i n) (hjreach : Reaches lines j n) : i = j := by
  obtain hij | hij | hij := Nat.lt_trichotomy i j
  · exact absurd ⟨hij, hireach.mono hjn⟩ ((opener_iff.mp hj).2 i hij hi)
  · exact hij
  · exact absurd ⟨hij, hjreach.mono hin⟩ ((opener_iff.mp hi).2 j hij hj)

/-! ### Entries -/

/-- Line `i` lies outside every class block and has the pattern behind its indentation. -/
def MatchesOutside {α : Type} (lines : List (List Char)) (pattern : List Char → Option α)
    (i : Nat) : Prop :=
  Outside lines i ∧ (pattern (trimStart (lineAt lines i))).isSome

instance {α : Type} (lines : List (List Char)) (pattern : List Char → Option α) :
    DecidablePred (MatchesOutside lines pattern) := fun _ =>
  inferInstanceAs (Decidable (_ ∧ _))

/-- Line `j` is a method line in the block below line `i`. -/
def MethodInBlock (lines : List (List Char)) (i j : Nat) : Prop :=
  InBlock lines i j ∧ isBlank (lineAt lines j) = false ∧
    (Pattern.method? (trimStart (lineAt lines j))).isSome

instance (lines : List (List Char)) (i : Nat) : DecidablePred (MethodInBlock lines i) := fun _ =>
  inferInstanceAs (Decidable (_ ∧ _))

/-- The number and the span of line `i`: from its indentation to its last character that is not
    blank. -/
structure Placed (lines : List (List Char)) (i number : Nat) (span : Span) : Prop where
  number_eq : number = i
  start_eq : span.start = indentation (lineAt lines i)
  stop_eq : span.stop = (trimEnd (lineAt lines i)).length

/-- The port of a server line, when its digits are a 16-bit number. -/
def portPattern (s : List Char) : Option Nat := (Pattern.server? s).bind (readBounded 65535)

/-- The server entry of line `i`. -/
structure IsServer (lines : List (List Char)) (i : Nat) (entry : ServerEntry) : Prop where
  port : portPattern (trimStart (lineAt lines i)) = some entry.port
  placed : Placed lines i entry.line entry.span

/-- The endpoint entry of line `i`. -/
structure IsEndpoint (lines : List (List Char)) (i : Nat) (entry : EndpointEntry) : Prop where
  found : Pattern.endpoint? (trimStart (lineAt lines i)) =
    some (entry.method.toList, entry.path.toList)
  placed : Placed lines i entry.line entry.span

/-- The entry of line `i` for a function or method, whichever the pattern is for. -/
structure IsFunction (lines : List (List Char))
    (pattern : List Char → Option (List Char × List Char)) (i : Nat) (entry : FunctionEntry) :
    Prop where
  found : pattern (trimStart (lineAt lines i)) = some (entry.name.toList, entry.args.toList)
  placed : Placed lines i entry.line entry.span

/-- The class entry of line `i`, with the methods of its block on the lines before `n`. -/
structure IsClass (lines : List (List Char)) (n i : Nat) (entry : ClassEntry) : Prop where
  name : Pattern.class? (trimStart (lineAt lines i)) = some entry.name.toList
  placed : Placed lines i entry.line entry.span
  methods : List.Forall₂ (IsFunction lines Pattern.method?) (indices (MethodInBlock lines i) n)
    entry.methods

/-- The outline of a text: the server is the last line outside every block with a port, endpoints
    and functions are the lines outside every block with their patterns, and classes are the
    openers, each with the method lines of its block. -/
structure IsOutline (lines : List (List Char)) (outline : Outline) : Prop where
  server : Option.Rel (IsServer lines)
    (indices (MatchesOutside lines portPattern) lines.length).getLast? outline.server
  endpoints : List.Forall₂ (IsEndpoint lines)
    (indices (MatchesOutside lines Pattern.endpoint?) lines.length) outline.endpoints
  functions : List.Forall₂ (IsFunction lines (Pattern.callable? "func"))
    (indices (MatchesOutside lines (Pattern.callable? "func")) lines.length) outline.functions
  classes : List.Forall₂ (IsClass lines lines.length) (indices (Opener lines) lines.length)
    outline.classes

end ServiceLang
