import Mathlib.Data.List.TakeDrop
import ServiceLang.Text.Space
import ServiceLang.Text.Word

namespace ServiceLang.Text

/-!
# What the scanners cut off

Scanning a text cuts off a longest run of a class of characters. This file says what is cut off
without running the scan, so that a grammar can be stated by concatenation alone.

* `StopsAt p s`: the text `s` does not go on with a character of the class `p`;
* `takeWhile_dropWhile_iff`: a text cut after its longest run, both ways round;
* `Blank`, `BlankFree`, `NoTrailingBlank`, `StartsVisibly`: nothing but blanks, none at all, none
  at the end, and something else at the start;
* `trim_append`, `trim_eq_self`: trailing blanks do not count, and a text without outer blanks is
  not changed by trimming;
* `IsTrimmed`: a text that is not empty and has no outer blanks;
* `strip?_eq_some_iff`: what follows a given lead;
* `Spaced word rest s`: the text `s` is `word`, one or more blanks and `rest`;
* `splitAtSpace_iff`: `splitAtSpace` finds exactly the blank-free first words;
* `IsIdent`, `takeIdent?_eq_some_iff`: the identifier at the start of a text.
-/

/-! ### Longest runs -/

/-- The text does not go on with a character of the class. -/
def StopsAt (p : Char → Bool) (s : List Char) : Prop := ∀ c ∈ s.head?, p c = false

/-- A text stops a class when its first character is outside. -/
theorem stopsAt_cons {p : Char → Bool} {c : Char} {s : List Char} :
    StopsAt p (c :: s) ↔ p c = false := by
  simp [StopsAt]

/-- What is left behind a run stops its class. -/
theorem stopsAt_dropWhile (p : Char → Bool) (s : List Char) : StopsAt p (s.dropWhile p) := by
  intro c hc
  have h := List.head?_dropWhile_not p s
  rw [Option.mem_def.mp hc] at h
  exact h

/-- Nothing is dropped from a text that stops the class. -/
theorem dropWhile_of_stopsAt {p : Char → Bool} {s : List Char} (h : StopsAt p s) :
    s.dropWhile p = s := by
  cases s with
  | nil => rfl
  | cons c s => exact List.dropWhile_cons_of_neg (by simp [stopsAt_cons.mp h])

theorem takeWhile_of_stopsAt {p : Char → Bool} {s : List Char} (h : StopsAt p s) :
    s.takeWhile p = [] := by
  cases s with
  | nil => rfl
  | cons c s => exact List.takeWhile_cons_of_neg (by simp [stopsAt_cons.mp h])

/-- **Maximal munch.** A text is cut into a run of the class and the rest exactly when the rest
    does not go on with the class. -/
theorem takeWhile_dropWhile_iff {p : Char → Bool} {s run rest : List Char} :
    s.takeWhile p = run ∧ s.dropWhile p = rest ↔
      s = run ++ rest ∧ (∀ c ∈ run, p c) ∧ StopsAt p rest := by
  constructor
  · rintro ⟨rfl, rfl⟩
    exact ⟨List.takeWhile_append_dropWhile.symm,
      List.all_eq_true.mp List.all_takeWhile, stopsAt_dropWhile p s⟩
  · rintro ⟨rfl, hrun, hrest⟩
    rw [List.takeWhile_append_of_pos hrun, List.dropWhile_append_of_pos hrun,
      takeWhile_of_stopsAt hrest, dropWhile_of_stopsAt hrest, List.append_nil]
    exact ⟨rfl, rfl⟩

/-- A run is cut off where its class stops. -/
theorem span_of_stopsAt {p : Char → Bool} {run rest : List Char} (hrun : ∀ c ∈ run, p c)
    (hrest : StopsAt p rest) : (run ++ rest).span p = (run, rest) := by
  have hcut := takeWhile_dropWhile_iff.mpr ⟨rfl, hrun, hrest⟩
  rw [List.span_eq_takeWhile_dropWhile, hcut.1, hcut.2]

/-- A run ends at a character outside the class at the latest. -/
theorem dropWhile_append_cons {p : Char → Bool} {c : Char} (hc : p c = false)
    (s rest : List Char) : (s ++ c :: rest).dropWhile p = s.dropWhile p ++ c :: rest := by
  rw [List.dropWhile_append]
  split
  case isTrue h => rw [List.isEmpty_iff.mp h, dropWhile_of_stopsAt (stopsAt_cons.mpr hc)]; rfl
  case isFalse => rfl

/-! ### Blanks -/

/-- Nothing but blanks. -/
def Blank (s : List Char) : Prop := ∀ c ∈ s, isSpace c

/-- No blank anywhere. -/
def BlankFree (s : List Char) : Prop := ∀ c ∈ s, isSpace c = false

/-- A blank is no visible character. -/
theorem ne_of_isSpace {b c : Char} (hb : isSpace b = true) (hc : isSpace c = false) : b ≠ c := by
  rintro rfl
  rw [hb] at hc
  cases hc

/-- Whether a text has blanks can be tested. -/
theorem blankFree_iff {s : List Char} : BlankFree s ↔ s.any isSpace = false := by
  simp [BlankFree]

/-- No blank at the end. -/
def NoTrailingBlank (s : List Char) : Prop := StopsAt isSpace s.reverse

/-- A first character that is not blank. -/
def StartsVisibly (s : List Char) : Prop := ∃ c rest, s = c :: rest ∧ isSpace c = false

/-- A run that no blank belongs to stops at blanks and at what follows them. -/
theorem stopsAt_blank_append {p : Char → Bool} {gap rest : List Char} {c : Char}
    (hp : ∀ b, isSpace b = true → p b = false) (hgap : Blank gap) (hc : p c = false) :
    StopsAt p (gap ++ c :: rest) := by
  cases gap with
  | nil => exact stopsAt_cons.mpr hc
  | cons b gap => exact stopsAt_cons.mpr (hp b (hgap b List.mem_cons_self))

/-- Blanks in front are trimmed away. -/
theorem trimStart_append {gap : List Char} (h : Blank gap) (s : List Char) :
    trimStart (gap ++ s) = trimStart s :=
  List.dropWhile_append_of_pos h

/-- What a text starts with behind its leading blanks. -/
theorem trimStart_eq_cons_iff {s rest : List Char} {c : Char} (hc : isSpace c = false) :
    trimStart s = c :: rest ↔ ∃ gap, Blank gap ∧ s = gap ++ c :: rest := by
  constructor
  · intro h
    have hcut := (takeWhile_dropWhile_iff (p := isSpace)).mp ⟨rfl, h⟩
    exact ⟨s.takeWhile isSpace, hcut.2.1, hcut.1⟩
  · rintro ⟨gap, hgap, rfl⟩
    rw [trimStart_append hgap]
    exact dropWhile_of_stopsAt (stopsAt_cons.mpr hc)

/-- A trimmed text ends in no blank. -/
theorem noTrailingBlank_trim (s : List Char) : NoTrailingBlank (trim s) := by
  rw [NoTrailingBlank, trim, trimEnd, List.reverse_reverse]
  exact stopsAt_dropWhile isSpace _

/-- There is nothing to trim at the end. -/
theorem NoTrailingBlank.trimEnd_eq {s : List Char} (h : NoTrailingBlank s) : trimEnd s = s := by
  rw [trimEnd, dropWhile_of_stopsAt h, List.reverse_reverse]

/-- Blanks at the end are trimmed away. -/
theorem trimEnd_append {gap : List Char} (h : Blank gap) (s : List Char) :
    trimEnd (s ++ gap) = trimEnd s := by
  unfold trimEnd
  rw [List.reverse_append, List.dropWhile_append_of_pos (fun c hc => h c (List.mem_reverse.mp hc))]

/-- Trailing blanks do not count. -/
theorem trim_append {gap : List Char} (h : Blank gap) (s : List Char) : trim (s ++ gap) = trim s := by
  unfold trim trimStart
  rw [List.dropWhile_append]
  split
  case isTrue hs =>
    -- only blanks are left, and both sides are empty
    have hgap : gap.dropWhile isSpace = [] := by
      have hempty := trimStart_append h []
      rwa [List.append_nil] at hempty
    rw [hgap, List.isEmpty_iff.mp hs]
  case isFalse => exact trimEnd_append h _

/-- A text without blanks at either end stays as it is. -/
theorem trim_eq_self {s : List Char} (hstart : StopsAt isSpace s) (hend : NoTrailingBlank s) :
    trim s = s := by
  unfold trim trimStart
  rw [dropWhile_of_stopsAt hstart, hend.trimEnd_eq]

/-- The part of a text from some point on ends as the text does. -/
theorem NoTrailingBlank.of_suffix {s t : List Char} (hs : NoTrailingBlank s) (h : t <:+ s) :
    NoTrailingBlank t := by
  obtain ⟨lead, rfl⟩ := h
  intro c hc
  refine hs c ?_
  rw [List.reverse_append, List.head?_append, Option.mem_def.mp hc]
  rfl

/-- A text ends as its last part does. -/
theorem NoTrailingBlank.append {t : List Char} (ht : NoTrailingBlank t) (hne : t ≠ [])
    (s : List Char) : NoTrailingBlank (s ++ t) := by
  intro c hc
  cases hlast : t.reverse with
  | nil => exact absurd (List.reverse_eq_nil_iff.mp hlast) hne
  | cons x front =>
    rw [List.reverse_append, hlast] at hc
    exact ht c (hlast ▸ hc)

/-- Leading blanks do not count either. -/
theorem trim_blank_append {gap : List Char} (h : Blank gap) (s : List Char) :
    trim (gap ++ s) = trim s := by
  rw [trim, trimStart_append h, ← trim]

/-- Trimming at the end does not go past a visible character. -/
theorem trimEnd_append_cons {c : Char} (hc : isSpace c = false) (s rest : List Char) :
    trimEnd (s ++ c :: rest) = s ++ c :: trimEnd rest := by
  have hreverse : (s ++ c :: rest).reverse = rest.reverse ++ c :: s.reverse := by simp
  rw [trimEnd, hreverse, dropWhile_append_cons hc]
  simp [trimEnd]

/-- Trimming keeps the first character that is not blank. -/
theorem head?_trim (s : List Char) : (trim s).head? = (trimStart s).head? := by
  rw [trim]
  cases hs : trimStart s with
  | nil => rfl
  | cons c rest =>
    have hstop : StopsAt isSpace (trimStart s) := stopsAt_dropWhile isSpace s
    rw [hs, stopsAt_cons] at hstop
    have htrim := trimEnd_append_cons hstop [] rest
    rw [List.nil_append] at htrim
    rw [htrim]
    rfl

/-- Nothing is left of a text exactly when nothing is left behind its leading blanks. -/
theorem trim_eq_nil_iff {s : List Char} : trim s = [] ↔ trimStart s = [] := by
  rw [← List.head?_eq_none_iff, head?_trim, List.head?_eq_none_iff]

/-- A text is what trimming leaves of its end, and blanks. -/
theorem exists_blank_eq_trimEnd_append (s : List Char) :
    ∃ gap, Blank gap ∧ s = trimEnd s ++ gap := by
  refine ⟨(s.reverse.takeWhile isSpace).reverse, fun c hc => ?_, ?_⟩
  · exact List.all_eq_true.mp List.all_takeWhile c (List.mem_reverse.mp hc)
  · rw [trimEnd, ← List.reverse_append, List.takeWhile_append_dropWhile, List.reverse_reverse]

/-- Behind its indentation a line is its trimmed content, and blanks. -/
theorem exists_blank_trimStart_eq (line : List Char) :
    ∃ gap, Blank gap ∧ trimStart line = trim line ++ gap :=
  exists_blank_eq_trimEnd_append (trimStart line)

/-- Trimming adds no character. -/
theorem mem_of_mem_trim {c : Char} {s : List Char} (h : c ∈ trim s) : c ∈ s := by
  have hend : c ∈ trimStart s := by
    unfold trim trimEnd at h
    rw [List.mem_reverse] at h
    exact List.mem_reverse.mp ((List.dropWhile_sublist _).subset h)
  exact (List.dropWhile_sublist _).subset hend

/-! ### Trimmed texts -/

/-- A text that is not empty and has no outer blanks. -/
def IsTrimmed (s : List Char) : Prop := StartsVisibly s ∧ NoTrailingBlank s

namespace IsTrimmed

variable {s : List Char}

theorem trim_eq (h : IsTrimmed s) : trim s = s := by
  obtain ⟨⟨c, rest, rfl, hc⟩, hend⟩ := h
  exact trim_eq_self (stopsAt_cons.mpr hc) hend

theorem ne_nil (h : IsTrimmed s) : s ≠ [] := by
  obtain ⟨⟨c, rest, rfl, -⟩, -⟩ := h
  exact List.cons_ne_nil c rest

/-- What is left of a text when it is trimmed. -/
theorem of_trim (h : trim s ≠ []) : IsTrimmed (trim s) := by
  refine ⟨?_, noTrailingBlank_trim s⟩
  obtain ⟨c, rest, hs⟩ := List.exists_cons_of_ne_nil h
  have hhead : c ∈ (trimStart s).head? := by
    rw [← head?_trim, hs]
    exact rfl
  exact ⟨c, rest, hs, stopsAt_dropWhile isSpace s c hhead⟩

/-- Only the outer characters count. -/
theorem of_ends {first last : Char} (hfirst : s.head? = some first) (hlast : s.getLast? = some last)
    (hfirst_visible : isSpace first = false) (hlast_visible : isSpace last = false) :
    IsTrimmed s := by
  obtain ⟨rest, rfl⟩ := List.head?_eq_some_iff.mp hfirst
  refine ⟨⟨first, rest, rfl, hfirst_visible⟩, ?_⟩
  intro c hc
  rw [List.head?_reverse, hlast, Option.mem_some_iff] at hc
  rw [← hc]
  exact hlast_visible

/-- So the middle of a text is free. -/
theorem append {lead tail : List Char} (hlead : StartsVisibly lead) (htail : NoTrailingBlank tail)
    (hne : tail ≠ []) (middle : List Char) : IsTrimmed (lead ++ middle ++ tail) := by
  obtain ⟨c, rest, rfl, hc⟩ := hlead
  exact ⟨⟨c, rest ++ middle ++ tail, by simp, hc⟩, htail.append hne _⟩

end IsTrimmed

/-! ### Leads -/

/-- What follows a lead is found exactly when the text starts with the lead. -/
theorem strip?_eq_some_iff {lead s rest : List Char} :
    strip? lead s = some rest ↔ s = lead ++ rest := by
  fun_induction strip? lead s with
  | case1 s => simp
  | case2 a lead => simp
  | case3 lead c s ih => simp [ih]
  | case4 a lead c s hne => simp [Ne.symm hne]

/-! ### Words and blanks -/

/-- A word, one or more blanks, and the rest. -/
def Spaced (word rest s : List Char) : Prop :=
  ∃ gap, gap ≠ [] ∧ Blank gap ∧ s = word ++ gap ++ rest

/-- **First words.** `splitAtSpace` cuts a text after a blank-free word, and what it leaves
    starts, behind more blanks, with `c :: rest`, exactly when the text is spaced so. -/
theorem splitAtSpace_iff {s word rest : List Char} {c : Char} (hc : isSpace c = false) :
    (splitAtSpace s).1 = word ∧ trimStart (splitAtSpace s).2 = c :: rest ↔
      BlankFree word ∧ Spaced word (c :: rest) s := by
  constructor
  · rintro ⟨rfl, htail⟩
    have hcut := (takeWhile_dropWhile_iff (s := s) (p := (!isSpace ·))).mp ⟨rfl, rfl⟩
    refine ⟨fun x hx => by simpa using hcut.2.1 x hx, ?_⟩
    obtain ⟨gap, hgap, hafter⟩ := (trimStart_eq_cons_iff hc).mp htail
    -- the blank that ends the word, put back before the other blanks
    cases hdrop : s.dropWhile (!isSpace ·) with
    | nil => simp [splitAtSpace, hdrop] at hafter
    | cons b after =>
      have hb : isSpace b = true := by
        have h := hcut.2.2
        rw [hdrop, stopsAt_cons] at h
        simpa using h
      have hafter' : after = gap ++ c :: rest := by
        simpa [splitAtSpace, hdrop] using hafter
      refine ⟨b :: gap, List.cons_ne_nil b gap, List.forall_mem_cons.mpr ⟨hb, hgap⟩, ?_⟩
      have hs := hcut.1
      rw [hdrop, hafter'] at hs
      simpa [splitAtSpace] using hs
  · rintro ⟨hword, gap, hne, hgap, rfl⟩
    obtain ⟨b, gap, rfl⟩ := List.exists_cons_of_ne_nil hne
    obtain ⟨hb, hgap⟩ := List.forall_mem_cons.mp hgap
    have hcut : (word ++ b :: gap ++ c :: rest).takeWhile (!isSpace ·) = word ∧
        (word ++ b :: gap ++ c :: rest).dropWhile (!isSpace ·) = b :: (gap ++ c :: rest) := by
      refine takeWhile_dropWhile_iff.mpr ⟨by simp, fun x hx => by simp [hword x hx], ?_⟩
      simp [stopsAt_cons, hb]
    refine ⟨hcut.1, ?_⟩
    rw [splitAtSpace, hcut.2, List.drop_one, List.tail_cons]
    exact (trimStart_eq_cons_iff hc).mpr ⟨gap, hgap, rfl⟩

/-- In a text without trailing blanks, what follows the first word has none either. -/
theorem trim_splitAtSpace {s : List Char} (hs : NoTrailingBlank s) :
    trim (splitAtSpace s).2 = trimStart (splitAtSpace s).2 := by
  have hblanks : trimStart (splitAtSpace s).2 <:+ (splitAtSpace s).2 :=
    List.dropWhile_suffix isSpace
  have hblank : (splitAtSpace s).2 <:+ s.dropWhile (!isSpace ·) := List.drop_suffix 1 _
  have hword : s.dropWhile (!isSpace ·) <:+ s := List.dropWhile_suffix _
  exact (hs.of_suffix (hblanks.trans (hblank.trans hword))).trimEnd_eq

/-! ### Identifiers -/

/-- An identifier: a letter or underscore, then letters, underscores and digits. -/
def IsIdent (s : List Char) : Prop :=
  ∃ c rest, s = c :: rest ∧ isIdentStart c ∧ ∀ x ∈ rest, isIdentChar x

/-- No blank occurs in identifiers. -/
theorem isSpace_of_isIdentChar {c : Char} (h : isIdentChar c) : isSpace c = false := by
  simp only [isIdentChar, isIdentStart, isAsciiLetter, isSpace, Char.le_def,
    UInt32.le_iff_toNat_le, Bool.or_eq_true, Bool.and_eq_true, decide_eq_true_eq, beq_iff_eq,
    Bool.or_eq_false_iff, Bool.and_eq_false_iff, decide_eq_false_iff_not, beq_eq_false_iff_ne,
    Char.toNat] at h ⊢
  obtain ((h | h) | h) | h := h
  · have h1 : 97 ≤ c.val.toNat := h.1
    have h2 : c.val.toNat ≤ 122 := h.2
    omega
  · have h1 : 65 ≤ c.val.toNat := h.1
    have h2 : c.val.toNat ≤ 90 := h.2
    omega
  · subst h
    decide
  · have h1 : 48 ≤ c.val.toNat := h.1
    have h2 : c.val.toNat ≤ 57 := h.2
    omega

/-- All characters of an identifier are of its class. -/
theorem IsIdent.isIdentChar_of_mem {s : List Char} (h : IsIdent s) {c : Char} (hc : c ∈ s) :
    isIdentChar c = true := by
  obtain ⟨d, rest, rfl, hd, hrest⟩ := h
  obtain rfl | hc := List.mem_cons.mp hc
  · rw [isIdentChar, hd, Bool.true_or]
  · exact hrest c hc

/-- A character of another class is not in an identifier. -/
theorem IsIdent.not_mem {s : List Char} (h : IsIdent s) {c : Char} (hc : isIdentChar c = false) :
    c ∉ s := by
  intro hmem
  rw [h.isIdentChar_of_mem hmem] at hc
  contradiction

/-- An identifier starts with a visible character. -/
theorem IsIdent.startsVisibly {name : List Char} (h : IsIdent name) (rest : List Char) :
    StartsVisibly (name ++ rest) := by
  obtain ⟨c, tail, rfl, hc, -⟩ := h
  refine ⟨c, tail ++ rest, rfl, isSpace_of_isIdentChar ?_⟩
  rw [isIdentChar, hc, Bool.true_or]

/-- The identifier at the start of a text is the longest one. -/
theorem takeIdent?_eq_some_iff {s name after : List Char} :
    takeIdent? s = some (name, after) ↔
      IsIdent name ∧ s = name ++ after ∧ StopsAt isIdentChar after := by
  constructor
  · intro h
    cases s with
    | nil => simp [takeIdent?] at h
    | cons c s =>
      rw [takeIdent?] at h
      split at h
      case isFalse => simp at h
      case isTrue hc =>
        obtain ⟨rfl, rfl⟩ := Prod.mk.inj (Option.some.inj h)
        have hcut := (takeWhile_dropWhile_iff (s := s) (p := isIdentChar)).mp ⟨rfl, rfl⟩
        exact ⟨⟨c, _, rfl, hc, hcut.2.1⟩, by rw [List.cons_append, ← hcut.1], hcut.2.2⟩
  · rintro ⟨⟨c, rest, rfl, hc, hrest⟩, rfl, hafter⟩
    have hcut := takeWhile_dropWhile_iff.mpr ⟨rfl, hrest, hafter⟩
    rw [List.cons_append, takeIdent?, if_pos hc, hcut.1, hcut.2]

end ServiceLang.Text
