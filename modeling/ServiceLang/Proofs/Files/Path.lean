import ServiceLang.Files.LogFile
import ServiceLang.Proofs.Files.Tree
import ServiceLang.Proofs.Text.Number

namespace ServiceLang

open Text

/-!
# The paths of log files

A log file and the older ones with their numbers stand in one directory.

* `Path.folder`, `Path.stem`: what a path says before its last slash and behind it;
* `Path.IsProper`: a path that can name a file;
* `numberedName`: the name of an older log file;
* `parts_numberedLog`, `parts_of_isProper`: the parts of the paths of all of them;
* `logPath`, `logName`: the log file as number 0, and the older ones;
* `FitsLog`: the system takes the path and the name of a log file.
-/

namespace Path

/-- The parts of a path before its last slash. -/
def folder (p : String) : List String := (splitSlashes [] p.toList).dropLast.filter (· ≠ "")

/-- What stands behind the last slash of a path, nothing if it ends there. -/
def stem (p : String) : String := (splitSlashes [] p.toList).getLast?.getD ""

/-- A path that can name a file: it ends neither in a slash nor in `.` or `..`. -/
def IsProper (p : String) : Prop := stem p ≠ "" ∧ stem p ≠ "." ∧ stem p ≠ ".."

instance (p : String) : Decidable (IsProper p) := inferInstanceAs (Decidable (_ ∧ _ ∧ _))

/-! ### Splitting -/

/-- A text without slashes is one part. -/
theorem splitSlashes_of_not_mem {s : List Char} (h : '/' ∉ s) (reversed : List Char) :
    splitSlashes reversed s = [String.ofList (reversed.reverse ++ s)] := by
  induction s generalizing reversed with
  | nil => rw [splitSlashes, List.append_nil]
  | cons c s ih =>
    rw [List.mem_cons, not_or] at h
    rw [splitSlashes, if_neg (Ne.symm h.1), ih h.2]
    simp

/-- A slash ends the part before it and begins a new one. -/
theorem splitSlashes_append_slash (s reversed rest : List Char) :
    splitSlashes reversed (s ++ '/' :: rest) = splitSlashes reversed s ++ splitSlashes [] rest := by
  induction s generalizing reversed with
  | nil => simp [splitSlashes]
  | cons c s ih =>
    simp only [List.cons_append, splitSlashes]
    by_cases hc : c = '/'
    · rw [if_pos hc, if_pos hc, ih, List.cons_append]
    · rw [if_neg hc, if_neg hc, ih]

/-- The last part goes on with what has no slash in it. -/
theorem exists_splitSlashes (s reversed : List Char) :
    ∃ init last, splitSlashes reversed s = init ++ [last] ∧
      ∀ rest, '/' ∉ rest →
        splitSlashes reversed (s ++ rest) = init ++ [last ++ String.ofList rest] := by
  induction s generalizing reversed with
  | nil =>
    refine ⟨[], String.ofList reversed.reverse, rfl, fun rest hrest => ?_⟩
    rw [List.nil_append, splitSlashes_of_not_mem hrest, String.ofList_append]
    rfl
  | cons c s ih =>
    by_cases hc : c = '/'
    · obtain ⟨init, last, hsplit, hrest⟩ := ih []
      refine ⟨String.ofList reversed.reverse :: init, last, ?_, fun rest hmem => ?_⟩
      · rw [splitSlashes, if_pos hc, hsplit]
        rfl
      · rw [List.cons_append, splitSlashes, if_pos hc, hrest rest hmem]
        rfl
    · obtain ⟨init, last, hsplit, hrest⟩ := ih (c :: reversed)
      refine ⟨init, last, ?_, fun rest hmem => ?_⟩
      · rw [splitSlashes, if_neg hc, hsplit]
      · rw [List.cons_append, splitSlashes, if_neg hc, hrest rest hmem]

/-- The parts of a path are those of its folder, and its stem. -/
theorem parts_eq (p : String) :
    parts p = folder p ++ if stem p = "" then [] else [stem p] := by
  obtain ⟨init, last, hsplit, -⟩ := exists_splitSlashes p.toList []
  rw [parts, folder, stem, hsplit, List.filter_append, List.dropLast_concat,
    List.getLast?_concat, Option.getD_some]
  by_cases hlast : last = "" <;> simp [hlast]

/-- A path that can name a file ends in its stem. -/
theorem parts_of_isProper {p : String} (h : IsProper p) : parts p = folder p ++ [stem p] := by
  rw [parts_eq, if_neg h.1]

/-- A suffix without a slash goes to the stem. -/
theorem parts_append {p : String} {rest : List Char} (hne : rest ≠ []) (hrest : '/' ∉ rest) :
    parts (p ++ String.ofList rest) = folder p ++ [stem p ++ String.ofList rest] := by
  obtain ⟨init, last, hsplit, happend⟩ := exists_splitSlashes p.toList []
  have hlast : last ++ String.ofList rest ≠ "" := by
    intro h
    have hnil := congrArg String.toList h
    rw [String.toList_append, String.toList_ofList] at hnil
    exact hne (List.append_eq_nil_iff.mp hnil).2
  rw [parts, folder, stem, String.toList_append, String.toList_ofList, happend rest hrest, hsplit,
    List.filter_append, List.dropLast_concat, List.getLast?_concat, Option.getD_some]
  simp [hlast]

/-- Nothing stands behind a slash at the end. -/
theorem getLast?_splitSlashes_concat (s reversed : List Char) :
    (splitSlashes reversed (s ++ ['/'])).getLast? = some "" := by
  rw [splitSlashes_append_slash]
  exact List.getLast?_concat

/-- Nothing stands behind the last slash exactly when a path ends there or is empty. -/
theorem stem_eq_empty_iff {p : String} : stem p = "" ↔ p = "" ∨ endsInSlash p = true := by
  rw [endsInSlash, beq_iff_eq, ← @String.toList_eq_nil_iff p]
  obtain hnil | ⟨s, c, hs⟩ := List.eq_nil_or_concat p.toList
  · rw [stem, hnil]
    exact iff_of_true (by decide) (.inl rfl)
  · rw [List.concat_eq_append] at hs
    rw [stem, hs, List.getLast?_concat]
    by_cases hc : c = '/'
    · subst hc
      rw [getLast?_splitSlashes_concat]
      exact iff_of_true rfl (.inr rfl)
    · obtain ⟨init, last, -, hrest⟩ := exists_splitSlashes s []
      have hmem : '/' ∉ [c] := fun h => hc (List.mem_singleton.mp h).symm
      rw [hrest [c] hmem, List.getLast?_concat, Option.getD_some]
      refine iff_of_false (fun h => ?_) (by simp [hc])
      have hlist := congrArg String.toList h
      simp at hlist

end Path

/-! ### Numbers -/

/-- What a number adds to the name of a log file. -/
def numberSuffix (k : Nat) : List Char := '.' :: digits k

/-- The name of an older log file. -/
def numberedName (path : String) (k : Nat) : String :=
  Path.stem path ++ String.ofList (numberSuffix k)

/-- A numbered log has the path of the log and a suffix. -/
theorem numberedLog_eq (path : String) (k : Nat) :
    numberedLog path k = path ++ String.ofList (numberSuffix k) := by
  have hdigits : toString k = String.ofList (digits k) := rfl
  have hcons : String.ofList (numberSuffix k) = "." ++ String.ofList (digits k) := by
    rw [← String.toList_inj]
    simp [numberSuffix]
  rw [hcons, ← hdigits, ← String.append_assoc]
  rfl

/-- The suffix stays in the same folder. -/
theorem slash_not_mem_numberSuffix (k : Nat) : '/' ∉ numberSuffix k := by
  rw [numberSuffix, List.mem_cons, not_or]
  exact ⟨by decide, fun h => absurd (isAsciiDigit_of_mem_digits h) (by decide)⟩

/-- The suffix tells its number. -/
theorem numberSuffix_injective {k l : Nat} (h : numberSuffix k = numberSuffix l) : k = l := by
  have hdigits : digits k = digits l := (List.cons.inj h).2
  rw [← readDigits_digits k, hdigits, readDigits_digits]

/-- The name of a numbered log is the stem and the suffix. -/
theorem toList_numberedName (path : String) (k : Nat) :
    (numberedName path k).toList = (Path.stem path).toList ++ numberSuffix k := by
  rw [numberedName, String.toList_append, String.toList_ofList]

/-- The name of a numbered log tells its number. -/
theorem numberedName_injective {path : String} {k l : Nat}
    (h : numberedName path k = numberedName path l) : k = l := by
  have hlist := congrArg String.toList h
  rw [toList_numberedName, toList_numberedName] at hlist
  exact numberSuffix_injective (List.append_cancel_left hlist)

/-- A numbered log is not named like the log itself. -/
theorem numberedName_ne_stem (path : String) (k : Nat) : numberedName path k ≠ Path.stem path := by
  intro h
  have hlist := congrArg String.toList h
  rw [toList_numberedName, List.append_right_eq_self] at hlist
  exact List.cons_ne_nil _ _ hlist

/-- A number ends in a digit. -/
theorem exists_getLast?_numberSuffix (k : Nat) :
    ∃ c, (numberSuffix k).getLast? = some c ∧ isAsciiDigit c = true := by
  have hne : digits k ≠ [] := Nat.toDigits_ne_nil
  refine ⟨(digits k).getLast hne, ?_, isAsciiDigit_of_mem_digits (List.getLast_mem hne)⟩
  rw [numberSuffix, List.getLast?_cons, List.getLast?_eq_some_getLast hne]
  rfl

/-- An older log file has a name of its own, none of the special ones. -/
theorem numberedName_ne {path : String} {k : Nat} {special : String}
    (h : special.toList.getLast?.any isAsciiDigit = false) : numberedName path k ≠ special := by
  rintro rfl
  obtain ⟨c, hlast, hc⟩ := exists_getLast?_numberSuffix k
  rw [toList_numberedName, List.getLast?_append, hlast, Option.some_or, Option.any_some, hc] at h
  cases h

/-- A numbered log is in the folder of the log. -/
theorem parts_numberedLog (path : String) (k : Nat) :
    Path.parts (numberedLog path k) = Path.folder path ++ [numberedName path k] := by
  have hne : numberSuffix k ≠ [] := List.cons_ne_nil _ _
  rw [numberedLog_eq, Path.parts_append hne (slash_not_mem_numberSuffix k), numberedName]

/-- A numbered log is seen from the same directory as the log. -/
theorem isAbsolute_numberedLog (path : String) (k : Nat) :
    Path.isAbsolute (numberedLog path k) = Path.isAbsolute path := by
  rw [Path.isAbsolute, Path.isAbsolute, numberedLog_eq, String.toList_append, String.toList_ofList]
  cases path.toList <;> rfl

/-- The suffix is no slash. -/
theorem endsInSlash_numberedLog (path : String) (k : Nat) :
    Path.endsInSlash (numberedLog path k) = false := by
  obtain ⟨c, hlast, hc⟩ := exists_getLast?_numberSuffix k
  rw [Path.endsInSlash, numberedLog_eq, String.toList_append, String.toList_ofList,
    List.getLast?_append, hlast, Option.some_or, beq_eq_false_iff_ne]
  intro h
  obtain rfl := Option.some.inj h
  exact absurd hc (by decide)

/-! ### Sizes -/

/-- Each digit is one byte. -/
theorem utf8ByteSize_ofList_of_digits {s : List Char} (h : ∀ c ∈ s, isAsciiDigit c = true) :
    (String.ofList s).utf8ByteSize = s.length := by
  induction s with
  | nil => rfl
  | cons c s ih =>
    rw [List.forall_mem_cons] at h
    have hc : c.utf8Size = 1 := by
      have hdigit := h.1
      simp only [isAsciiDigit, Bool.and_eq_true, decide_eq_true_eq, Char.le_def,
        UInt32.le_iff_toNat_le] at hdigit
      rw [Char.utf8Size_eq_one_iff]
      exact UInt32.le_iff_toNat_le.mpr (Nat.le_trans hdigit.2 (by decide))
    have hcons : String.ofList (c :: s) = String.singleton c ++ String.ofList s := by
      rw [← String.toList_inj]
      simp
    rw [hcons, String.utf8ByteSize_append, String.utf8ByteSize_singleton, hc, ih h.2,
      List.length_cons, Nat.add_comm]

/-- A larger number has at least as many digits. -/
theorem length_digits_mono {m n : Nat} (h : m ≤ n) : (digits m).length ≤ (digits n).length := by
  induction n using Nat.strongRecOn generalizing m with
  | ind n ih =>
    have hpos : 0 < (digits n).length := List.length_pos_iff.mpr Nat.toDigits_ne_nil
    by_cases hm : m < 10
    · rw [digits, Nat.toDigits_of_lt_base hm]
      exact hpos
    · have hstep : ∀ k, 10 ≤ k → (digits k).length = (digits (k / 10)).length + 1 := by
        intro k hk
        rw [digits, Nat.toDigits_of_base_le (by decide) hk, List.length_append]
        rfl
      rw [hstep m (by omega), hstep n (by omega)]
      exact Nat.succ_le_succ (ih (n / 10) (by omega) (by omega))

/-- The suffix is a dot and the digits of the number. -/
theorem utf8ByteSize_numberSuffix (k : Nat) :
    (String.ofList (numberSuffix k)).utf8ByteSize = (digits k).length + 1 := by
  have hcons : String.ofList (numberSuffix k) = "." ++ String.ofList (digits k) := by
    rw [← String.toList_inj]
    simp [numberSuffix]
  have hdot : (".").utf8ByteSize = 1 := by decide
  rw [hcons, String.utf8ByteSize_append, hdot,
    utf8ByteSize_ofList_of_digits fun c => isAsciiDigit_of_mem_digits, Nat.add_comm]

/-! ### Log files by number -/

/-- The path of the log file, as number 0, and of the older ones. -/
def logPath (path : String) : Nat → String
  | 0 => path
  | k + 1 => numberedLog path (k + 1)

/-- The name of the log file, as number 0, and of the older ones. -/
def logName (path : String) : Nat → String
  | 0 => Path.stem path
  | k + 1 => numberedName path (k + 1)

/-- The newest log has no number. -/
theorem logPath_zero (path : String) : logPath path 0 = path := rfl

/-- The newest log is named by its stem. -/
theorem logName_zero (path : String) : logName path 0 = Path.stem path := rfl

/-- All older logs are numbered. -/
theorem logPath_of_pos (path : String) {k : Nat} (h : 1 ≤ k) :
    logPath path k = numberedLog path k := by
  cases k with
  | zero => exact absurd h (by decide)
  | succ k => rfl

/-- The logs of one path have different names. -/
theorem logName_injective {path : String} {i j : Nat} (h : logName path i = logName path j) :
    i = j := by
  cases i with
  | zero =>
    cases j with
    | zero => rfl
    | succ j => exact absurd h.symm (numberedName_ne_stem path (j + 1))
  | succ i =>
    cases j with
    | zero => exact absurd h (numberedName_ne_stem path (i + 1))
    | succ j => exact numberedName_injective h

/-- The system takes the path and the name of a log file. -/
structure FitsLog (path : String) (i : Nat) : Prop where
  path_le : (logPath path i).utf8ByteSize ≤ Disk.maxPathSize
  name_le : (logName path i).utf8ByteSize ≤ FileTree.maxNameSize

instance (path : String) (i : Nat) : Decidable (FitsLog path i) :=
  decidable_of_iff ((logPath path i).utf8ByteSize ≤ Disk.maxPathSize ∧
      (logName path i).utf8ByteSize ≤ FileTree.maxNameSize)
    ⟨fun h => ⟨h.1, h.2⟩, fun h => ⟨h.path_le, h.name_le⟩⟩

/-- A smaller number fits where a larger one does. -/
theorem FitsLog.of_le {path : String} {i j : Nat} (h : FitsLog path j) (hij : i ≤ j) :
    FitsLog path i := by
  cases j with
  | zero =>
    obtain rfl := Nat.le_zero.mp hij
    exact h
  | succ j =>
    have hpath := h.path_le
    have hname := h.name_le
    rw [logPath, numberedLog_eq, String.utf8ByteSize_append] at hpath
    rw [logName, numberedName, String.utf8ByteSize_append] at hname
    cases i with
    | zero => exact ⟨Nat.le_trans (Nat.le_add_right _ _) hpath,
        Nat.le_trans (Nat.le_add_right _ _) hname⟩
    | succ i =>
      have hdigits := length_digits_mono hij
      rw [utf8ByteSize_numberSuffix] at hpath hname
      constructor
      · rw [logPath, numberedLog_eq, String.utf8ByteSize_append, utf8ByteSize_numberSuffix]
        omega
      · rw [logName, numberedName, String.utf8ByteSize_append, utf8ByteSize_numberSuffix]
        omega

/-- The log file of a number has a name; the older ones always have. -/
def HasLogName (path : String) (i : Nat) : Prop := i = 0 → Path.IsProper path

/-- A numbered log always has a name. -/
theorem hasLogName_succ (path : String) (i : Nat) : HasLogName path (i + 1) :=
  fun h => absurd h (Nat.succ_ne_zero i)

section Named

variable {path : String} {i : Nat} (h : HasLogName path i)
include h

/-- All logs are in the same folder. -/
theorem parts_logPath : Path.parts (logPath path i) = Path.folder path ++ [logName path i] := by
  cases i with
  | zero => exact Path.parts_of_isProper (h rfl)
  | succ i => exact parts_numberedLog path (i + 1)

/-- No log is named like a directory above. -/
theorem logName_ne_dots : logName path i ≠ "." ∧ logName path i ≠ ".." := by
  cases i with
  | zero => exact (h rfl).2
  | succ i => exact ⟨numberedName_ne rfl, numberedName_ne rfl⟩

/-- The path of a log names a file. -/
theorem endsInSlash_logPath : Path.endsInSlash (logPath path i) = false := by
  cases i with
  | zero =>
    rw [← Bool.not_eq_true]
    exact fun hslash => (h rfl).1 (Path.stem_eq_empty_iff.mpr (.inr hslash))
  | succ i => exact endsInSlash_numberedLog path (i + 1)

/-- The path of a log is not empty. -/
theorem logPath_ne_empty : logPath path i ≠ "" := by
  intro hempty
  have hparts := parts_logPath h
  rw [hempty] at hparts
  have hnil : Path.parts "" = [] := by decide
  rw [hnil] at hparts
  exact absurd hparts.symm (List.concat_ne_nil _ _)

end Named

/-- All logs are seen from the same directory. -/
theorem isAbsolute_logPath (path : String) (i : Nat) :
    Path.isAbsolute (logPath path i) = Path.isAbsolute path := by
  cases i with
  | zero => rfl
  | succ i => exact isAbsolute_numberedLog path (i + 1)

/-- A number brings no null character into a path. -/
theorem nul_mem_logPath {path : String} {i : Nat} :
    '\x00' ∈ (logPath path i).toList ↔ '\x00' ∈ path.toList := by
  cases i with
  | zero => rfl
  | succ i =>
    have hnot : '\x00' ∉ numberSuffix (i + 1) := by
      rw [numberSuffix, List.mem_cons, not_or]
      exact ⟨by decide, fun h => absurd (isAsciiDigit_of_mem_digits h) (by decide)⟩
    rw [logPath, numberedLog_eq, String.toList_append, String.toList_ofList, List.mem_append]
    exact or_iff_left hnot

end ServiceLang
