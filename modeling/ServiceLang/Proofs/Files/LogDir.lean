import ServiceLang.Proofs.Files.Path
import ServiceLang.Proofs.Outcome

namespace ServiceLang

/-!
# The directory of a log file

* `Disk.LogDir`: the directory of a log file is there, with its entries;
* `Disk.LogDir.find_eq`: the log file and the older ones are looked up in its entries;
* `Disk.exists_logDir_of_find`: nothing of them is found unless it is there;
* `Disk.LogDir.rename_eq`, `dropFile_eq`, `addContent_eq`: moving, dropping and writing them change
  its entries only;
* `Disk.LogDir.of_updates`: it is still there when the way to it stays;
* `Disk.exists_openFile_of_not_isProper`, `Disk.exists_rename_of_not_isProper`: a path that names
  no file is neither written nor moved.
-/

namespace FileTree

variable {t t' : FileTree} {entries entries' : List (String × FileTree)} {place q : List String}

/-- Directories stay when only entries change that are none. -/
theorem Updates.look_dir (h : Updates place t t' entries entries')
    (hkeep : ∀ name, entries'.lookup name = entries.lookup name ∨
      ∀ inner, entries.lookup name ≠ some (.dir inner))
    (hq : t.look q = .ok none) : t'.look q = .ok none := by
  rw [h.look_eq ?_, hq]
  rintro name rest rfl
  obtain hsame | hfile := hkeep name
  · exact hsame
  · obtain ⟨inner, hinner⟩ := look_eq_dir_iff.mp hq
    rw [FileTree.find_below h.before] at hinner
    cases hlookup : entries.lookup name with
    | none =>
      rw [hlookup] at hinner
      cases hinner
    | some found =>
      rw [hlookup] at hinner
      cases found with
      | dir below => exact absurd hlookup (hfile below)
      | file content => cases rest <;> cases hinner

end FileTree

/-- No place is above its directory. -/
theorem not_isPrefixOf_concat (place : List String) (name : String) :
    (place ++ [name]).isPrefixOf place = false := by
  rw [← Bool.not_eq_true, List.isPrefixOf_iff_prefix]
  intro hwithin
  have hle := hwithin.length_le
  rw [List.length_append, List.length_singleton] at hle
  omega

namespace Disk

/-- Where the parts of a path start. -/
def start (d : Disk) (path : String) : List String :=
  if Path.isAbsolute path then [] else d.directory

/-- The directory of a log file is there, at a place and with its entries. -/
structure LogDir (d : Disk) (path : String) (place : List String)
    (entries : List (String × FileTree)) : Prop where
  noNul : '\x00' ∉ path.toList
  walk : d.tree.walk (d.start path) (Path.folder path) = .ok place
  dir : d.tree.find place = .ok (.dir entries)

variable {d : Disk} {path : String} {place : List String} {entries : List (String × FileTree)}
  {i j : Nat}

/-! ### Targets -/

theorem target_logPath (d : Disk) (hname : HasLogName path i) :
    d.target (logPath path i) =
      if '\x00' ∈ path.toList then .error .nulInName
      else if maxPathSize < (logPath path i).utf8ByteSize then .error .nameTooLong
      else d.tree.walk (d.start path) (Path.folder path) >>= fun directory =>
        .ok { directory, name := some (logName path i) } := by
  have hnul : (logPath path i).toList.contains '\x00' = decide ('\x00' ∈ path.toList) := by
    rw [List.contains_eq_mem]
    exact decide_eq_decide.mpr nul_mem_logPath
  obtain ⟨hdot, hdots⟩ := logName_ne_dots hname
  rw [target, hnul, if_neg (logPath_ne_empty hname), isAbsolute_logPath, parts_logPath hname,
    List.dropLast_concat, List.getLast?_concat, endsInSlash_logPath hname]
  simp only [decide_eq_true_eq]
  rfl

theorem exists_walk_of_target {t : Target} (hname : HasLogName path i)
    (h : d.target (logPath path i) = .ok t) :
    '\x00' ∉ path.toList ∧ (logPath path i).utf8ByteSize ≤ maxPathSize ∧
      ∃ place, d.tree.walk (d.start path) (Path.folder path) = .ok place ∧
        t = { directory := place, name := some (logName path i) } := by
  rw [target_logPath d hname] at h
  split at h
  case isTrue => cases h
  case isFalse hnul =>
    split at h
    case isTrue => cases h
    case isFalse hsize =>
      obtain ⟨place, hwalk, h⟩ := bind_eq_ok_iff.mp h
      exact ⟨hnul, Nat.le_of_not_lt hsize, place, hwalk, (Except.ok.inj h).symm⟩

namespace LogDir

variable (h : d.LogDir path place entries)
include h

theorem target_eq (hname : HasLogName path i)
    (hsize : (logPath path i).utf8ByteSize ≤ maxPathSize) :
    d.target (logPath path i) = .ok { directory := place, name := some (logName path i) } := by
  rw [target_logPath d hname, if_neg h.noNul, if_neg (Nat.not_lt_of_le hsize), h.walk]
  rfl

theorem target_of_long (hname : HasLogName path i)
    (hsize : maxPathSize < (logPath path i).utf8ByteSize) :
    d.target (logPath path i) = .error .nameTooLong := by
  rw [target_logPath d hname, if_neg h.noNul, if_pos hsize]

theorem lookup_eq (hsize : (logName path i).utf8ByteSize ≤ FileTree.maxNameSize) :
    d.lookup { directory := place, name := some (logName path i) } =
      FileTree.ofEntry (entries.lookup (logName path i)) := by
  rw [lookup]
  dsimp only
  rw [FileTree.entry, if_neg (Nat.not_lt_of_le hsize), FileTree.find_concat h.dir]

/-! ### Finding -/

/-- A log file is looked up among the entries of its directory. -/
theorem find_eq (hname : HasLogName path i) (hfits : FitsLog path i) :
    d.find (logPath path i) = FileTree.ofEntry (entries.lookup (logName path i)) := by
  rw [Disk.find, h.target_eq hname hfits.path_le]
  show (d.lookup _ >>= fun found => _) = _
  rw [h.lookup_eq hfits.name_le]
  cases entries.lookup (logName path i) <;> rfl

end LogDir

/-- Nothing is found under the path of a log file unless its directory is there. -/
theorem exists_logDir_of_lookup {t : Target} {found : FileTree} (hname : HasLogName path i)
    (htarget : d.target (logPath path i) = .ok t) (hlookup : d.lookup t = .ok found) :
    ∃ place entries, d.LogDir path place entries ∧ FitsLog path i ∧
      entries.lookup (logName path i) = some found := by
  obtain ⟨hnul, hsize, place, hwalk, rfl⟩ := exists_walk_of_target hname htarget
  rw [lookup] at hlookup
  dsimp only at hlookup
  rw [FileTree.entry] at hlookup
  split at hlookup
  case isTrue => cases hlookup
  case isFalse hshort =>
    obtain ⟨entries, hdir, hentry⟩ := FileTree.exists_dir_of_find hlookup
    exact ⟨place, entries, ⟨hnul, hwalk, hdir⟩, ⟨hsize, Nat.le_of_not_lt hshort⟩, hentry⟩

theorem exists_logDir_of_find {found : FileTree} (hname : HasLogName path i)
    (hfind : d.find (logPath path i) = .ok found) :
    ∃ place entries, d.LogDir path place entries ∧ FitsLog path i ∧
      entries.lookup (logName path i) = some found := by
  obtain ⟨t, htarget, hfind⟩ := bind_eq_ok_iff.mp hfind
  obtain ⟨other, hlookup, hfind⟩ := bind_eq_ok_iff.mp hfind
  split at hfind
  case isTrue => cases hfind
  case isFalse =>
    obtain rfl := Except.ok.inj hfind
    exact exists_logDir_of_lookup hname htarget hlookup

/-- The entries of the directory are those that a place has. -/
theorem LogDir.eq_of_logDir {place' : List String} {entries' : List (String × FileTree)}
    (h : d.LogDir path place entries) (h' : d.LogDir path place' entries') :
    place' = place ∧ entries' = entries := by
  have hplace : place' = place := Except.ok.inj (h'.walk.symm.trans h.walk)
  have hdir := h'.dir
  rw [hplace, h.dir] at hdir
  exact ⟨hplace, (FileTree.dir.inj (Except.ok.inj hdir)).symm⟩

namespace LogDir

variable (h : d.LogDir path place entries)
include h

/-- The directory is still there after a change of its entries when the directories on the way to
    it stay. -/
theorem of_updates {t' : FileTree} {entries' : List (String × FileTree)}
    (hupdates : FileTree.Updates place d.tree t' entries entries')
    (hcrossed : ∀ q ∈ Path.crossed (d.start path) (Path.folder path),
      d.tree.look q = .ok none → t'.look q = .ok none) :
    LogDir { d with tree := t' } path place entries' :=
  ⟨h.noNul, FileTree.walk_congr h.walk hcrossed, hupdates.after⟩

/-! ### Moving, dropping and writing -/

/-- **Moving.** A log file is moved to a number that is free. -/
theorem rename_eq {found : FileTree} (hi : HasLogName path i) (hj : HasLogName path j)
    (hij : i ≠ j) (hfits : FitsLog path i) (hfits' : FitsLog path j)
    (hfound : entries.lookup (logName path i) = some found)
    (hfree : entries.lookup (logName path j) = none) :
    ∃ t', d.rename (logPath path i) (logPath path j) = .ok { d with tree := t' } ∧
      FileTree.Updates place d.tree t' entries
        (setKey (logName path j) found (eraseKey (logName path i) entries)) := by
  have hne : logName path i ≠ logName path j := fun heq => hij (logName_injective heq)
  obtain ⟨t₁, hremove, hremoved⟩ := FileTree.remove_of_dir h.dir (by rw [hfound]; rfl)
  obtain ⟨t₂, hput, hputs⟩ := FileTree.put_of_dir found hremoved.after (logName path j)
  refine ⟨t₂, ?_, hremoved.trans hputs⟩
  have hlookup : d.lookup { directory := place, name := some (logName path i) } = .ok found := by
    rw [h.lookup_eq hfits.name_le, hfound]
    rfl
  have hpresent : d.lookup? { directory := place, name := some (logName path j) } = .ok none := by
    rw [lookup?, h.lookup_eq hfits'.name_le, hfree]
    rfl
  rw [rename, h.target_eq hi hfits.path_le, h.target_eq hj hfits'.path_le]
  simp only [bind, Except.bind, hlookup, hpresent]
  rw [if_neg (by simp), if_neg (by simp), if_neg (by simp [Target.place, not_isPrefixOf_concat]),
    if_neg (by simp [Target.place, not_isPrefixOf_concat]), if_neg (by simp [Target.place, hne])]
  simp only [Target.place, Option.toList_some, hremove, Disk.put, hput, bind, Except.bind]
  rfl

/-- A log file cannot be moved to a number that does not fit. -/
theorem rename_of_not_fits (i : Nat) (hj : HasLogName path j) (hfits : ¬FitsLog path j) :
    ∃ e, d.rename (logPath path i) (logPath path j) = .error e := by
  rw [rename]
  cases d.target (logPath path i) with
  | error e => exact ⟨e, rfl⟩
  | ok a =>
    by_cases hsize : (logPath path j).utf8ByteSize ≤ maxPathSize
    · have hlong : FileTree.maxNameSize < (logName path j).utf8ByteSize :=
        Nat.lt_of_not_le fun hle => hfits ⟨hsize, hle⟩
      have hpresent : d.lookup? { directory := place, name := some (logName path j) } =
          .error .nameTooLong := by
        rw [lookup?, lookup]
        dsimp only
        rw [FileTree.entry, if_pos hlong]
      rw [h.target_eq hj hsize]
      simp only [bind, Except.bind, hpresent]
      split
      · exact ⟨_, rfl⟩
      · cases d.lookup a <;> exact ⟨_, rfl⟩
    · rw [h.target_of_long hj (Nat.lt_of_not_le hsize)]
      exact ⟨_, rfl⟩

/-- **Dropping.** A log file is dropped. -/
theorem dropFile_eq {content : List UInt8} (hi : HasLogName path i) (hfits : FitsLog path i)
    (hfound : entries.lookup (logName path i) = some (.file content)) :
    ∃ t', d.dropFile (logPath path i) = .ok { d with tree := t' } ∧
      FileTree.Updates place d.tree t' entries (eraseKey (logName path i) entries) := by
  obtain ⟨t', hremove, hremoved⟩ := FileTree.remove_of_dir h.dir (by rw [hfound]; rfl)
  refine ⟨t', ?_, hremoved⟩
  have hlookup : d.lookup { directory := place, name := some (logName path i) } =
      .ok (.file content) := by
    rw [h.lookup_eq hfits.name_le, hfound]
    rfl
  rw [dropFile, h.target_eq hi hfits.path_le]
  simp only [bind, Except.bind, hlookup]
  simp only [Target.place, Option.toList_some, hremove]
  rfl

theorem dropFile_of_dir {inner : List (String × FileTree)} (hi : HasLogName path i)
    (hfits : FitsLog path i) (hfound : entries.lookup (logName path i) = some (.dir inner)) :
    d.dropFile (logPath path i) = .error .isADirectory := by
  have hlookup : d.lookup { directory := place, name := some (logName path i) } =
      .ok (.dir inner) := by
    rw [h.lookup_eq hfits.name_le, hfound]
    rfl
  rw [dropFile, h.target_eq hi hfits.path_le]
  simp only [bind, Except.bind, hlookup]
  rfl

/-- The bytes of the log file, none if it is not there. -/
theorem openFile_eq (hproper : Path.IsProper path) (hfits : FitsLog path 0)
    (hfree : ∀ inner, entries.lookup (Path.stem path) ≠ some (.dir inner)) :
    d.openFile path = .ok (place ++ [Path.stem path],
      ((entries.lookup (Path.stem path)).bind FileTree.content?).getD []) := by
  have htarget : d.target path = .ok { directory := place, name := some (Path.stem path) } :=
    h.target_eq (fun _ => hproper) hfits.path_le
  have hlookup : d.lookup { directory := place, name := some (Path.stem path) } =
      FileTree.ofEntry (entries.lookup (Path.stem path)) :=
    h.lookup_eq hfits.name_le
  rw [openFile, htarget]
  simp only [bind, Except.bind, lookup?, hlookup]
  cases hentry : entries.lookup (Path.stem path) with
  | none => rfl
  | some found =>
    cases found with
    | file content => rfl
    | dir inner => exact absurd hentry (hfree inner)

/-- **Writing.** The log file is written at its end. -/
theorem addContent_eq (hproper : Path.IsProper path) (hfits : FitsLog path 0)
    (hfree : ∀ inner, entries.lookup (Path.stem path) ≠ some (.dir inner)) (content : List UInt8) :
    ∃ t', d.addContent path content = .ok { d with tree := t' } ∧
      FileTree.Updates place d.tree t' entries
        (setKey (Path.stem path)
          (.file (((entries.lookup (Path.stem path)).bind FileTree.content?).getD [] ++ content))
          entries) := by
  obtain ⟨t', hput, hupdates⟩ := FileTree.put_of_dir _ h.dir (Path.stem path)
  refine ⟨t', ?_, hupdates⟩
  rw [addContent, h.openFile_eq hproper hfits hfree]
  simp only [bind, Except.bind, Disk.put, hput]
  rfl

end LogDir

/-! ### Paths that name no file -/

/-- Where a path leads, if it does. -/
theorem exists_of_target {p : String} {t : Target} (h : d.target p = .ok t) :
    p ≠ "" ∧ ∃ directory, d.tree.walk (d.start p) (Path.parts p).dropLast = .ok directory ∧
      (t.name = none ∧ (t.directory = directory ∨ t.directory = directory.dropLast) ∨
        ∃ name, (Path.parts p).getLast? = some name ∧ name ≠ "." ∧ name ≠ ".." ∧
          t = { directory, name := some name, slash := Path.endsInSlash p }) := by
  rw [target] at h
  split at h
  case isTrue => cases h
  case isFalse =>
    split at h
    case isTrue => cases h
    case isFalse hempty =>
      split at h
      case isTrue => cases h
      case isFalse =>
        obtain ⟨directory, hwalk, h⟩ := bind_eq_ok_iff.mp h
        refine ⟨hempty, directory, hwalk, ?_⟩
        split at h
        case h_1 => exact .inl (Except.ok.inj h ▸ ⟨rfl, .inl rfl⟩)
        case h_2 => exact .inl (Except.ok.inj h ▸ ⟨rfl, .inl rfl⟩)
        case h_3 => exact .inl (Except.ok.inj h ▸ ⟨rfl, .inr rfl⟩)
        case h_4 name hdot hdots hlast =>
          refine .inr ⟨name, hlast, ?_, ?_, (Except.ok.inj h).symm⟩
          · rintro rfl
            exact hdot rfl
          · rintro rfl
            exact hdots rfl

/-- Paths start at a directory when the working directory is there. -/
theorem look_start (hcwd : d.tree.look d.directory = .ok none) (path : String) :
    d.tree.look (d.start path) = .ok none := by
  rw [start]
  split
  · exact FileTree.look_within List.nil_prefix hcwd
  · exact hcwd

/-- A path that names no file leads to a directory, which it may name by a slash at its end. -/
theorem target_of_not_isProper {t : Target} (hproper : ¬Path.IsProper path)
    (htarget : d.target path = .ok t) :
    t.name = none ∨ t.slash = true ∧ Path.stem path = "" := by
  obtain ⟨hne, directory, -, ⟨hnone, -⟩ | ⟨name, hlast, hdot, hdots, rfl⟩⟩ :=
    exists_of_target htarget
  · exact .inl hnone
  · by_cases hstem : Path.stem path = ""
    · exact .inr ⟨(Path.stem_eq_empty_iff.mp hstem).resolve_left hne, hstem⟩
    · rw [Path.parts_eq, if_neg hstem, List.getLast?_concat] at hlast
      obtain rfl := Option.some.inj hlast
      exact absurd ⟨hstem, hdot, hdots⟩ hproper

/-- A path that names no file finds none, as long as the working directory is there. -/
theorem isProper_of_find {content : List UInt8} (hcwd : d.tree.look d.directory = .ok none)
    (hfind : d.find path = .ok (.file content)) : Path.IsProper path := by
  by_contra hproper
  obtain ⟨t, htarget, hfind⟩ := bind_eq_ok_iff.mp hfind
  obtain ⟨found, hlookup, hfind⟩ := bind_eq_ok_iff.mp hfind
  split at hfind
  case isTrue => cases hfind
  case isFalse hslash =>
    obtain rfl := Except.ok.inj hfind
    obtain hnone | ⟨hends, -⟩ := target_of_not_isProper hproper htarget
    · obtain ⟨-, directory, hwalk, ⟨-, hwhere⟩ | ⟨name, -, -, -, rfl⟩⟩ := exists_of_target htarget
      · have hdir := FileTree.look_walk hwalk (look_start hcwd path)
        have htarget : d.tree.look t.directory = .ok none := by
          obtain heq | heq := hwhere
          · rw [heq, hdir]
          · rw [heq, FileTree.look_dropLast hdir]
        rw [lookup, hnone] at hlookup
        dsimp only at hlookup
        rw [FileTree.look, hlookup] at htarget
        cases htarget
      · cases hnone
    · rw [hends] at hslash
      exact hslash rfl

theorem exists_openFile_of_not_isProper (d : Disk) (hproper : ¬Path.IsProper path) :
    ∃ e, d.openFile path = .error e := by
  rw [openFile]
  cases htarget : d.target path with
  | error e => exact ⟨e, rfl⟩
  | ok t =>
    have hdir : (t.name.isNone || t.slash) = true := by
      obtain hnone | ⟨hslash, -⟩ := target_of_not_isProper hproper htarget
      · rw [hnone]
        rfl
      · rw [hslash, Bool.or_true]
    simp only [bind, Except.bind, hdir, if_true]
    exact ⟨_, rfl⟩

/-- A path that names no file leads to the directory of the numbers, or to one above. -/
theorem place_of_not_isProper {a b : Target} {name : String} (hproper : ¬Path.IsProper path)
    (ha : d.target path = .ok a) (hname : a.name = some name) {k : Nat}
    (hb : d.target (logPath path (k + 1)) = .ok b) : a.place = b.directory := by
  obtain ⟨-, above, habove, ⟨hnone, -⟩ | ⟨last, hlast, hdot, hdots, rfl⟩⟩ := exists_of_target ha
  · rw [hname] at hnone
    cases hnone
  · have hstem : Path.stem path = "" := by
      obtain hnone | ⟨-, hstem⟩ := target_of_not_isProper hproper ha
      · cases hnone
      · exact hstem
    obtain ⟨-, -, place, hwalk, rfl⟩ := exists_walk_of_target (hasLogName_succ path k) hb
    have hparts : Path.folder path = (Path.parts path).dropLast ++ [last] := by
      rw [List.dropLast_append_getLast? last hlast, Path.parts_eq, if_pos hstem, List.append_nil]
    calc above ++ [last]
        = Path.resolve (d.start path) (Path.parts path).dropLast ++ [last] := by
          rw [FileTree.eq_resolve_of_walk habove]
      _ = Path.resolve (d.start path) (Path.folder path) := by
          rw [hparts, Path.resolve_concat, if_neg hdot, if_neg hdots]
      _ = place := (FileTree.eq_resolve_of_walk hwalk).symm

/-- A path that names no file cannot be moved to a number: a directory would move into itself. -/
theorem exists_rename_of_not_isProper (d : Disk) (hproper : ¬Path.IsProper path) (k : Nat) :
    ∃ e, d.rename path (logPath path (k + 1)) = .error e := by
  rw [rename]
  cases ha : d.target path with
  | error e => exact ⟨e, rfl⟩
  | ok a =>
    cases hb : d.target (logPath path (k + 1)) with
    | error e => exact ⟨e, rfl⟩
    | ok b =>
      simp only [bind, Except.bind]
      cases hname : a.name with
      | none => exact ⟨_, rfl⟩
      | some name =>
        have hinside : a.place.isPrefixOf b.directory = true := by
          rw [place_of_not_isProper hproper ha hname hb]
          exact List.isPrefixOf_iff_prefix.mpr List.prefix_rfl
        simp only [hinside, if_true]
        split
        · exact ⟨_, rfl⟩
        · cases d.lookup a with
          | error e => exact ⟨e, rfl⟩
          | ok found =>
            cases d.lookup? b with
            | error e => exact ⟨e, rfl⟩
            | ok present =>
              dsimp only
              split <;> exact ⟨_, rfl⟩

end Disk

end ServiceLang
