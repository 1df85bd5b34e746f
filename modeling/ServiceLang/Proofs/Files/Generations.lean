import ServiceLang.Proofs.Files.Parent
import ServiceLang.Proofs.Files.Rotation

namespace ServiceLang

/-!
# Generations of a log file

The log file and the older ones hold what has been written, a generation each, the newest first.

* `Disk.fileAt`: the bytes of the file at a path;
* `Disk.Shifted.fileAt_eq`: moving up numbers without files moves no file;
* `Disk.Generations`: the invariant; the files of a log are its newest generations;
* `Disk.Generations.rotate`, `Disk.Generations.addContent`: what a rotation and what writing do to
  the generations;
* `Disk.Generations.appendLog`: the step lemma.
-/

namespace Disk

variable {d d' : Disk} {path : String} {i j keep maxSize : Nat}
  {generations : List (List UInt8)}

/-- The bytes of the file at a path, if a file is there. -/
def fileAt (d : Disk) (p : String) : Option (List UInt8) :=
  d.tree.fileAt (Path.place d.directory p)

/-! ### Files and numbers -/

/-- The contents of a log are those of what stands under its number. -/
theorem fileAt_eq_logAt (hfits : FitsLog path i) :
    d.fileAt (logPath path i) = (d.logAt path i).bind FileTree.content? := by
  rw [fileAt, logAt, if_pos hfits, FileTree.fileAt, FileTree.look]
  cases d.tree.find (Path.place d.directory (logPath path i)) <;> rfl

/-- A path that names no file leads no deeper than the directory of the numbers. -/
theorem length_place_le (d : Disk) (hproper : ¬Path.IsProper path) :
    (Path.place d.directory path).length ≤
      (Path.resolve (d.start path) (Path.folder path)).length := by
  have hplace : Path.place d.directory path =
      Path.resolve (d.start path) (Path.parts path) := rfl
  rw [hplace, Path.parts_eq]
  split
  case isTrue => rw [List.append_nil]
  case isFalse hstem =>
    rw [Path.resolve_concat]
    split
    case isTrue => exact Nat.le_refl _
    case isFalse hdot =>
      split
      case isTrue =>
        rw [List.length_dropLast]
        exact Nat.sub_le _ _
      case isFalse hdots => exact absurd ⟨hstem, hdot, hdots⟩ hproper

/-- A place that is not deeper than an entry of a directory lies within no other entry. -/
theorem not_within_of_length {q : List String} {place : List String} {name : String}
    (hlength : q.length ≤ place.length + 1) (hne : q ≠ place ++ [name]) :
    ¬place ++ [name] <+: q := by
  intro hwithin
  refine hne (hwithin.eq_of_length_le ?_).symm
  rw [List.length_append]
  exact hlength

/-- No number lies at or below another. -/
theorem not_within (d : Disk) (hname : HasLogName path j) (hij : i ≠ j) :
    ¬Path.place d.directory (logPath path j) <+: Path.place d.directory (logPath path i) := by
  rw [place_logPath d hname]
  by_cases hi : HasLogName path i
  · rw [place_logPath d hi]
    refine not_within_of_length (by simp) fun heq => ?_
    have hnames : logName path i = logName path j := (List.cons.inj (List.append_cancel_left heq)).1
    exact hij (logName_injective hnames)
  · obtain ⟨rfl, hproper⟩ := Classical.not_imp.mp hi
    have hlength := length_place_le d hproper
    refine not_within_of_length (Nat.le_succ_of_le hlength) fun heq => ?_
    rw [logPath_zero] at heq
    rw [heq, List.length_append, List.length_singleton] at hlength
    omega

/-- The number 0 is not one of those that move. -/
theorem not_within_zero (d : Disk) (hname : HasLogName path j) :
    ¬Path.place d.directory (logPath path j) <+: Path.place d.directory (numberedLog path 0) := by
  have hdots : numberedName path 0 ≠ "." ∧ numberedName path 0 ≠ ".." :=
    ⟨numberedName_ne rfl, numberedName_ne rfl⟩
  rw [place_logPath d hname,
    place_eq_concat d (isAbsolute_numberedLog path 0) (parts_numberedLog path 0) hdots]
  refine not_within_of_length (by simp) fun heq => ?_
  have hnames : numberedName path 0 = logName path j :=
    (List.cons.inj (List.append_cancel_left heq)).1
  cases j with
  | zero => exact numberedName_ne_stem path 0 hnames
  | succ j => exact absurd (numberedName_injective hnames) (by omega)

/-- Looking at the same place finds the same contents. -/
theorem fileAt_of_look {p : String} (hdirectory : d'.directory = d.directory)
    (hlook : d'.tree.look (Path.place d.directory p) = d.tree.look (Path.place d.directory p)) :
    d'.fileAt p = d.fileAt p := by
  rw [fileAt, fileAt, hdirectory]
  exact FileTree.fileAt_congr hlook

namespace Shifted

section Places

variable (h : d.Shifted d' path j keep)
include h

/-- The number that was made free has no file. -/
theorem fileAt_free (hfits : FitsLog path j) : d'.fileAt (logPath path j) = none := by
  rw [fileAt_eq_logAt hfits, h.free]
  rfl

/-- A log that was shifted has the contents it had. -/
theorem fileAt_moved (hj : j ≤ i) (hi : i < keep) (hfits : FitsLog path (i + 1)) :
    d'.fileAt (logPath path (i + 1)) = d.fileAt (logPath path i) := by
  rw [fileAt_eq_logAt hfits, fileAt_eq_logAt (hfits.of_le (Nat.le_succ i)), h.moved i hj hi]

end Places

variable (h : d.Shifted d' path j keep) (hname : ∀ i, j ≤ i → HasLogName path i)
include h hname

/-- The number 0 takes no part in a shift. -/
theorem fileAt_zero : d'.fileAt (numberedLog path 0) = d.fileAt (numberedLog path 0) :=
  fileAt_of_look h.directory (h.others _ fun k hk _ _ => not_within_zero d (hname k hk))

/-- A number that is none of those that move, or one that the system does not take, stays. -/
theorem fileAt_of_outside (hout : ¬(j ≤ i ∧ i ≤ keep ∧ FitsLog path i)) :
    d'.fileAt (logPath path i) = d.fileAt (logPath path i) := by
  refine fileAt_of_look h.directory (h.others _ fun k hk hkeep hfits => ?_)
  refine not_within d (hname k hk) ?_
  rintro rfl
  exact hout ⟨hk, hkeep, hfits⟩

/-- Numbers without files move no file. -/
theorem fileAt_eq (hnone : ∀ i, j ≤ i → i ≤ keep → d.fileAt (logPath path i) = none) (i : Nat) :
    d'.fileAt (logPath path i) = d.fileAt (logPath path i) := by
  by_cases hin : j ≤ i ∧ i ≤ keep ∧ FitsLog path i
  · obtain ⟨hj, hi, hfits⟩ := hin
    rw [hnone i hj hi]
    obtain rfl | hlt := Nat.eq_or_lt_of_le hj
    · exact h.fileAt_free hfits
    · obtain ⟨k, rfl⟩ := Nat.exists_eq_add_of_le' (Nat.succ_le_of_lt (Nat.zero_lt_of_lt hlt))
      rw [h.fileAt_moved (Nat.le_of_lt_succ hlt) hi hfits]
      exact hnone k (Nat.le_of_lt_succ hlt) (Nat.le_of_succ_le hi)
  · exact h.fileAt_of_outside hname hin

end Shifted

/-- The contents of a log are those of its entry. -/
theorem LogDir.fileAt_eq {place : List String} {entries : List (String × FileTree)}
    (h : d.LogDir path place entries) (hname : HasLogName path i) (hfits : FitsLog path i) :
    d.fileAt (logPath path i) = (entries.lookup (logName path i)).bind FileTree.content? := by
  rw [fileAt_eq_logAt hfits, logAt_of_dir hname h.place_eq h.dir, logEntry_of_fits hfits]

/-- A directory has no contents. -/
theorem LogDir.fileAt_of_hasDir {place : List String} {entries : List (String × FileTree)}
    (h : d.LogDir path place entries) (hname : HasLogName path i)
    (hdir : d.hasDir (logPath path i) = true) : d.fileAt (logPath path i) = none := by
  obtain ⟨inner, hentry⟩ := (h.hasDir_iff hname).mp hdir
  obtain ⟨hfits, hlookup⟩ := fits_of_logEntry hentry
  rw [h.fileAt_eq hname hfits, hlookup]
  rfl

/-! ### The invariant -/

/-- The files of a log are its newest generations, the newest in the log file itself. All but that
    one have grown to the given length. -/
structure Generations (d : Disk) (path : String) (maxSize keep : Nat)
    (generations : List (List UInt8)) : Prop where
  files : ∀ i, d.fileAt (logPath path i) = if i ≤ keep then generations[i]? else none
  zero : d.fileAt (numberedLog path 0) = none
  large : ∀ content ∈ generations.tail, maxSize ≤ content.length
  fits : ∀ i, i < generations.length → i ≤ keep → FitsLog path i
  proper : generations ≠ [] → Path.IsProper path

namespace Generations

/-- Only the contents of the logs matter for the generations. -/
theorem congr (h : d.Generations path maxSize keep generations)
    (hfiles : ∀ i, d'.fileAt (logPath path i) = d.fileAt (logPath path i))
    (hzero : d'.fileAt (numberedLog path 0) = d.fileAt (numberedLog path 0)) :
    d'.Generations path maxSize keep generations :=
  ⟨fun i => (hfiles i).trans (h.files i), hzero.trans h.zero, h.large, h.fits, h.proper⟩

/-- What changes no file leaves the generations as they are. -/
theorem of_keepsFiles (h : d.Generations path maxSize keep generations) (hkeeps : d.KeepsFiles d') :
    d'.Generations path maxSize keep generations := by
  have hfile : ∀ p, d'.fileAt p = d.fileAt p := by
    intro p
    rw [fileAt, fileAt, hkeeps.directory, hkeeps.fileAt]
  exact h.congr (fun i => hfile _) (hfile _)

/-- From a number on that has no file, none has. -/
theorem fileAt_eq_none (h : d.Generations path maxSize keep generations) (hj : j ≤ keep)
    (hnone : d.fileAt (logPath path j) = none) (hi : j ≤ i) :
    d.fileAt (logPath path i) = none := by
  rw [h.files j, if_pos hj, List.getElem?_eq_none_iff] at hnone
  rw [h.files i, List.getElem?_eq_none (Nat.le_trans hnone hi), ite_self]

end Generations

/-! ### Rotating -/

/-- Opening a log file moves it away. -/
def rotates (d : Disk) (path : String) (maxSize keep : Nat) : Bool :=
  match d.find path with
  | .ok found => maxSize ≤ found.size && 1 ≤ keep && (d.rotate path maxSize keep).fault.isNone
  | .error _ => false

/-- The files of a log after it has been moved away: all generations have grown to the given
    length, and the log file can be made again. -/
structure Vacated (d : Disk) (path : String) (maxSize keep : Nat)
    (generations : List (List UInt8)) : Prop where
  files : ∀ i, d.fileAt (logPath path (i + 1)) = if i < keep then generations[i]? else none
  zero : d.fileAt (numberedLog path 0) = none
  large : ∀ content ∈ generations, maxSize ≤ content.length
  fits : ∀ i, i < generations.length → i < keep → FitsLog path (i + 1)
  proper : Path.IsProper path
  takes : FitsLog path 0
  free : d.logAt path 0 = none
  dir : ∃ place entries, d.LogDir path place entries

/-- A shift of all numbers moves all generations. -/
theorem Shifted.vacated (h : d.Generations path maxSize keep generations)
    (hshifted : d.Shifted d' path 0 keep) (hproper : Path.IsProper path)
    (hlarge : ∀ content ∈ generations, maxSize ≤ content.length) (htakes : FitsLog path 0)
    (hdir : ∃ place entries, d'.LogDir path place entries) :
    d'.Vacated path maxSize keep generations := by
  have hname : ∀ i, 0 ≤ i → HasLogName path i := fun i _ _ => hproper
  have hlength : ∀ i, i ≤ keep → ¬FitsLog path i → generations[i]? = none := by
    intro i hi hfits
    rw [List.getElem?_eq_none_iff]
    by_contra hlt
    exact hfits (h.fits i (Nat.lt_of_not_le hlt) hi)
  -- a generation that cannot move is none: its number stays free
  have hstays : ∀ i, i < keep → ¬FitsLog path (i + 1) → generations[i]? = none := by
    intro i hi hfits
    by_cases hlow : FitsLog path i
    · have hmoved := hshifted.moved i (Nat.zero_le i) hi
      have hfile := fileAt_eq_logAt (d := d) hlow
      rw [logAt, if_neg hfits] at hmoved
      rw [← hmoved, h.files i, if_pos (Nat.le_of_lt hi)] at hfile
      exact hfile
    · exact hlength i (Nat.le_of_lt hi) hlow
  refine ⟨fun i => ?_, ?_, hlarge, fun i hi hk => ?_, hproper, htakes, hshifted.free, hdir⟩
  · by_cases hi : i < keep
    · rw [if_pos hi]
      by_cases hfits : FitsLog path (i + 1)
      · rw [hshifted.fileAt_moved (Nat.zero_le i) hi hfits, h.files i, if_pos (Nat.le_of_lt hi)]
      · rw [hshifted.fileAt_of_outside hname fun hin => hfits hin.2.2, h.files (i + 1),
          if_pos (Nat.succ_le_of_lt hi), hlength (i + 1) hi hfits, hstays i hi hfits]
    · rw [if_neg hi, hshifted.fileAt_of_outside hname fun hin => hi hin.2.1, h.files (i + 1),
        if_neg (mt Nat.lt_of_succ_le hi)]
  · rw [hshifted.fileAt_zero hname, h.zero]
  · by_contra hfits
    have hnone := hstays i hk hfits
    rw [List.getElem?_eq_none_iff] at hnone
    omega

/-- **Rotating** keeps the generations where they are, or moves all of them up. -/
theorem Generations.rotate {n : Nat} (h : d.Generations path maxSize (n + 1) generations) :
    (d.rotate path maxSize (n + 1)).disk.Generations path maxSize (n + 1) generations ∨
      (d.rotate path maxSize (n + 1)).fault = none ∧
        d.rotates path maxSize (n + 1) = true ∧
        (d.rotate path maxSize (n + 1)).disk.Vacated path maxSize (n + 1) generations := by
  cases hfind : d.find path with
  | error e =>
    refine .inl ?_
    rw [Disk.rotate, hfind]
    cases e <;> exact h
  | ok found =>
    by_cases hsize : maxSize ≤ found.size
    case neg =>
      refine .inl ?_
      rw [Disk.rotate, hfind]
      dsimp only
      rw [if_pos (.inl (Nat.lt_of_not_le hsize))]
      exact h
    case pos =>
      have hrotates : d.rotates path maxSize (n + 1) =
          (d.rotate path maxSize (n + 1)).fault.isNone := by
        rw [rotates, hfind]
        simp [hsize]
      have hrun := rotationRun_rotate (n := n) hfind hsize
      rw [hrotates]
      generalize d.rotate path maxSize (n + 1) = a at hrun
      cases hrun with
      | refused => exact .inl h
      | @halted j d' e hj hshifted hrefuses hcarries hlast =>
        have hname : ∀ i, j ≤ i → HasLogName path i := fun i hi hzero => by omega
        refine .inl (h.congr (hshifted.fileAt_eq hname fun i hi hk => ?_)
          (hshifted.fileAt_zero hname))
        -- the path leads through a directory, so its number lies beyond the generations
        by_cases hproper : Path.IsProper path
        · obtain ⟨hk, hcarries⟩ := hcarries hproper
          obtain ⟨place, entries, hdir, -⟩ :=
            exists_logDir_of_find (i := 0) (fun _ => hproper) hfind
          have hhas := hdir.hasDir_of_carries (hname j (Nat.le_refl j)) hcarries
          have hnone := hdir.fileAt_of_hasDir (hname j (Nat.le_refl j)) hhas
          exact h.fileAt_eq_none (Nat.le_of_lt hk) hnone hi
        · have hnil : generations = [] := by
            by_contra hne
            exact hproper (h.proper hne)
          rw [h.files i, hnil]
          simp
      | @complete d' hproper hshifted hrefuses hcarries hdir =>
        have hname : ∀ i, 0 ≤ i → HasLogName path i := fun i _ _ => hproper
        cases hgenerations : generations with
        | nil =>
          rw [hgenerations] at h
          refine .inl (h.congr (hshifted.fileAt_eq hname fun i _ _ => ?_)
            (hshifted.fileAt_zero hname))
          rw [h.files i]
          simp
        | cons newest older =>
          rw [hgenerations] at h
          obtain ⟨place, entries, hbase, hfits, hlookup⟩ :=
            exists_logDir_of_find (hname 0 (Nat.le_refl 0)) hfind
          have hfile : d.fileAt (logPath path 0) = some newest := by
            rw [h.files 0, if_pos (Nat.zero_le _)]
            rfl
          have hway : ¬d.Carries path 0 := by
            intro hcarries
            have hhas := hbase.hasDir_of_carries (hname 0 (Nat.le_refl 0)) hcarries
            rw [hbase.fileAt_of_hasDir (hname 0 (Nat.le_refl 0)) hhas] at hfile
            cases hfile
          have hnewest : maxSize ≤ newest.length := by
            rw [hbase.fileAt_eq (hname 0 (Nat.le_refl 0)) hfits, hlookup] at hfile
            cases found with
            | dir inner => cases hfile
            | file content =>
              obtain rfl := Option.some.inj hfile
              exact hsize
          exact .inr ⟨rfl, rfl, hshifted.vacated h hproper
            (List.forall_mem_cons.mpr ⟨hnewest, h.large⟩) hfits (hdir.resolve_left hway)⟩

/-! ### Writing -/

/-- A log file that is written has its directory, and is no directory itself. -/
theorem exists_logDir_of_addContent {content : List UInt8} (hname : HasLogName path i)
    (h : d.addContent (logPath path i) content = .ok d') :
    ∃ place entries, d.LogDir path place entries ∧ FitsLog path i ∧
      ∀ inner, entries.lookup (logName path i) ≠ some (.dir inner) := by
  obtain ⟨⟨at', earlier⟩, hopen, hput⟩ := bind_eq_ok_iff.mp h
  obtain ⟨t, htarget, hopen⟩ := bind_eq_ok_iff.mp hopen
  obtain ⟨hnul, hsize, place, hwalk, rfl⟩ := exists_walk_of_target hname htarget
  obtain ⟨present, hpresent, hopen⟩ := bind_eq_ok_iff.mp hopen
  obtain ⟨tree, hput, -⟩ := bind_eq_ok_iff.mp hput
  -- A name that is too long is refused when the file is looked for.
  have hshort : (logName path i).utf8ByteSize ≤ FileTree.maxNameSize := by
    by_contra hlong
    rw [lookup?, lookup] at hpresent
    dsimp only at hpresent
    rw [FileTree.entry, if_pos (Nat.lt_of_not_le hlong)] at hpresent
    cases hpresent
  have hplace : at' = place ++ [logName path i] := by
    cases present with
    | none =>
      exact (congrArg Prod.fst (Except.ok.inj hopen)).symm
    | some found =>
      cases found with
      | file bytes => exact (congrArg Prod.fst (Except.ok.inj hopen)).symm
      | dir inner => cases hopen
  rw [hplace] at hput
  obtain ⟨entries, hdir⟩ := FileTree.exists_dir_of_put hput
  have hbase : d.LogDir path place entries := ⟨hnul, hwalk, hdir⟩
  refine ⟨place, entries, hbase, ⟨hsize, hshort⟩, fun inner hinner => ?_⟩
  rw [lookup?, hbase.lookup_eq hshort, hinner] at hpresent
  obtain rfl := Except.ok.inj hpresent
  cases hopen

/-- **Writing** adds to the bytes of the log file, and changes no older one. -/
theorem fileAt_of_addContent {content : List UInt8} (h : d.addContent path content = .ok d') :
    Path.IsProper path ∧ FitsLog path 0 ∧
      d'.fileAt path = some ((d.fileAt path).getD [] ++ content) ∧
      (∀ i, d'.fileAt (logPath path (i + 1)) = d.fileAt (logPath path (i + 1))) ∧
      d'.fileAt (numberedLog path 0) = d.fileAt (numberedLog path 0) := by
  have hproper : Path.IsProper path := by
    by_contra hproper
    obtain ⟨e, hopen⟩ := exists_openFile_of_not_isProper d hproper
    rw [addContent, hopen] at h
    cases h
  have hname : HasLogName path 0 := fun _ => hproper
  obtain ⟨place, entries, hbase, hfits, hfree⟩ := exists_logDir_of_addContent hname h
  obtain ⟨t', hadd, hupdates⟩ := hbase.addContent_eq hproper hfits hfree content
  obtain rfl := Except.ok.inj (h.symm.trans hadd)
  have hplace := place_logPath d hname
  rw [logPath_zero, logName_zero, hbase.place_eq] at hplace
  -- No other file stands at the path of the log or below it, so that none of them changes.
  have hother : ∀ p, ¬Path.place d.directory path <+: Path.place d.directory p →
      Disk.fileAt { d with tree := t' } p = d.fileAt p := by
    intro p hp
    refine fileAt_of_look rfl (hupdates.look_eq fun name rest hbelow => ?_)
    rw [lookup_setKey, if_neg]
    rintro rfl
    refine hp ⟨rest, ?_⟩
    rw [hbelow, hplace, List.append_assoc]
    rfl
  refine ⟨hproper, hfits, ?_, fun i => ?_, ?_⟩
  · show t'.fileAt (Path.place d.directory path) = _
    rw [fileAt, hplace, FileTree.fileAt_concat hupdates.after, FileTree.fileAt_concat hbase.dir,
      lookup_setKey, if_pos rfl]
    rfl
  · exact hother _ (not_within (j := 0) d hname (Nat.succ_ne_zero i))
  · exact hother _ (not_within_zero (j := 0) d hname)

/-- The generations with bytes added to the newest one, which is the first if there is none. -/
def addNewest (content : List UInt8) : List (List UInt8) → List (List UInt8)
  | [] => [content]
  | newest :: older => (newest ++ content) :: older

/-- New content goes behind the newest generation. -/
theorem getElem?_addNewest_zero (content : List UInt8) (generations : List (List UInt8)) :
    (addNewest content generations)[0]? = some (generations[0]?.getD [] ++ content) := by
  cases generations <;> rfl

/-- New content does not go to older generations. -/
theorem getElem?_addNewest_succ (content : List UInt8) (generations : List (List UInt8)) (i : Nat) :
    (addNewest content generations)[i + 1]? = generations[i + 1]? := by
  cases generations <;> rfl

/-- Read from the oldest generation on, new content comes last. -/
theorem flatten_addNewest (content : List UInt8) (generations : List (List UInt8)) :
    (addNewest content generations).reverse.flatten = generations.reverse.flatten ++ content := by
  cases generations <;> simp [addNewest]

/-- Appending to the log adds to the newest generation. -/
theorem Generations.addContent {content : List UInt8}
    (h : d.Generations path maxSize keep generations) (hadd : d.addContent path content = .ok d') :
    d'.Generations path maxSize keep (addNewest content generations) := by
  obtain ⟨hproper, hfits, hnewest, hothers, hzero⟩ := fileAt_of_addContent hadd
  refine ⟨fun i => ?_, hzero.trans h.zero, ?_, fun i hi hk => ?_, fun _ => hproper⟩
  · cases i with
    | zero =>
      have hfile := h.files 0
      rw [if_pos (Nat.zero_le keep), logPath_zero] at hfile
      rw [if_pos (Nat.zero_le keep), getElem?_addNewest_zero, logPath_zero, hnewest, hfile]
    | succ i => rw [getElem?_addNewest_succ, hothers, h.files]
  · cases generations with
    | nil => exact h.large
    | cons newest older => exact h.large
  · cases i with
    | zero => exact hfits
    | succ i =>
      cases generations with
      | nil => exact absurd (Nat.lt_of_succ_lt_succ hi) (Nat.not_lt_zero i)
      | cons newest older => exact h.fits (i + 1) hi hk

/-- A log file that has been moved away is made again. -/
theorem Vacated.addContent (h : d.Vacated path maxSize keep generations) (content : List UInt8) :
    ∃ d', d.addContent path content = .ok d' ∧
      d'.Generations path maxSize keep (content :: generations) := by
  obtain ⟨place, entries, hbase⟩ := h.dir
  have hname : HasLogName path 0 := fun _ => h.proper
  have hlookup : entries.lookup (logName path 0) = none := by
    rw [← logEntry_of_fits h.takes, ← logAt_of_dir hname hbase.place_eq hbase.dir]
    exact h.free
  have hfree : ∀ inner, entries.lookup (logName path 0) ≠ some (.dir inner) := by
    intro inner
    rw [hlookup]
    exact (Option.some_ne_none _).symm
  obtain ⟨t', hadd, -⟩ := hbase.addContent_eq h.proper h.takes hfree content
  refine ⟨_, hadd, ?_⟩
  obtain ⟨-, -, hnewest, hothers, hzero⟩ := fileAt_of_addContent hadd
  have hnone : d.fileAt path = none := by
    rw [← logPath_zero path, hbase.fileAt_eq hname h.takes, hlookup]
    rfl
  refine ⟨fun i => ?_, hzero.trans h.zero, h.large, fun i hi hk => ?_, fun _ => h.proper⟩
  · cases i with
    | zero =>
      rw [logPath_zero, hnewest, hnone, if_pos (Nat.zero_le keep)]
      rfl
    | succ i =>
      rw [hothers, h.files]
      rfl
  · cases i with
    | zero => exact h.takes
    | succ i => exact h.fits i (Nat.lt_of_succ_lt_succ hi) hk

/-! ### One append -/

/-- **One step.** A failed append loses nothing; one that succeeds adds to the newest generation, or
    starts a new one when the log file has been moved away. -/
theorem Generations.appendLog {n : Nat} (h : d.Generations path maxSize (n + 1) generations)
    (content : List UInt8) :
    (d.appendLog path maxSize (n + 1) content).fault.isSome = true ∧
        (d.appendLog path maxSize (n + 1) content).disk.Generations path maxSize (n + 1)
          generations ∨
      (d.appendLog path maxSize (n + 1) content).fault = none ∧
        (d.appendLog path maxSize (n + 1) content).disk.Generations path maxSize (n + 1)
          (addNewest content generations) ∨
      (d.appendLog path maxSize (n + 1) content).fault = none ∧
        (d.appendLog path maxSize (n + 1) content).disk.Generations path maxSize (n + 1)
          (content :: generations) ∧
        (d.makeParent path).fault = none ∧
        (d.makeParent path).disk.rotates path maxSize (n + 1) = true := by
  have hparent := h.of_keepsFiles (keepsFiles_makeParent d path)
  rw [Disk.appendLog]
  cases hfault : (d.makeParent path).fault with
  | some e =>
    simp only [Attempt.andThen, hfault]
    exact .inl ⟨rfl, hparent⟩
  | none =>
    simp only [Attempt.andThen, hfault]
    generalize (d.makeParent path).disk = d₁ at hparent
    -- Without a rotation the line joins the newest generation. After one the log file is free, and
    -- the line is a generation of its own.
    obtain hsame | ⟨hnone, hrotates, hvacated⟩ := hparent.rotate
    · cases hrotated : (d₁.rotate path maxSize (n + 1)).fault with
      | some e =>
        simp only [hrotated]
        exact .inl ⟨rfl, hsame⟩
      | none =>
        generalize (d₁.rotate path maxSize (n + 1)).disk = d₂ at hsame
        dsimp only
        cases hadd : d₂.addContent path content with
        | error e => exact .inl ⟨rfl, hsame⟩
        | ok d₃ => exact .inr (.inl ⟨rfl, hsame.addContent hadd⟩)
    · simp only [hnone]
      obtain ⟨d₃, hadd, hgenerations⟩ := hvacated.addContent content
      rw [hadd]
      exact .inr (.inr ⟨rfl, hgenerations, trivial, hrotates⟩)

end Disk

end ServiceLang
