import ServiceLang.Proofs.Files.LogDir

namespace ServiceLang

/-!
# Rotation

A rotation moves the numbers of a log file up, the highest first, so that each one moves to a
number that is free.

* `Disk.Shifted`: the numbers from one on have moved up, and nothing else has changed;
* `Disk.MovedUp.step`: the step lemma; one more number moves up;
* `Disk.shiftRun_perform`: the run lemma; the older log files move up, or nothing changes because a
  name would become too long, or a directory moves up that the path leads through;
* `Disk.rotationRun_perform`: the same for a whole rotation;
* `Disk.rotate_of_due`: a rotation of a file, in all cases.
-/

/-- What stands under a number among the entries of a directory, if the system takes its name. -/
def logEntry (path : String) (entries : List (String × FileTree)) (i : Nat) : Option FileTree :=
  if FitsLog path i then entries.lookup (logName path i) else none

section Entry

variable {path : String} {entries entries' : List (String × FileTree)} {i j : Nat}

/-- A log whose path the system takes is the entry of its name. -/
theorem logEntry_of_fits (h : FitsLog path i) :
    logEntry path entries i = entries.lookup (logName path i) := if_pos h

/-- A log that is there has a path that the system takes, and is the entry of its name. -/
theorem fits_of_logEntry {found : FileTree} (h : logEntry path entries i = some found) :
    FitsLog path i ∧ entries.lookup (logName path i) = some found := by
  rw [logEntry] at h
  split at h
  case isTrue hfits => exact ⟨hfits, h⟩
  case isFalse => cases h

/-- Only the entry of its own name matters for a log. -/
theorem logEntry_congr
    (h : FitsLog path i → entries'.lookup (logName path i) = entries.lookup (logName path i)) :
    logEntry path entries' i = logEntry path entries i := by
  rw [logEntry, logEntry]
  split
  case isTrue hfits => exact h hfits
  case isFalse => rfl

end Entry

namespace Disk

variable {d d' : Disk} {path : String} {place : List String}
  {entries entries' : List (String × FileTree)} {i j keep : Nat}

/-! ### What stands under a number -/

/-- What stands at the place of a number, if the system takes its path. -/
def logAt (d : Disk) (path : String) (i : Nat) : Option FileTree :=
  if FitsLog path i then (d.tree.find (Path.place d.directory (logPath path i))).toOption else none

/-- A path that names something in the directory of a log file leads to a place in that. -/
theorem place_eq_concat (d : Disk) {p name : String}
    (habsolute : Path.isAbsolute p = Path.isAbsolute path)
    (hparts : Path.parts p = Path.folder path ++ [name]) (hdots : name ≠ "." ∧ name ≠ "..") :
    Path.place d.directory p = Path.resolve (d.start path) (Path.folder path) ++ [name] := by
  have hplace : Path.place d.directory p = Path.resolve (d.start path) (Path.parts p) := by
    rw [Path.place, habsolute]
    rfl
  rw [hplace, hparts, Path.resolve_concat, if_neg hdots.1, if_neg hdots.2]

/-- A log is in the directory of its path's folder, under its own name. -/
theorem place_logPath (d : Disk) (hname : HasLogName path i) :
    Path.place d.directory (logPath path i) =
      Path.resolve (d.start path) (Path.folder path) ++ [logName path i] :=
  place_eq_concat d (isAbsolute_logPath path i) (parts_logPath hname) (logName_ne_dots hname)

namespace LogDir

variable (h : d.LogDir path place entries)
include h

/-- The directory of the logs is where their folder leads. -/
theorem place_eq : Path.resolve (d.start path) (Path.folder path) = place :=
  (FileTree.eq_resolve_of_walk h.walk).symm

/-- What stands at the path of a log is its entry. -/
theorem toOption_find (hname : HasLogName path i) :
    (d.find (logPath path i)).toOption = logEntry path entries i := by
  cases hentry : logEntry path entries i with
  | none =>
    cases hfind : d.find (logPath path i) with
    | error e => rfl
    | ok found =>
      obtain ⟨place', entries', h', hfits, hlookup⟩ := exists_logDir_of_find hname hfind
      obtain ⟨-, rfl⟩ := h.eq_of_logDir h'
      rw [logEntry_of_fits hfits, hlookup] at hentry
      cases hentry
  | some found =>
    obtain ⟨hfits, hlookup⟩ := fits_of_logEntry hentry
    rw [h.find_eq hname hfits, hlookup]
    rfl

/-- Something stands at the path of a log exactly when it has an entry. -/
theorem contains_eq (hname : HasLogName path i) :
    d.contains (logPath path i) = (logEntry path entries i).isSome := by
  rw [contains, ← h.toOption_find hname]
  cases d.find (logPath path i) <;> rfl

/-- A directory stands at the path of a log exactly when its entry is one. -/
theorem hasDir_iff (hname : HasLogName path i) :
    d.hasDir (logPath path i) = true ↔ ∃ inner, logEntry path entries i = some (.dir inner) := by
  rw [hasDir, ← h.toOption_find hname]
  cases d.find (logPath path i) with
  | error e => simp [Except.toOption]
  | ok found => cases found <;> simp [Except.toOption, FileTree.isDir]

end LogDir

/-- A log is the entry of the directory that its folder leads to. -/
theorem logAt_of_dir (hname : HasLogName path i)
    (hplace : Path.resolve (d.start path) (Path.folder path) = place)
    (hdir : d.tree.find place = .ok (.dir entries)) : d.logAt path i = logEntry path entries i := by
  rw [logAt, place_logPath d hname, hplace, FileTree.find_concat hdir, logEntry]
  cases entries.lookup (logName path i) <;> rfl

/-- What stands at the path of a log is the log, as the disk has it. -/
theorem LogDir.toOption_find_eq_logAt (h : d.LogDir path place entries)
    (hname : HasLogName path i) : (d.find (logPath path i)).toOption = d.logAt path i := by
  rw [h.toOption_find hname, logAt_of_dir hname h.place_eq h.dir]

/-! ### Numbers that cannot move up -/

/-- A number is taken, and the system does not take the next one. -/
def Blocked (d : Disk) (path : String) (i : Nat) : Prop :=
  d.contains (logPath path i) = true ∧ ¬FitsLog path (i + 1)

/-- A number is taken by a directory that the path of the log file itself leads through. -/
def Carries (d : Disk) (path : String) (i : Nat) : Prop :=
  d.contains (logPath path i) = true ∧
    ∃ q ∈ Path.crossed (d.start path) (Path.folder path),
      Path.place d.directory (logPath path i) <+: q

/-- A rotation does nothing: the oldest log file cannot be dropped, or one of them cannot move. -/
def RefusesRotation (d : Disk) (path : String) (keep : Nat) : Prop :=
  d.hasDir (logPath path keep) = true ∨ ∃ i, i < keep ∧ d.Blocked path i

/-! ### Moving up -/

/-- The numbers from one on, below the number of those kept, have moved up in the directory of a
    log file. Nothing has changed as long as the first of them is one that the system does not
    take. -/
structure MovedUp (d : Disk) (path : String) (place : List String)
    (entries : List (String × FileTree)) (keep j : Nat) (d' : Disk)
    (entries' : List (String × FileTree)) : Prop where
  directory : d'.directory = d.directory
  updates : FileTree.Updates place d.tree d'.tree entries entries'
  free : logEntry path entries' j = none
  moved : ∀ i, j ≤ i → i < keep → logEntry path entries' (i + 1) = logEntry path entries i
  others : ∀ name, (∀ i, j ≤ i → i ≤ keep → FitsLog path i → name ≠ logName path i) →
    entries'.lookup name = entries.lookup name
  unmoved : ¬FitsLog path j → d' = d

namespace MovedUp

/-- Moving up from `j + 1` on leaves log `j` where it was. -/
theorem logEntry_eq (h : d.MovedUp path place entries keep (j + 1) d' entries') :
    logEntry path entries' j = logEntry path entries j := by
  refine logEntry_congr fun _ => h.others _ fun i hi _ _ heq => ?_
  have := logName_injective heq
  omega

/-- A number that is free need not move. -/
theorem of_free (h : d.MovedUp path place entries keep (j + 1) d' entries')
    (hfree : logEntry path entries j = none) : d.MovedUp path place entries keep j d' entries' where
  directory := h.directory
  updates := h.updates
  free := h.logEntry_eq.trans hfree
  moved i hj hi := by
    obtain rfl | hlt := Nat.eq_or_lt_of_le hj
    · rw [h.free, hfree]
    · exact h.moved i hlt hi
  others name hname := h.others name fun i hi => hname i (Nat.le_of_succ_le hi)
  unmoved hfits := h.unmoved fun hnext => hfits (hnext.of_le (Nat.le_succ j))

/-- One more number has moved up. -/
theorem of_rename {t' : FileTree} {found : FileTree}
    (h : d.MovedUp path place entries keep (j + 1) d' entries') (hj : j < keep)
    (hfound : logEntry path entries j = some found) (hfits : FitsLog path (j + 1))
    (hupdates : FileTree.Updates place d'.tree t' entries'
      (setKey (logName path (j + 1)) found (eraseKey (logName path j) entries'))) :
    d.MovedUp path place entries keep j { d' with tree := t' }
      (setKey (logName path (j + 1)) found (eraseKey (logName path j) entries')) := by
  have hne : ∀ {i k}, i ≠ k → logName path i ≠ logName path k :=
    fun hik heq => hik (logName_injective heq)
  have hlow : FitsLog path j := hfits.of_le (Nat.le_succ j)
  refine ⟨h.directory, h.updates.trans hupdates, ?_, fun i hi hik => ?_, fun name hname => ?_,
    fun hnot => absurd hlow hnot⟩
  · rw [logEntry_of_fits hlow, lookup_setKey, if_neg (hne (by omega)), lookup_eraseKey, if_pos rfl]
  · obtain rfl | hlt := Nat.eq_or_lt_of_le hi
    · rw [logEntry_of_fits hfits, lookup_setKey, if_pos rfl, hfound]
    · rw [← h.moved i hlt hik]
      refine logEntry_congr fun _ => ?_
      rw [lookup_setKey, if_neg (hne (by omega)), lookup_eraseKey, if_neg (hne (by omega))]
  · rw [lookup_setKey, if_neg (hname (j + 1) (Nat.le_succ j) hj hfits), lookup_eraseKey,
      if_neg (hname j (Nat.le_refl j) (Nat.le_of_lt hj) hlow)]
    exact h.others name fun i hi => hname i (Nat.le_of_succ_le hi)

end MovedUp

/-! ### The way to the directory -/

/-- Only directories are on the way to a log file. -/
theorem LogDir.exists_dir_of_crossed (h : d.LogDir path place entries) {q : List String}
    {name : String} (hq : q ∈ Path.crossed (d.start path) (Path.folder path))
    (hwithin : place ++ [name] <+: q) : ∃ inner, entries.lookup name = some (.dir inner) := by
  obtain ⟨below, hfind⟩ := FileTree.look_eq_dir_iff.mp (FileTree.look_of_walk h.walk q hq)
  obtain ⟨rest, rfl⟩ := hwithin
  rw [List.append_assoc, List.singleton_append, FileTree.find_below h.dir] at hfind
  cases hlookup : entries.lookup name with
  | none =>
    rw [hlookup] at hfind
    cases hfind
  | some found =>
    cases found with
    | dir inner => exact ⟨inner, rfl⟩
    | file content =>
      rw [hlookup] at hfind
      cases rest <;> cases hfind

/-- A numbered log on the way to the logs is a directory. -/
theorem LogDir.hasDir_of_carries (h : d.LogDir path place entries) (hname : HasLogName path i)
    (hcarries : d.Carries path i) : d.hasDir (logPath path i) = true := by
  obtain ⟨hcontains, q, hq, hwithin⟩ := hcarries
  rw [place_logPath d hname, h.place_eq] at hwithin
  obtain ⟨inner, hinner⟩ := h.exists_dir_of_crossed hq hwithin
  rw [h.contains_eq hname, Option.isSome_iff_exists] at hcontains
  obtain ⟨found, hfound⟩ := hcontains
  rw [h.hasDir_iff hname, hfound]
  rw [(fits_of_logEntry hfound).2] at hinner
  exact ⟨inner, hinner⟩

/-- After a number has moved up, the directory is still there unless it was on the way. -/
theorem LogDir.of_rename {found t' : FileTree} (h : d.LogDir path place entries)
    (hfree : entries.lookup (logName path j) = none)
    (hupdates : FileTree.Updates place d.tree t' entries
      (setKey (logName path j) found (eraseKey (logName path i) entries)))
    (haway : ∀ q ∈ Path.crossed (d.start path) (Path.folder path),
      ¬place ++ [logName path i] <+: q) :
    LogDir { d with tree := t' } path place
      (setKey (logName path j) found (eraseKey (logName path i) entries)) := by
  refine h.of_updates hupdates fun q hq hdir => ?_
  rw [hupdates.look_eq, hdir]
  rintro name rest rfl
  have hwithin : place ++ [name] <+: place ++ name :: rest := ⟨rest, by simp⟩
  have hi : name ≠ logName path i := by
    rintro rfl
    exact haway _ hq hwithin
  have hj : name ≠ logName path j := by
    rintro rfl
    obtain ⟨inner, hinner⟩ := h.exists_dir_of_crossed hq hwithin
    rw [hfree] at hinner
    cases hinner
  rw [lookup_setKey, if_neg hj, lookup_eraseKey, if_neg hi]

/-- A directory that was on the way is missing there once it is gone. -/
theorem not_logDir_of_free {q : List String} (hfind : d.tree.find place = .ok (.dir entries))
    {name : String} (hfree : entries.lookup name = none)
    (hq : q ∈ Path.crossed (d.start path) (Path.folder path)) (hwithin : place ++ [name] <+: q) :
    ¬∃ place entries, d.LogDir path place entries := by
  rintro ⟨place', entries', h⟩
  obtain ⟨rest, rfl⟩ := hwithin
  obtain ⟨inner, hinner⟩ := FileTree.look_eq_dir_iff.mp (FileTree.look_of_walk h.walk _ hq)
  rw [List.append_assoc, List.singleton_append, FileTree.find_below hfind, hfree] at hinner
  cases hinner

/-- Without a directory for the logs there are none. -/
theorem contains_of_not_logDir (h : ¬∃ place entries, d.LogDir path place entries)
    (hname : HasLogName path i) : d.contains (logPath path i) = false := by
  rw [contains]
  cases hfind : d.find (logPath path i) with
  | error e => rfl
  | ok found =>
    obtain ⟨place, entries, hdir, -⟩ := exists_logDir_of_find hname hfind
    exact absurd ⟨place, entries, hdir⟩ h

/-- Without a directory for the logs none can be renamed. -/
theorem exists_rename_of_not_logDir (h : ¬∃ place entries, d.LogDir path place entries)
    (hname : HasLogName path i) (p : String) : ∃ e, d.rename (logPath path i) p = .error e := by
  rw [rename]
  cases ha : d.target (logPath path i) with
  | error e => exact ⟨e, rfl⟩
  | ok a =>
    cases d.target p with
    | error e => exact ⟨e, rfl⟩
    | ok b =>
      simp only [bind, Except.bind]
      split
      · exact ⟨_, rfl⟩
      · cases hlookup : d.lookup a with
        | error e => exact ⟨e, rfl⟩
        | ok found =>
          obtain ⟨place, entries, hdir, -⟩ := exists_logDir_of_lookup hname ha hlookup
          exact absurd ⟨place, entries, hdir⟩ h

/-! ### The run of the shifts -/

/-- **One step.** A number that is taken moves up to the next one, which is free. The directory is
    still there unless the path leads through what has moved. -/
theorem MovedUp.step {found : FileTree} (hbase : d.LogDir path place entries)
    (h : d.MovedUp path place entries keep (j + 1) d' entries') (hj : j < keep)
    (hdir : d'.LogDir path place entries') (hname : HasLogName path j)
    (hfound : logEntry path entries j = some found) (hfits : FitsLog path (j + 1)) :
    ∃ d'' entries'', d'.rename (logPath path j) (logPath path (j + 1)) = .ok d'' ∧
      d.MovedUp path place entries keep j d'' entries'' ∧
      (d''.LogDir path place entries'' ∧ ¬d.Carries path j ∨
        (¬∃ place entries, d''.LogDir path place entries) ∧ d.Carries path j) := by
  have hnext : HasLogName path (j + 1) := hasLogName_succ path j
  have hlow : FitsLog path j := hfits.of_le (Nat.le_succ j)
  have hfree : entries'.lookup (logName path (j + 1)) = none := by
    rw [← logEntry_of_fits hfits]
    exact h.free
  have hsource : entries'.lookup (logName path j) = some found := by
    rw [← logEntry_of_fits hlow, h.logEntry_eq, hfound]
  obtain ⟨t', hrename, hupdates⟩ :=
    hdir.rename_eq hname hnext (by omega) hlow hfits hsource hfree
  have hmoved := h.of_rename hj hfound hfits hupdates
  refine ⟨_, _, hrename, hmoved, ?_⟩
  have hstart : d.start path = d'.start path := by rw [start, start, h.directory]
  have hplace : Path.place d.directory (logPath path j) = place ++ [logName path j] := by
    rw [place_logPath d hname, hbase.place_eq]
  by_cases hcarries : d.Carries path j
  -- right after the move its old place is empty, so a path through it leads nowhere
  · obtain ⟨-, q, hq, hwithin⟩ := id hcarries
    rw [hplace] at hwithin
    rw [hstart] at hq
    refine .inr ⟨not_logDir_of_free hmoved.updates.after ?_ hq hwithin, hcarries⟩
    rw [← logEntry_of_fits hlow]
    exact hmoved.free
  · refine .inl ⟨hdir.of_rename hfree hupdates fun q hq hwithin => ?_, hcarries⟩
    refine hcarries ⟨?_, q, ?_, ?_⟩
    · rw [hbase.contains_eq hname, hfound]
      rfl
    · rw [hstart]
      exact hq
    · rw [hplace]
      exact hwithin

/-- The steps that move up the older log files to the given number, the highest first. -/
def shifts (path : String) (n : Nat) : List FileStep :=
  (List.range' 1 n).reverse.map fun k => .shift (numberedLog path k) (numberedLog path (k + 1))

/-- The oldest log is shifted first. -/
theorem shifts_succ (path : String) (n : Nat) :
    shifts path (n + 1) =
      .shift (logPath path (n + 1)) (logPath path (n + 2)) :: shifts path n := by
  rw [shifts, List.range'_concat, List.reverse_append, List.map_append, Nat.one_mul, Nat.add_comm 1]
  rfl

/-- A rotation discards the oldest log, shifts the numbered ones and moves the newest. -/
theorem rotationSteps_eq (path : String) (hkeep : 1 ≤ keep) :
    rotationSteps path keep =
      .discard (logPath path keep) ::
        (shifts path (keep - 1) ++ [.move path (logPath path 1)]) := by
  rw [logPath_of_pos path hkeep]
  rfl

/-- Steps are performed one after another, up to the first fault. -/
theorem perform_append (d : Disk) (steps rest : List FileStep) :
    d.perform (steps ++ rest) = (d.perform steps).andThen fun d => d.perform rest := by
  induction steps generalizing d with
  | nil => rfl
  | cons s steps ih =>
    rw [List.cons_append, perform, perform]
    cases hfault : (d.step s).fault with
    | none => simp only [Attempt.andThen, hfault, ih]
    | some e => simp only [Attempt.andThen, hfault]

/-- What moving up the older log files to a number leaves: nothing has changed, all have moved, or
    the path leads through the last one that has. -/
inductive ShiftRun (d : Disk) (path : String) (place : List String)
    (entries : List (String × FileTree)) (keep n : Nat) : Attempt → Prop where
  | refused {i : Nat} {e : OsError} (hi : 1 ≤ i) (hn : i ≤ n) (hblocked : d.Blocked path i) :
    ShiftRun d path place entries keep n { disk := d, fault := some e }
  | complete {d' : Disk} {entries' : List (String × FileTree)}
    (hmoved : d.MovedUp path place entries keep 1 d' entries')
    (hdir : d'.LogDir path place entries')
    (hblocked : ∀ i, 1 ≤ i → i ≤ n → ¬d.Blocked path i)
    (hcarries : ∀ i, 1 ≤ i → i ≤ n → ¬d.Carries path i) :
    ShiftRun d path place entries keep n { disk := d' }
  | halted {j : Nat} {d' : Disk} {entries' : List (String × FileTree)} (hj : 1 ≤ j) (hn : j ≤ n)
    (hmoved : d.MovedUp path place entries keep j d' entries')
    (hdir : ¬∃ place entries, d'.LogDir path place entries)
    (hblocked : ∀ i, j ≤ i → i ≤ n → ¬d.Blocked path i)
    (hcarries : d.Carries path j) (hlast : ∀ i, j < i → i ≤ n → ¬d.Carries path i) :
    ShiftRun d path place entries keep n { disk := d' }

/-- A number that can move does not change what the lower ones leave. -/
theorem ShiftRun.mono {n : Nat} {a : Attempt} (h : d.ShiftRun path place entries keep n a)
    (hblocked : ¬d.Blocked path (n + 1)) (hcarries : ¬d.Carries path (n + 1)) :
    d.ShiftRun path place entries keep (n + 1) a := by
  have hall : ∀ {P : Nat → Prop} {j : Nat}, (∀ i, j ≤ i → i ≤ n → ¬P i) → ¬P (n + 1) →
      ∀ i, j ≤ i → i ≤ n + 1 → ¬P i := by
    intro P j hP hlast i hj hi
    obtain rfl | hlt := Nat.eq_or_lt_of_le hi
    · exact hlast
    · exact hP i hj (Nat.le_of_lt_succ hlt)
  cases h with
  | refused hi hn hb => exact .refused hi (Nat.le_succ_of_le hn) hb
  | complete hmoved hdir hb hc => exact .complete hmoved hdir (hall hb hblocked) (hall hc hcarries)
  | halted hj hn hmoved hdir hb hc hlast =>
    exact .halted hj (Nat.le_succ_of_le hn) hmoved hdir (hall hb hblocked) hc (hall hlast hcarries)

/-- Without a directory for the logs the shifts do nothing. -/
theorem perform_shifts_of_not_logDir (h : ¬∃ place entries, d.LogDir path place entries) (n : Nat) :
    d.perform (shifts path n) = { disk := d } := by
  induction n with
  | zero => rfl
  | succ n ih =>
    rw [shifts_succ, perform, step, contains_of_not_logDir h (hasLogName_succ path n)]
    exact ih

/-- **The run.** The induction is on the number that moves next; all above it have moved, so that
    the next one is free. -/
theorem shiftRun_perform {n : Nat} (hbase : d.LogDir path place entries)
    (h : d.MovedUp path place entries keep (n + 1) d' entries') (hn : n < keep)
    (hdir : d'.LogDir path place entries') :
    d.ShiftRun path place entries keep n (d'.perform (shifts path n)) := by
  induction n generalizing d' entries' with
  | zero => exact .complete h hdir (fun i hi hle => by omega) (fun i hi hle => by omega)
  | succ n ih =>
    have hname : HasLogName path (n + 1) := hasLogName_succ path n
    have hbelow : n < keep := Nat.lt_of_succ_lt hn
    rw [shifts_succ, perform, step, hdir.contains_eq hname, h.logEntry_eq]
    cases hentry : logEntry path entries (n + 1) with
    | none =>
      have hfree : ¬d.contains (logPath path (n + 1)) = true := by
        rw [hbase.contains_eq hname, hentry]
        decide
      exact (ih (h.of_free hentry) hbelow hdir).mono (fun hb => hfree hb.1) fun hc => hfree hc.1
    | some found =>
      by_cases hfits : FitsLog path (n + 2)
      · obtain ⟨d'', entries'', hrename, hmoved, ⟨hdir', hcarries⟩ | ⟨hdir', hcarries⟩⟩ :=
          h.step hbase hn hdir hname hentry hfits
        · have hrun := (ih hmoved hbelow hdir').mono (fun hb => hb.2 hfits) hcarries
          simpa only [Option.isSome_some, if_true, hrename, Attempt.ofResult, Attempt.andThen]
            using hrun
        · have hrest := perform_shifts_of_not_logDir hdir' n
          have hblocked : ∀ i, n + 1 ≤ i → i ≤ n + 1 → ¬d.Blocked path i := by
            intro i hlow hhigh hb
            obtain rfl := Nat.le_antisymm hhigh hlow
            exact hb.2 hfits
          have hrun : d.ShiftRun path place entries keep (n + 1) { disk := d'' } :=
            .halted (Nat.le_add_left 1 n) (Nat.le_refl _) hmoved hdir' hblocked hcarries
              fun i hlow hhigh => by omega
          simpa only [Option.isSome_some, if_true, hrename, Attempt.ofResult, Attempt.andThen,
            hrest] using hrun
      -- larger numbers did not fit either, so that nothing has moved yet
      · obtain ⟨e, hrename⟩ := hdir.rename_of_not_fits (n + 1) (hasLogName_succ path (n + 1)) hfits
        obtain rfl := h.unmoved hfits
        have hblocked : d'.Blocked path (n + 1) := by
          refine ⟨?_, hfits⟩
          rw [hbase.contains_eq hname, hentry]
          rfl
        have hrun : d'.ShiftRun path place entries keep (n + 1) { disk := d', fault := some e } :=
          .refused (Nat.le_add_left 1 n) (Nat.le_refl _) hblocked
        simpa only [Option.isSome_some, if_true, hrename, Attempt.ofResult, Attempt.andThen]
          using hrun

/-! ### A whole rotation -/

/-- The numbers from one on, below the number of those kept, have moved up, and nothing has changed
    but at their places and below them. -/
structure Shifted (d d' : Disk) (path : String) (j keep : Nat) : Prop where
  directory : d'.directory = d.directory
  free : d'.logAt path j = none
  moved : ∀ i, j ≤ i → i < keep → d'.logAt path (i + 1) = d.logAt path i
  others : ∀ q, (∀ i, j ≤ i → i ≤ keep → FitsLog path i →
    ¬Path.place d.directory (logPath path i) <+: q) → d'.tree.look q = d.tree.look q

/-- Moving entries up in the directory shifts the logs. -/
theorem MovedUp.shifted (hbase : d.LogDir path place entries)
    (h : d.MovedUp path place entries keep j d' entries') (hname : ∀ i, j ≤ i → HasLogName path i) :
    d.Shifted d' path j keep := by
  have hstart : d'.start path = d.start path := by rw [start, start, h.directory]
  have hbefore : ∀ i, j ≤ i → d.logAt path i = logEntry path entries i :=
    fun i hi => logAt_of_dir (hname i hi) hbase.place_eq h.updates.before
  have hafter : ∀ i, j ≤ i → d'.logAt path i = logEntry path entries' i :=
    fun i hi => logAt_of_dir (hname i hi) (hstart ▸ hbase.place_eq) h.updates.after
  refine ⟨h.directory, ?_, fun i hi hk => ?_, fun q hq => ?_⟩
  · rw [hafter j (Nat.le_refl j), h.free]
  · rw [hafter (i + 1) (Nat.le_succ_of_le hi), hbefore i hi, h.moved i hi hk]
  · refine h.updates.look_eq fun name rest hbelow => h.others name fun i hi hk hfits heq => ?_
    refine hq i hi hk hfits ⟨rest, ?_⟩
    rw [place_logPath d (hname i hi), hbase.place_eq, hbelow, heq, List.append_assoc]
    rfl

/-- Dropping the oldest log file makes its number free. -/
theorem LogDir.exists_discard (h : d.LogDir path place entries) (hname : HasLogName path keep)
    (hfile : ¬d.hasDir (logPath path keep) = true) :
    ∃ d' entries', d.step (.discard (logPath path keep)) = { disk := d' } ∧
      d.MovedUp path place entries keep keep d' entries' ∧ d'.LogDir path place entries' := by
  rw [step, h.contains_eq hname]
  cases hentry : logEntry path entries keep with
  | none =>
    have hmoved : d.MovedUp path place entries keep keep d entries := by
      refine ⟨rfl, .refl h.dir, hentry, ?_, fun _ _ => rfl, fun _ => rfl⟩
      intro i hi hk
      exact absurd hk (Nat.not_lt_of_le hi)
    exact ⟨d, entries, rfl, hmoved, h⟩
  | some found =>
    obtain ⟨hfits, hlookup⟩ := fits_of_logEntry hentry
    cases found with
    | dir inner => exact absurd ((h.hasDir_iff hname).mpr ⟨inner, hentry⟩) hfile
    | file content =>
      obtain ⟨t', hdrop, hupdates⟩ := h.dropFile_eq hname hfits hlookup
      have hmoved : d.MovedUp path place entries keep keep { d with tree := t' }
          (eraseKey (logName path keep) entries) := by
        refine ⟨rfl, hupdates, ?_, ?_, ?_, fun hnot => absurd hfits hnot⟩
        · rw [logEntry_of_fits hfits, lookup_eraseKey, if_pos rfl]
        · intro i hi hk
          exact absurd hk (Nat.not_lt_of_le hi)
        · intro name hother
          rw [lookup_eraseKey, if_neg (hother keep (Nat.le_refl _) (Nat.le_refl _) hfits)]
      -- what is dropped is no directory, so the way to the others stays
      have hway : LogDir { d with tree := t' } path place
          (eraseKey (logName path keep) entries) := by
        refine h.of_updates hupdates fun q _ => hupdates.look_dir fun name => ?_
        by_cases hother : name = logName path keep
        · refine .inr fun inner hinner => ?_
          rw [hother, hlookup] at hinner
          cases hinner
        · exact .inl (by rw [lookup_eraseKey, if_neg hother])
      refine ⟨_, _, ?_, hmoved, hway⟩
      rw [hdrop]
      rfl

/-- What a rotation leaves: nothing has changed, or directories have moved up until the path that
    leads through the last of them leads nowhere, or all numbers have moved up. A path that names no
    file is never moved. -/
inductive RotationRun (d : Disk) (path : String) (keep : Nat) : Attempt → Prop where
  | refused {e : OsError} (hrefuses : Path.IsProper path → d.RefusesRotation path keep) :
    RotationRun d path keep { disk := d, fault := some e }
  | halted {j : Nat} {d' : Disk} {e : OsError} (hj : 1 ≤ j) (hshifted : d.Shifted d' path j keep)
    (hrefuses : Path.IsProper path → ¬d.RefusesRotation path keep)
    (hcarries : Path.IsProper path → j < keep ∧ d.Carries path j)
    (hlast : ∀ i, j < i → i < keep → ¬d.Carries path i) :
    RotationRun d path keep { disk := d', fault := some e }
  | complete {d' : Disk} (hproper : Path.IsProper path) (hshifted : d.Shifted d' path 0 keep)
    (hrefuses : ¬d.RefusesRotation path keep)
    (hcarries : ∀ i, 1 ≤ i → i < keep → ¬d.Carries path i)
    (hdir : d.Carries path 0 ∨ ∃ place entries, d'.LogDir path place entries) :
    RotationRun d path keep { disk := d' }

/-- A move fails when its renaming does. -/
theorem perform_move (d : Disk) (source target : String) :
    d.perform [.move source target] = .ofResult d (d.rename source target) := by
  rw [perform, step]
  cases d.rename source target <;> rfl

/-- **The last step.** The log file follows when the older ones have moved up. -/
theorem ShiftRun.rotationRun {n : Nat} {a : Attempt} (hbase : d.LogDir path place entries)
    (hfound : Path.IsProper path → d.contains path = true)
    (hkeep : ¬d.hasDir (logPath path (n + 1)) = true)
    (h : d.ShiftRun path place entries (n + 1) n a) :
    d.RotationRun path (n + 1) (a.andThen fun d => d.perform [.move path (logPath path 1)]) := by
  cases h with
  | refused hi hn hblocked => exact .refused fun _ => .inr ⟨_, Nat.lt_succ_of_le hn, hblocked⟩
  | @complete d' entries' hmoved hdir hblocked hcarries =>
    show RotationRun d path (n + 1) (d'.perform _)
    rw [perform_move]
    by_cases hproper : Path.IsProper path
    -- A path without a name of its own: the older files have moved up, and the last move fails.
    case neg =>
      obtain ⟨e, hrename⟩ := exists_rename_of_not_isProper d' hproper 0
      have hshifted := hmoved.shifted hbase fun i hi hzero => by omega
      rw [hrename]
      exact .halted (Nat.le_refl 1) hshifted (fun h => absurd h hproper)
        (fun h => absurd h hproper) fun i hi hn => hcarries i (Nat.le_of_lt hi) (by omega)
    case pos =>
      have hname : ∀ i, HasLogName path i := fun i _ => hproper
      have hcontains : (logEntry path entries 0).isSome = true := by
        rw [← hbase.contains_eq (hname 0)]
        exact hfound hproper
      obtain ⟨found, hentry⟩ := Option.isSome_iff_exists.mp hcontains
      by_cases hfits : FitsLog path 1
      · obtain ⟨d'', entries'', hrename, hmoved', hdir'⟩ :=
          hmoved.step hbase (Nat.succ_pos n) hdir (hname 0) hentry hfits
        have hrefuses : ¬d.RefusesRotation path (n + 1) := by
          rintro (hlast | ⟨i, hi, hb⟩)
          · exact hkeep hlast
          · cases i with
            | zero => exact hb.2 hfits
            | succ i => exact hblocked (i + 1) (Nat.le_add_left 1 i) (by omega) hb
        have hway : d.Carries path 0 ∨ ∃ place entries, d''.LogDir path place entries := by
          obtain ⟨hdir', -⟩ | ⟨-, hcarries⟩ := hdir'
          · exact .inr ⟨_, _, hdir'⟩
          · exact .inl hcarries
        rw [show d'.rename path (logPath path 1) = .ok d'' from hrename]
        exact .complete hproper (hmoved'.shifted hbase fun i _ => hname i) hrefuses
          (fun i hi hn => hcarries i hi (by omega)) hway
      -- The name with the number 1 is too long, so that no older file can have been there to move.
      · obtain ⟨e, hrename⟩ := hdir.rename_of_not_fits 0 (hname 1) hfits
        obtain rfl := hmoved.unmoved hfits
        rw [show d'.rename path (logPath path 1) = .error e from hrename]
        exact .refused fun _ => .inr ⟨0, Nat.succ_pos n, hfound hproper, hfits⟩
  | @halted j d' entries' hj hn hmoved hdir hblocked hcarries hlast =>
    show RotationRun d path (n + 1) (d'.perform _)
    rw [perform_move]
    -- The shift has carried off the directory of the log, and the last move does not find it.
    have hrename : ∃ e, d'.rename path (logPath path 1) = .error e := by
      by_cases hproper : Path.IsProper path
      · exact exists_rename_of_not_logDir (i := 0) hdir (fun _ => hproper) _
      · exact exists_rename_of_not_isProper d' hproper 0
    obtain ⟨e, hrename⟩ := hrename
    have hfits : FitsLog path (j + 1) := by
      by_contra hfits
      exact hblocked j (Nat.le_refl j) hn ⟨hcarries.1, hfits⟩
    have hrefuses : ¬d.RefusesRotation path (n + 1) := by
      rintro (hlast | ⟨i, hi, hb⟩)
      · exact hkeep hlast
      · obtain hlt | hle := Nat.lt_or_ge i j
        · exact hb.2 (hfits.of_le (by omega))
        · exact hblocked i hle (by omega) hb
    rw [hrename]
    exact .halted hj (hmoved.shifted hbase fun i hi hzero => by omega) (fun _ => hrefuses)
      (fun _ => ⟨by omega, hcarries⟩) fun i hi hle => hlast i hi (by omega)

/-- A rotation of something that is there. -/
theorem rotationRun_perform {n : Nat} (hfound : Path.IsProper path → d.contains path = true) :
    d.RotationRun path (n + 1) (d.perform (rotationSteps path (n + 1))) := by
  have hname : HasLogName path (n + 1) := hasLogName_succ path n
  rw [rotationSteps_eq path (Nat.le_add_left 1 n), perform]
  by_cases hbase : ∃ place entries, d.LogDir path place entries
  case neg =>
    -- What is there without a directory of the log is a path without a name of its own.
    have hproper : ¬Path.IsProper path := by
      intro hproper
      have hcontains : d.contains (logPath path 0) = true := hfound hproper
      rw [contains_of_not_logDir hbase fun _ => hproper] at hcontains
      cases hcontains
    obtain ⟨e, hrename⟩ := exists_rename_of_not_isProper d hproper 0
    have hrun : d.perform (shifts path n ++ [.move path (logPath path 1)]) =
        { disk := d, fault := some e } := by
      rw [perform_append, perform_shifts_of_not_logDir hbase]
      show d.perform _ = _
      rw [perform_move, hrename]
      rfl
    rw [step, contains_of_not_logDir hbase hname]
    show RotationRun d path (n + 1) (d.perform (shifts path n ++ [.move path (logPath path 1)]))
    rw [hrun]
    exact .refused fun h => absurd h hproper
  case pos =>
    obtain ⟨place, entries, hbase⟩ := hbase
    by_cases hdir : d.hasDir (logPath path (n + 1)) = true
    · obtain ⟨inner, hentry⟩ := (hbase.hasDir_iff hname).mp hdir
      obtain ⟨hfits, hlookup⟩ := fits_of_logEntry hentry
      rw [step, hbase.contains_eq hname, hentry, hbase.dropFile_of_dir hname hfits hlookup]
      exact .refused fun _ => .inl hdir
    · obtain ⟨d', entries', hstep, hmoved, hdir'⟩ := hbase.exists_discard hname hdir
      rw [hstep]
      show RotationRun d path (n + 1) (d'.perform (shifts path n ++ [.move path (logPath path 1)]))
      rw [perform_append]
      exact (shiftRun_perform hbase hmoved (Nat.lt_succ_self n) hdir').rotationRun hbase hfound hdir

/-! ### Rotations that are due -/

instance (d : Disk) (path : String) (i : Nat) : Decidable (d.Blocked path i) :=
  inferInstanceAs (Decidable (_ ∧ _))

instance (d : Disk) (path : String) (i : Nat) : Decidable (d.Carries path i) :=
  inferInstanceAs (Decidable (_ ∧ _))

instance (d : Disk) (path : String) (keep : Nat) : Decidable (d.RefusesRotation path keep) :=
  inferInstanceAs (Decidable (_ ∨ _))

/-- A rotation that is due is done. -/
theorem rotationRun_rotate {found : FileTree} {maxSize n : Nat} (hfind : d.find path = .ok found)
    (hsize : maxSize ≤ found.size) :
    d.RotationRun path (n + 1) (d.rotate path maxSize (n + 1)) := by
  have hcontains : d.contains path = true := by
    rw [contains, hfind]
    rfl
  have hdue : d.rotate path maxSize (n + 1) = d.perform (rotationSteps path (n + 1)) := by
    rw [rotate, hfind]
    exact if_neg (by omega)
  rw [hdue]
  exact rotationRun_perform fun _ => hcontains

/-- **A rotation is a shift or nothing.** A log file that is due is moved to the number 1 and the
    older ones move up by one. Nothing changes if the oldest one is a directory or a name would
    become too long. If the path leads through one of the older ones, the numbers above it and it
    itself move up, and the rotation ends there. -/
theorem rotate_of_due {content : List UInt8} {maxSize : Nat}
    (hcwd : d.tree.look d.directory = .ok none) (hfile : d.find path = .ok (.file content))
    (hsize : maxSize ≤ content.length) (hkeep : 1 ≤ keep) :
    (d.RefusesRotation path keep →
      (d.rotate path maxSize keep).fault.isSome = true ∧
        (d.rotate path maxSize keep).disk = d) ∧
    (¬d.RefusesRotation path keep → (∀ i, 1 ≤ i → i < keep → ¬d.Carries path i) →
      (d.rotate path maxSize keep).fault = none ∧
        (d.rotate path maxSize keep).disk.contains path = false ∧
        (∀ i, i < keep →
          ((d.rotate path maxSize keep).disk.find (logPath path (i + 1))).toOption =
            (d.find (logPath path i)).toOption) ∧
        ∀ q, (∀ i, i ≤ keep → ¬Path.place d.directory (logPath path i) <+: q) →
          (d.rotate path maxSize keep).disk.tree.look q = d.tree.look q) ∧
    (¬d.RefusesRotation path keep → ∀ j, 1 ≤ j → j < keep → d.Carries path j →
      (∀ i, j < i → i < keep → ¬d.Carries path i) →
      (d.rotate path maxSize keep).fault.isSome = true ∧
        d.Shifted (d.rotate path maxSize keep).disk path j keep) := by
  have hproper : Path.IsProper path := isProper_of_find hcwd hfile
  have hname : ∀ i, HasLogName path i := fun i _ => hproper
  obtain ⟨place, entries, hbase, -, hentry⟩ := exists_logDir_of_find (hname 0) hfile
  obtain ⟨n, rfl⟩ := Nat.exists_eq_add_of_le' hkeep
  have hrun := rotationRun_rotate (n := n) hfile hsize
  generalize d.rotate path maxSize (n + 1) = a at hrun
  cases hrun with
  | refused hrefuses =>
    have hrefuses := hrefuses hproper
    exact ⟨fun _ => ⟨rfl, rfl⟩, fun hnot => absurd hrefuses hnot, fun hnot => absurd hrefuses hnot⟩
  | @halted k d' e hj hshifted hrefuses hcarries hlast =>
    obtain ⟨hk, hcarries⟩ := hcarries hproper
    refine ⟨?_, ?_, ?_⟩
    · intro h
      exact absurd h (hrefuses hproper)
    · intro _ hnone
      exact absurd hcarries (hnone k hj hk)
    · intro _ j _ hj' hcarries' hlast'
      -- Both numbers are the largest that carries the directory, hence the same.
      have hkj : ¬k < j := fun hlt => hlast j hlt hj' hcarries'
      have hjk : ¬j < k := fun hlt => hlast' k hlt hk hcarries
      obtain rfl : j = k := by omega
      exact ⟨rfl, hshifted⟩
  | @complete d' _ hshifted hrefuses hcarries hdir =>
    -- The log file is a file, so the path does not lead through it and can still be followed.
    have hway : ¬d.Carries path 0 := by
      intro hcarries
      have hdir := hbase.hasDir_of_carries (hname 0) hcarries
      rw [logPath_zero, hasDir, hfile] at hdir
      cases hdir
    obtain ⟨place', entries', hdir⟩ := hdir.resolve_left hway
    have hfree : d'.contains path = false := by
      rw [← logPath_zero path, hdir.contains_eq (hname 0), ← hdir.toOption_find (hname 0),
        hdir.toOption_find_eq_logAt (hname 0), hshifted.free]
      rfl
    refine ⟨?_, ?_, ?_⟩
    · intro h
      exact absurd h hrefuses
    · intro _ _
      refine ⟨rfl, hfree, ?_, ?_⟩
      · intro i hi
        rw [hdir.toOption_find_eq_logAt (hname (i + 1)), hbase.toOption_find_eq_logAt (hname i)]
        exact hshifted.moved i (Nat.zero_le i) hi
      · intro q hq
        exact hshifted.others q fun i _ hi _ => hq i hi
    · intro _ j hj hjn hcarries'
      exact absurd hcarries' (hcarries j hj hjn)

/-- A log file with a gap behind its directory number 1: both move up. -/
def gappedDisk : Disk where
  tree := .dir [("logs", .dir [("app", .file [1, 2]), ("app.1", .dir [("old", .file [])]),
    ("app.3", .file [3])])]
  directory := ["logs"]

/-- Behind a gap in the numbers nothing has to make room: number 1 becomes number 2, and the
    directory of the logs stays. -/
theorem rotate_of_due_gapped :
    ¬gappedDisk.RefusesRotation "app" 3 ∧ (∀ i, 1 ≤ i → i < 3 → ¬gappedDisk.Carries "app" i) ∧
      (gappedDisk.rotate "app" 2 3).fault = none ∧
      ((gappedDisk.rotate "app" 2 3).disk.find (logPath "app" (1 + 1))).toOption =
        (gappedDisk.find (logPath "app" 1)).toOption ∧
      (gappedDisk.rotate "app" 2 3).disk.tree.look ["logs"] = .ok none := by
  have hcwd : gappedDisk.tree.look gappedDisk.directory = .ok none := by decide +kernel
  have hfile : gappedDisk.find "app" = .ok (.file [1, 2]) := rfl
  have hrefuses : ¬gappedDisk.RefusesRotation "app" 3 := by decide +kernel
  have hcarries : ∀ i, 1 ≤ i → i < 3 → ¬gappedDisk.Carries "app" i := by
    intro i hlow hhigh
    obtain rfl | rfl : i = 1 ∨ i = 2 := by omega
    · decide +kernel
    · decide +kernel
  have hsize : 2 ≤ ([1, 2] : List UInt8).length := Nat.le_refl 2
  have hkeep : 1 ≤ 3 := by decide
  obtain ⟨-, hshift, -⟩ := rotate_of_due hcwd hfile hsize hkeep
  obtain ⟨hfault, -, hmoved, hothers⟩ := hshift hrefuses hcarries
  refine ⟨hrefuses, hcarries, hfault, hmoved 1 (by decide), ?_⟩
  rw [hothers ["logs"] (by decide +kernel)]
  exact hcwd

/-- A log file beside a directory that has its number 1. -/
def crossedDisk : Disk where
  tree := .dir [("a", .file [120]), ("a.1", .dir [("f", .file [121])])]
  directory := []

/-- **Neither a shift nor nothing.** A path that leads through its own number 1 fails after that
    has moved, although the number 2 is free. -/
theorem rotate_through_number :
    crossedDisk.hasFile "a.1/../a" = true ∧
      crossedDisk.contains (numberedLog "a.1/../a" 2) = false ∧
      (crossedDisk.rotate "a.1/../a" 0 2).fault = some .notFound ∧
      crossedDisk.tree.files = [(["a"], [120]), (["a.1", "f"], [121])] ∧
      (crossedDisk.rotate "a.1/../a" 0 2).disk.tree.files =
        [(["a"], [120]), (["a.2", "f"], [121])] := by
  decide +kernel

end Disk

end ServiceLang
