import Mathlib.Data.List.Induction
import ServiceLang.Files.Path
import ServiceLang.Files.Tree
import ServiceLang.Proofs.Keyed
import ServiceLang.Proofs.Outcome

namespace ServiceLang

/-!
# Reading and changing file trees

* `FileTree.look`, `FileTree.fileAt`: what a place shows, and the bytes of the file there;
* `FileTree.Updates`: two trees that differ in the entries of one directory only;
* `FileTree.put_of_dir`, `FileTree.remove_of_dir`: putting and taking away an entry of a directory;
* `Path.crossed`, `FileTree.walk_congr`: the directories that a path leads through; a path leads to
  the same place as long as they stay directories.
-/

namespace FileTree

variable {t t' t'' : FileTree} {entries entries' entries'' : List (String × FileTree)}
  {place q : List String} {name : String}

/-- The bytes of a file; none for a directory. -/
def content? : FileTree → Option (List UInt8)
  | .file content => some content
  | .dir _ => none

/-- What a place shows: the bytes of a file, or that it is a directory. -/
def look (t : FileTree) (place : List String) : Except OsError (Option (List UInt8)) :=
  (t.find place).map content?

/-- The bytes of the file at a place, if a file is there. -/
def fileAt (t : FileTree) (place : List String) : Option (List UInt8) :=
  match t.look place with
  | .ok found => found
  | .error _ => none

/-- Looking finds the contents of files. -/
theorem fileAt_congr (h : t'.look q = t.look q) : t'.fileAt q = t.fileAt q := by
  rw [fileAt, fileAt, h]

/-- What stands under a name of a directory. -/
def ofEntry (entry : Option FileTree) : Except OsError FileTree := entry.elim (.error .notFound) .ok

/-! ### Finding -/

/-- Finding goes step by step along a place. -/
theorem find_append (t : FileTree) (place rest : List String) :
    t.find (place ++ rest) = t.find place >>= fun found => found.find rest := by
  induction place generalizing t with
  | nil =>
    rw [find.eq_1]
    rfl
  | cons name place ih =>
    cases t with
    | file content => rfl
    | dir entries =>
      rw [List.cons_append, find, find]
      cases entries.lookup name with
      | none => rfl
      | some inner => exact ih inner

/-- A step into a directory goes to the entry of the name. -/
theorem find_dir_cons (entries : List (String × FileTree)) (name : String) (rest : List String) :
    (dir entries).find (name :: rest) = ofEntry (entries.lookup name) >>= fun t => t.find rest := by
  rw [find]
  cases entries.lookup name <;> rfl

/-- What stands below a directory is found through its entries. -/
theorem find_below (h : t.find place = .ok (.dir entries)) (name : String) (rest : List String) :
    t.find (place ++ name :: rest) = ofEntry (entries.lookup name) >>= fun t => t.find rest := by
  rw [find_append, h]
  exact find_dir_cons entries name rest

/-- The last step of a place goes to an entry of its directory. -/
theorem find_concat (h : t.find place = .ok (.dir entries)) (name : String) :
    t.find (place ++ [name]) = ofEntry (entries.lookup name) := by
  rw [find_below h]
  cases entries.lookup name <;> rfl

/-- The contents of a file in a directory are those of its entry. -/
theorem fileAt_concat (h : t.find place = .ok (.dir entries)) (name : String) :
    t.fileAt (place ++ [name]) = (entries.lookup name).bind content? := by
  rw [fileAt, look, find_concat h]
  cases entries.lookup name <;> rfl

/-- Only a directory has something below it. -/
theorem exists_dir_of_find {found : FileTree} (h : t.find (place ++ [name]) = .ok found) :
    ∃ entries, t.find place = .ok (.dir entries) ∧ entries.lookup name = some found := by
  rw [find_append] at h
  cases hfind : t.find place with
  | error e =>
    rw [hfind] at h
    cases h
  | ok inner =>
    rw [hfind] at h
    cases inner with
    | file content => cases h
    | dir entries =>
      refine ⟨entries, rfl, ?_⟩
      have h : (dir entries).find [name] = .ok found := h
      rw [find] at h
      cases hlookup : entries.lookup name with
      | none =>
        rw [hlookup] at h
        cases h
      | some inner =>
        rw [hlookup] at h
        exact congrArg some (Except.ok.inj h)

/-! ### Changing the entries of one directory -/

/-- The trees differ in the entries of the directory at a place only. -/
structure Updates (place : List String) (t t' : FileTree)
    (entries entries' : List (String × FileTree)) : Prop where
  before : t.find place = .ok (.dir entries)
  after : t'.find place = .ok (.dir entries')
  outside : ∀ q, ¬place <+: q → t'.look q = t.look q

theorem Updates.refl (h : t.find place = .ok (.dir entries)) : Updates place t t entries entries :=
  ⟨h, h, fun _ _ => rfl⟩

theorem Updates.trans (h : Updates place t t' entries entries')
    (h' : Updates place t' t'' entries' entries'') : Updates place t t'' entries entries'' :=
  ⟨h.before, h'.after, fun q hq => (h'.outside q hq).trans (h.outside q hq)⟩

/-- A place below an entry that stays shows what it showed. -/
theorem Updates.find_below (h : Updates place t t' entries entries')
    (hname : entries'.lookup name = entries.lookup name) (rest : List String) :
    t'.find (place ++ name :: rest) = t.find (place ++ name :: rest) := by
  rw [FileTree.find_below h.after, FileTree.find_below h.before, hname]

/-- Every place shows what it showed, unless it lies at or below an entry that changed. -/
theorem Updates.look_eq (h : Updates place t t' entries entries')
    (hq : ∀ name rest, q = place ++ name :: rest → entries'.lookup name = entries.lookup name) :
    t'.look q = t.look q := by
  by_cases hwithin : place <+: q
  · obtain ⟨rest, rfl⟩ := hwithin
    cases rest with
    | nil =>
      rw [List.append_nil, look, look, h.before, h.after]
      rfl
    | cons name rest => rw [look, look, h.find_below (hq name rest rfl)]
  · exact h.outside q hwithin

/-- The change of one entry below, seen from above. -/
theorem Updates.cons {inner inner' : FileTree} (hlookup : entries.lookup name = some inner)
    {below below' : List (String × FileTree)} (h : Updates place inner inner' below below') :
    Updates (name :: place) (dir entries) (dir (setKey name inner' entries)) below below' := by
  refine ⟨?_, ?_, fun q hq => ?_⟩
  · rw [find, hlookup]
    exact h.before
  · rw [find, lookup_setKey, if_pos rfl]
    exact h.after
  · cases q with
    | nil => rfl
    | cons k q =>
      rw [look, look, find, find, lookup_setKey]
      by_cases hk : k = name
      · subst hk
        rw [if_pos rfl, hlookup]
        exact h.outside q fun hwithin => hq (List.cons_prefix_cons.mpr ⟨rfl, hwithin⟩)
      · rw [if_neg hk]

/-- Where something is found below a name, the name is an entry of a directory. -/
theorem exists_inner_of_find {found : FileTree} (h : t.find (name :: place) = .ok found) :
    ∃ entries inner, t = .dir entries ∧ entries.lookup name = some inner ∧
      inner.find place = .ok found := by
  cases t with
  | file content => cases h
  | dir entries =>
    rw [find] at h
    cases hlookup : entries.lookup name with
    | none =>
      rw [hlookup] at h
      cases h
    | some inner =>
      rw [hlookup] at h
      exact ⟨entries, inner, rfl, hlookup, h⟩

/-- Putting something deeper changes the entry on the way. -/
theorem put_cons {new inner : FileTree} (hlookup : entries.lookup name = some inner)
    (hplace : place ≠ []) :
    put new (dir entries) (name :: place) =
      put new inner place >>= fun inner' => .ok (.dir (setKey name inner' entries)) := by
  cases place with
  | nil => exact absurd rfl hplace
  | cons k place =>
    rw [put, hlookup]
    · rfl
    · simp

/-- Removing something deeper changes the entry on the way. -/
theorem remove_cons {inner : FileTree} (hlookup : entries.lookup name = some inner)
    (hplace : place ≠ []) :
    (dir entries).remove (name :: place) =
      inner.remove place >>= fun inner' => .ok (.dir (setKey name inner' entries)) := by
  cases place with
  | nil => exact absurd rfl hplace
  | cons k place =>
    rw [remove, hlookup]
    · rfl
    · simp

/-- **Putting.** Something is put into a directory that is there. -/
theorem put_of_dir (new : FileTree) (h : t.find place = .ok (.dir entries)) (name : String) :
    ∃ t', put new t (place ++ [name]) = .ok t' ∧
      Updates place t t' entries (setKey name new entries) := by
  induction place generalizing t with
  | nil =>
    obtain rfl := Except.ok.inj h
    exact ⟨_, rfl, rfl, rfl, fun q hq => absurd List.nil_prefix hq⟩
  | cons k place ih =>
    obtain ⟨outer, inner, rfl, hlookup, hinner⟩ := exists_inner_of_find h
    obtain ⟨inner', hput, hupdates⟩ := ih hinner
    refine ⟨dir (setKey k inner' outer), ?_, hupdates.cons hlookup⟩
    rw [List.cons_append, put_cons hlookup (List.concat_ne_nil name place), hput]
    rfl

/-- Nothing is put where there is no directory. -/
theorem exists_dir_of_put {new : FileTree} (h : put new t (place ++ [name]) = .ok t') :
    ∃ entries, t.find place = .ok (.dir entries) := by
  induction place generalizing t t' with
  | nil =>
    cases t with
    | file content => cases h
    | dir entries => exact ⟨entries, rfl⟩
  | cons k place ih =>
    cases t with
    | file content => cases h
    | dir entries =>
      cases hlookup : entries.lookup k with
      | none =>
        obtain ⟨m, rest, hrest⟩ := List.exists_cons_of_ne_nil (List.concat_ne_nil name place)
        rw [List.cons_append, hrest, put, hlookup] at h
        · cases h
        · simp
      | some inner =>
        rw [List.cons_append, put_cons hlookup (List.concat_ne_nil name place)] at h
        obtain ⟨inner', hput, -⟩ := bind_eq_ok_iff.mp h
        obtain ⟨below, hbelow⟩ := ih hput
        refine ⟨below, ?_⟩
        rw [find, hlookup]
        exact hbelow

/-- **Taking away.** An entry of a directory is taken away. -/
theorem remove_of_dir (h : t.find place = .ok (.dir entries))
    (hname : (entries.lookup name).isSome) :
    ∃ t', t.remove (place ++ [name]) = .ok t' ∧
      Updates place t t' entries (eraseKey name entries) := by
  induction place generalizing t with
  | nil =>
    obtain rfl := Except.ok.inj h
    refine ⟨.dir (eraseKey name entries), ?_, rfl, rfl, fun q hq => absurd List.nil_prefix hq⟩
    rw [List.nil_append, remove, if_pos hname]
  | cons k place ih =>
    obtain ⟨outer, inner, rfl, hlookup, hinner⟩ := exists_inner_of_find h
    obtain ⟨inner', hremove, hupdates⟩ := ih hinner
    refine ⟨dir (setKey k inner' outer), ?_, hupdates.cons hlookup⟩
    rw [List.cons_append, remove_cons hlookup (List.concat_ne_nil name place), hremove]
    rfl

/-- Looking tells which places are directories. -/
theorem look_eq_dir_iff : t.look q = .ok none ↔ ∃ entries, t.find q = .ok (.dir entries) := by
  rw [look]
  cases t.find q with
  | error e => simp [Except.map]
  | ok found => cases found <;> simp [Except.map, content?]

/-- A place above a directory is one. -/
theorem look_within (hwithin : place <+: q) (hq : t.look q = .ok none) :
    t.look place = .ok none := by
  obtain ⟨rest, rfl⟩ := hwithin
  induction rest using List.reverseRecOn with
  | nil => rwa [List.append_nil] at hq
  | append_singleton rest name ih =>
    obtain ⟨entries, hfind⟩ := look_eq_dir_iff.mp hq
    rw [← List.append_assoc] at hfind
    obtain ⟨above, habove, -⟩ := exists_dir_of_find hfind
    exact ih (look_eq_dir_iff.mpr ⟨above, habove⟩)

/-- Above a directory there is a directory. -/
theorem look_dropLast (hq : t.look q = .ok none) : t.look q.dropLast = .ok none := by
  have hwithin : q.dropLast <+: q := List.dropLast_prefix q
  exact look_within hwithin hq

end FileTree

/-! ### Walking -/

/-- The places of the directories that the parts of a path lead through. -/
def Path.crossed (place : List String) : (parts : List String) → List (List String)
  | [] => []
  | part :: parts =>
    if part = "." then crossed place parts
    else if part = ".." then crossed place.dropLast parts
    else (place ++ [part]) :: crossed (place ++ [part]) parts

/-- The place that the parts of a path lead to, whatever stands there. -/
def Path.resolve (start parts : List String) : List String :=
  Path.resolveNames start (parts.filter (· ≠ "."))

/-- A part of a path stays, goes up or goes down. -/
theorem Path.resolve_cons (start : List String) (part : String) (parts : List String) :
    Path.resolve start (part :: parts) =
      Path.resolve
        (if part = "." then start else if part = ".." then start.dropLast else start ++ [part])
        parts := by
  by_cases hdot : part = "."
  · rw [if_pos hdot, resolve, resolve, List.filter_cons_of_neg (by simpa using hdot)]
  · rw [if_neg hdot, resolve, resolve, List.filter_cons_of_pos (by simpa using hdot)]
    rfl

/-- The same for the last part. -/
theorem Path.resolve_concat (start parts : List String) (part : String) :
    Path.resolve start (parts ++ [part]) =
      if part = "." then Path.resolve start parts
      else if part = ".." then (Path.resolve start parts).dropLast
      else Path.resolve start parts ++ [part] := by
  induction parts generalizing start with
  | nil =>
    rw [List.nil_append, resolve_cons]
    split
    · rfl
    · split <;> rfl
  | cons first parts ih => rw [List.cons_append, resolve_cons, ih, ← resolve_cons]

namespace FileTree

variable {t t' : FileTree} {start place q : List String} {parts : List String}

/-- What a walk does at its first part. -/
theorem walk_cons_eq_ok {part : String} (h : t.walk start (part :: parts) = .ok place) :
    part = "." ∧ t.walk start parts = .ok place ∨
      part ≠ "." ∧ part = ".." ∧ t.walk start.dropLast parts = .ok place ∨
      part ≠ "." ∧ part ≠ ".." ∧ part.utf8ByteSize ≤ maxNameSize ∧
        t.look (start ++ [part]) = .ok none ∧ t.walk (start ++ [part]) parts = .ok place := by
  rw [walk] at h
  by_cases hdot : part = "."
  · rw [if_pos hdot] at h
    exact .inl ⟨hdot, h⟩
  · rw [if_neg hdot] at h
    by_cases hup : part = ".."
    · rw [if_pos hup] at h
      exact .inr (.inl ⟨hdot, hup, h⟩)
    · rw [if_neg hup] at h
      split at h
      case h_1 entries hentry =>
        rw [entry] at hentry
        split at hentry
        case isTrue => cases hentry
        case isFalse hsize =>
          exact .inr (.inr ⟨hdot, hup, Nat.le_of_not_lt hsize, look_eq_dir_iff.mpr ⟨_, hentry⟩, h⟩)
      case h_2 => cases h
      case h_3 => cases h

/-- Walking goes down into a directory. -/
theorem walk_of_dir {part : String} (hdot : part ≠ ".") (hup : part ≠ "..")
    (hsize : part.utf8ByteSize ≤ maxNameSize) (hdir : t.look (start ++ [part]) = .ok none) :
    t.walk start (part :: parts) = t.walk (start ++ [part]) parts := by
  obtain ⟨entries, hentries⟩ := look_eq_dir_iff.mp hdir
  rw [walk, if_neg hdot, if_neg hup, entry, if_neg (Nat.not_lt_of_le hsize), hentries]

/-- A walk leads to the place that its parts say. -/
theorem eq_resolve_of_walk (h : t.walk start parts = .ok place) :
    place = Path.resolve start parts := by
  induction parts generalizing start with
  | nil => exact (Except.ok.inj h).symm
  | cons part parts ih =>
    rw [Path.resolve_cons]
    obtain ⟨hdot, h⟩ | ⟨hdot, hup, h⟩ | ⟨hdot, hup, -, -, h⟩ := walk_cons_eq_ok h
    · rw [if_pos hdot]
      exact ih h
    · rw [if_neg hdot, if_pos hup]
      exact ih h
    · rw [if_neg hdot, if_neg hup]
      exact ih h

/-- A walk leads through directories. -/
theorem look_of_walk (h : t.walk start parts = .ok place) :
    ∀ q ∈ Path.crossed start parts, t.look q = .ok none := by
  induction parts generalizing start with
  | nil => simp [Path.crossed]
  | cons part parts ih =>
    rw [Path.crossed]
    obtain ⟨hdot, h⟩ | ⟨hdot, hup, h⟩ | ⟨hdot, hup, -, hdir, h⟩ := walk_cons_eq_ok h
    · rw [if_pos hdot]
      exact ih h
    · rw [if_neg hdot, if_pos hup]
      exact ih h
    · rw [if_neg hdot, if_neg hup]
      exact List.forall_mem_cons.mpr ⟨hdir, ih h⟩

/-- A walk leads from a directory to a directory. -/
theorem look_walk (h : t.walk start parts = .ok place) (hstart : t.look start = .ok none) :
    t.look place = .ok none := by
  induction parts generalizing start with
  | nil => exact Except.ok.inj h ▸ hstart
  | cons part parts ih =>
    obtain ⟨-, h⟩ | ⟨-, -, h⟩ | ⟨-, -, -, hdir, h⟩ := walk_cons_eq_ok h
    · exact ih h hstart
    · exact ih h (look_dropLast hstart)
    · exact ih h hdir

/-- **Walking on.** A walk leads to the same place as long as the directories on its way stay. -/
theorem walk_congr (h : t.walk start parts = .ok place)
    (hcrossed : ∀ q ∈ Path.crossed start parts, t.look q = .ok none → t'.look q = .ok none) :
    t'.walk start parts = .ok place := by
  induction parts generalizing start with
  | nil => exact h
  | cons part parts ih =>
    rw [Path.crossed] at hcrossed
    obtain ⟨hdot, h⟩ | ⟨hdot, hup, h⟩ | ⟨hdot, hup, hsize, hdir, h⟩ := walk_cons_eq_ok h
    · rw [if_pos hdot] at hcrossed
      rw [walk, if_pos hdot]
      exact ih h hcrossed
    · rw [if_neg hdot, if_pos hup] at hcrossed
      rw [walk, if_neg hdot, if_pos hup]
      exact ih h hcrossed
    · rw [if_neg hdot, if_neg hup, List.forall_mem_cons] at hcrossed
      rw [walk_of_dir hdot hup hsize (hcrossed.1 hdir)]
      exact ih h hcrossed.2

end FileTree

end ServiceLang
