import Mathlib.Data.List.Infix
import ServiceLang.Proofs.Toml.Distinct
import ServiceLang.Proofs.Toml.Equality
import ServiceLang.Proofs.Toml.Overlay

namespace ServiceLang.Toml

/-!
# An overlay path by path

What stands at the end of a path of keys after one value was laid over another, at any depth.

* `follow`: the value at the end of a path;
* `MeetAlong`: both values have tables on the way, as far as the upper one goes;
* `get?_overlay_of_some`, `get?_overlay_of_none`: one key;
* `follow_overlay_of_some`: where the upper value has something, it is laid over what is there;
* `follow_overlay_of_meetAlong`, `follow_overlay_of_not_meetAlong`: where it has nothing, the lower
  value stays, or is gone with what was replaced;
* `mem_keys_overlayEntries`, `Distinct.overlay`: the keys of merged tables;
* `overlay_overlay`: the same value laid over the result changes nothing;
* `LaidOver`, `laidOver_overlay`: all of it.
-/

variable {base upper v value inner covered : Toml} {lower higher : List (String × Toml)}
  {path : List String} {key : String}

/-! ### Paths of keys -/

/-- The value at the end of a path of keys. -/
def follow (v : Toml) : (path : List String) → Option Toml
  | [] => some v
  | key :: path => (v.get? key).bind fun inner => inner.follow path

@[simp] theorem follow_nil (v : Toml) : v.follow [] = some v := rfl

@[simp] theorem follow_cons (v : Toml) (key : String) (path : List String) :
    v.follow (key :: path) = (v.get? key).bind fun inner => inner.follow path := rfl

/-- A path goes on from where its first part ends. -/
theorem follow_append (v : Toml) (front rest : List String) :
    v.follow (front ++ rest) = (v.follow front).bind fun inner => inner.follow rest := by
  induction front generalizing v with
  | nil => rfl
  | cons key front ih =>
    rw [List.cons_append, follow_cons, follow_cons, Option.bind_assoc]
    exact congrArg _ (funext fun inner => ih inner)

/-- Wherever the upper value has something before the end of a path, both values have tables. -/
def MeetAlong (base upper : Toml) (path : List String) : Prop :=
  ∀ front, front <+: path → front ≠ path → ∀ x ∈ upper.follow front,
    x.isTable = true ∧ (base.follow front).any isTable = true

instance : Decidable (MeetAlong base upper path) :=
  decidable_of_iff
    (∀ front ∈ path.inits, front ≠ path → ∀ x ∈ upper.follow front,
      x.isTable = true ∧ (base.follow front).any isTable = true)
    (by simp only [MeetAlong, List.mem_inits])

namespace MeetAlong

/-- A path that goes on starts in two tables. -/
theorem isTable (h : MeetAlong base upper (key :: path)) :
    upper.isTable = true ∧ base.isTable = true :=
  h [] List.nil_prefix (by simp) upper rfl

/-- A key on the way that the upper value has is a key of the lower one. -/
theorem exists_get? (h : MeetAlong base upper (key :: path)) (hpath : path ≠ [])
    (hinner : upper.get? key = some inner) : ∃ covered, base.get? key = some covered := by
  have hstart : [key] <+: key :: path := ⟨path, rfl⟩
  have hbase := (h [key] hstart (by simpa using hpath.symm) inner (by simp [hinner])).2
  cases hcovered : base.get? key with
  | none => simp [hcovered] at hbase
  | some covered => exact ⟨covered, rfl⟩

/-- Behind the first key of a path the values under it meet. -/
theorem tail (h : MeetAlong base upper (key :: path)) (hinner : upper.get? key = some inner)
    (hcovered : base.get? key = some covered) : MeetAlong covered inner path := by
  intro front hfront hne x hx
  have hstart : key :: front <+: key :: path := List.cons_prefix_cons.mpr ⟨rfl, hfront⟩
  have hboth := h (key :: front) hstart (by simpa using hne) x (by simpa [hinner] using hx)
  simpa [hcovered] using hboth

end MeetAlong

/-! ### One key -/

/-- A key of the upper value has its value, laid over the lower one if there is one. -/
theorem get?_overlay_of_some (hupper : upper.Distinct) (h : upper.get? key = some inner) :
    (overlay base upper).get? key =
      some ((base.get? key).elim inner fun covered => overlay covered inner) := by
  cases upper with
  | table higher =>
    cases base with
    | table lower =>
      rw [overlay_table]
      exact lookup_overlayEntries_of_some hupper.keys h
    | _ =>
      rw [overlay_of_lower _ (by simp)]
      exact h
  | _ => cases h

/-- A key that the upper one of two tables does not have keeps its value. -/
theorem get?_overlay_of_none (hupper : upper.isTable = true) (hbase : base.isTable = true)
    (h : upper.get? key = none) : (overlay base upper).get? key = base.get? key := by
  obtain ⟨higher, rfl⟩ := exists_of_isTable hupper
  obtain ⟨lower, rfl⟩ := exists_of_isTable hbase
  rw [overlay_table]
  exact lookup_overlayEntries_of_none h

/-! ### The value at a path -/

/-- **Where the upper value has something.** It is laid over what the lower value has there, and
    stands alone if the lower value has nothing there. -/
theorem follow_overlay_of_some (hupper : upper.Distinct) (h : upper.follow path = some value) :
    (overlay base upper).follow path =
      some ((base.follow path).elim value fun covered => overlay covered value) := by
  induction path generalizing base upper with
  | nil =>
    obtain rfl := Option.some.inj h
    rfl
  | cons key path ih =>
    obtain ⟨inner, hinner, hvalue⟩ := Option.bind_eq_some_iff.mp h
    rw [follow_cons, follow_cons, get?_overlay_of_some hupper hinner, Option.bind_some]
    cases base.get? key with
    | none => exact hvalue
    | some covered => exact ih (hupper.of_get? hinner) hvalue

/-- The upper value stands as it is where it replaces what it covers. -/
theorem follow_overlay_of_replaces (hupper : upper.Distinct) (h : upper.follow path = some value)
    (hreplaces : ∀ covered ∈ base.follow path, overlay covered value = value) :
    (overlay base upper).follow path = some value := by
  rw [follow_overlay_of_some hupper h]
  cases hcovered : base.follow path with
  | none => rfl
  | some covered => exact congrArg some (hreplaces covered hcovered)

/-- A value that is no table replaces all that it covers. -/
theorem follow_overlay_of_not_table (hupper : upper.Distinct)
    (h : upper.follow path = some value) (hvalue : value.isTable = false) :
    (overlay base upper).follow path = some value := by
  refine follow_overlay_of_replaces hupper h fun covered _ => ?_
  exact overlay_of_not_table covered (ne_table_of_isTable_eq_false hvalue)

/-- What stands over no table is taken as it is. -/
theorem follow_overlay_of_lower (hupper : upper.Distinct)
    (h : upper.follow path = some value) (hbase : (base.follow path).any isTable = false) :
    (overlay base upper).follow path = some value := by
  refine follow_overlay_of_replaces hupper h fun covered hcovered => ?_
  rw [Option.mem_def.mp hcovered] at hbase
  exact overlay_of_lower value (ne_table_of_isTable_eq_false hbase)

/-- **Where the upper value has nothing.** The lower value stays below tables of both. -/
theorem follow_overlay_of_meetAlong (hupper : upper.Distinct) (h : upper.follow path = none)
    (hmeet : MeetAlong base upper path) :
    (overlay base upper).follow path = base.follow path := by
  induction path generalizing base upper with
  | nil => cases h
  | cons key path ih =>
    rw [follow_cons, follow_cons]
    cases hinner : upper.get? key with
    | none => rw [get?_overlay_of_none hmeet.isTable.1 hmeet.isTable.2 hinner]
    | some inner =>
      have hnone : inner.follow path = none := by rwa [follow_cons, hinner] at h
      -- the upper value has something under the key, so that this is not the end of the path
      have hpath : path ≠ [] := by
        rintro rfl
        cases hnone
      obtain ⟨covered, hcovered⟩ := hmeet.exists_get? hpath hinner
      rw [get?_overlay_of_some hupper hinner, hcovered]
      exact ih (hupper.of_get? hinner) hnone (hmeet.tail hinner hcovered)

/-- What stood below a value that was replaced is gone. -/
theorem follow_overlay_of_not_meetAlong (hupper : upper.Distinct) (h : upper.follow path = none)
    (hmeet : ¬MeetAlong base upper path) : (overlay base upper).follow path = none := by
  simp only [MeetAlong, not_forall, not_and_or, Bool.not_eq_true] at hmeet
  obtain ⟨front, ⟨rest, rfl⟩, -, x, hx, hreplaced⟩ := hmeet
  -- at the place where they do not meet the upper value stands, and it has nothing further on
  have hfront : (overlay base upper).follow front = some x := by
    rcases hreplaced with hvalue | hbase
    · exact follow_overlay_of_not_table hupper hx hvalue
    · exact follow_overlay_of_lower hupper hx hbase
  rw [follow_append, hfront, ← h, follow_append, Option.mem_def.mp hx]

/-! ### The keys of merged tables -/

/-- The keys of a table with another one over it are the keys of both. -/
theorem mem_keys_overlayEntries :
    key ∈ (overlayEntries lower higher).map Prod.fst ↔
      key ∈ lower.map Prod.fst ∨ key ∈ higher.map Prod.fst := by
  induction higher generalizing lower with
  | nil => simp [overlayEntries]
  | cons entry rest ih =>
    rw [overlayEntries_cons, ih, overlayEntry, mem_keys_setKey, List.map_cons, List.mem_cons,
      or_assoc, or_left_comm]

/-- An entry laid over a table keeps the keys distinct. -/
theorem distinct_overlayEntry (hlower : (table lower).Distinct) (hvalue : value.Distinct)
    (hmerged : ∀ covered : Toml, covered.Distinct → (overlay covered value).Distinct) :
    (table (overlayEntry lower key value)).Distinct := by
  have hset : ((lower.lookup key).elim value fun covered => overlay covered value).Distinct := by
    cases hlookup : lower.lookup key with
    | none => exact hvalue
    | some covered => exact hmerged covered (hlower.of_get? hlookup)
  refine .table (nodup_setKey hlower.keys _) fun entry hentry => ?_
  rcases mem_setKey hentry with rfl | hold
  · exact hset
  · exact hlower.of_get? (lookup_of_mem hlower.keys hold)

/-- The entries are laid over the table one by one. -/
theorem distinct_overlayEntries (hlower : (table lower).Distinct)
    (hvalues : ∀ entry ∈ higher, entry.2.Distinct)
    (hmerged : ∀ entry ∈ higher, ∀ covered : Toml, covered.Distinct →
      (overlay covered entry.2).Distinct) :
    (table (overlayEntries lower higher)).Distinct := by
  induction higher generalizing lower with
  | nil => rwa [overlayEntries]
  | cons entry rest ih =>
    rw [List.forall_mem_cons] at hvalues hmerged
    rw [overlayEntries_cons]
    exact ih (distinct_overlayEntry hlower hvalues.1 hmerged.1) hvalues.2 hmerged.2

/-- **Distinct keys.** Laying one value over another leaves no key twice in a table. -/
theorem Distinct.overlay (hupper : upper.Distinct) (hbase : base.Distinct) :
    (Toml.overlay base upper).Distinct := by
  induction hupper generalizing base with
  | table hkeys hvalues ih =>
    cases hmerge : base.isTable with
    | true =>
      obtain ⟨lower, rfl⟩ := exists_of_isTable hmerge
      rw [overlay_table]
      exact distinct_overlayEntries hbase hvalues fun entry hentry covered => ih entry hentry
    | false =>
      rw [overlay_of_lower _ (ne_table_of_isTable_eq_false hmerge)]
      exact .table hkeys hvalues
  | arr hitems =>
    rw [overlay_of_not_table _ (by simp)]
    exact .arr hitems
  | _ =>
    rw [overlay_of_not_table _ (by simp)]
    constructor

theorem Distinct.follow (h : v.Distinct) (hvalue : v.follow path = some value) :
    value.Distinct := by
  induction path generalizing v with
  | nil => exact Option.some.inj hvalue ▸ h
  | cons key path ih =>
    obtain ⟨inner, hinner, hvalue⟩ := Option.bind_eq_some_iff.mp hvalue
    exact ih (h.of_get? hinner) hvalue

/-- **Where both values have tables.** They become one table with the keys of both. -/
theorem follow_overlay_of_tables (hbase : base.Distinct) (hupper : upper.Distinct)
    (hlower : base.follow path = some (.table lower))
    (hhigher : upper.follow path = some (.table higher)) :
    ∃ entries, (overlay base upper).follow path = some (.table entries) ∧
      (entries.map Prod.fst).Nodup ∧
      ∀ key, key ∈ entries.map Prod.fst ↔ key ∈ lower.map Prod.fst ∨ key ∈ higher.map Prod.fst := by
  have hmerged : (overlay base upper).follow path = some (.table (overlayEntries lower higher)) := by
    rw [follow_overlay_of_some hupper hhigher, hlower, Option.elim_some, overlay_table]
  exact ⟨_, hmerged, ((hupper.overlay hbase).follow hmerged).keys, fun _ => mem_keys_overlayEntries⟩

/-! ### The same value twice -/

/-- Entries that change nothing one by one change nothing together. -/
theorem overlayEntries_eq_self
    (h : ∀ entry ∈ higher, ∃ x, lower.lookup entry.1 = some x ∧ overlay x entry.2 = x) :
    overlayEntries lower higher = lower := by
  induction higher with
  | nil => rw [overlayEntries]
  | cons entry rest ih =>
    rw [List.forall_mem_cons] at h
    obtain ⟨⟨x, hlookup, hx⟩, hrest⟩ := h
    rw [overlayEntries_cons, overlayEntry, hlookup, Option.elim_some, hx, setKey_of_lookup hlookup,
      ih hrest]

/-- A value laid over itself changes nothing. -/
theorem overlay_self (h : v.Distinct) : overlay v v = v := by
  induction h with
  | table hkeys hvalues ih =>
    rw [overlay_table, overlayEntries_eq_self]
    intro entry hentry
    exact ⟨entry.2, lookup_of_mem hkeys hentry, ih entry hentry⟩
  | _ => exact overlay_of_not_table _ (by simp)

/-- **The same value twice.** Laid over another one a second time, a value changes nothing. -/
theorem overlay_overlay (base : Toml) (hupper : upper.Distinct) :
    overlay (overlay base upper) upper = overlay base upper := by
  induction hupper generalizing base with
  | table hkeys hvalues ih =>
    cases hmerge : base.isTable with
    | true =>
      obtain ⟨lower, rfl⟩ := exists_of_isTable hmerge
      rw [overlay_table, overlay_table, overlayEntries_eq_self]
      intro entry hentry
      refine ⟨_, lookup_overlayEntries_of_some hkeys (lookup_of_mem hkeys hentry), ?_⟩
      -- a new value is laid over itself, and the others over what they were merged into
      cases lower.lookup entry.1 with
      | none => exact overlay_self (hvalues entry hentry)
      | some covered => exact ih entry hentry covered
    | false =>
      rw [overlay_of_lower _ (ne_table_of_isTable_eq_false hmerge)]
      exact overlay_self (.table hkeys hvalues)
  | _ => rw [overlay_of_not_table _ (by simp), overlay_of_not_table _ (by simp)]

/-! ### All paths -/

/-- The third value has, at every path, what the second one laid over the first comes to there. -/
structure LaidOver (base upper merged : Toml) : Prop where
  /-- A value that is no table replaces all that it covers. -/
  replaced : ∀ path value, upper.follow path = some value → value.isTable = false →
    merged.follow path = some value
  /-- A value over no table is taken as it is. -/
  taken : ∀ path value, upper.follow path = some value →
    (base.follow path).any isTable = false → merged.follow path = some value
  /-- Where the upper value has nothing, the lower one stays if they meet in tables on the way. -/
  kept : ∀ path, upper.follow path = none → MeetAlong base upper path →
    merged.follow path = base.follow path
  /-- It is gone if they do not. -/
  gone : ∀ path, upper.follow path = none → ¬MeetAlong base upper path → merged.follow path = none
  /-- Two tables become one, whose keys are those of both. -/
  joined : ∀ path lower higher, base.follow path = some (.table lower) →
    upper.follow path = some (.table higher) →
    ∃ entries, merged.follow path = some (.table entries) ∧ (entries.map Prod.fst).Nodup ∧
      ∀ key, key ∈ entries.map Prod.fst ↔ key ∈ lower.map Prod.fst ∨ key ∈ higher.map Prod.fst

/-- **Overlays.** One value laid over another has at every path what both come to there, and laying
    the same value over it again changes nothing. -/
theorem laidOver_overlay (hbase : base.Distinct) (hupper : upper.Distinct) :
    LaidOver base upper (overlay base upper) ∧
      overlay (overlay base upper) upper = overlay base upper := by
  refine ⟨?_, overlay_overlay base hupper⟩
  constructor
  case replaced => exact fun _ _ => follow_overlay_of_not_table hupper
  case taken => exact fun _ _ => follow_overlay_of_lower hupper
  case kept => exact fun _ => follow_overlay_of_meetAlong hupper
  case gone => exact fun _ => follow_overlay_of_not_meetAlong hupper
  case joined => exact fun _ _ _ => follow_overlay_of_tables hbase hupper

/-- A document with two tables. -/
def mixedLower : Toml :=
  .table [("b", .table [("z", .int 3)]), ("a", .table [("x", .int 1), ("y", .int 2)])]

/-- A document with a number over one of the tables, and a table over one of the numbers. -/
def mixedUpper : Toml :=
  .table [("b", .int 5), ("a", .table [("y", .table [("w", .int 4)])])]

theorem laidOver_overlay_mixed :
    parse "b.z = 3\n[a]\nx = 1\ny = 2\n" = some mixedLower ∧
    parse "b = 5\n[a.y]\nw = 4\n" = some mixedUpper ∧
    (overlay mixedLower mixedUpper).follow ["b"] = some (.int 5) ∧
    (overlay mixedLower mixedUpper).follow ["a", "y"] = some (.table [("w", .int 4)]) ∧
    (overlay mixedLower mixedUpper).follow ["a", "x"] = some (.int 1) ∧
    (overlay mixedLower mixedUpper).follow ["b", "z"] = none ∧
    (∃ entries, (overlay mixedLower mixedUpper).follow ["a"] = some (.table entries) ∧
      (entries.map Prod.fst).Nodup ∧
      ∀ key, key ∈ entries.map Prod.fst ↔ key ∈ ["x", "y"] ∨ key ∈ ["y"]) ∧
    overlay (overlay mixedLower mixedUpper) mixedUpper = overlay mixedLower mixedUpper := by
  have hlower : parse "b.z = 3\n[a]\nx = 1\ny = 2\n" = some mixedLower := by decide +kernel
  have hupper : parse "b = 5\n[a.y]\nw = 4\n" = some mixedUpper := by decide +kernel
  obtain ⟨hlaid, hagain⟩ :=
    laidOver_overlay (distinct_of_parse hlower) (distinct_of_parse hupper)
  refine ⟨hlower, hupper, ?_, ?_, ?_, ?_, ?_, hagain⟩
  · exact hlaid.replaced ["b"] (.int 5) (by decide +kernel) (by decide)
  · exact hlaid.taken ["a", "y"] _ (by decide +kernel) (by decide +kernel)
  · rw [hlaid.kept ["a", "x"] (by decide +kernel) (by decide +kernel)]
    decide +kernel
  · exact hlaid.gone ["b", "z"] (by decide +kernel) (by decide +kernel)
  · exact hlaid.joined ["a"] [("x", .int 1), ("y", .int 2)] [("y", .table [("w", .int 4)])]
      (by decide +kernel) (by decide +kernel)

end ServiceLang.Toml
