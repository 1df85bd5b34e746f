import ServiceLang.Proofs.Toml.Distinct
import ServiceLang.Toml.Marked

namespace ServiceLang.Toml

/-!
# What stays of a value when marks are read as dates

* `isMarked`: whether a table counts as a date;
* `exists_date_of_unmark`, `unmark_table`: marked tables become dates, and other tables stay tables;
* `map_fst_unmarkEntries`, `lookup_unmarkEntries`: the keys of a table that stays, and their values;
* `Distinct.unmark`: keys stay distinct.
-/

/-- Whether a value is a table that counts as a date. -/
def isMarked : Toml → Bool
  | .table (entry :: _) => entry.1 == dateMark
  | _ => false

variable {entries entries' : List (String × Toml)} {v w : Toml}

/-- A marked table becomes a date. -/
theorem exists_date_of_unmark (hmarked : v.isMarked = true) (h : v.unmark = some w) :
    ∃ text, w = .date text := by
  rw [isMarked.eq_def] at hmarked
  split at hmarked
  case h_2 => cases hmarked
  case h_1 entry rest =>
    obtain ⟨key, mark⟩ := entry
    rw [unmark, if_pos (eq_of_beq hmarked)] at h
    rw [markedDate?.eq_def] at h
    split at h
    case h_2 => cases h
    case h_1 text =>
      rw [TomlDate.ofText?] at h
      split at h
      case h_2 => cases h
      case h_1 hmoment =>
        obtain rfl := Option.some.inj h
        exact exists_date_of_readMoment hmoment

/-- A table without a mark stays a table. -/
theorem unmark_table (hmarked : (Toml.table entries).isMarked = false) :
    (Toml.table entries).unmark = (unmarkEntries entries).map .table := by
  cases entries with
  | nil => rfl
  | cons entry rest =>
    obtain ⟨key, value⟩ := entry
    have hkey : key ≠ dateMark := by
      rintro rfl
      simp [isMarked] at hmarked
    rw [unmark, if_neg hkey, unmarkEntries]
    cases value.unmark <;> cases unmarkEntries rest <;> rfl

/-- The keys stay. -/
theorem map_fst_unmarkEntries (h : unmarkEntries entries = some entries') :
    entries'.map Prod.fst = entries.map Prod.fst := by
  induction entries generalizing entries' with
  | nil =>
    obtain rfl := Option.some.inj h
    rfl
  | cons entry rest ih =>
    obtain ⟨key, value⟩ := entry
    rw [unmarkEntries] at h
    obtain ⟨value', hvalue, h⟩ := Option.bind_eq_some_iff.mp h
    obtain ⟨rest', hrest, h⟩ := Option.bind_eq_some_iff.mp h
    obtain rfl := Option.some.inj h
    rw [List.map_cons, List.map_cons, ih hrest]

/-- Each key has its value, read in the same way. -/
theorem lookup_unmarkEntries (h : unmarkEntries entries = some entries') (key : String) :
    entries'.lookup key = (entries.lookup key).bind unmark := by
  induction entries generalizing entries' with
  | nil =>
    obtain rfl := Option.some.inj h
    rfl
  | cons entry rest ih =>
    obtain ⟨k, value⟩ := entry
    rw [unmarkEntries] at h
    obtain ⟨value', hvalue, h⟩ := Option.bind_eq_some_iff.mp h
    obtain ⟨rest', hrest, h⟩ := Option.bind_eq_some_iff.mp h
    obtain rfl := Option.some.inj h
    rw [lookup_cons_eq_ite, lookup_cons_eq_ite, ih hrest]
    by_cases hk : key = k
    · rw [if_pos hk, if_pos hk, Option.bind_some, hvalue]
    · rw [if_neg hk, if_neg hk]

/-- No key is lost. -/
theorem exists_lookup_unmarkEntries {key : String} (h : unmarkEntries entries = some entries')
    (hv : entries.lookup key = some v) : ∃ w, v.unmark = some w ∧ entries'.lookup key = some w := by
  have hlookup := lookup_unmarkEntries h key
  rw [hv, Option.bind_some] at hlookup
  cases hw : entries'.lookup key with
  | some w => exact ⟨w, by rw [← hlookup, hw], rfl⟩
  | none =>
    have hkey := not_mem_keys_of_lookup hw
    rw [map_fst_unmarkEntries h] at hkey
    exact absurd (List.mem_map_of_mem (f := Prod.fst) (mem_of_lookup hv)) hkey

theorem mem_unmarkItems {items items' : List Toml} (h : unmarkItems items = some items') :
    ∀ w ∈ items', ∃ v ∈ items, v.unmark = some w := by
  induction items generalizing items' with
  | nil =>
    obtain rfl := Option.some.inj h
    simp
  | cons item rest ih =>
    rw [unmarkItems] at h
    obtain ⟨item', hitem, h⟩ := Option.bind_eq_some_iff.mp h
    obtain ⟨rest', hrest, h⟩ := Option.bind_eq_some_iff.mp h
    obtain rfl := Option.some.inj h
    refine List.forall_mem_cons.mpr ⟨⟨item, List.mem_cons_self, hitem⟩, fun w hw => ?_⟩
    obtain ⟨v, hv, hunmark⟩ := ih hrest w hw
    exact ⟨v, List.mem_cons_of_mem item hv, hunmark⟩

theorem mem_unmarkEntries (h : unmarkEntries entries = some entries') :
    ∀ entry' ∈ entries', ∃ entry ∈ entries, entry.2.unmark = some entry'.2 := by
  induction entries generalizing entries' with
  | nil =>
    obtain rfl := Option.some.inj h
    simp
  | cons entry rest ih =>
    obtain ⟨key, value⟩ := entry
    rw [unmarkEntries] at h
    obtain ⟨value', hvalue, h⟩ := Option.bind_eq_some_iff.mp h
    obtain ⟨rest', hrest, h⟩ := Option.bind_eq_some_iff.mp h
    obtain rfl := Option.some.inj h
    refine List.forall_mem_cons.mpr ⟨⟨_, List.mem_cons_self, hvalue⟩, fun entry' hentry' => ?_⟩
    obtain ⟨entry, hentry, hunmark⟩ := ih hrest entry' hentry'
    exact ⟨entry, List.mem_cons_of_mem _ hentry, hunmark⟩

/-- Keys stay distinct. -/
theorem Distinct.unmark (hv : v.Distinct) (h : v.unmark = some w) : w.Distinct := by
  induction hv generalizing w with
  | str s => exact Option.some.inj h ▸ .str s
  | int n => exact Option.some.inj h ▸ .int n
  | float written => exact Option.some.inj h ▸ .float written
  | bool b => exact Option.some.inj h ▸ .bool b
  | date text => exact Option.some.inj h ▸ .date text
  | arr hitems ih =>
    rw [Toml.unmark] at h
    obtain ⟨items', hitems', h⟩ := Option.bind_eq_some_iff.mp h
    obtain rfl := Option.some.inj h
    refine .arr fun item' hitem' => ?_
    obtain ⟨item, hitem, hunmark⟩ := mem_unmarkItems hitems' item' hitem'
    exact ih item hitem hunmark
  | @table entries hkeys hvalues ih =>
    cases hmarked : (Toml.table entries).isMarked with
    | true =>
      obtain ⟨text, rfl⟩ := exists_date_of_unmark hmarked h
      exact .date text
    | false =>
      rw [unmark_table hmarked] at h
      obtain ⟨entries', hentries', rfl⟩ := Option.map_eq_some_iff.mp h
      refine .table (by rwa [map_fst_unmarkEntries hentries']) fun entry' hentry' => ?_
      obtain ⟨entry, hentry, hunmark⟩ := mem_unmarkEntries hentries' entry' hentry'
      exact ih entry hentry hunmark

end ServiceLang.Toml
