import ServiceLang.Keyed

namespace ServiceLang

/-!
# Look-up in lists of keys and values

What `List.lookup` finds after a key was set or dropped: the other keys keep their values.

* `lookup_setKey`, `lookup_eraseKey`: look-up after setting and dropping a key;
* `setKey_setKey`, `eraseKey_setKey`: a key that is set is set or dropped later;
* `setKey_of_lookup`: a key that is set to the value it has;
* `mem_setKey`, `mem_eraseKey`, `mem_of_lookup`: the entries that are there;
* `mem_keys_setKey`: the keys that are there;
* `nodup_setKey`, `lookup_of_mem`: no key is there twice, and then an entry is found by its key.
-/

variable {α : Type} {k key : String} {v : α} {entries : List (String × α)}

/-- The first entry decides for its own key, and the rest of the list for every other one. -/
theorem lookup_cons_eq_ite (k k' : String) (v : α) (rest : List (String × α)) :
    ((k', v) :: rest).lookup k = if k = k' then some v else rest.lookup k := by
  rw [List.lookup_cons]
  by_cases h : k = k'
  · rw [if_pos h, h, beq_self_eq_true]
  · rw [if_neg h, beq_false_of_ne h]

/-- A key that was set has its value, and every other key has the value it had. -/
@[simp] theorem lookup_setKey :
    (setKey key v entries).lookup k = if k = key then some v else entries.lookup k := by
  induction entries with
  | nil => rw [setKey, lookup_cons_eq_ite]
  | cons entry rest ih =>
    obtain ⟨k', v'⟩ := entry
    rw [setKey]
    by_cases hk : k' = key
    · rw [if_pos hk, lookup_cons_eq_ite, lookup_cons_eq_ite, hk]
      by_cases h : k = key <;> simp [h]
    · rw [if_neg hk, lookup_cons_eq_ite, lookup_cons_eq_ite, ih]
      by_cases h : k = k'
      · rw [if_pos h, if_neg (h ▸ hk), if_pos h]
      · rw [if_neg h, if_neg h]

/-- A key that was dropped has no value, and every other key has the value it had. -/
@[simp] theorem lookup_eraseKey :
    (eraseKey key entries).lookup k = if k = key then none else entries.lookup k := by
  rw [eraseKey]
  induction entries with
  | nil => simp
  | cons entry rest ih =>
    obtain ⟨k', v'⟩ := entry
    rw [lookup_cons_eq_ite]
    by_cases hk : k' = key
    · rw [List.filter_cons_of_neg (by simp [hk]), ih, hk]
      by_cases h : k = key <;> simp [h]
    · rw [List.filter_cons_of_pos (by simp [hk]), lookup_cons_eq_ite, ih]
      by_cases h : k = k'
      · rw [if_pos h, if_neg (h ▸ hk), if_pos h]
      · rw [if_neg h, if_neg h]

/-- A list without a key is not changed by dropping the key. -/
theorem eraseKey_of_lookup_eq_none (h : entries.lookup key = none) :
    eraseKey key entries = entries := by
  rw [eraseKey, List.filter_eq_self]
  intro entry hentry
  have hne := List.lookup_eq_none_iff.mp h entry hentry
  rw [bne_iff_ne] at hne
  exact decide_eq_true (Ne.symm hne)

/-- Of two values set for a key the second one counts. -/
theorem setKey_setKey (v w : α) : setKey key w (setKey key v entries) = setKey key w entries := by
  induction entries with
  | nil => simp [setKey]
  | cons entry rest ih =>
    by_cases hk : entry.1 = key
    · simp [setKey, hk]
    · simp [setKey, hk, ih]

/-- Setting a key to the value that it has changes nothing. -/
theorem setKey_of_lookup (h : entries.lookup key = some v) : setKey key v entries = entries := by
  induction entries with
  | nil => cases h
  | cons entry rest ih =>
    obtain ⟨k', v'⟩ := entry
    rw [lookup_cons_eq_ite] at h
    rw [setKey]
    by_cases hk : key = k'
    · rw [if_pos hk] at h
      rw [if_pos hk.symm, hk, Option.some.inj h]
    · rw [if_neg hk] at h
      rw [if_neg (Ne.symm hk), ih h]

/-- Dropping a key that was just set drops it. -/
theorem eraseKey_setKey (v : α) : eraseKey key (setKey key v entries) = eraseKey key entries := by
  induction entries with
  | nil => simp [setKey, eraseKey]
  | cons entry rest ih =>
    unfold eraseKey at ih ⊢
    by_cases hk : entry.1 = key
    · simp [setKey, hk]
    · rw [setKey, if_neg hk, List.filter_cons_of_pos (by simpa using hk),
        List.filter_cons_of_pos (by simpa using hk), ih]

/-- After a key was set, an entry is the new one or an old one. -/
theorem mem_setKey {entry : String × α} (h : entry ∈ setKey key v entries) :
    entry = (key, v) ∨ entry ∈ entries := by
  induction entries with
  | nil => exact .inl (List.mem_singleton.mp h)
  | cons first rest ih =>
    rw [setKey] at h
    split at h
    · exact (List.mem_cons.mp h).imp_right (List.mem_cons_of_mem first)
    · obtain rfl | hrest := List.mem_cons.mp h
      · exact .inr List.mem_cons_self
      · exact (ih hrest).imp_right (List.mem_cons_of_mem first)

/-- After a key was dropped, the entries are those of the other keys. -/
theorem mem_eraseKey {entry : String × α} :
    entry ∈ eraseKey key entries ↔ entry ∈ entries ∧ entry.1 ≠ key := by
  simp [eraseKey]

/-- What is found under a key is an entry. -/
theorem mem_of_lookup (h : entries.lookup key = some v) : (key, v) ∈ entries := by
  obtain ⟨front, back, hsplit, -⟩ := List.lookup_eq_some_iff.mp h
  rw [hsplit]
  exact List.mem_append_right front List.mem_cons_self

/-- A key without a value is not among the keys. -/
theorem not_mem_keys_of_lookup (h : entries.lookup key = none) : key ∉ entries.map Prod.fst := by
  intro hmem
  obtain ⟨entry, hentry, rfl⟩ := List.mem_map.mp hmem
  have hne := List.lookup_eq_none_iff.mp h entry hentry
  simp at hne

/-- The keys after one was set are the old ones and that one. -/
theorem mem_keys_setKey :
    k ∈ (setKey key v entries).map Prod.fst ↔ k = key ∨ k ∈ entries.map Prod.fst := by
  induction entries with
  | nil => simp [setKey]
  | cons entry rest ih =>
    rw [setKey]
    split
    case isTrue hk => simp [hk]
    case isFalse => rw [List.map_cons, List.mem_cons, ih, List.map_cons, List.mem_cons, or_left_comm]

/-- Setting a key keeps the keys distinct. -/
theorem nodup_setKey (h : (entries.map Prod.fst).Nodup) (v : α) :
    ((setKey key v entries).map Prod.fst).Nodup := by
  induction entries with
  | nil => simp [setKey]
  | cons entry rest ih =>
    rw [List.map_cons, List.nodup_cons] at h
    rw [setKey]
    split
    case isTrue hk => exact List.nodup_cons.mpr ⟨hk ▸ h.1, h.2⟩
    case isFalse hk =>
      refine List.nodup_cons.mpr ⟨fun hmem => ?_, ih h.2⟩
      obtain ⟨other, hother, heq⟩ := List.mem_map.mp hmem
      obtain rfl | hrest := mem_setKey hother
      · exact hk heq.symm
      · exact h.1 (List.mem_map.mpr ⟨other, hrest, heq⟩)

/-- Where no key is there twice, an entry is what is found under its key. -/
theorem lookup_of_mem (hkeys : (entries.map Prod.fst).Nodup) (h : (key, v) ∈ entries) :
    entries.lookup key = some v := by
  induction entries with
  | nil => cases h
  | cons entry rest ih =>
    obtain ⟨k', v'⟩ := entry
    rw [List.map_cons, List.nodup_cons] at hkeys
    rw [lookup_cons_eq_ite]
    obtain heq | hrest := List.mem_cons.mp h
    · cases heq
      rw [if_pos rfl]
    · have hmem : key ∈ rest.map Prod.fst := List.mem_map_of_mem hrest
      have hne : key ≠ k' := fun hk => hkeys.1 (hk ▸ hmem)
      rw [if_neg hne, ih hkeys.2 hrest]

/-- Dropping a key keeps the keys distinct. -/
theorem nodup_eraseKey (h : (entries.map Prod.fst).Nodup) (key : String) :
    ((eraseKey key entries).map Prod.fst).Nodup :=
  h.sublist (List.filter_sublist.map _)

end ServiceLang
