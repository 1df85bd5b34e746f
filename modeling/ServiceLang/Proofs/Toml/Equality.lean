import ServiceLang.Toml.Basic

namespace ServiceLang.Toml

/-!
# Equality of values

Whether two values are the same can be computed.
-/

mutual

/-- Whether two values are the same. -/
def same : Toml → Toml → Bool
  | .str a, .str b => a == b
  | .int a, .int b => a == b
  | .float a, .float b => a == b
  | .bool a, .bool b => a == b
  | .date a, .date b => a == b
  | .arr a, .arr b => sameItems a b
  | .table a, .table b => sameEntries a b
  | _, _ => false

/-- Whether two lists hold the same values. -/
def sameItems : List Toml → List Toml → Bool
  | [], [] => true
  | v :: items, w :: others => same v w && sameItems items others
  | _, _ => false

/-- Whether two lists hold the same keys and values. -/
def sameEntries : List (String × Toml) → List (String × Toml) → Bool
  | [], [] => true
  | (k, v) :: entries, (l, w) :: others => k == l && same v w && sameEntries entries others
  | _, _ => false

end

mutual

theorem same_iff : ∀ v w : Toml, same v w = true ↔ v = w
  | .str a, w => by cases w <;> simp [same]
  | .int a, w => by cases w <;> simp [same]
  | .float a, w => by cases w <;> simp [same]
  | .bool a, w => by cases w <;> simp [same]
  | .date a, w => by cases w <;> simp [same]
  | .arr a, w => by cases w <;> simp [same, sameItems_iff a]
  | .table a, w => by cases w <;> simp [same, sameEntries_iff a]

theorem sameItems_iff : ∀ items others : List Toml, sameItems items others = true ↔ items = others
  | [], others => by cases others <;> simp [sameItems]
  | v :: items, others => by cases others <;> simp [sameItems, same_iff v, sameItems_iff items]

theorem sameEntries_iff : ∀ entries others : List (String × Toml),
    sameEntries entries others = true ↔ entries = others
  | [], others => by cases others <;> simp [sameEntries]
  | (k, v) :: entries, others => by
    cases others with
    | nil => simp [sameEntries]
    | cons other others =>
      obtain ⟨l, w⟩ := other
      simp [sameEntries, same_iff v, sameEntries_iff entries]

end

instance : DecidableEq Toml := fun v w => decidable_of_iff _ (same_iff v w)

end ServiceLang.Toml
