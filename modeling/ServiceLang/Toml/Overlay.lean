import ServiceLang.Keyed
import ServiceLang.Toml.Basic

namespace ServiceLang.Toml

/-!
# Laying one value over another

Tables are merged key by key, at every depth; any other value replaces what it covers.
-/

mutual

/-- The second value laid over the first. -/
def overlay : (base upper : Toml) → Toml
  | .table base, .table upper => .table (overlayEntries base upper)
  | _, upper => upper

/-- The second table's entries laid over the first's. -/
def overlayEntries : (base upper : List (String × Toml)) → List (String × Toml)
  | base, [] => base
  | base, (key, value) :: rest =>
    match base.lookup key with
    | some covered => overlayEntries (setKey key (overlay covered value) base) rest
    | none => overlayEntries (setKey key value base) rest

end

end ServiceLang.Toml
