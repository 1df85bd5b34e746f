import ServiceLang.Proofs.Keyed
import ServiceLang.Proofs.Outcome
import ServiceLang.Protocol.Place

namespace ServiceLang

/-!
# Records read back

* `Decode.Undoes`: a decoder that gives back every value from its JSON form;
* `Decode.undoes_string`, `Decode.undoes_code`, `Decode.undoes_list` and others: the decoders of
  which those of records are made;
* `Json.present`: the fields that are written, those that have a value;
* `Record.ofObject_required`, `Record.ofObject_nullable`, `Record.ofObject_defaulted`: one more
  field of a record;
* `Record.decode_present`: so records are read from the fields that are written.
-/

namespace Decode

/-- The decoder gives back every value from its JSON form, which is not null. -/
structure Undoes {α : Type} (decode : Decode α) (encode : α → Json) : Prop where
  decode_encode (a : α) : decode (encode a) = .ok a
  ne_null (a : α) : encode a ≠ .null

/-- A string is read as it was written. -/
theorem undoes_string : Undoes string .str := ⟨fun _ => rfl, nofun⟩

/-- A number within its bounds is read as it was written. -/
theorem bounded_ofNat {low : Int} {high n : Nat} {want : String} (hlow : low ≤ 0) (hn : n ≤ high) :
    bounded low high want (.ofNat n) = .ok n := by
  have hbounds : low ≤ (n : Int) ∧ (n : Int) ≤ high := by omega
  exact if_pos hbounds

/-- A 32-bit number is read as it was written. -/
theorem undoes_word32 : Undoes word32 .ofWord32 := by
  refine ⟨fun n => ?_, nofun⟩
  have hle : n.toNat ≤ 4294967295 := Nat.le_of_lt_succ n.toNat_lt
  have hbounded : bounded 0 4294967295 "u32" (.ofWord32 n) = .ok n.toNat :=
    bounded_ofNat (Int.le_refl 0) hle
  rw [word32, hbounded]
  exact congrArg Except.ok UInt32.ofNat_toNat

/-- An 8-bit number is read as it was written. -/
theorem undoes_word8 : Undoes word8 fun n => .ofNat n.toNat := by
  refine ⟨fun n => ?_, nofun⟩
  have hle : n.toNat ≤ 255 := Nat.le_of_lt_succ n.toNat_lt
  have hbounded : bounded 0 255 "u8" (.ofNat n.toNat) = .ok n.toNat :=
    bounded_ofNat (Int.le_refl 0) hle
  rw [word8, hbounded]
  exact congrArg Except.ok UInt8.ofNat_toNat

/-- Numeric codes are read back when every code is known to be that of its value. -/
theorem undoes_code {α : Type} {phrase : String} {find? : UInt8 → Option α} {number : α → UInt8}
    (h : ∀ a, find? (number a) = some a) :
    Undoes (code phrase find?) fun a => .ofNat (number a).toNat := by
  refine ⟨fun a => ?_, nofun⟩
  have hword := undoes_word8.decode_encode (number a)
  simp only [code, hword, bind, Except.bind, h]
  rfl

/-- A list is read back when each of its items is. -/
theorem list_arr_map {α : Type} {item : Decode α} {encode : α → Json} {as : List α}
    (h : ∀ a ∈ as, item (encode a) = .ok a) : list item (.arr (as.map encode)) = .ok as := by
  refine mapM_eq_ok_iff.mpr (List.forall₂_map_left_iff.mpr (List.forall₂_same.mpr h))

/-- A list is read as it was written when its items are. -/
theorem undoes_list {α : Type} {item : Decode α} {encode : α → Json} (h : Undoes item encode) :
    Undoes (list item) fun as => .arr (as.map encode) :=
  ⟨fun _ => list_arr_map fun a _ => h.decode_encode a, nofun⟩

/-- A value that is there is read as it was written. -/
theorem optional_encode {α : Type} {item : Decode α} {encode : α → Json} (h : Undoes item encode)
    (a : α) : optional item (encode a) = .ok (some a) := by
  have hne := h.ne_null a
  have hsome : (some <$> item (encode a)) = .ok (some a) := by
    rw [h.decode_encode]
    rfl
  rw [← hsome]
  cases hv : encode a with
  | null => exact absurd hv hne
  | bool | int | float | str | arr | obj => rfl

end Decode

/-! ### Written fields -/

namespace Json

variable {fields : List (String × Option Json)}

/-- The fields that are written: those that have a value. -/
def present (fields : List (String × Option Json)) : List (String × Json) :=
  fields.filterMap fun field => field.2.map (field.1, ·)

/-- A record holds the fields that are there. -/
theorem mem_present {key : String} {v : Json} :
    (key, v) ∈ present fields ↔ (key, some v) ∈ fields := by
  unfold present
  rw [List.mem_filterMap]
  constructor
  · rintro ⟨field, hfield, hvalue⟩
    obtain ⟨value, hsome, heq⟩ := Option.map_eq_some_iff.mp hvalue
    obtain ⟨rfl, rfl⟩ := Prod.mk.inj heq
    rw [← hsome]
    exact hfield
  · exact fun hfield => ⟨_, hfield, rfl⟩

/-- What is written under a key is the value of the field. -/
theorem lookup_present (h : (fields.map Prod.fst).Pairwise (· < ·)) (key : String) :
    (present fields).lookup key = (fields.lookup key).join := by
  induction fields with
  | nil => rfl
  | cons field fields ih =>
    obtain ⟨k, value⟩ := field
    obtain ⟨hk, hfields⟩ := List.pairwise_cons.mp h
    rw [lookup_cons_eq_ite]
    cases value with
    | some v =>
      show ((k, v) :: present fields).lookup key = _
      rw [lookup_cons_eq_ite, ih hfields]
      split <;> rfl
    | none =>
      show (present fields).lookup key = _
      rw [ih hfields]
      split
      · -- no later field has the key, since the keys ascend
        rename_i heq
        have hnone : fields.lookup key = none := by
          rw [List.lookup_eq_none_iff]
          intro other hother
          have hlt : key < other.1 := heq ▸ hk other.1 (List.mem_map_of_mem hother)
          exact bne_iff_ne.mpr (String.ne_of_lt hlt)
        rw [hnone]
        rfl
      · rfl

end Json

/-! ### Records -/

namespace Record

variable {α β : Type} {key : String} {decode : Decode α} {encode : α → Json} {make : α → β}
  {get : String → Option Json} {a : α}

/-- One more field is read when it is there. -/
theorem ofObject_field {r : Record (α → β)} {f : Field α} (hr : r.ofObject get = .ok make)
    (hf : fieldOfObject f get = .ok a) : (r.field f).ofObject get = .ok (make a) := by
  simp only [field, hr, hf]

/-- A required field is read behind the fields before it. -/
theorem ofObject_required {r : Record (α → β)} {v : Json} (hr : r.ofObject get = .ok make)
    (hget : get key = some v) (hdecode : decode v = .ok a) :
    (r.required key decode).ofObject get = .ok (make a) := by
  refine ofObject_field hr ?_
  simp only [fieldOfObject, hget, hdecode]

/-- A field that is left out when it has no value is none then. -/
theorem ofObject_nullable {r : Record (Option α → β)} {make : Option α → β} {a : Option α}
    (hr : r.ofObject get = .ok make) (hget : get key = a.map encode)
    (hdecode : decode.Undoes encode) : (r.nullable key decode).ofObject get = .ok (make a) := by
  refine ofObject_field hr ?_
  cases a with
  | none => simp only [fieldOfObject, hget, Option.map_none]
  | some a =>
    simp only [fieldOfObject, hget, Option.map_some, Decode.optional_encode hdecode]

/-- A field that is left out has its default. -/
theorem ofObject_defaulted {r : Record (α → β)} {d : α} (hr : r.ofObject get = .ok make)
    (hget : get key = none ∧ a = d ∨ ∃ v, get key = some v ∧ decode v = .ok a) :
    (r.defaulted key decode d).ofObject get = .ok (make a) := by
  refine ofObject_field hr ?_
  obtain ⟨hnone, rfl⟩ | ⟨v, hsome, hdecode⟩ := hget
  · simp only [fieldOfObject, hnone]
  · simp only [fieldOfObject, hsome, hdecode]

/-- **Records.** A record is read from the fields that are written. -/
theorem decode_present {r : Record α} {name : String} {fields : List (String × Option Json)}
    (hkeys : (fields.map Prod.fst).Pairwise (· < ·))
    (h : r.ofObject (fun key => (fields.lookup key).join) = .ok a) :
    r.decode name (.obj (Json.present fields)) = .ok a := by
  have hget : ((Json.present fields).lookup ·) = fun key => (fields.lookup key).join :=
    funext (Json.lookup_present hkeys)
  simp only [Record.decode, hget, h]

end Record

end ServiceLang
