import ServiceLang.Proofs.Json.Value
import ServiceLang.Proofs.Keyed
import ServiceLang.Rpc.Message

namespace ServiceLang

/-!
# Messages read back

* `Json.IsIdentifier`: the identifiers with one written form, strings and integers;
* `Json.Fits`: the values that may stand in a message;
* `Message.parse_render_obj`: an object of such values is read back from its text;
* `Message.ofJson_response`, `Message.ofJson_notification`: which message an object is, by the keys
  that it has;
* `Message.parse_render_outgoing`: so all that the server sends is read back as it was sent.
-/

namespace Json

/-- An identifier with one written form: a string, or an integer of 64 bits. -/
inductive IsIdentifier : Json → Prop where
  | int {n : Int} (hn : InWord64 n) : IsIdentifier (.int n)
  | str (s : String) : IsIdentifier (.str s)

/-- A value that may stand in a message: it has one written form, and nests less deep than a text
    may, since the message is an object around it. -/
structure Fits (v : Json) : Prop where
  canonical : Canonical v
  depth_lt : v.depth < nestingLimit

theorem fits_str (s : String) : Fits (.str s) := ⟨.str s, by simp [depth, nestingLimit]⟩

theorem fits_int {n : Int} (hn : InWord64 n) : Fits (.int n) :=
  ⟨.int hn, by simp [depth, nestingLimit]⟩

namespace IsIdentifier

variable {id : Json}

/-- An identifier fits into a message. -/
theorem fits (h : id.IsIdentifier) : id.Fits := by
  cases h with
  | int hn => exact fits_int hn
  | str s => exact fits_str s

/-- An identifier is read as it was written. -/
theorem readId_eq (h : id.IsIdentifier) : Message.readId id = .ok id := by
  cases h <;> rfl

/-- An identifier is not null, so an object that has it under its key counts as having it. -/
theorem id?_eq (h : id.IsIdentifier) {v : Json} (hget : v.get? "id" = some id) :
    Message.id? v = some id := by
  cases h <;> rw [Message.id?, hget]

end IsIdentifier

end Json

namespace Message

open Json

/-! ### Objects as messages -/

section Objects

variable {fields : List (String × Json)} {id : Json}

/-- An object whose values fit is read back from its text. -/
theorem parse_render_obj (hkeys : (fields.map Prod.fst).Pairwise (· < ·))
    (hfields : ∀ field ∈ fields, field.2.Fits) :
    parse (Json.obj fields).render = ofJson (.obj fields) := by
  have hcanonical : Canonical (.obj fields) :=
    .obj hkeys fun field hfield => (hfields field hfield).canonical
  have hdepth : (Json.obj fields).depth ≤ nestingLimit := by
    rw [depth]
    exact Nat.succ_le_succ
      (depthFields_le_iff.mpr fun field hfield => Nat.le_of_lt_succ (hfields field hfield).depth_lt)
  rw [parse, Json.parse_render hcanonical hdepth]

/-- An object with an identifier and no method is a response. -/
theorem ofJson_response (hid : id.IsIdentifier) (hget : fields.lookup "id" = some id)
    (hmethod : fields.lookup "method" = none) :
    ofJson (.obj fields) =
      .ok (.response id (fields.lookup "result") ((fields.lookup "error").bind readError?)) := by
  have hid? : id? (.obj fields) = some id := hid.id?_eq hget
  have hmethod? : (Json.obj fields).get? "method" = none := hmethod
  rw [ofJson]
  simp only [hid?, hmethod?, hid.readId_eq]
  rfl

/-- An object with a method and no identifier is a notification. -/
theorem ofJson_notification {method : String} (hget : fields.lookup "method" = some (.str method))
    (hid : fields.lookup "id" = none) :
    ofJson (.obj fields) = .ok (.notification method ((fields.lookup "params").getD .null)) := by
  have hid? : id? (.obj fields) = none := by rw [id?, Json.get?, hid]
  have hmethod? : (Json.obj fields).get? "method" = some (.str method) := hget
  rw [ofJson]
  simp only [hid?, hmethod?]
  rfl

end Objects

/-! ### Errors -/

section Errors

variable (code : Int32) (message : String)

/-- Codes are 32-bit numbers. -/
theorem code_bounds : -2147483648 ≤ code.toInt ∧ code.toInt ≤ 2147483647 :=
  ⟨code.le_toInt, code.toInt_le⟩

/-- Every code of 32 bits is read back with its message. -/
theorem readError?_fields :
    readError? (.obj [("code", .int code.toInt), ("message", .str message)]) =
      some ⟨code, message⟩ := by
  simp [readError?, Json.get?, lookup_cons_eq_ite, code_bounds code]

/-- What a failure says fits into a message. -/
theorem fits_error : Fits (.obj [("code", .int code.toInt), ("message", .str message)]) where
  canonical := by
    have hkeys : ["code", "message"].Pairwise (· < ·) := by decide
    have hword : InWord64 code.toInt := by
      obtain ⟨hlow, hhigh⟩ := code_bounds code
      exact ⟨by omega, by omega⟩
    exact .obj hkeys (by simp [Canonical.int hword, Canonical.str])
  depth_lt := by simp [depth, depthFields, nestingLimit]

end Errors

/-! ### What the server sends -/

section Sent

variable {id v : Json}

/-- A result is read by the client as it was sent. -/
theorem parse_render_result (hid : id.IsIdentifier) (hv : v.Fits) :
    parse (Outgoing.result id v).render = .ok (.response id (some v) none) := by
  have hread : parse (Outgoing.result id v).render = ofJson (Outgoing.result id v).toJson := by
    apply parse_render_obj
    · show ["id", "jsonrpc", "result"].Pairwise (· < ·)
      decide
    · simp [Outgoing.version, fits_str, hid.fits, hv]
  rw [hread]
  exact ofJson_response hid rfl rfl

/-- A failure is read by the client as it was sent. -/
theorem parse_render_failure (hid : id.IsIdentifier) (code : Int32) (message : String) :
    parse (Outgoing.failure id code message).render =
      .ok (.response id none (some ⟨code, message⟩)) := by
  have hread : parse (Outgoing.failure id code message).render =
      ofJson (Outgoing.failure id code message).toJson := by
    apply parse_render_obj
    · show ["error", "id", "jsonrpc"].Pairwise (· < ·)
      decide
    · simp [Outgoing.version, fits_str, hid.fits, fits_error]
  rw [hread, ← readError?_fields]
  exact ofJson_response hid rfl rfl

/-- A notification is read by the client as it was sent. -/
theorem parse_render_notify (method : String) (hv : v.Fits) :
    parse (Outgoing.notify method v).render = .ok (.notification method v) := by
  have hread : parse (Outgoing.notify method v).render =
      ofJson (Outgoing.notify method v).toJson := by
    apply parse_render_obj
    · show ["jsonrpc", "method", "params"].Pairwise (· < ·)
      decide
    · simp [Outgoing.version, fits_str, hv]
  rw [hread]
  exact ofJson_notification rfl rfl

/-- **Round trip.** Results, errors and notifications are read back as they were sent: for every
    identifier that is a string or an integer of 64 bits, every code of 32 bits, every message and
    method, and every value with integers of 64 bits that nests at most 126 deep. -/
theorem parse_render_outgoing (hid : id.IsIdentifier) (hv : Canonical v) (hdepth : v.depth ≤ 126)
    (code : Int32) (message method : String) :
    parse (Outgoing.result id v).render = .ok (.response id (some v) none) ∧
    parse (Outgoing.failure id code message).render =
      .ok (.response id none (some ⟨code, message⟩)) ∧
    parse (Outgoing.notify method v).render = .ok (.notification method v) := by
  have hfits : v.Fits := ⟨hv, Nat.lt_succ_of_le hdepth⟩
  exact ⟨parse_render_result hid hfits, parse_render_failure hid code message,
    parse_render_notify method hfits⟩

/-- With characters that are escaped, the least and the greatest integers and the least code. -/
theorem parse_render_outgoing_escaped :
    IsIdentifier (.str "\"\\") ∧
    parse (Outgoing.result (.str "\"\\")
        (.obj [("\x00", .arr [.int (-9223372036854775808), .str "\n/"]),
          ("é", .int 18446744073709551615)])).render =
      .ok (.response (.str "\"\\")
        (some (.obj [("\x00", .arr [.int (-9223372036854775808), .str "\n/"]),
          ("é", .int 18446744073709551615)])) none) ∧
    parse (Outgoing.failure (.str "\"\\") (-2147483648) "\t").render =
      .ok (.response (.str "\"\\") none (some ⟨-2147483648, "\t"⟩)) ∧
    parse (Outgoing.notify "" (.obj [("\x00", .arr [.int (-9223372036854775808), .str "\n/"]),
        ("é", .int 18446744073709551615)])).render =
      .ok (.notification "" (.obj [("\x00", .arr [.int (-9223372036854775808), .str "\n/"]),
        ("é", .int 18446744073709551615)])) := by
  refine ⟨.str _, parse_render_outgoing (.str _) (.obj (by decide) ?_) (by decide) _ _ _⟩
  have hleast : Canonical (.int (-9223372036854775808)) := .int (by decide)
  have hgreatest : Canonical (.int 18446744073709551615) := .int (by decide)
  have hitems : Canonical (.arr [.int (-9223372036854775808), .str "\n/"]) :=
    .arr (by simp [hleast, Canonical.str])
  simp [hitems, hgreatest]

end Sent

end Message

end ServiceLang
