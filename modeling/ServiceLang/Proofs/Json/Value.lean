import ServiceLang.Proofs.Json.Scalar

namespace ServiceLang.Json

/-!
# Values read back

* `Canonical`: the values with one written form;
* `ofFields_of_pairwise`: fields in ascending order of their keys make the object that has them;
* `readItems_itemChars`, `readFields_fieldChars`: the contents of arrays and objects, when each
  value inside is read back;
* `readsBack_arr`, `readsBack_obj`: so arrays and objects one level above their contents;
* `readValue_chars`: a canonical value is read back where it may nest as deep as it does;
* `parse_render`: a text that holds one.
-/

/-- The values with one written form: every number is an integer of 64 bits, and the keys of every
    object ascend. -/
inductive Canonical : Json → Prop where
  | null : Canonical .null
  | bool (b : Bool) : Canonical (.bool b)
  | int {n : Int} (hn : InWord64 n) : Canonical (.int n)
  | str (s : String) : Canonical (.str s)
  | arr {items : List Json} (hitems : ∀ item ∈ items, Canonical item) : Canonical (.arr items)
  | obj {fields : List (String × Json)} (hkeys : (fields.map Prod.fst).Pairwise (· < ·))
      (hfields : ∀ field ∈ fields, Canonical field.2) : Canonical (.obj fields)

/-! ### Objects -/

theorem insertField_of_lt {key : String} {value : Json} {fields : List (String × Json)}
    (h : ∀ field ∈ fields, field.1 < key) :
    insertField key value fields = fields ++ [(key, value)] := by
  induction fields with
  | nil => rfl
  | cons field fields ih =>
    obtain ⟨k, v⟩ := field
    obtain ⟨hk, hfields⟩ := List.forall_mem_cons.mp h
    have hnot : ¬key < k := String.lt_asymm hk
    have hne : key ≠ k := fun heq => String.lt_irrefl k (heq ▸ hk)
    rw [insertField, if_neg hnot, if_neg hne, ih hfields, List.cons_append]

theorem foldl_insertField {sorted fields : List (String × Json)}
    (h : (sorted ++ fields).Pairwise fun a b => a.1 < b.1) :
    fields.foldl (fun sorted field => insertField field.1 field.2 sorted) sorted =
      sorted ++ fields := by
  induction fields generalizing sorted with
  | nil => rw [List.append_nil]; rfl
  | cons field fields ih =>
    have hlt : ∀ other ∈ sorted, other.1 < field.1 := fun other hother =>
      (List.pairwise_append.mp h).2.2 other hother field List.mem_cons_self
    rw [List.append_cons] at h ⊢
    rw [List.foldl_cons, insertField_of_lt hlt, ih h]

/-- Fields in ascending order of their keys make the object that has them. -/
theorem ofFields_of_pairwise {fields : List (String × Json)}
    (h : (fields.map Prod.fst).Pairwise (· < ·)) : ofFields fields = .obj fields :=
  congrArg Json.obj (foldl_insertField (List.pairwise_map.mp h))

/-! ### Contents of arrays and objects -/

theorem skipBlanks_cons {c : Char} (h : isBlank c = false) (s : List Char) :
    skipBlanks (c :: s) = c :: s :=
  List.dropWhile_cons_of_neg (by simp [h])

/-- The reader reads the value back before every text that no number goes on with. -/
def ReadsBack (read : List Char → Option (Json × List Char)) (v : Json) : Prop :=
  ∀ rest, Ends rest → read (v.chars ++ rest) = some (v, rest)

section Contents

variable {read : List Char → Option (Json × List Char)} (rest : List Char)

theorem itemChars_cons_cons (item second : Json) (items : List Json) :
    itemChars (item :: second :: items) = item.chars ++ ',' :: itemChars (second :: items) := by
  rw [itemChars]
  simp

theorem fieldChars_cons_cons (key : String) (value : Json) (second : String × Json)
    (fields : List (String × Json)) :
    fieldChars ((key, value) :: second :: fields) =
      quote key.toList ++ ':' :: (value.chars ++ ',' :: fieldChars (second :: fields)) := by
  rw [fieldChars]
  simp

/-- The items of an array are read back one by one. -/
theorem readItems_itemChars {item : Json} {items : List Json} {fuel : Nat}
    (hread : ∀ v ∈ item :: items, ReadsBack read v) (hfuel : items.length < fuel) :
    readItems read fuel (itemChars (item :: items) ++ ']' :: rest) =
      some (item :: items, rest) := by
  induction items generalizing item fuel with
  | nil =>
    obtain ⟨fuel, rfl⟩ := Nat.exists_eq_succ_of_ne_zero (Nat.ne_zero_of_lt hfuel)
    have hitem := hread item List.mem_cons_self (']' :: rest) (ends_cons.mpr (by decide))
    have hskip := skipBlanks_cons (c := ']') (by decide) rest
    simp [readItems, itemChars, hitem, hskip]
  | cons second items ih =>
    -- a comma follows the item, so reading goes on with one unit of fuel less
    obtain ⟨fuel, rfl⟩ := Nat.exists_eq_succ_of_ne_zero (Nat.ne_zero_of_lt hfuel)
    have hitem := hread item List.mem_cons_self
      (',' :: (itemChars (second :: items) ++ ']' :: rest)) (ends_cons.mpr (by decide))
    have hskip := skipBlanks_cons (c := ',') (by decide)
      (itemChars (second :: items) ++ ']' :: rest)
    have hitems := ih (fun v hv => hread v (List.mem_cons_of_mem item hv))
      (Nat.lt_of_succ_lt_succ hfuel)
    rw [itemChars_cons_cons, List.append_assoc, List.cons_append]
    simp [readItems, hitem, hskip, hitems]

/-- A quoted text is read back, up to what follows its closing quote. -/
theorem readText_quote (text s : List Char) :
    ∃ quoted, quote text ++ s = '"' :: quoted ∧ readText .plain [] quoted = some (text, s) := by
  refine ⟨text.flatMap escapeChar ++ '"' :: s, by simp [quote], ?_⟩
  rw [readText_quoted]
  rfl

/-- The fields of an object are read back one by one. -/
theorem readFields_fieldChars {key : String} {value : Json} {fields : List (String × Json)}
    {fuel : Nat} (hread : ∀ field ∈ (key, value) :: fields, ReadsBack read field.2)
    (hfuel : fields.length < fuel) :
    readFields read fuel (fieldChars ((key, value) :: fields) ++ '\x7d' :: rest) =
      some ((key, value) :: fields, rest) := by
  have hquote : ∀ s, skipBlanks ('"' :: s) = '"' :: s := skipBlanks_cons (by decide)
  have hcolon : ∀ s, skipBlanks (':' :: s) = ':' :: s := skipBlanks_cons (by decide)
  -- On the fields behind the first one, since a comma stands between two fields only.
  induction fields generalizing key value fuel with
  | nil =>
    obtain ⟨fuel, rfl⟩ := Nat.exists_eq_succ_of_ne_zero (Nat.ne_zero_of_lt hfuel)
    have hvalue := hread (key, value) List.mem_cons_self ('\x7d' :: rest)
      (ends_cons.mpr (by decide))
    have hbrace := skipBlanks_cons (c := '\x7d') (by decide) rest
    obtain ⟨quoted, hquoted, hkey⟩ :=
      readText_quote key.toList (':' :: (value.chars ++ '\x7d' :: rest))
    rw [fieldChars, List.append_assoc, List.cons_append, hquoted]
    simp [readFields, hquote, hkey, hcolon, hvalue, hbrace]
  | cons second fields ih =>
    obtain ⟨fuel, rfl⟩ := Nat.exists_eq_succ_of_ne_zero (Nat.ne_zero_of_lt hfuel)
    obtain ⟨nextKey, nextValue⟩ := second
    let tail := fieldChars ((nextKey, nextValue) :: fields) ++ '\x7d' :: rest
    have hvalue := hread (key, value) List.mem_cons_self (',' :: tail) (ends_cons.mpr (by decide))
    have hcomma := skipBlanks_cons (c := ',') (by decide) tail
    have hfields := ih (fun field hfield => hread field (List.mem_cons_of_mem _ hfield))
      (Nat.lt_of_succ_lt_succ hfuel)
    obtain ⟨quoted, hquoted, hkey⟩ :=
      readText_quote key.toList (':' :: (value.chars ++ ',' :: tail))
    rw [fieldChars_cons_cons, List.append_assoc, List.cons_append, List.append_assoc,
      List.cons_append, hquoted]
    simp [readFields, hquote, hkey, hcolon, hvalue, hcomma, hfields, tail]

end Contents

/-! ### Fuel and first characters -/

/-- Between the items of an array stand commas. -/
theorem length_le_itemChars (items : List Json) : items.length ≤ (itemChars items).length + 1 := by
  induction items with
  | nil => exact Nat.zero_le _
  | cons item items ih =>
    cases items with
    | nil => simp
    | cons second items =>
      rw [itemChars_cons_cons]
      simp only [List.length_cons, List.length_append] at ih ⊢
      omega

/-- Between the fields of an object stand commas. -/
theorem length_le_fieldChars (fields : List (String × Json)) :
    fields.length ≤ (fieldChars fields).length + 1 := by
  induction fields with
  | nil => exact Nat.zero_le _
  | cons field fields ih =>
    cases fields with
    | nil => simp
    | cons second fields =>
      obtain ⟨key, value⟩ := field
      rw [fieldChars_cons_cons]
      simp only [List.length_cons, List.length_append] at ih ⊢
      omega

/-- A written integer starts with a digit or a minus sign. -/
theorem exists_cons_intDigits (n : Int) :
    ∃ c s, Text.intDigits n = c :: s ∧ (Text.isAsciiDigit c = true ∨ c = '-') := by
  rw [Text.intDigits]
  split
  case isTrue => exact ⟨'-', _, rfl, Or.inr rfl⟩
  case isFalse =>
    obtain ⟨d, ds, hdigits⟩ := List.exists_cons_of_ne_nil (@Nat.toDigits_ne_nil n.natAbs 10)
    refine ⟨d, ds, hdigits, Or.inl (Text.isAsciiDigit_of_mem_digits (n := n.natAbs) ?_)⟩
    rw [Text.digits, hdigits]
    exact List.mem_cons_self

/-- A written value starts with a character that neither separates tokens nor closes an array. -/
theorem exists_cons_chars {v : Json} (hv : Canonical v) :
    ∃ c s, v.chars = c :: s ∧ isBlank c = false ∧ c ≠ ']' := by
  cases hv with
  | null => exact ⟨_, _, rfl, by decide, by decide⟩
  | bool b => cases b <;> exact ⟨_, _, rfl, by decide, by decide⟩
  | str s => exact ⟨_, _, rfl, by decide, by decide⟩
  | arr _ => exact ⟨_, _, by rw [chars], by decide, by decide⟩
  | obj _ _ => exact ⟨_, _, by rw [chars], by decide, by decide⟩
  | @int n _ =>
    obtain ⟨c, s, hs, hc⟩ := exists_cons_intDigits n
    refine ⟨c, s, by rw [chars, hs], ?_, ?_⟩
    · rw [← Bool.not_eq_true]
      simp only [isBlank, Bool.or_eq_true, beq_iff_eq]
      rintro (((rfl | rfl) | rfl) | rfl) <;> exact absurd hc (by decide)
    · rintro rfl
      exact absurd hc (by decide)

/-- Written items start as the first of them does. -/
theorem exists_cons_itemChars {item : Json} {items : List Json}
    (h : ∀ v ∈ item :: items, Canonical v) (rest : List Char) :
    ∃ c s, itemChars (item :: items) ++ rest = c :: s ∧ isBlank c = false ∧ c ≠ ']' := by
  obtain ⟨c, s, hs, hc⟩ := exists_cons_chars (h item List.mem_cons_self)
  cases items with
  | nil => exact ⟨c, s ++ rest, by rw [itemChars, hs, List.cons_append], hc⟩
  | cons second items =>
    refine ⟨c, s ++ ',' :: itemChars (second :: items) ++ rest, ?_, hc⟩
    rw [itemChars_cons_cons, hs]
    rfl

/-- Written fields start with the quote of the first key. -/
theorem exists_cons_fieldChars (key : String) (value : Json) (fields : List (String × Json))
    (rest : List Char) : ∃ s, fieldChars ((key, value) :: fields) ++ rest = '"' :: s := by
  cases fields with
  | nil => exact ⟨_, by rw [fieldChars, quote]; rfl⟩
  | cons second fields => exact ⟨_, by rw [fieldChars_cons_cons, quote]; rfl⟩

/-! ### Values -/

theorem depthItems_le_iff {items : List Json} {n : Nat} :
    depthItems items ≤ n ↔ ∀ item ∈ items, item.depth ≤ n := by
  induction items with
  | nil => simp [depthItems]
  | cons item items ih => rw [depthItems, Nat.max_le, ih, List.forall_mem_cons]

theorem depthFields_le_iff {fields : List (String × Json)} {n : Nat} :
    depthFields fields ≤ n ↔ ∀ field ∈ fields, field.2.depth ≤ n := by
  induction fields with
  | nil => simp [depthFields]
  | cons field fields ih => rw [depthFields, Nat.max_le, ih, List.forall_mem_cons]

/-- A text that starts with a digit or a minus sign holds a number. -/
theorem readValue_number {c : Char} (hc : Text.isAsciiDigit c = true ∨ c = '-') (depth : Nat)
    (s : List Char) : readValue depth (c :: s) = readNumber (c :: s) := by
  have hne : ∀ d, ¬(Text.isAsciiDigit d = true ∨ d = '-') → c ≠ d := by
    rintro d hd rfl
    exact hd hc
  have hblank : isBlank c = false := by
    simp only [isBlank, Bool.or_eq_false_iff, beq_eq_false_iff_ne]
    exact ⟨⟨⟨hne _ (by decide), hne _ (by decide)⟩, hne _ (by decide)⟩, hne _ (by decide)⟩
  rw [readValue, skipBlanks_cons hblank]
  split
  case h_7 => rfl
  all_goals
    rename_i heq
    exact absurd (List.cons.inj heq).1 (hne _ (by decide))

/-- A bracket before anything but a closing one opens the items of an array. -/
theorem readValue_array {c : Char} (hblank : isBlank c = false) (hc : c ≠ ']') (depth : Nat)
    (s : List Char) :
    readValue (depth + 1) ('[' :: c :: s) =
      (readItems (readValue depth) ((c :: s).length + 1) (c :: s)).map fun found =>
        (.arr found.1, found.2) := by
  rw [readValue, skipBlanks_cons (by decide)]
  simp only [skipBlanks_cons hblank]
  split
  case h_1 heq => exact absurd (List.cons.inj heq).1 hc
  case h_2 => rfl

/-- A brace before anything but a closing one opens the fields of an object. -/
theorem readValue_object {c : Char} (hblank : isBlank c = false) (hc : c ≠ '\x7d') (depth : Nat)
    (s : List Char) :
    readValue (depth + 1) ('\x7b' :: c :: s) =
      (readFields (readValue depth) ((c :: s).length + 1) (c :: s)).map fun found =>
        (ofFields found.1, found.2) := by
  rw [readValue, skipBlanks_cons (by decide)]
  simp only [skipBlanks_cons hblank]
  split
  case h_1 heq => exact absurd (List.cons.inj heq).1 hc
  case h_2 => rfl

/-- **Arrays.** An array is read back one level above its items. -/
theorem readsBack_arr {items : List Json} {depth : Nat} (hitems : ∀ item ∈ items, Canonical item)
    (hread : ∀ item ∈ items, ReadsBack (readValue depth) item) :
    ReadsBack (readValue (depth + 1)) (.arr items) := by
  intro rest _
  rw [chars, List.cons_append, List.append_assoc, List.singleton_append]
  cases items with
  | nil =>
    rw [itemChars, readValue.eq_def]
    rfl
  | cons item items =>
    -- the commas between the items are characters of the text, whose length is the fuel
    have hfuel : items.length < (itemChars (item :: items) ++ ']' :: rest).length + 1 := by
      have hlength := length_le_itemChars (item :: items)
      rw [List.length_append]
      rw [List.length_cons] at hlength ⊢
      omega
    have hcontents := readItems_itemChars rest hread hfuel
    obtain ⟨c, s, hs, hblank, hc⟩ := exists_cons_itemChars hitems (']' :: rest)
    rw [hs] at hcontents ⊢
    rw [readValue_array hblank hc, hcontents]
    rfl

/-- **Objects.** An object with its keys in order is read back one level above its values. -/
theorem readsBack_obj {fields : List (String × Json)} {depth : Nat}
    (hkeys : (fields.map Prod.fst).Pairwise (· < ·))
    (hread : ∀ field ∈ fields, ReadsBack (readValue depth) field.2) :
    ReadsBack (readValue (depth + 1)) (.obj fields) := by
  intro rest _
  rw [chars, List.cons_append, List.append_assoc, List.singleton_append]
  cases fields with
  | nil =>
    rw [fieldChars, readValue.eq_def]
    rfl
  | cons field fields =>
    obtain ⟨key, value⟩ := field
    have hfuel : fields.length <
        (fieldChars ((key, value) :: fields) ++ '\x7d' :: rest).length + 1 := by
      have hlength := length_le_fieldChars ((key, value) :: fields)
      rw [List.length_append]
      rw [List.length_cons] at hlength ⊢
      omega
    have hcontents := readFields_fieldChars rest hread hfuel
    obtain ⟨s, hs⟩ := exists_cons_fieldChars key value fields ('\x7d' :: rest)
    rw [hs] at hcontents ⊢
    rw [readValue_object (by decide) (by decide), hcontents, Option.map_some,
      ofFields_of_pairwise hkeys]

/-- **Values.** A canonical value is read back where arrays and objects may nest as deep as in
    it. -/
theorem readValue_chars {v : Json} (hv : Canonical v) {depth : Nat} (hdepth : v.depth ≤ depth) :
    ReadsBack (readValue depth) v := by
  -- on the value, for every depth: arrays and objects use up one level
  induction hv generalizing depth with
  | null =>
    intro rest _
    rw [readValue.eq_def]
    rfl
  | bool b =>
    intro rest _
    rw [readValue.eq_def]
    cases b <;> rfl
  | @int n hn =>
    intro rest hrest
    obtain ⟨c, s, hs, hc⟩ := exists_cons_intDigits n
    have hnumber := readNumber_intDigits hn hrest
    rw [chars]
    rw [hs, List.cons_append] at hnumber ⊢
    rw [readValue_number hc, hnumber]
  | str s =>
    intro rest _
    obtain ⟨quoted, hquoted, htext⟩ := readText_quote s.toList rest
    rw [chars, hquoted, readValue, skipBlanks_cons (by decide)]
    simp [htext]
  | arr hitems ih =>
    rw [Json.depth] at hdepth
    obtain ⟨depth, rfl⟩ := Nat.exists_eq_succ_of_ne_zero (Nat.ne_zero_of_lt hdepth)
    have hinner := depthItems_le_iff.mp (Nat.le_of_succ_le_succ hdepth)
    exact readsBack_arr hitems fun item hitem => ih item hitem (hinner item hitem)
  | obj hkeys _ ih =>
    rw [Json.depth] at hdepth
    obtain ⟨depth, rfl⟩ := Nat.exists_eq_succ_of_ne_zero (Nat.ne_zero_of_lt hdepth)
    have hinner := depthFields_le_iff.mp (Nat.le_of_succ_le_succ hdepth)
    exact readsBack_obj hkeys fun field hfield => ih field hfield (hinner field hfield)

/-- **Texts.** A canonical value that nests no deeper than the limit is read back from its text. -/
theorem parse_render {v : Json} (hv : Canonical v) (hdepth : v.depth ≤ nestingLimit) :
    parse v.render = some v := by
  have hread := readValue_chars hv hdepth [] (by simp [Ends, Text.StopsAt])
  rw [List.append_nil] at hread
  rw [parse, render, String.toList_ofList, hread]
  rfl

end ServiceLang.Json
