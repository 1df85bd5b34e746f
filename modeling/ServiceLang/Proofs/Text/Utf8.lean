import ServiceLang.Text.Utf8

namespace ServiceLang.Text

/-!
# UTF-8 is read as it is written

Decoding is the exact inverse of encoding: some bytes decode to a text when they are its encoding,
and to none when no text is encoded so.

* `utf8Step_encodeChar`: the bytes of a character, before anything else, read as that character;
* `eq_encodeChar_of_utf8Step`: a character is read from its own bytes only;
* `decodeUtf8_eq_ok_iff`: the two together, for whole texts;
* `newline_mem_encodeUtf8`: the byte of a line feed stands for a line feed only.
-/

/-! ### Classes of bytes -/

/-- Continuation bytes are those from `80` to `BF`. -/
theorem isContinuation_iff (b : UInt8) :
    isContinuation b = true ↔ 128 ≤ b.toNat ∧ b.toNat ≤ 191 := by
  simp [isContinuation, UInt8.le_iff_toNat_le]

/-- The second byte rules out overlong forms, surrogates and code points past the last one. -/
theorem isSecond_iff (first second : UInt8) :
    isSecond first second = true ↔
      128 ≤ second.toNat ∧ second.toNat ≤ 191 ∧
      (first.toNat = 224 → 160 ≤ second.toNat) ∧ (first.toNat = 237 → second.toNat ≤ 159) ∧
      (first.toNat = 240 → 144 ≤ second.toNat) ∧ (first.toNat = 244 → second.toNat ≤ 143) := by
  unfold isSecond
  simp only [← UInt8.toNat_inj, UInt8.reduceToNat]
  by_cases h1 : first.toNat = 224
  · simp [h1, UInt8.le_iff_toNat_le]; omega
  by_cases h2 : first.toNat = 237
  · simp [h2, UInt8.le_iff_toNat_le]; omega
  by_cases h3 : first.toNat = 240
  · simp [h3, UInt8.le_iff_toNat_le]; omega
  by_cases h4 : first.toNat = 244
  · simp [h4, UInt8.le_iff_toNat_le]; omega
  simp [h1, h2, h3, h4, isContinuation_iff]

/-- The first byte of a character tells how many bytes it has. -/
theorem sequenceLength_eq (b : UInt8) :
    sequenceLength b =
      if b.toNat < 128 then 1
      else if 194 ≤ b.toNat ∧ b.toNat ≤ 223 then 2
      else if 224 ≤ b.toNat ∧ b.toNat ≤ 239 then 3
      else if 240 ≤ b.toNat ∧ b.toNat ≤ 244 then 4
      else 0 := by
  simp [sequenceLength, UInt8.le_iff_toNat_le, UInt8.lt_iff_toNat_lt]

/-! ### One character -/

theorem val_ofNat {n : Nat} (h : n.isValidChar) : (Char.ofNat n).val.toNat = n := by
  unfold Char.ofNat
  rw [dif_pos h]
  exact UInt32.toNat_ofNatLT

theorem toNat_ofNat_of_lt {n : Nat} (h : n < 256) : (UInt8.ofNat n).toNat = n := by
  rw [UInt8.toNat_ofNat']
  omega

/-- A single byte is the encoding of the character that it is read as. -/
theorem encodeChar_of_one {b : UInt8} (h : sequenceLength b = 1) :
    String.utf8EncodeChar (Char.ofNat b.toNat) = [b] := by
  have hb : b.toNat < 128 := by
    rw [sequenceLength_eq] at h
    grind
  have hval : (Char.ofNat b.toNat).val.toNat = b.toNat := val_ofNat (.inl (by omega))
  unfold String.utf8EncodeChar
  simp only [hval]
  rw [if_pos (by omega), UInt8.ofNat_toNat]

/-- A sequence of two bytes is the encoding of its character. -/
theorem encodeChar_of_two {b c : UInt8} (h : sequenceLength b = 2)
    (hc : isContinuation c = true) :
    String.utf8EncodeChar (Char.ofNat (b.toNat % 32 * 64 + payload c)) = [b, c] := by
  have hb : 194 ≤ b.toNat ∧ b.toNat ≤ 223 := by
    rw [sequenceLength_eq] at h
    grind
  rw [isContinuation_iff] at hc
  unfold payload
  have hval := val_ofNat (n := b.toNat % 32 * 64 + c.toNat % 64) (.inl (by omega))
  unfold String.utf8EncodeChar
  simp only [hval]
  rw [if_neg (by omega), if_pos (by omega)]
  simp only [List.cons.injEq, ← UInt8.toNat_inj, and_true]
  rw [toNat_ofNat_of_lt (by omega), toNat_ofNat_of_lt (by omega)]
  omega

/-- A sequence of three bytes is the encoding of its character. The second byte rules out surrogates
    and longer spellings. -/
theorem encodeChar_of_three {b c d : UInt8} (h : sequenceLength b = 3)
    (hc : isSecond b c = true) (hd : isContinuation d = true) :
    String.utf8EncodeChar (Char.ofNat ((b.toNat % 16 * 64 + payload c) * 64 + payload d)) =
      [b, c, d] := by
  have hb : 224 ≤ b.toNat ∧ b.toNat ≤ 239 := by
    rw [sequenceLength_eq] at h
    grind
  rw [isSecond_iff] at hc
  rw [isContinuation_iff] at hd
  unfold payload
  have hvalid : ((b.toNat % 16 * 64 + c.toNat % 64) * 64 + d.toNat % 64).isValidChar := by
    unfold Nat.isValidChar
    omega
  unfold String.utf8EncodeChar
  simp only [val_ofNat hvalid]
  rw [if_neg (by omega), if_neg (by omega), if_pos (by omega)]
  simp only [List.cons.injEq, ← UInt8.toNat_inj, and_true]
  rw [toNat_ofNat_of_lt (by omega), toNat_ofNat_of_lt (by omega), toNat_ofNat_of_lt (by omega)]
  omega

/-- A sequence of four bytes is the encoding of its character. The second byte rules out longer
    spellings and what lies beyond Unicode. -/
theorem encodeChar_of_four {b c d e : UInt8} (h : sequenceLength b = 4)
    (hc : isSecond b c = true) (hd : isContinuation d = true) (he : isContinuation e = true) :
    String.utf8EncodeChar
        (Char.ofNat (((b.toNat % 8 * 64 + payload c) * 64 + payload d) * 64 + payload e)) =
      [b, c, d, e] := by
  have hb : 240 ≤ b.toNat ∧ b.toNat ≤ 244 := by
    rw [sequenceLength_eq] at h
    grind
  rw [isSecond_iff] at hc
  rw [isContinuation_iff] at hd he
  unfold payload
  have hvalid : (((b.toNat % 8 * 64 + c.toNat % 64) * 64 + d.toNat % 64) * 64 +
      e.toNat % 64).isValidChar := by
    unfold Nat.isValidChar
    omega
  unfold String.utf8EncodeChar
  simp only [val_ofNat hvalid]
  rw [if_neg (by omega), if_neg (by omega), if_neg (by omega)]
  simp only [List.cons.injEq, ← UInt8.toNat_inj, and_true]
  rw [toNat_ofNat_of_lt (by omega), toNat_ofNat_of_lt (by omega), toNat_ofNat_of_lt (by omega),
    toNat_ofNat_of_lt (by omega)]
  omega

/-- A character is read from its own bytes only. -/
theorem eq_encodeChar_of_utf8Step {b : UInt8} {rest : List UInt8} {c : Char} {n : Nat}
    (h : utf8Step b rest = .char c n) :
    b :: rest = String.utf8EncodeChar c ++ rest.drop (n - 1) := by
  revert h
  fun_cases utf8Step b rest with
  | case1 _ hb =>
    rintro ⟨⟩
    rw [encodeChar_of_one hb]
    rfl
  | case3 c tail hb hc =>
    rintro ⟨⟩
    rw [encodeChar_of_two hb hc]
    rfl
  | case8 c hb hc d tail hd =>
    rintro ⟨⟩
    rw [encodeChar_of_three hb (by simpa using hc) hd]
    rfl
  | case15 c hb hc d hd e tail he =>
    rintro ⟨⟩
    rw [encodeChar_of_four hb (by simpa using hc) (by simpa using hd) he]
    rfl
  | _ => rintro ⟨⟩

/-- Six bits make a continuation byte. -/
theorem isContinuation_ofNat (n : Nat) : isContinuation (UInt8.ofNat (n % 64 + 128)) = true := by
  rw [isContinuation_iff, toNat_ofNat_of_lt (by omega)]
  omega

/-- A continuation byte holds its six bits. -/
theorem payload_ofNat (n : Nat) : payload (UInt8.ofNat (n % 64 + 128)) = n % 64 := by
  unfold payload
  rw [toNat_ofNat_of_lt (by omega)]
  omega

theorem utf8Step_one {b : UInt8} {s : List UInt8} (h : sequenceLength b = 1) :
    utf8Step b s = .char (Char.ofNat b.toNat) 1 := by
  simp [utf8Step, h]

theorem utf8Step_two {b c : UInt8} {s : List UInt8} (h : sequenceLength b = 2)
    (hc : isContinuation c = true) :
    utf8Step b (c :: s) = .char (Char.ofNat (b.toNat % 32 * 64 + payload c)) 2 := by
  simp [utf8Step, h, hc]

theorem utf8Step_three {b c d : UInt8} {s : List UInt8} (h : sequenceLength b = 3)
    (hc : isSecond b c = true) (hd : isContinuation d = true) :
    utf8Step b (c :: d :: s) =
      .char (Char.ofNat ((b.toNat % 16 * 64 + payload c) * 64 + payload d)) 3 := by
  simp [utf8Step, h, hc, hd]

theorem utf8Step_four {b c d e : UInt8} {s : List UInt8} (h : sequenceLength b = 4)
    (hc : isSecond b c = true) (hd : isContinuation d = true) (he : isContinuation e = true) :
    utf8Step b (c :: d :: e :: s) =
      .char (Char.ofNat (((b.toNat % 8 * 64 + payload c) * 64 + payload d) * 64 + payload e)) 4 := by
  simp [utf8Step, h, hc, hd, he]

/-- The bytes of a character, before anything else, read as that character. -/
theorem utf8Step_encodeChar (c : Char) (s : List UInt8) :
    ∃ b rest n, String.utf8EncodeChar c ++ s = b :: rest ∧ utf8Step b rest = .char c n ∧
      rest.drop (n - 1) = s := by
  have hvalid : c.val.toNat < 55296 ∨ 57343 < c.val.toNat ∧ c.val.toNat < 1114112 := c.valid
  have hback : Char.ofNat c.val.toNat = c := Char.ofNat_toNat c
  unfold String.utf8EncodeChar
  simp only
  generalize c.val.toNat = v at hvalid hback ⊢
  -- One case for each length of the encoding. The bounds on the second byte, which keep out long
  -- forms and surrogates, follow from the validity of the character.
  split
  · have hlen : sequenceLength (UInt8.ofNat v) = 1 := by
      rw [sequenceLength_eq, toNat_ofNat_of_lt (by omega)]
      grind
    refine ⟨_, _, 1, rfl, (utf8Step_one hlen).trans ?_, rfl⟩
    rw [toNat_ofNat_of_lt (by omega), hback]
  split
  · have hlen : sequenceLength (UInt8.ofNat (v / 64 % 32 + 192)) = 2 := by
      rw [sequenceLength_eq, toNat_ofNat_of_lt (by omega)]
      grind
    refine ⟨_, _, 2, rfl, (utf8Step_two hlen (isContinuation_ofNat v)).trans ?_, rfl⟩
    rw [toNat_ofNat_of_lt (by omega), payload_ofNat,
      show (v / 64 % 32 + 192) % 32 * 64 + v % 64 = v by omega, hback]
  split
  · have hlen : sequenceLength (UInt8.ofNat (v / 4096 % 16 + 224)) = 3 := by
      rw [sequenceLength_eq, toNat_ofNat_of_lt (by omega)]
      grind
    have hsecond : isSecond (UInt8.ofNat (v / 4096 % 16 + 224))
        (UInt8.ofNat (v / 64 % 64 + 128)) = true := by
      rw [isSecond_iff, toNat_ofNat_of_lt (by omega), toNat_ofNat_of_lt (by omega)]
      omega
    refine ⟨_, _, 3, rfl, (utf8Step_three hlen hsecond (isContinuation_ofNat v)).trans ?_, rfl⟩
    rw [toNat_ofNat_of_lt (by omega), payload_ofNat, payload_ofNat,
      show ((v / 4096 % 16 + 224) % 16 * 64 + v / 64 % 64) * 64 + v % 64 = v by omega, hback]
  · have hlen : sequenceLength (UInt8.ofNat (v / 262144 % 8 + 240)) = 4 := by
      rw [sequenceLength_eq, toNat_ofNat_of_lt (by omega)]
      grind
    have hsecond : isSecond (UInt8.ofNat (v / 262144 % 8 + 240))
        (UInt8.ofNat (v / 4096 % 64 + 128)) = true := by
      rw [isSecond_iff, toNat_ofNat_of_lt (by omega), toNat_ofNat_of_lt (by omega)]
      omega
    refine ⟨_, _, 4, rfl, (utf8Step_four hlen hsecond (isContinuation_ofNat (v / 64))
      (isContinuation_ofNat v)).trans ?_, rfl⟩
    rw [toNat_ofNat_of_lt (by omega), payload_ofNat, payload_ofNat, payload_ofNat,
      show (((v / 262144 % 8 + 240) % 8 * 64 + v / 4096 % 64) * 64 + v / 64 % 64) * 64 + v % 64 =
        v by omega, hback]

/-- The byte of a line feed occurs in the encoding of the line feed only. -/
theorem newline_mem_encodeChar {c : Char} : 10 ∈ String.utf8EncodeChar c ↔ '\n' = c := by
  have hchar : '\n' = c ↔ c.val.toNat = 10 := by
    rw [eq_comm, Char.ext_iff, ← UInt32.toNat_inj]
    rfl
  have hbyte : ∀ n < 256, (10 : UInt8) = UInt8.ofNat n ↔ n = 10 := by
    intro n hn
    rw [← UInt8.toNat_inj, toNat_ofNat_of_lt hn]
    exact eq_comm
  have hvalid : c.val.toNat < 55296 ∨ 57343 < c.val.toNat ∧ c.val.toNat < 1114112 := c.valid
  rw [hchar]
  unfold String.utf8EncodeChar
  simp only
  generalize c.val.toNat = v at hvalid ⊢
  split
  · rw [List.mem_singleton, hbyte v (by omega)]
  -- every byte of a longer sequence is at least 128
  split
  · simp only [List.mem_cons, List.not_mem_nil, or_false]
    rw [hbyte _ (by omega), hbyte _ (by omega)]
    omega
  split
  · simp only [List.mem_cons, List.not_mem_nil, or_false]
    rw [hbyte _ (by omega), hbyte _ (by omega), hbyte _ (by omega)]
    omega
  · simp only [List.mem_cons, List.not_mem_nil, or_false]
    rw [hbyte _ (by omega), hbyte _ (by omega), hbyte _ (by omega), hbyte _ (by omega)]
    omega

/-! ### Texts -/

theorem encodeUtf8_cons (c : Char) (s : List Char) :
    encodeUtf8 (c :: s) = String.utf8EncodeChar c ++ encodeUtf8 s := rfl

theorem encodeUtf8_append (s t : List Char) :
    encodeUtf8 (s ++ t) = encodeUtf8 s ++ encodeUtf8 t := List.flatMap_append

/-- What is encoded behind the characters read so far is read to its end. -/
theorem decodeUtf8From_encodeUtf8 (index : Nat) (reversed s : List Char) :
    decodeUtf8From index reversed (encodeUtf8 s) = .ok (reversed.reverse ++ s) := by
  induction s generalizing index reversed with
  | nil =>
    show decodeUtf8From index reversed [] = _
    rw [decodeUtf8From, List.append_nil]
  | cons c s ih =>
    obtain ⟨b, rest, n, hbytes, hstep, hrest⟩ := utf8Step_encodeChar c (encodeUtf8 s)
    rw [encodeUtf8_cons, hbytes, decodeUtf8From, hstep]
    simp only
    rw [hrest, ih, List.reverse_cons, List.append_assoc]
    rfl

/-- What is read behind the characters read so far is the encoding of the others. -/
theorem eq_encodeUtf8_of_decodeUtf8From {index : Nat} {reversed text : List Char}
    {bytes : List UInt8} (h : decodeUtf8From index reversed bytes = .ok text) :
    ∃ s, text = reversed.reverse ++ s ∧ bytes = encodeUtf8 s := by
  fun_induction decodeUtf8From index reversed bytes with
  | case1 index reversed =>
    cases h
    exact ⟨[], (List.append_nil _).symm, rfl⟩
  | case2 index reversed b rest c n hstep ih =>
    obtain ⟨s, htext, hrest⟩ := ih h
    refine ⟨c :: s, ?_, ?_⟩
    · rw [htext, List.reverse_cons, List.append_assoc]
      rfl
    · rw [encodeUtf8_cons, ← hrest]
      exact eq_encodeChar_of_utf8Step hstep
  | case3 => cases h

/-- **Decoding inverts encoding.** Some bytes decode to a text exactly when they are its
    encoding. -/
theorem decodeUtf8_eq_ok_iff {bytes : List UInt8} {text : List Char} :
    decodeUtf8 bytes = .ok text ↔ bytes = encodeUtf8 text := by
  constructor
  · intro h
    obtain ⟨s, rfl, hbytes⟩ := eq_encodeUtf8_of_decodeUtf8From h
    exact hbytes
  · rintro rfl
    exact decodeUtf8From_encodeUtf8 0 [] text

/-- The byte of a line feed stands for a line feed only. -/
theorem newline_mem_encodeUtf8 {s : List Char} : 10 ∈ encodeUtf8 s ↔ '\n' ∈ s := by
  induction s with
  | nil => simp [encodeUtf8]
  | cons c s ih =>
    rw [encodeUtf8_cons, List.mem_append, List.mem_cons, ih, newline_mem_encodeChar]

end ServiceLang.Text
