import Mathlib.Data.List.TakeWhile
import ServiceLang.Feature.Cursor
import ServiceLang.Proofs.Text.Utf16

namespace ServiceLang

open Text

/-!
# The word under the cursor

* `isCursorChar_of_isIdentChar`, `isCursorChar_of_isSpace`: what belongs to such a word;
* `wordAt_append`: the word around any column of a maximal run is the run;
* `bareWord_append_colons`, `bareWord_quoted`: names and quoted texts, whatever colons follow them;
* `quote_mem_bareWord`: behind a quoted text anything but colons leaves a quote inside the word;
* `wordUnder_eq`: the word at every UTF-16 offset of a part of a line;
* `WordRun`, `wordAt_charIndex`: the word at any UTF-16 offset of any line is the maximal run that
  covers the offset.
-/

/-! ### Word characters -/

theorem isCursorChar_of_isIdentChar {c : Char} (h : isIdentChar c = true) :
    isCursorChar c = true := by
  have hletter : ∀ n < 123, 65 ≤ n ∧ n ≤ 90 ∨ 97 ≤ n → withinBounds alphabetic.bounds n = true := by
    decide
  have hdigit : ∀ n < 58, 48 ≤ n → withinBounds decimalDigits.bounds n = true := by
    decide
  simp only [isIdentChar, isIdentStart, isAsciiLetter, Bool.or_eq_true, Bool.and_eq_true,
    decide_eq_true_eq, beq_iff_eq, Char.le_def, UInt32.le_iff_toNat_le] at h
  simp only [isCursorChar, isAlphanumeric, CharSet.contains, Bool.or_eq_true, beq_iff_eq]
  obtain ((h | h) | h) | h := h
  · exact .inl (.inl (.inl (.inl (.inl (.inl (hletter c.toNat (Nat.lt_succ_of_le h.2) (.inr h.1)))))))
  · have hlt : c.toNat < 123 := Nat.lt_of_le_of_lt h.2 (by decide)
    exact .inl (.inl (.inl (.inl (.inl (.inl (hletter c.toNat hlt (.inl h)))))))
  · exact .inl (.inl (.inl (.inr h)))
  · exact .inl (.inl (.inl (.inl (.inl (.inr (hdigit c.toNat (Nat.lt_succ_of_le h.2) h.1))))))

/-- Words end at blanks. -/
theorem isCursorChar_of_isSpace {c : Char} (h : isSpace c = true) : isCursorChar c = false := by
  have htable : ∀ n ∈ blankPoints, (withinBounds alphabetic.bounds n ||
      withinBounds decimalDigits.bounds n || withinBounds otherNumerals.bounds n) = false := by
    decide +kernel
  have hletter : isAlphanumeric c = false := htable _ (toNat_mem_blankPoints h)
  simp only [isCursorChar, hletter, Bool.false_or, Bool.or_eq_false_iff, beq_eq_false_iff_ne]
  exact ⟨⟨⟨ne_of_isSpace h (by decide), ne_of_isSpace h (by decide)⟩,
    ne_of_isSpace h (by decide)⟩, ne_of_isSpace h (by decide)⟩

/-- No word goes on from what ends with a blank. -/
theorem stopsAt_reverse_of_blank {lead gap : List Char} (hne : gap ≠ []) (hgap : Blank gap) :
    StopsAt isCursorChar (lead ++ gap).reverse := by
  intro c hc
  rw [List.head?_reverse, List.getLast?_append, List.getLast?_eq_some_getLast hne, Option.some_or,
    Option.mem_some_iff] at hc
  rw [← hc]
  exact isCursorChar_of_isSpace (hgap _ (List.getLast_mem hne))

/-! ### Runs -/

/-- The longest end of word characters, behind a character that is none. -/
theorem runBefore_append {lead run : List Char} (hlead : StopsAt isCursorChar lead.reverse)
    (hrun : ∀ c ∈ run, isCursorChar c = true) : runBefore (lead ++ run) = run := by
  have hreverse : ∀ c ∈ run.reverse, isCursorChar c = true :=
    fun c hc => hrun c (List.mem_reverse.mp hc)
  have hcut : (lead ++ run).reverse = run.reverse ++ lead.reverse := List.reverse_append
  rw [runBefore, (takeWhile_dropWhile_iff.mpr ⟨hcut, hreverse, hlead⟩).1, List.reverse_reverse]

/-- **Maximal runs.** The word around any column of a maximal run is the run. -/
theorem wordAt_append {lead word rest : List Char} {column : Nat}
    (hlead : StopsAt isCursorChar lead.reverse) (hword : ∀ c ∈ word, isCursorChar c = true)
    (hrest : StopsAt isCursorChar rest) (hlo : lead.length ≤ column)
    (hhi : column < lead.length + word.length) :
    wordAt (lead ++ word ++ rest) column = some word := by
  obtain ⟨k, rfl⟩ := Nat.exists_eq_add_of_le hlo
  have hk : k < word.length := by omega
  have hdrop : (lead ++ word ++ rest).drop (lead.length + k) = word.drop k ++ rest := by
    rw [List.append_assoc, List.drop_length_add_append, List.drop_append_of_le_length (by omega)]
  have htake : (lead ++ word ++ rest).take (lead.length + k) = lead ++ word.take k := by
    rw [List.append_assoc, List.take_length_add_append, List.take_append_of_le_length (by omega)]
  have hafter : (word.drop k ++ rest).takeWhile isCursorChar = word.drop k :=
    (takeWhile_dropWhile_iff.mpr
      ⟨rfl, fun c hc => hword c (List.mem_of_mem_drop hc), hrest⟩).1
  have hbefore : runBefore (lead ++ word.take k) = word.take k :=
    runBefore_append hlead fun c hc => hword c (List.mem_of_mem_take hc)
  rw [wordAt, hdrop, htake, hafter, hbefore]
  split
  case h_1 hnil => exact absurd (List.drop_eq_nil_iff.mp hnil) (by omega)
  case h_2 => rw [List.take_append_drop]

/-! ### Bare words -/

theorem dropClosingColons_append {s colons : List Char} (hs : StopsAt (· == ':') s.reverse)
    (hcolons : ∀ c ∈ colons, c = ':') : dropClosingColons (s ++ colons) = s := by
  have hreverse : ∀ c ∈ colons.reverse, (c == ':') = true :=
    fun c hc => beq_iff_eq.mpr (hcolons c (List.mem_reverse.mp hc))
  have hcut : (s ++ colons).reverse = colons.reverse ++ s.reverse := List.reverse_append
  rw [dropClosingColons, (takeWhile_dropWhile_iff.mpr ⟨hcut, hreverse, hs⟩).2,
    List.reverse_reverse]

theorem dropOpeningQuote_of_not_mem {s : List Char} (h : '"' ∉ s) : dropOpeningQuote s = s := by
  unfold dropOpeningQuote
  split
  case h_1 => exact absurd List.mem_cons_self h
  case h_2 => rfl

theorem dropClosingQuote_of_not_mem {s : List Char} (h : '"' ∉ s) : dropClosingQuote s = s := by
  rw [dropClosingQuote, dropOpeningQuote_of_not_mem (by rwa [List.mem_reverse]),
    List.reverse_reverse]

/-- A name with colons behind it. -/
theorem bareWord_append_colons {name colons : List Char} (hquote : '"' ∉ name)
    (hcolon : ':' ∉ name) (hcolons : ∀ c ∈ colons, c = ':') :
    bareWord (name ++ colons) = name := by
  have hstop : StopsAt (· == ':') name.reverse := by
    intro c hc
    rw [beq_eq_false_iff_ne]
    rintro rfl
    exact hcolon (List.mem_reverse.mp (List.mem_of_mem_head? hc))
  rw [bareWord, dropClosingColons_append hstop hcolons, dropOpeningQuote_of_not_mem hquote,
    dropClosingQuote_of_not_mem hquote]

theorem dropClosingQuote_concat_quote (s : List Char) : dropClosingQuote (s ++ ['"']) = s := by
  rw [dropClosingQuote, List.reverse_append]
  exact List.reverse_reverse s

/-- A quoted text with colons behind it. -/
theorem bareWord_quoted {s colons : List Char} (hcolons : ∀ c ∈ colons, c = ':') :
    bareWord ('"' :: s ++ '"' :: colons) = s := by
  have hcut : '"' :: s ++ '"' :: colons = ('"' :: s ++ ['"']) ++ colons := by simp
  have hstop : StopsAt (· == ':') ('"' :: s ++ ['"']).reverse := by
    rw [List.reverse_append]
    exact stopsAt_cons.mpr (by decide)
  rw [bareWord, hcut, dropClosingColons_append hstop hcolons]
  exact dropClosingQuote_concat_quote s

/-- At most the last character is taken for a closing quote. -/
theorem mem_dropClosingQuote_concat {s : List Char} {c : Char} (h : c ∈ s) (last : Char) :
    c ∈ dropClosingQuote (s ++ [last]) := by
  rw [dropClosingQuote, List.reverse_append, List.mem_reverse]
  change c ∈ dropOpeningQuote (last :: s.reverse)
  unfold dropOpeningQuote
  split
  case h_1 heq =>
    rw [← (List.cons.inj heq).2]
    exact List.mem_reverse.mpr h
  case h_2 => exact List.mem_cons_of_mem _ (List.mem_reverse.mpr h)

/-- A text with something other than a colon ends with colons behind its last such character. -/
theorem exists_last_ne_colon {s : List Char} (h : ∃ c ∈ s, c ≠ ':') :
    ∃ front last colons, s = front ++ [last] ++ colons ∧ last ≠ ':' ∧ ∀ c ∈ colons, c = ':' := by
  obtain ⟨d, hd, hne⟩ := h
  cases hdrop : s.reverse.dropWhile (· == ':') with
  | nil =>
    have hall := List.dropWhile_eq_nil_iff.mp hdrop d (List.mem_reverse.mpr hd)
    exact absurd (eq_of_beq hall) hne
  | cons last front =>
    obtain ⟨hcut, hcolons, hlast⟩ := (takeWhile_dropWhile_iff (p := (· == ':'))).mp ⟨rfl, hdrop⟩
    refine ⟨front.reverse, last, (s.reverse.takeWhile (· == ':')).reverse, ?_, ?_, ?_⟩
    · rw [← List.reverse_reverse s]
      conv_lhs => rw [hcut]
      simp
    · exact beq_eq_false_iff_ne.mp (hlast last rfl)
    · exact fun c hc => beq_iff_eq.mp (hcolons c (List.mem_reverse.mp hc))

/-- **Quotes left inside.** When anything but colons follows a quoted text, its closing quote stays
    in the bare word. -/
theorem quote_mem_bareWord {s run : List Char} (h : ∃ c ∈ run, c ≠ ':') :
    '"' ∈ bareWord ('"' :: s ++ '"' :: run) := by
  obtain ⟨front, last, colons, rfl, hlast, hcolons⟩ := exists_last_ne_colon h
  have hcut : '"' :: s ++ '"' :: (front ++ [last] ++ colons) =
      ('"' :: (s ++ '"' :: front) ++ [last]) ++ colons := by
    simp
  have hstop : StopsAt (· == ':') ('"' :: (s ++ '"' :: front) ++ [last]).reverse := by
    rw [List.reverse_append]
    exact stopsAt_cons.mpr (beq_eq_false_iff_ne.mpr hlast)
  rw [bareWord, hcut, dropClosingColons_append hstop hcolons]
  exact mem_dropClosingQuote_concat (List.mem_append_right s List.mem_cons_self) last

/-! ### Places -/

/-- **The word at an offset.** Behind a lead that no word runs out of, the word at every UTF-16
    offset of a part of a line is the part with the word characters that follow it, made bare, unless
    nothing is left of it. -/
theorem wordUnder_eq {text lead part rest : List Char} {line offset : Nat}
    (hline : (lines text)[line]? = some (lead ++ part ++ rest))
    (hlead : StopsAt isCursorChar lead.reverse) (hpart : ∀ c ∈ part, isCursorChar c = true)
    (hlo : unitLength lead ≤ offset) (hhi : offset < unitLength (lead ++ part))
    (hbare : bareWord (part ++ rest.takeWhile isCursorChar) ≠ []) :
    wordUnder text line offset = some (bareWord (part ++ rest.takeWhile isCursorChar)) := by
  -- the offset falls on a character of the part
  have hcolumn := CoversUnit.charIndex_bounds ⟨hlo, hhi⟩ rest
  have hcut : lead ++ part ++ rest =
      lead ++ (part ++ rest.takeWhile isCursorChar) ++ rest.dropWhile isCursorChar := by
    rw [List.append_assoc, List.append_assoc, List.append_assoc, List.takeWhile_append_dropWhile]
  have hword : ∀ c ∈ part ++ rest.takeWhile isCursorChar, isCursorChar c = true :=
    List.forall_mem_append.mpr ⟨hpart, List.all_eq_true.mp List.all_takeWhile⟩
  have hfound : wordAt (lead ++ part ++ rest) (charIndex (lead ++ part ++ rest) offset) =
      some (part ++ rest.takeWhile isCursorChar) := by
    generalize charIndex (lead ++ part ++ rest) offset = column at hcolumn
    rw [hcut]
    refine wordAt_append hlead hword (stopsAt_dropWhile isCursorChar rest) hcolumn.1 ?_
    rw [List.length_append]
    omega
  rw [wordUnder, hline, Option.bind_eq_bind, Option.bind_some, hfound, Option.bind_some]
  split
  case h_1 hnil => exact absurd hnil hbare
  case h_2 => rfl

/-! ### Maximal runs and offsets -/

/-- A maximal run of word characters in a line, with what stands before and behind it: no word
    character comes right before it or right behind it. -/
structure WordRun (line lead word rest : List Char) : Prop where
  line_eq : line = lead ++ word ++ rest
  nonempty : word ≠ []
  wordChars : ∀ c ∈ word, isCursorChar c = true
  before : ∀ c ∈ lead.getLast?, isCursorChar c = false
  behind : ∀ c ∈ rest.head?, isCursorChar c = false

/-- Every offset of a maximal run gives the run. -/
theorem WordRun.wordAt_eq {line lead word rest : List Char} {offset : Nat}
    (h : WordRun line lead word rest) (hcovers : CoversUnit lead word offset) :
    wordAt line (charIndex line offset) = some word := by
  obtain ⟨rfl, -, hword, hbefore, hbehind⟩ := h
  have hcolumn := hcovers.charIndex_bounds rest
  have hlead : StopsAt isCursorChar lead.reverse := by
    rwa [StopsAt, List.head?_reverse]
  exact wordAt_append hlead hword hbehind hcolumn.1 hcolumn.2

/-- A word character of a line lies in a maximal run, which covers all offsets of it. -/
theorem exists_wordRun {line lead rest : List Char} {c : Char} {offset : Nat}
    (hline : line = lead ++ [c] ++ rest) (hcovers : CoversUnit lead [c] offset)
    (hc : isCursorChar c = true) :
    ∃ front word back, WordRun line front word back ∧ CoversUnit front word offset := by
  obtain ⟨hlo, hhi⟩ := hcovers
  -- the run goes on to both sides of the character as far as it can
  obtain ⟨hfront, hrun, hstart⟩ :=
    (takeWhile_dropWhile_iff (s := lead.reverse) (p := isCursorChar)).mp ⟨rfl, rfl⟩
  have hlead : lead = (lead.reverse.dropWhile isCursorChar).reverse ++ runBefore lead := by
    rw [runBefore, ← List.reverse_append, ← hfront, List.reverse_reverse]
  have hunits : unitLength lead =
      unitLength (lead.reverse.dropWhile isCursorChar).reverse + unitLength (runBefore lead) := by
    rw [← unitLength_append, ← hlead]
  refine ⟨(lead.reverse.dropWhile isCursorChar).reverse,
    runBefore lead ++ c :: rest.takeWhile isCursorChar, rest.dropWhile isCursorChar, ?_, ?_, ?_⟩
  · refine ⟨?_, by simp, ?_, ?_, stopsAt_dropWhile isCursorChar rest⟩
    · rw [hline]
      conv_lhs => rw [hlead, ← List.takeWhile_append_dropWhile (p := isCursorChar) (l := rest)]
      simp
    · refine List.forall_mem_append.mpr ⟨fun d hd => hrun d (List.mem_reverse.mp hd), ?_⟩
      exact List.forall_mem_cons.mpr ⟨hc, List.all_eq_true.mp List.all_takeWhile⟩
    · rw [List.getLast?_reverse]
      exact hstart
  · omega
  · simp only [unitLength_append, unitLength] at hhi ⊢
    omega

/-- No word is found past the end of a line, or at a character that belongs to no word. -/
theorem wordAt_length_eq_none {lead rest : List Char} (hrest : StopsAt isCursorChar rest) :
    wordAt (lead ++ rest) lead.length = none := by
  rw [wordAt, List.drop_left, takeWhile_of_stopsAt hrest]

/-- A word is found at an offset only where a word character covers it. -/
theorem exists_coversUnit_of_wordAt {line word : List Char} {offset : Nat}
    (h : wordAt line (charIndex line offset) = some word) :
    ∃ lead c rest, line = lead ++ [c] ++ rest ∧ CoversUnit lead [c] offset ∧
      isCursorChar c = true := by
  by_cases hoffset : offset < unitLength line
  · obtain ⟨lead, c, rest, hline, hcovers⟩ := exists_coversUnit hoffset
    refine ⟨lead, c, rest, hline, hcovers, ?_⟩
    by_contra hc
    have hcolumn : charIndex line offset = lead.length := by
      have hbounds := hcovers.charIndex_bounds rest
      rw [hline]
      exact Nat.le_antisymm (Nat.le_of_lt_succ hbounds.2) hbounds.1
    have hnone : wordAt (lead ++ ([c] ++ rest)) lead.length = none :=
      wordAt_length_eq_none (stopsAt_cons.mpr (Bool.eq_false_iff.mpr hc))
    rw [hcolumn, hline, List.append_assoc, hnone] at h
    cases h
  · have hnone : wordAt (line ++ []) line.length = none :=
      wordAt_length_eq_none (by simp [StopsAt])
    rw [charIndex_of_unitLength_le (Nat.le_of_not_lt hoffset)] at h
    rw [List.append_nil, h] at hnone
    cases hnone

/-- **Words and offsets.** A line has a word at a UTF-16 offset exactly when the offset lies inside
    the line and the character that covers it belongs to words. The word is the maximal run of
    word characters that covers the offset, so that all offsets of a run have the same word. -/
theorem wordAt_charIndex (line : List Char) (offset : Nat) :
    ((wordAt line (charIndex line offset)).isSome ↔
      offset < unitLength line ∧ ∃ lead c rest,
        line = lead ++ [c] ++ rest ∧ CoversUnit lead [c] offset ∧ isCursorChar c = true) ∧
    (∀ word, wordAt line (charIndex line offset) = some word ↔
      ∃ lead rest, WordRun line lead word rest ∧ CoversUnit lead word offset) ∧
    (∀ lead word rest other, WordRun line lead word rest → CoversUnit lead word offset →
      CoversUnit lead word other →
      wordAt line (charIndex line other) = wordAt line (charIndex line offset)) := by
  -- A word under an offset is the run of word characters around it: each part goes from one to
  -- the other.
  refine ⟨⟨?_, ?_⟩, fun word => ⟨?_, ?_⟩, ?_⟩
  · intro hsome
    obtain ⟨word, hword⟩ := Option.isSome_iff_exists.mp hsome
    obtain ⟨lead, c, rest, rfl, hcovers, hc⟩ := exists_coversUnit_of_wordAt hword
    refine ⟨?_, lead, c, rest, rfl, hcovers, hc⟩
    have hlt := hcovers.2
    rw [unitLength_append _ rest]
    omega
  · rintro ⟨-, lead, c, rest, hline, hcovers, hc⟩
    obtain ⟨front, word, back, hrun, hword⟩ := exists_wordRun hline hcovers hc
    rw [hrun.wordAt_eq hword]
    rfl
  · intro hword
    obtain ⟨lead, c, rest, hline, hcovers, hc⟩ := exists_coversUnit_of_wordAt hword
    obtain ⟨front, run, back, hrun, hoffset⟩ := exists_wordRun hline hcovers hc
    obtain rfl : run = word := Option.some.inj ((hrun.wordAt_eq hoffset).symm.trans hword)
    exact ⟨front, back, hrun, hoffset⟩
  · rintro ⟨lead, rest, hrun, hoffset⟩
    exact hrun.wordAt_eq hoffset
  · intro lead word rest other hrun hoffset hother
    rw [hrun.wordAt_eq hother, hrun.wordAt_eq hoffset]

/-- Both units of a letter outside the basic plane, and the letter behind it, have one word. -/
theorem wordAt_charIndex_astral :
    wordAt "é 𝒜b: c".toList (charIndex "é 𝒜b: c".toList 3) =
        wordAt "é 𝒜b: c".toList (charIndex "é 𝒜b: c".toList 2) ∧
      wordAt "é 𝒜b: c".toList (charIndex "é 𝒜b: c".toList 2) = some "𝒜b:".toList := by
  have hword : "𝒜b:".toList.all isCursorChar = true := by decide +kernel
  have hblank : ∀ c ∈ some ' ', isCursorChar c = false := by
    intro c hc
    obtain rfl := Option.some.inj hc
    decide +kernel
  have hlast : "é ".toList.getLast? = some ' ' := by decide +kernel
  have hhead : " c".toList.head? = some ' ' := by decide +kernel
  have hrun : WordRun "é 𝒜b: c".toList "é ".toList "𝒜b:".toList " c".toList :=
    ⟨by decide +kernel, by decide +kernel, List.all_eq_true.mp hword, hlast ▸ hblank,
      hhead ▸ hblank⟩
  have hlow : CoversUnit "é ".toList "𝒜b:".toList 2 := ⟨by decide, by decide⟩
  have hhigh : CoversUnit "é ".toList "𝒜b:".toList 3 := ⟨by decide, by decide⟩
  exact ⟨(wordAt_charIndex _ 2).2.2 _ _ _ 3 hrun hlow hhigh,
    ((wordAt_charIndex _ 2).2.1 _).mpr ⟨_, _, hrun, hlow⟩⟩

end ServiceLang
