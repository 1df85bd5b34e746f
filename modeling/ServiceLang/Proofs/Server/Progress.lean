import ServiceLang.Proofs.Server.Stream
import ServiceLang.Proofs.Text.Lines

namespace ServiceLang

open Text

/-!
# Reads make progress

No read of a stream leaves the stream as it is unless the stream is at its end or cannot be read on,
so that a server comes to an end on every stream.

* `suffix_readFrame`: a read leaves an end of the stream;
* `readHeader_encodeUtf8_eq_ended_iff`, `readFrame_eq_ended_iff`: the streams that end cleanly;
* `exists_readFrames_eq`: at most one read per byte, and one more;
* `Server.RunsIn`: a run over a stream, with the number of reads that it takes;
* `Server.RunsIn.le_length`, `Server.exists_runsIn`: the same bound for the server;
* `reads_progress`: the whole.
-/

/-! ### What a read leaves -/

/-- A line and what follows it make up the input. -/
theorem splitLine_fst_append_snd (s : List UInt8) : (splitLine s).1 ++ (splitLine s).2 = s := by
  induction s with
  | nil => rfl
  | cons b s ih =>
    rw [splitLine]
    split
    · rfl
    · exact congrArg (b :: ·) ih

/-- What follows a line is the rest of the input. -/
theorem suffix_splitLine (s : List UInt8) : (splitLine s).2 <:+ s :=
  ⟨(splitLine s).1, splitLine_fst_append_snd s⟩

/-- The bytes that reading a header leaves. -/
def HeaderRead.left : HeaderRead → List UInt8
  | .length _ rest => rest
  | .ended => []
  | .refused _ rest => rest
  | .broken _ rest => rest

/-- What follows a header is the rest of the input. -/
theorem suffix_readHeader (begun : Bool) (length : Option Nat) (s : List UInt8) :
    (readHeader begun length s).left <:+ s := by
  fun_induction readHeader begun length s with
  | case1 => exact List.nil_suffix
  | case2 => exact List.nil_suffix
  | case3 => exact suffix_splitLine _
  | case4 => exact suffix_splitLine _
  | case5 begun b s line hline blank ih => exact ih.trans (suffix_splitLine _)
  | case6 length begun b s line hline blank none ih => exact ih.trans (suffix_splitLine _)
  | case7 length begun b s line hline blank n found ih => exact ih.trans (suffix_splitLine _)
  | case8 => exact suffix_splitLine _

theorem suffix_readBody (limit length : Nat) (s : List UInt8) :
    (readBody limit length s).2 <:+ s := by
  unfold readBody
  split
  · exact List.drop_suffix length s
  · dsimp only
    split
    · exact List.nil_suffix
    · split <;> exact List.drop_suffix length s

/-- **What is left.** Every read leaves an end of the stream. -/
theorem suffix_readFrame (limit : Nat) (s : List UInt8) : (readFrame limit s).2 <:+ s := by
  have hheader := suffix_readHeader false none s
  unfold readFrame
  split
  case h_1 n rest hread =>
    rw [hread] at hheader
    exact (suffix_readBody limit n rest).trans hheader
  case h_2 => exact List.nil_suffix
  case h_3 fault rest hread =>
    rw [hread] at hheader
    exact hheader
  case h_4 fault rest hread =>
    rw [hread] at hheader
    exact hheader

/-! ### Streams that end cleanly -/

/-- A stream whose end is found consists of lines that decode. -/
theorem exists_text_of_ended {begun : Bool} {length : Option Nat} {s : List UInt8}
    (h : readHeader begun length s = .ended) : ∃ text, s = encodeUtf8 text := by
  -- a line that decodes, before a text
  have hline : ∀ {s : List UInt8} {line : List Char}, decodeUtf8 (splitLine s).1 = .ok line →
      (∃ text, (splitLine s).2 = encodeUtf8 text) → ∃ text, s = encodeUtf8 text := by
    rintro s line hdecode ⟨text, htext⟩
    refine ⟨line ++ text, ?_⟩
    rw [encodeUtf8_append, ← decodeUtf8_eq_ok_iff.mp hdecode, ← htext, splitLine_fst_append_snd]
  fun_induction readHeader begun length s with
  | case1 => cases h
  | case2 => exact ⟨[], rfl⟩
  | case3 => cases h
  | case4 => cases h
  | case5 begun b s line hdecode blank ih => exact hline hdecode (ih h)
  | case6 length begun b s line hdecode blank none ih => exact hline hdecode (ih h)
  | case7 length begun b s line hdecode blank n found ih => exact hline hdecode (ih h)
  | case8 => cases h

/-- Once a length has been given, the stream may not end before a blank line. -/
theorem readHeader_some_ne_ended (n : Nat) (s : List UInt8) :
    readHeader true (some n) s ≠ .ended := by
  intro hended
  generalize hbegun : true = begun at hended
  generalize hlength : some n = length at hended
  fun_induction readHeader begun length s generalizing n with
  | case1 => cases hended
  | case2 begun length hnot => exact absurd hbegun.symm hnot
  | case3 => cases hended
  | case4 => cases hended
  | case5 => cases hlength
  | case6 length begun b s line hdecode blank none ih => exact ih n rfl hlength hended
  | case7 length begun b s line hdecode blank m found ih => exact ih m rfl rfl hended
  | case8 => cases hended

theorem splitLine_of_not_mem {s : List UInt8} (h : 10 ∉ s) : splitLine s = (s, []) := by
  induction s with
  | nil => rfl
  | cons b s ih =>
    rw [List.mem_cons, not_or] at h
    rw [splitLine, if_neg (Ne.symm h.1), ih h.2]

/-- The first line of a text, with the blanks that end it, is the first line of its bytes. -/
theorem exists_first_line {text : List Char} (hne : text ≠ []) :
    ∃ line gap rest, Blank gap ∧ lines text = line :: lines rest ∧ rest.length < text.length ∧
      splitLine (encodeUtf8 text) = (encodeUtf8 (line ++ gap), encodeUtf8 rest) := by
  obtain ⟨line, behind, rest, rfl, hnewline, hend, hlines, hlt⟩ := exists_lineEnd hne
  cases hend with
  | text =>
    refine ⟨line, [], [], by simp [Blank], hlines, hlt, ?_⟩
    rw [List.append_nil]
    exact splitLine_of_not_mem fun hmem => hnewline (newline_mem_encodeUtf8.mp hmem)
  | feed _ hreturn =>
    refine ⟨line, ['\n'], rest, blank_singleton (by decide), hlines, hlt, ?_⟩
    rw [List.append_cons, encodeUtf8_append]
    exact splitLine_lineBytes hnewline (encodeUtf8 rest)
  | both =>
    have hblank : Blank ['\r', '\n'] := List.all_eq_true.mp (by decide)
    have hnewline' : '\n' ∉ line ++ ['\r'] := by simp [hnewline]
    refine ⟨line, ['\r', '\n'], rest, hblank, hlines, hlt, ?_⟩
    have hsplit := splitLine_lineBytes hnewline' (encodeUtf8 rest)
    unfold lineBytes at hsplit
    rw [← encodeUtf8_append] at hsplit
    simpa using hsplit

/-- A blank line gives no length. -/
theorem lineLength_of_isBlank {line : List Char} (h : isBlank line = true) :
    lineLength line = none := by
  refine lineLength_eq_none ?_
  have htrim : trim line = [] := by
    have hline := trim_append (List.all_eq_true.mp h) []
    rwa [List.nil_append] at hline
  rw [htrim]
  decide

/-- The lines of a text are skipped, up to its end: no line gives a length, and the last one is
    blank, so that no header has begun. -/
structure Skipped (text : List Char) : Prop where
  lengths : ∀ line ∈ lines text, lineLength line = none
  last : ∀ line ∈ (lines text).getLast?, isBlank line = true

theorem skipped_nil : Skipped [] := ⟨by simp [lines, linesFrom], by simp [lines, linesFrom]⟩

/-- A line that gives no length is skipped with what follows it; if nothing follows, it is blank. -/
theorem skipped_iff {text line rest : List Char} (h : lines text = line :: lines rest) :
    Skipped text ↔
      lineLength line = none ∧ Skipped rest ∧ (rest = [] → isBlank line = true) := by
  have hlast : (lines text).getLast? = some ((lines rest).getLast?.getD line) := by
    rw [h, List.getLast?_cons]
  constructor
  · rintro ⟨hlengths, hblank⟩
    rw [h] at hlengths
    obtain ⟨hline, hrest⟩ := List.forall_mem_cons.mp hlengths
    rw [hlast] at hblank
    refine ⟨hline, ⟨hrest, fun last hmem => hblank last ?_⟩, ?_⟩
    · rw [Option.mem_def.mp hmem]
      rfl
    · rintro rfl
      exact hblank line rfl
  · rintro ⟨hline, ⟨hrest, hblank⟩, hempty⟩
    refine ⟨?_, fun last hmem => ?_⟩
    · rw [h]
      exact List.forall_mem_cons.mpr ⟨hline, hrest⟩
    · rw [hlast, Option.mem_some_iff] at hmem
      cases hrest_last : (lines rest).getLast? with
      | none =>
        rw [hrest_last] at hmem
        rw [← hmem]
        exact hempty (lines_eq_nil_iff.mp (List.getLast?_eq_none_iff.mp hrest_last))
      | some line' =>
        rw [hrest_last] at hmem
        exact hblank last (hrest_last.trans (congrArg some hmem))

/-- **Clean ends.** Reading the header of a text comes to the end of the text exactly when its lines
    are skipped. If there are none, the header must not have begun. -/
theorem readHeader_encodeUtf8_eq_ended_iff {begun : Bool} {text : List Char} :
    readHeader begun none (encodeUtf8 text) = .ended ↔
      Skipped text ∧ (text = [] → begun = false) := by
  -- on the length of the text: the first line decides how the rest is read
  induction hlength : text.length using Nat.strongRecOn generalizing begun text with
  | ind n ih =>
    by_cases hne : text = []
    · subst hne
      show readHeader begun none [] = .ended ↔ _
      rw [readHeader]
      cases begun <;> simp [skipped_nil]
    · obtain ⟨line, gap, rest, hgap, hlines, hlt, hsplit⟩ := exists_first_line hne
      have hrest := fun begun => @ih rest.length (hlength ▸ hlt) begun rest rfl
      have hdecode : decodeUtf8 (encodeUtf8 (line ++ gap)) = .ok (line ++ gap) :=
        decodeUtf8_eq_ok_iff.mpr rfl
      simp only [skipped_iff hlines, hne, false_implies, and_true]
      cases hbytes : encodeUtf8 text with
      | nil =>
        have hnil : decodeUtf8 [] = .ok [] := decodeUtf8_eq_ok_iff.mpr rfl
        rw [decodeUtf8_eq_ok_iff.mpr hbytes.symm] at hnil
        exact absurd (Except.ok.inj hnil) hne
      | cons b s =>
        rw [hbytes] at hsplit
        rw [readHeader.eq_def]
        simp only [hsplit, hdecode, isBlank_append_of_blank hgap, lineLength_append_of_blank hgap]
        cases hblank : isBlank line with
        | true => simp [hrest, lineLength_of_isBlank hblank]
        | false =>
          -- such a line begins the header, so that something must follow it
          cases hline : lineLength line with
          | none => simp [hrest]
          | some found =>
            cases found with
            | ok n => simp [readHeader_some_ne_ended]
            | error fault => simp

/-- The end of a stream is found only while its header is read. -/
theorem fst_readFrame_eq_ended_iff {limit : Nat} {s : List UInt8} :
    (readFrame limit s).1 = .ended ↔ readHeader false none s = .ended := by
  unfold readFrame
  split
  case h_1 n rest hread =>
    rw [hread]
    refine ⟨fun h => absurd h ?_, nofun⟩
    unfold readBody
    split
    · exact nofun
    · dsimp only
      split
      · exact nofun
      · split <;> exact nofun
  case h_2 hread => simp [hread]
  case h_3 hread => simp [hread]
  case h_4 hread => simp [hread]

/-- A stream ends cleanly exactly when it is a text whose lines are skipped. Nothing is left of it
    then. -/
theorem readFrame_eq_ended_iff {limit : Nat} {s rest : List UInt8} :
    readFrame limit s = (.ended, rest) ↔
      rest = [] ∧ ∃ text, s = encodeUtf8 text ∧ Skipped text := by
  constructor
  · intro h
    have hheader := fst_readFrame_eq_ended_iff.mp (congrArg Prod.fst h)
    obtain ⟨text, rfl⟩ := exists_text_of_ended hheader
    rw [readFrame, hheader] at h
    exact ⟨(congrArg Prod.snd h).symm, text, rfl,
      (readHeader_encodeUtf8_eq_ended_iff.mp hheader).1⟩
  · rintro ⟨rfl, text, rfl, hskipped⟩
    rw [readFrame, readHeader_encodeUtf8_eq_ended_iff.mpr ⟨hskipped, fun _ => rfl⟩]

/-! ### Reading on -/

/-- Reading goes on behind a body, and behind one that was refused. -/
theorem goesOn_iff {read : FrameRead} :
    read.goesOn = true ↔ (∃ text, read = .body text) ∨ ∃ fault, read = .refused fault := by
  cases read <;> simp [FrameRead.goesOn]

/-- Reading stops at the end of the input, and where its frames can no longer be told. -/
theorem goesOn_eq_false_iff {read : FrameRead} :
    read.goesOn = false ↔ read = .ended ∨ ∃ fault, read = .broken fault := by
  cases read <;> simp [FrameRead.goesOn]

/-- **Reading on.** Reading a stream on comes to an end, cleanly or because the stream breaks, and
    there are at most as many reads before it as the stream has bytes. -/
theorem exists_readFrames_eq (limit : Nat) (s : List UInt8) :
    ∃ reads last, readFrames limit s = reads ++ [last] ∧ reads.length ≤ s.length ∧
      (∀ read ∈ reads, read.goesOn = true) ∧ last.goesOn = false := by
  fun_induction readFrames limit s with
  | case1 s hgoesOn ih =>
    obtain ⟨reads, last, hreads, hlength, hall, hlast⟩ := ih
    have hlt := length_readFrame_lt limit s hgoesOn
    refine ⟨(readFrame limit s).1 :: reads, last, ?_, ?_, ?_, hlast⟩
    · rw [hreads, List.cons_append]
    · rw [List.length_cons]
      omega
    · exact List.forall_mem_cons.mpr ⟨hgoesOn, hall⟩
  | case2 s hstops =>
    exact ⟨[], (readFrame limit s).1, rfl, Nat.zero_le _, by simp, by simpa using hstops⟩

namespace Server

/-- A run over a stream leads to the result, and takes the given number of reads. -/
inductive RunsIn : Server → List UInt8 → Nat → Server × Except ServerError Nat → Prop where
  | stop {s s' : Server} {input : List UInt8} {outcome : Except ServerError Nat}
      (h : s.receive (readFrame maxFrameLength input).1 = (s', some outcome)) :
      RunsIn s input 1 (s', outcome)
  | next {s s' : Server} {input : List UInt8} {n : Nat} {result : Server × Except ServerError Nat}
      (h : s.receive (readFrame maxFrameLength input).1 = (s', none))
      (hrest : RunsIn s' (readFrame maxFrameLength input).2 n result) :
      RunsIn s input (n + 1) result

/-- Every read but the last takes at least one byte. -/
theorem RunsIn.le_length {s : Server} {input : List UInt8} {n : Nat}
    {result : Server × Except ServerError Nat} (h : RunsIn s input n result) :
    n ≤ input.length + 1 := by
  induction h with
  | stop => exact Nat.le_add_left 1 _
  | next hreceive _ ih =>
    have hgoesOn := goesOn_of_receive_eq_none (congrArg Prod.snd hreceive)
    have hlt := length_readFrame_lt _ _ hgoesOn
    omega

/-- Every input is run in some number of reads. -/
theorem exists_runsIn (s : Server) (input : List UInt8) :
    ∃ n, s.RunsIn input n (s.run input) := by
  fun_induction run s input with
  | case1 s input s' outcome hreceive => exact ⟨1, .stop hreceive⟩
  | case2 s input s' hreceive ih =>
    obtain ⟨n, hruns⟩ := ih
    exact ⟨n + 1, .next hreceive hruns⟩

end Server

/-- **Progress.** A read that gives a body or refuses a frame leaves an end of the stream that is
    shorter than the stream. A read that finds the end leaves nothing, and then the stream was a
    text whose lines were all skipped. So reading a stream on, as the server does behind every frame
    that it refuses, takes at most as many reads as the stream has bytes, and one more, until the
    stream ends or breaks. -/
theorem reads_progress (limit : Nat) (input : List UInt8) :
    (∀ read rest, readFrame limit input = (read, rest) →
      ((∃ text, read = .body text) ∨ (∃ fault, read = .refused fault) →
        rest <:+ input ∧ rest.length < input.length) ∧
      (read = .ended → rest = [] ∧ ∃ text, input = encodeUtf8 text ∧ Skipped text)) ∧
    (∃ reads last, readFrames limit input = reads ++ [last] ∧
      (reads ++ [last]).length ≤ input.length + 1 ∧
      (∀ read ∈ reads, (∃ text, read = .body text) ∨ ∃ fault, read = .refused fault) ∧
      (last = .ended ∨ ∃ fault, last = .broken fault)) ∧
    (∀ s : Server, (∀ fault, (s.receive (.refused fault)).2 = none) ∧
      (∃ n, s.RunsIn input n (s.run input)) ∧
      ∀ n result, s.RunsIn input n result → n ≤ input.length + 1) := by
  refine ⟨fun read rest hread => ⟨fun hgoesOn => ?_, ?_⟩, ?_, fun s => ?_⟩
  · have hsuffix := suffix_readFrame limit input
    have hlt := length_readFrame_lt limit input (by rw [hread]; exact goesOn_iff.mpr hgoesOn)
    rw [hread] at hsuffix hlt
    exact ⟨hsuffix, hlt⟩
  · rintro rfl
    exact readFrame_eq_ended_iff.mp hread
  · obtain ⟨reads, last, hreads, hlength, hall, hlast⟩ := exists_readFrames_eq limit input
    refine ⟨reads, last, hreads, ?_, fun read hread => goesOn_iff.mp (hall read hread),
      goesOn_eq_false_iff.mp hlast⟩
    rw [List.length_append, List.length_singleton]
    omega
  · exact ⟨fun fault => rfl, s.exists_runsIn input, fun n result hruns => hruns.le_length⟩

/-- A frame that claims all bytes that a length can count is refused, and takes the rest of the
    stream with it. Another header line and a blank line are skipped up to the clean end. -/
theorem reads_progress_oversized :
    (∃ input rest : List UInt8,
      input = encodeUtf8 "Content-Length: 18446744073709551615\r\n\r\nab".toList ∧
      readFrame 3 input = (.refused (.tooLong 18446744073709551615 3), rest) ∧
      rest <:+ input ∧ rest.length < input.length) ∧
    (readFrame 3 (encodeUtf8 "X: y\n\n".toList)).1 = .ended ∧
    (readFrame 3 (encodeUtf8 "X: y\n\n".toList)).2 = [] := by
  have hrefused : readFrame 3 (encodeUtf8 "Content-Length: 18446744073709551615\r\n\r\nab".toList)
      = (.refused (.tooLong 18446744073709551615 3), []) := by
    decide +kernel
  have hended : (readFrame 3 (encodeUtf8 "X: y\n\n".toList)).1 = .ended := by decide +kernel
  refine ⟨⟨_, _, rfl, hrefused, ?_⟩, hended, ?_⟩
  · exact ((reads_progress 3 _).1 _ _ hrefused).1 (.inr ⟨_, rfl⟩)
  · exact (((reads_progress 3 _).1 _ _ rfl).2 hended).1

end ServiceLang
