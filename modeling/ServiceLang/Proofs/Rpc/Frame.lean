import Mathlib.Data.List.Forall2
import ServiceLang.Proofs.Text.Number
import ServiceLang.Proofs.Text.Utf8
import ServiceLang.Rpc.Frame

namespace ServiceLang

open Text

/-!
# Frames one behind another

A stream of frames is read frame by frame, and each read leaves exactly the bytes of the frames
behind it, also when the frame is refused.

* `RawFrame`: a frame as it may be sent, with blank lines and other header lines before its length;
* `RawFrame.Reads`: what reading it gives, told by the bytes of its body alone;
* `readFrame_bytes`: one frame before anything else;
* `readFrames`: reading on until the stream ends or cannot be read on;
* `readFrames_flatMap_bytes`: a whole stream.
-/

/-! ### Header lines -/

/-- A line with its line feed, as bytes. -/
def lineBytes (line : List Char) : List UInt8 := encodeUtf8 (line ++ ['\n'])

/-- The first line of a stream ends with its first line feed. -/
theorem splitLine_append {line : List UInt8} (h : 10 ∉ line) (rest : List UInt8) :
    splitLine (line ++ 10 :: rest) = (line ++ [10], rest) := by
  induction line with
  | nil => rfl
  | cons b line ih =>
    have hb : b ≠ 10 := fun hb => h (hb ▸ List.mem_cons_self)
    have hline : 10 ∉ line := fun hmem => h (List.mem_cons_of_mem b hmem)
    rw [List.cons_append, splitLine, if_neg hb, ih hline]
    rfl

theorem lineBytes_eq (line : List Char) : lineBytes line = encodeUtf8 line ++ [10] := by
  unfold lineBytes
  rw [encodeUtf8_append]
  rfl

theorem splitLine_lineBytes {line : List Char} (h : '\n' ∉ line) (rest : List UInt8) :
    splitLine (lineBytes line ++ rest) = (lineBytes line, rest) := by
  have hbytes : 10 ∉ encodeUtf8 line := fun hmem => h (newline_mem_encodeUtf8.mp hmem)
  rw [lineBytes_eq, List.append_assoc]
  exact splitLine_append hbytes rest

theorem blank_singleton {c : Char} (h : isSpace c = true) : Blank [c] := by
  intro x hx
  rw [List.mem_singleton.mp hx]
  exact h

/-- Blanks at the end of a line count neither for its being blank nor for the length that it
    gives. -/
theorem isBlank_append_of_blank {gap : List Char} (h : Blank gap) (line : List Char) :
    isBlank (line ++ gap) = isBlank line := by
  have hgap : gap.all isSpace = true := List.all_eq_true.mpr h
  rw [isBlank, List.all_append, hgap, Bool.and_true]
  rfl

theorem lineLength_append_of_blank {gap : List Char} (h : Blank gap) (line : List Char) :
    lineLength (line ++ gap) = lineLength line := by
  unfold lineLength
  rw [trim_append h]

theorem isBlank_append_newline (line : List Char) : isBlank (line ++ ['\n']) = isBlank line :=
  isBlank_append_of_blank (blank_singleton (by decide)) line

theorem lineLength_append_newline (line : List Char) :
    lineLength (line ++ ['\n']) = lineLength line :=
  lineLength_append_of_blank (blank_singleton (by decide)) line

section Lines

variable {begun : Bool} {length : Option Nat} {line : List Char} {n : Nat}

/-- Reading a header starts with its first line, which is read as the text that it encodes. -/
theorem exists_cons_lineBytes (h : '\n' ∉ line) (rest : List UInt8) :
    ∃ b s, lineBytes line ++ rest = b :: s ∧ splitLine (b :: s) = (lineBytes line, rest) ∧
      decodeUtf8 (lineBytes line) = .ok (line ++ ['\n']) := by
  have hsplit := splitLine_lineBytes h rest
  cases hs : lineBytes line ++ rest with
  | nil => simp [lineBytes_eq] at hs
  | cons b s => exact ⟨b, s, rfl, hs ▸ hsplit, decodeUtf8_eq_ok_iff.mpr rfl⟩

/-- A blank line ends the header when a length has been given. -/
theorem readHeader_blank_of_some (h : '\n' ∉ line) (hblank : isBlank line = true)
    (rest : List UInt8) :
    readHeader begun (some n) (lineBytes line ++ rest) = .length n rest := by
  obtain ⟨b, s, hs, hsplit, hdecode⟩ := exists_cons_lineBytes h rest
  rw [hs, readHeader.eq_def]
  simp [hsplit, hdecode, isBlank_append_newline, hblank]

/-- A blank line is skipped as long as no length has been given. -/
theorem readHeader_blank_of_none (h : '\n' ∉ line) (hblank : isBlank line = true)
    (rest : List UInt8) :
    readHeader begun none (lineBytes line ++ rest) = readHeader false none rest := by
  obtain ⟨b, s, hs, hsplit, hdecode⟩ := exists_cons_lineBytes h rest
  rw [hs, readHeader.eq_def]
  simp [hsplit, hdecode, isBlank_append_newline, hblank]

/-- A header line that gives no length is skipped. -/
theorem readHeader_other (h : '\n' ∉ line) (hblank : isBlank line = false)
    (hlength : lineLength line = none) (rest : List UInt8) :
    readHeader begun length (lineBytes line ++ rest) = readHeader true length rest := by
  obtain ⟨b, s, hs, hsplit, hdecode⟩ := exists_cons_lineBytes h rest
  rw [hs, readHeader.eq_def]
  simp [hsplit, hdecode, isBlank_append_newline, lineLength_append_newline, hblank, hlength]

/-- A header line gives the length of the body. -/
theorem readHeader_length (h : '\n' ∉ line) (hblank : isBlank line = false)
    (hlength : lineLength line = some (.ok n)) (rest : List UInt8) :
    readHeader begun length (lineBytes line ++ rest) = readHeader true (some n) rest := by
  obtain ⟨b, s, hs, hsplit, hdecode⟩ := exists_cons_lineBytes h rest
  rw [hs, readHeader.eq_def]
  simp [hsplit, hdecode, isBlank_append_newline, lineLength_append_newline, hblank, hlength]

end Lines

/-- The text of a line that gives a length, up to its line feed. -/
def lengthLine (n : Nat) : List Char := lengthField.toList ++ ' ' :: digits n ++ ['\r']

/-- The line that gives a length gives that length. -/
theorem lineLength_lengthLine {n : Nat} (h : n ≤ maxWord64) :
    lineLength (lengthLine n) = some (.ok n) := by
  have hend : NoTrailingBlank (digits n) := by
    intro c hc
    exact blankFree_digits n c (List.mem_reverse.mp (List.mem_of_mem_head? hc))
  have hstart : StopsAt isSpace (lengthField.toList ++ ([' '] ++ digits n)) := by
    intro c hc
    rw [show c = 'C' by simpa [lengthField] using hc.symm]
    decide
  -- the digits end the line, so that trimming takes off the carriage return only
  have hline : trim (lengthLine n) = lengthField.toList ++ ([' '] ++ digits n) := by
    unfold lengthLine
    rw [trim_append (blank_singleton (by decide))]
    refine trim_eq_self hstart ?_
    show NoTrailingBlank (lengthField.toList ++ ([' '] ++ digits n))
    rw [← List.append_assoc]
    exact hend.append Nat.toDigits_ne_nil _
  have hvalue : trim ([' '] ++ digits n) = digits n := by
    unfold trim
    rw [trimStart_append (blank_singleton (by decide))]
    exact trim_eq_self (fun c hc => blankFree_digits n c (List.mem_of_mem_head? hc)) hend
  unfold lineLength
  rw [hline, strip?_eq_some_iff.mpr rfl]
  simp only [hvalue, readBounded_digits h]

/-- The bytes before a body: the line with its length, and a blank line. -/
def lengthHeader (n : Nat) : List UInt8 := lineBytes (lengthLine n) ++ lineBytes ['\r']

/-- A body is framed by the line with its length and a blank line. -/
theorem frame_eq (text : String) :
    frame text = lengthHeader (encodeUtf8 text.toList).length ++ encodeUtf8 text.toList := by
  have hheader (n : Nat) : (lengthField ++ s!" {n}\r\n\r\n").toList =
      (lengthLine n ++ ['\n']) ++ (['\r'] ++ ['\n']) := by
    simp [lengthLine, toString, digits]
  unfold frame lengthHeader lineBytes
  simp only [hheader, encodeUtf8_append]

/-! ### One frame -/

/-- A frame as it may be sent: blank lines, header lines that give no length, the length, and a
    body of any bytes. Lines are given without their line feeds, and lengths are 64-bit numbers. -/
structure RawFrame where
  blanks : List (List Char)
  headers : List (List Char)
  body : List UInt8
  blank_lines : ∀ line ∈ blanks, '\n' ∉ line ∧ isBlank line = true
  header_lines : ∀ line ∈ headers, '\n' ∉ line ∧ isBlank line = false ∧
    ¬ lengthField.toList <+: trim line
  length_le : body.length ≤ maxWord64

namespace RawFrame

/-- The bytes of a frame. -/
def bytes (f : RawFrame) : List UInt8 :=
  f.blanks.flatMap lineBytes ++ f.headers.flatMap lineBytes ++
    lengthHeader f.body.length ++ f.body

/-- A frame with nothing before the length. -/
def ofText (text : String) (h : (encodeUtf8 text.toList).length ≤ maxWord64) : RawFrame where
  blanks := []
  headers := []
  body := encodeUtf8 text.toList
  blank_lines := by simp
  header_lines := by simp
  length_le := h

/-- What reading a frame gives under a limit, told by the bytes of its body. -/
inductive Reads (f : RawFrame) (limit : Nat) : FrameRead → Prop
  | body (text : String) (hlimit : f.body.length ≤ limit)
      (htext : f.body = encodeUtf8 text.toList) : Reads f limit (.body text)
  | tooLong (hlimit : limit < f.body.length) :
      Reads f limit (.refused (.tooLong f.body.length limit))
  | badText (hlimit : f.body.length ≤ limit)
      (htext : ∀ text : String, f.body ≠ encodeUtf8 text.toList) :
      Reads f limit (.refused .badText)

end RawFrame

/-- Blank lines between frames are skipped. -/
theorem readHeader_blanks {blanks : List (List Char)}
    (h : ∀ line ∈ blanks, '\n' ∉ line ∧ isBlank line = true) (rest : List UInt8) :
    readHeader false none (blanks.flatMap lineBytes ++ rest) = readHeader false none rest := by
  induction blanks with
  | nil => rfl
  | cons line blanks ih =>
    obtain ⟨⟨hline, hblank⟩, hblanks⟩ := List.forall_mem_cons.mp h
    rw [List.flatMap_cons, List.append_assoc, readHeader_blank_of_none hline hblank, ih hblanks]

/-- A line that does not name the length gives none. -/
theorem lineLength_eq_none {line : List Char} (h : ¬ lengthField.toList <+: trim line) :
    lineLength line = none := by
  unfold lineLength
  cases hstrip : strip? lengthField.toList (trim line) with
  | none => rfl
  | some value => exact absurd ⟨value, (strip?_eq_some_iff.mp hstrip).symm⟩ h

/-- Other header lines are skipped; only whether the header has begun changes. -/
theorem readHeader_headers {headers : List (List Char)}
    (h : ∀ line ∈ headers, '\n' ∉ line ∧ isBlank line = false ∧ ¬ lengthField.toList <+: trim line)
    (begun : Bool) (rest : List UInt8) :
    ∃ begun', readHeader begun none (headers.flatMap lineBytes ++ rest) =
      readHeader begun' none rest := by
  induction headers generalizing begun with
  | nil => exact ⟨begun, rfl⟩
  | cons line headers ih =>
    obtain ⟨⟨hline, hblank, hother⟩, hheaders⟩ := List.forall_mem_cons.mp h
    rw [List.flatMap_cons, List.append_assoc,
      readHeader_other hline hblank (lineLength_eq_none hother)]
    exact ih hheaders true

/-- No line feed occurs in the line that gives a length. -/
theorem newline_not_mem_lengthLine (n : Nat) : '\n' ∉ lengthLine n := by
  intro h
  have hdigits : '\n' ∉ digits n := fun hmem =>
    absurd (isAsciiDigit_of_mem_digits hmem) (by decide)
  simp [lengthLine, lengthField, hdigits] at h

theorem isBlank_lengthLine (n : Nat) : isBlank (lengthLine n) = false := by
  have hc : isSpace 'C' = false := by decide
  simp [lengthLine, lengthField, isBlank, hc]

/-- The length and the blank line behind it end the header. -/
theorem readHeader_lengthHeader {begun : Bool} {n : Nat} (h : n ≤ maxWord64) (rest : List UInt8) :
    readHeader begun none (lengthHeader n ++ rest) = .length n rest := by
  unfold lengthHeader
  rw [List.append_assoc, readHeader_length (newline_not_mem_lengthLine n) (isBlank_lengthLine n)
    (lineLength_lengthLine h), readHeader_blank_of_some (by decide) (by decide)]

/-- A body is cut off the stream at its length, whatever its bytes are. -/
theorem readBody_append (f : RawFrame) (limit : Nat) (rest : List UInt8) :
    ∃ read, readBody limit f.body.length (f.body ++ rest) = (read, rest) ∧ f.Reads limit read := by
  unfold readBody
  by_cases hlimit : limit < f.body.length
  · rw [if_pos hlimit, List.drop_left]
    exact ⟨_, rfl, .tooLong hlimit⟩
  · have hle : f.body.length ≤ limit := Nat.le_of_not_lt hlimit
    simp only [if_neg hlimit, List.take_left, List.drop_left, Nat.lt_irrefl, if_false]
    cases hdecode : decodeUtf8 f.body with
    | ok text =>
      refine ⟨_, rfl, .body _ hle ?_⟩
      rw [String.toList_ofList]
      exact decodeUtf8_eq_ok_iff.mp hdecode
    | error fault =>
      refine ⟨_, rfl, .badText hle fun text htext => ?_⟩
      rw [decodeUtf8_eq_ok_iff.mpr htext] at hdecode
      cases hdecode

/-- **One frame.** Before any other bytes, a frame reads as its body tells, and exactly the other
    bytes are left. -/
theorem readFrame_bytes (f : RawFrame) (limit : Nat) (rest : List UInt8) :
    ∃ read, readFrame limit (f.bytes ++ rest) = (read, rest) ∧ f.Reads limit read := by
  unfold RawFrame.bytes
  simp only [List.append_assoc]
  obtain ⟨begun, hheaders⟩ := readHeader_headers f.header_lines false
    (lengthHeader f.body.length ++ (f.body ++ rest))
  have hheader : readHeader false none (f.blanks.flatMap lineBytes ++
      (f.headers.flatMap lineBytes ++ (lengthHeader f.body.length ++ (f.body ++ rest)))) =
      .length f.body.length (f.body ++ rest) := by
    rw [readHeader_blanks f.blank_lines, hheaders, readHeader_lengthHeader f.length_le]
  unfold readFrame
  rw [hheader]
  exact readBody_append f limit rest

/-! ### Streams -/

/-- The frames of a stream, read until it ends or cannot be read on. -/
def readFrames (limit : Nat) (s : List UInt8) : List FrameRead :=
  if _h : (readFrame limit s).1.goesOn = true then
    (readFrame limit s).1 :: readFrames limit (readFrame limit s).2
  else [(readFrame limit s).1]
termination_by s.length
decreasing_by exact length_readFrame_lt limit s _h

/-- Reading goes on behind a frame. -/
theorem RawFrame.Reads.goesOn {f : RawFrame} {limit : Nat} {read : FrameRead}
    (h : f.Reads limit read) : read.goesOn = true := by
  cases h <;> rfl

/-- A text within the limit reads as itself only. -/
theorem RawFrame.Reads.eq_body {text : String} {limit : Nat} {read : FrameRead}
    {h : (encodeUtf8 text.toList).length ≤ maxWord64}
    (hreads : (RawFrame.ofText text h).Reads limit read)
    (hlimit : (encodeUtf8 text.toList).length ≤ limit) : read = .body text := by
  cases hreads with
  | body other _ htext =>
    have hsame : text.toList = other.toList := by
      have hdecode := decodeUtf8_eq_ok_iff.mpr (show encodeUtf8 text.toList = _ from htext)
      rw [decodeUtf8_eq_ok_iff.mpr rfl] at hdecode
      exact Except.ok.inj hdecode
    rw [String.toList_inj.mp hsame]
  | tooLong hlong => exact absurd hlimit (Nat.not_le_of_lt hlong)
  | badText _ hbad => exact absurd rfl (hbad text)

theorem readFrames_nil (limit : Nat) : readFrames limit [] = [.ended] := by
  rw [readFrames]
  simp [readFrame, readHeader, FrameRead.goesOn]

/-- The first frame of a stream gives one outcome, and the rest of the stream the others. -/
theorem readFrames_bytes_append (f : RawFrame) (limit : Nat) (rest : List UInt8) :
    ∃ read, readFrames limit (f.bytes ++ rest) = read :: readFrames limit rest ∧
      f.Reads limit read := by
  obtain ⟨read, hread, hf⟩ := readFrame_bytes f limit rest
  refine ⟨read, ?_, hf⟩
  rw [readFrames, dif_pos (by rw [hread]; exact hf.goesOn), hread]

/-- A whole stream of frames is read frame by frame, up to its end. -/
theorem readFrames_rawFrames (limit : Nat) (frames : List RawFrame) :
    ∃ reads, readFrames limit (frames.flatMap (·.bytes)) = reads ++ [.ended] ∧
      List.Forall₂ (fun f read => f.Reads limit read) frames reads := by
  induction frames with
  | nil => exact ⟨[], readFrames_nil limit, .nil⟩
  | cons f frames ih =>
    obtain ⟨reads, hreads, hframes⟩ := ih
    obtain ⟨read, hread, hf⟩ := readFrames_bytes_append f limit (frames.flatMap (·.bytes))
    refine ⟨read :: reads, ?_, .cons hf hframes⟩
    rw [List.flatMap_cons, hread, hreads]
    rfl

/-- Framed texts are read back. -/
theorem readFrames_texts {limit : Nat} (hlimit : limit ≤ maxWord64) {texts : List String}
    (h : ∀ text ∈ texts, (encodeUtf8 text.toList).length ≤ limit) :
    readFrames limit (texts.flatMap frame) = texts.map .body ++ [.ended] := by
  induction texts with
  | nil => exact readFrames_nil limit
  | cons text texts ih =>
    obtain ⟨htext, htexts⟩ := List.forall_mem_cons.mp h
    have hword := Nat.le_trans htext hlimit
    have hframe : frame text = (RawFrame.ofText text hword).bytes := frame_eq text
    obtain ⟨read, hread, hreads⟩ :=
      readFrames_bytes_append (.ofText text hword) limit (texts.flatMap frame)
    rw [List.flatMap_cons, hframe, hread, hreads.eq_body htext, ih htexts]
    rfl

/-- **Frames one behind another.** Reading a stream of frames gives one outcome for each frame, in
    order, as its body tells, and then the end of the stream. Each read leaves exactly the bytes
    behind its frame, whatever they are. So texts within the limit that were framed one behind
    another are read back. -/
theorem readFrames_flatMap_bytes (limit : Nat) :
    (∀ frames : List RawFrame, ∃ reads,
      readFrames limit (frames.flatMap (·.bytes)) = reads ++ [.ended] ∧
        List.Forall₂ (fun f read => f.Reads limit read) frames reads) ∧
    (∀ (f : RawFrame) (rest : List UInt8), ∃ read,
      readFrame limit (f.bytes ++ rest) = (read, rest) ∧ f.Reads limit read) ∧
    (limit ≤ maxWord64 → ∀ texts : List String,
      (∀ text ∈ texts, (encodeUtf8 text.toList).length ≤ limit) →
      readFrames limit (texts.flatMap frame) = texts.map .body ++ [.ended]) := by
  refine ⟨readFrames_rawFrames limit, ?_, ?_⟩
  · intro f rest
    exact readFrame_bytes f limit rest
  · intro hlimit texts h
    exact readFrames_texts hlimit h

/-- A frame behind a blank line and another header line, whose body is no text, leaves the frame
    behind it as it is; and a text of three bytes and the empty one are read back under a limit of
    three bytes. -/
theorem readFrames_flatMap_bytes_euro :
    (∃ f : RawFrame, f.blanks = [['\r']] ∧ f.headers = [['X', ':', '\r']] ∧ f.body = [255] ∧
      ∃ read, readFrame 3 (f.bytes ++ frame "€") = (read, frame "€") ∧ f.Reads 3 read) ∧
    readFrames 3 (["€", ""].flatMap frame) = [.body "€", .body "", .ended] := by
  refine ⟨⟨⟨[['\r']], [['X', ':', '\r']], [255], by decide, by decide, by decide⟩, rfl, rfl, rfl,
    (readFrames_flatMap_bytes 3).2.1 _ _⟩, ?_⟩
  exact (readFrames_flatMap_bytes 3).2.2 (by decide) ["€", ""] (by decide)

end ServiceLang
