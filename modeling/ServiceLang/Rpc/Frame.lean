import ServiceLang.Rpc.Error
import ServiceLang.Text.Lines
import ServiceLang.Text.Number
import ServiceLang.Text.Space
import ServiceLang.Text.Utf8

namespace ServiceLang

/-!
# Frames

A body travels behind a header that gives its length in bytes; a blank line ends the header.

* `frame`: the bytes of a body with its header;
* `contentLength`: the length that a header gives;
* `readFrame`: the first body of a stream, and the rest of the stream.
-/

/-- The name of the header line that counts. -/
def lengthField : String := "Content-Length:"

/-- The longest body, in bytes. -/
def maxFrameLength : Nat := 67108864

/-- A body with its header. -/
def frame (body : String) : List UInt8 :=
  let bytes := Text.encodeUtf8 body.toList
  Text.encodeUtf8 (lengthField ++ s!" {bytes.length}\r\n\r\n").toList ++ bytes

/-- Why a frame is refused. The stream can be read on behind it. -/
inductive FrameFault where
  | badLength (value : String)
  | missingLength
  | cutHeader
  | tooLong (length limit : Nat)
  | badText
  deriving DecidableEq, Repr

/-- The fault in words. -/
def FrameFault.text : FrameFault → String
  | .badLength value => s!"invalid Content-Length: {value}"
  | .missingLength => "missing Content-Length header"
  | .cutHeader => "end of stream inside header"
  | .tooLong length limit => s!"frame of {length} bytes exceeds the {limit} byte limit"
  | .badText => "invalid UTF-8 in body"

/-- Why a stream cannot be read on. -/
inductive StreamFault where
  | badHeader (fault : Text.Utf8Fault)
  | cutBody
  deriving DecidableEq, Repr

/-- The fault in words. -/
def StreamFault.text : StreamFault → String
  | .badHeader fault => fault.message
  | .cutBody => "early eof"

/-- The length that a header line gives; none for other header lines. -/
def lineLength (line : List Char) : Option (Except FrameFault Nat) :=
  match Text.strip? lengthField.toList (Text.trim line) with
  | none => none
  | some value =>
    match Text.readBounded Text.maxWord64 (Text.trim value) with
    | some n => some (.ok n)
    | none => some (.error (.badLength (String.ofList (Text.trim value))))

/-- The length that the first such line of a header gives. -/
def contentLength (header : String) : Except FrameFault Nat :=
  ((Text.lines header.toList).findSome? lineLength).getD (.error .missingLength)

/-- The first line of a stream with its line feed, and what follows. -/
def splitLine : List UInt8 → List UInt8 × List UInt8
  | [] => ([], [])
  | b :: rest =>
    if b = 10 then ([b], rest)
    else
      let (line, rest) := splitLine rest
      (b :: line, rest)

/-- A line and what follows are no longer than the stream. -/
theorem length_splitLine_snd (s : List UInt8) : (splitLine s).2.length ≤ s.length := by
  induction s with
  | nil => simp [splitLine]
  | cons b rest ih =>
    simp only [splitLine]
    split
    · simp
    · simp only [List.length_cons]; omega

/-- What follows the first line of a stream is shorter than the stream. -/
theorem length_splitLine_lt (b : UInt8) (rest : List UInt8) :
    (splitLine (b :: rest)).2.length < (b :: rest).length := by
  simp only [splitLine]
  split
  · simp
  · have h := length_splitLine_snd rest
    simp only [List.length_cons]; omega

/-- How the header of a frame reads: the length of the body and the bytes behind the header, the
    end of the stream, or a fault. -/
inductive HeaderRead where
  | length (n : Nat) (rest : List UInt8)
  | ended
  | refused (fault : FrameFault) (rest : List UInt8)
  | broken (fault : StreamFault) (rest : List UInt8)

/-- Reads header lines. The length is what the last line that gives one says. A blank line ends
    the header when a length has been given, and is skipped otherwise; `begun` says whether the
    stream may not end here. -/
def readHeader (begun : Bool) (length : Option Nat) : List UInt8 → HeaderRead
  | [] => if begun then .refused .cutHeader [] else .ended
  | b :: s =>
    match Text.decodeUtf8 (splitLine (b :: s)).1 with
    | .error fault => .broken (.badHeader fault) (splitLine (b :: s)).2
    | .ok line =>
      if Text.isBlank line then
        match length with
        | some n => .length n (splitLine (b :: s)).2
        | none => readHeader false none (splitLine (b :: s)).2
      else
        match lineLength line with
        | none => readHeader true length (splitLine (b :: s)).2
        | some (.ok n) => readHeader true (some n) (splitLine (b :: s)).2
        | some (.error fault) => .refused fault (splitLine (b :: s)).2
termination_by stream => stream.length
decreasing_by all_goals exact length_splitLine_lt b s

/-- The bytes behind a header that was read or refused. -/
def HeaderRead.rest? : HeaderRead → Option (List UInt8)
  | .length _ rest => some rest
  | .refused _ rest => some rest
  | _ => none

/-- Reading a header takes at least one byte of a stream that has one. -/
theorem length_readHeader_le (begun : Bool) (length : Option Nat) (s rest : List UInt8)
    (h : (readHeader begun length s).rest? = some rest) :
    rest.length ≤ s.length - 1 := by
  fun_induction readHeader begun length s with
  | case1 => simp_all [HeaderRead.rest?]
  | case2 => simp_all [HeaderRead.rest?]
  | case3 => simp_all [HeaderRead.rest?]
  | case4 begun b s line hline blank n =>
    have hlt := length_splitLine_lt b s
    simp only [HeaderRead.rest?, Option.some.injEq] at h
    rw [← h]
    omega
  | case5 begun b s line hline blank ih =>
    have hlt := length_splitLine_lt b s
    have hle := ih h
    omega
  | case6 length begun b s line hline blank none ih =>
    have hlt := length_splitLine_lt b s
    have hle := ih h
    omega
  | case7 length begun b s line hline blank n found ih =>
    have hlt := length_splitLine_lt b s
    have hle := ih h
    omega
  | case8 length begun b s line hline blank fault found =>
    have hlt := length_splitLine_lt b s
    simp only [HeaderRead.rest?, Option.some.injEq] at h
    rw [← h]
    omega

/-- How a frame reads: its body, the end of the stream, or a fault. -/
inductive FrameRead where
  | body (text : String)
  | ended
  | refused (fault : FrameFault)
  | broken (fault : StreamFault)
  deriving DecidableEq, Repr

/-- Whether reading can go on behind a frame. -/
def FrameRead.goesOn : FrameRead → Bool
  | .body _ => true
  | .refused _ => true
  | _ => false

/-- The body of the given length at the start of a stream, and the rest. A body above the limit
    is skipped. -/
def readBody (limit length : Nat) (s : List UInt8) : FrameRead × List UInt8 :=
  if limit < length then (.refused (.tooLong length limit), s.drop length)
  else
    let bytes := s.take length
    if bytes.length < length then (.broken .cutBody, [])
    else
      match Text.decodeUtf8 bytes with
      | .ok text => (.body (String.ofList text), s.drop length)
      | .error _ => (.refused .badText, s.drop length)

/-- The first frame of a stream, and the rest. -/
def readFrame (limit : Nat) (s : List UInt8) : FrameRead × List UInt8 :=
  match readHeader false none s with
  | .length n rest => readBody limit n rest
  | .ended => (.ended, [])
  | .refused fault rest => (.refused fault, rest)
  | .broken fault rest => (.broken fault, rest)

/-- The rest behind a body is no longer than the stream. -/
theorem length_readBody_le (limit length : Nat) (s : List UInt8) :
    (readBody limit length s).2.length ≤ s.length := by
  unfold readBody
  split
  · simp
  · dsimp only
    split
    · simp
    · split <;> simp

/-- A frame behind which reading goes on takes at least one byte. -/
theorem length_readFrame_lt (limit : Nat) (s : List UInt8)
    (h : (readFrame limit s).1.goesOn = true) : (readFrame limit s).2.length < s.length := by
  cases s with
  | nil => simp [readFrame, readHeader, FrameRead.goesOn] at h
  | cons b s =>
    have hle := length_readHeader_le false none (b :: s)
    unfold readFrame at h ⊢
    split
    next n rest heq =>
      have := hle rest (by simp [heq, HeaderRead.rest?])
      have := length_readBody_le limit n rest
      simp only [List.length_cons] at *
      omega
    next heq => simp [heq, FrameRead.goesOn] at h
    next fault rest heq =>
      have := hle rest (by simp [heq, HeaderRead.rest?])
      simp only [List.length_cons] at *
      omega
    next fault rest heq => simp [heq, FrameRead.goesOn] at h

end ServiceLang
