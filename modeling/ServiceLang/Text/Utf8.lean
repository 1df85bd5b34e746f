namespace ServiceLang.Text

/-!
# UTF-8

* `encodeUtf8`: the bytes of a text;
* `decodeUtf8`: the text of some bytes, or where and how they stop being UTF-8;
* `decodeLossy`: the text with a replacement character for each faulty sequence.
-/

/-- The bytes of a text. -/
def encodeUtf8 (s : List Char) : List UInt8 := s.flatMap String.utf8EncodeChar

/-- A continuation byte. -/
def isContinuation (b : UInt8) : Bool := 0x80 ≤ b && b ≤ 0xBF

/-- The range of the second byte of a sequence of three or four, which excludes overlong forms,
    surrogates and code points past the last one. -/
def isSecond (first second : UInt8) : Bool :=
  if first = 0xE0 then 0xA0 ≤ second && second ≤ 0xBF
  else if first = 0xED then 0x80 ≤ second && second ≤ 0x9F
  else if first = 0xF0 then 0x90 ≤ second && second ≤ 0xBF
  else if first = 0xF4 then 0x80 ≤ second && second ≤ 0x8F
  else isContinuation second

/-- The number of bytes that a first byte announces, or 0 when no sequence starts with it. -/
def sequenceLength (b : UInt8) : Nat :=
  if b < 0x80 then 1
  else if 0xC2 ≤ b && b ≤ 0xDF then 2
  else if 0xE0 ≤ b && b ≤ 0xEF then 3
  else if 0xF0 ≤ b && b ≤ 0xF4 then 4
  else 0

/-- The payload of a continuation byte. -/
def payload (b : UInt8) : Nat := b.toNat % 64

/-- How the sequence at the start of some bytes reads: a character and its length, or a fault,
    with its length unless the bytes just end too early. -/
inductive Utf8Step where
  | char (c : Char) (length : Nat)
  | fault (length : Option Nat)
  deriving DecidableEq, Repr

/-- The first sequence of some bytes that start with `b`. -/
def utf8Step (b : UInt8) (rest : List UInt8) : Utf8Step :=
  match sequenceLength b, rest with
  | 1, _ => .char (Char.ofNat b.toNat) 1
  | 2, [] => .fault none
  | 2, c :: _ =>
    if isContinuation c then .char (Char.ofNat (b.toNat % 32 * 64 + payload c)) 2
    else .fault (some 1)
  | 3, [] => .fault none
  | 3, c :: rest =>
    if !isSecond b c then .fault (some 1)
    else match rest with
      | [] => .fault none
      | d :: _ =>
        if isContinuation d then
          .char (Char.ofNat ((b.toNat % 16 * 64 + payload c) * 64 + payload d)) 3
        else .fault (some 2)
  | 4, [] => .fault none
  | 4, c :: rest =>
    if !isSecond b c then .fault (some 1)
    else match rest with
      | [] => .fault none
      | d :: rest =>
        if !isContinuation d then .fault (some 2)
        else match rest with
          | [] => .fault none
          | e :: _ =>
            if isContinuation e then
              .char (Char.ofNat (((b.toNat % 8 * 64 + payload c) * 64 + payload d) * 64 + payload e)) 4
            else .fault (some 3)
  | _, _ => .fault (some 1)

/-- Where bytes stop being UTF-8: the number of good bytes before the fault, and the fault's
    length unless the bytes just end too early. -/
structure Utf8Fault where
  index : Nat
  length : Option Nat
  deriving DecidableEq, Repr

/-- The fault in words. -/
def Utf8Fault.message (fault : Utf8Fault) : String :=
  match fault.length with
  | some n => s!"invalid utf-8 sequence of {n} bytes from index {fault.index}"
  | none => s!"incomplete utf-8 byte sequence from index {fault.index}"

/-- Decodes bytes, `index` of which have been read into `reversed`. -/
def decodeUtf8From (index : Nat) (reversed : List Char) :
    List UInt8 → Except Utf8Fault (List Char)
  | [] => .ok reversed.reverse
  | b :: rest =>
    match utf8Step b rest with
    | .char c length => decodeUtf8From (index + length) (c :: reversed) (rest.drop (length - 1))
    | .fault length => .error ⟨index, length⟩
termination_by bytes => bytes.length
decreasing_by simp only [List.length_drop, List.length_cons]; omega

/-- The text of some bytes. -/
def decodeUtf8 (bytes : List UInt8) : Except Utf8Fault (List Char) := decodeUtf8From 0 [] bytes

/-- The text of some bytes, a replacement character standing for each faulty sequence; `reversed`
    holds what has been read. -/
def decodeLossyFrom (reversed : List Char) : List UInt8 → List Char
  | [] => reversed.reverse
  | b :: rest =>
    match utf8Step b rest with
    | .char c length => decodeLossyFrom (c :: reversed) (rest.drop (length - 1))
    | .fault (some length) => decodeLossyFrom ('�' :: reversed) (rest.drop (length - 1))
    | .fault none => ('�' :: reversed).reverse
termination_by bytes => bytes.length
decreasing_by all_goals simp only [List.length_drop, List.length_cons]; omega

/-- The text of some bytes, a replacement character standing for each faulty sequence. -/
def decodeLossy (bytes : List UInt8) : String := String.ofList (decodeLossyFrom [] bytes)

end ServiceLang.Text
