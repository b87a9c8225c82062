/-!
# UTF-8

Decoding takes the longest well-formed sequence at each place and refuses the text at the first
byte that belongs to none. The refusal names the bytes that began a sequence and why it does not go
on: a byte that starts no sequence, a byte that does not continue one, or the end of the data.
-/

namespace SuiteTrigger.Utf8

/-- Why a sequence of bytes is no character. -/
inductive Flaw where
  | startByte
  | continuationByte
  | endOfData
  deriving DecidableEq

/-- A refused sequence: its place, its bytes and its flaw. -/
structure DecodeError where
  offset : Nat
  bytes : List UInt8
  flaw : Flaw
  deriving DecidableEq

def encode (cs : List Char) : List UInt8 := cs.flatMap String.utf8EncodeChar

def isContinuation (b : UInt8) : Bool := 0x80 ≤ b && b < 0xC0

/-- The continuation bytes that may follow a first byte: overlong forms, halves of surrogate pairs
and code points above the last one are excluded here. -/
def maySecond (first second : UInt8) : Bool :=
  isContinuation second &&
    (if first = 0xE0 then 0xA0 ≤ second
    else if first = 0xED then second < 0xA0
    else if first = 0xF0 then 0x90 ≤ second
    else if first = 0xF4 then second < 0x90
    else true)

/-- The number of bytes of the sequences that begin with a byte; zero where none does. -/
def sequenceLength (first : UInt8) : Nat :=
  if first < 0x80 then 1
  else if first < 0xC2 then 0
  else if first < 0xE0 then 2
  else if first < 0xF0 then 3
  else if first < 0xF5 then 4
  else 0

def payload (b : UInt8) : Nat := b.toNat % 64

/-- The first sequence of a byte string: its character and the bytes after it, or the bytes that
are refused and their flaw. -/
def first (b : UInt8) (rest : List UInt8) :
    Except (List UInt8 × Flaw) (Char × List UInt8) :=
  match sequenceLength b, rest with
  | 0, _ => .error ([b], .startByte)
  | 1, rest => .ok (Char.ofNat b.toNat, rest)
  | _, [] => .error ([b], .endOfData)
  | length, c :: rest =>
    if !maySecond b c then .error ([b], .continuationByte)
    else if length = 2 then
      .ok (Char.ofNat (b.toNat % 32 * 64 + payload c), rest)
    else match rest with
      | [] => .error ([b, c], .endOfData)
      | d :: rest =>
        if !isContinuation d then .error ([b, c], .continuationByte)
        else if length = 3 then
          .ok (Char.ofNat (b.toNat % 16 * 4096 + payload c * 64 + payload d), rest)
        else match rest with
          | [] => .error ([b, c, d], .endOfData)
          | e :: rest =>
            if !isContinuation e then .error ([b, c, d], .continuationByte)
            else
              .ok (Char.ofNat
                (b.toNat % 8 * 262144 + payload c * 4096 + payload d * 64 + payload e), rest)

theorem length_le_of_first {b : UInt8} {bytes rest : List UInt8} {c : Char}
    (h : first b bytes = .ok (c, rest)) : rest.length ≤ bytes.length := by
  unfold first at h
  grind

/-- Decodes from a place on; `done` holds the characters before it, last one first. -/
def decodeFrom (offset : Nat) (done : List Char) : List UInt8 → Except DecodeError (List Char)
  | [] => .ok done.reverse
  | b :: bytes =>
    match h : first b bytes with
    | .error (refused, flaw) => .error ⟨offset, refused, flaw⟩
    | .ok (c, rest) =>
      have := length_le_of_first h
      decodeFrom (offset + (bytes.length + 1 - rest.length)) (c :: done) rest
termination_by bytes => bytes.length

def decode (bytes : List UInt8) : Except DecodeError (List Char) := decodeFrom 0 [] bytes

/-- Decodes with a replacement character for every refused sequence. -/
def decodeLossyFrom (done : List Char) : List UInt8 → List Char
  | [] => done.reverse
  | b :: bytes =>
    match h : first b bytes with
    | .error (refused, _) => decodeLossyFrom ('\ufffd' :: done) (bytes.drop (refused.length - 1))
    | .ok (c, rest) =>
      have := length_le_of_first h
      decodeLossyFrom (c :: done) rest
termination_by bytes => bytes.length

def decodeLossy (bytes : List UInt8) : List Char := decodeLossyFrom [] bytes

end SuiteTrigger.Utf8
