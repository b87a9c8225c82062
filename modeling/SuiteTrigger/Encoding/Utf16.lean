namespace SuiteTrigger.Utf16

inductive ByteOrder where
  | little
  | big
  deriving DecidableEq

/-- Why bytes are no character. -/
inductive Flaw where
  | truncated
  | endOfData
  | loneLowHalf
  | loneHighHalf
  deriving DecidableEq

structure DecodeError where
  order : ByteOrder
  offset : Nat
  bytes : List UInt8
  flaw : Flaw
  deriving DecidableEq

def unit (order : ByteOrder) (a b : UInt8) : Nat :=
  match order with
  | .little => 256 * b.toNat + a.toNat
  | .big => 256 * a.toNat + b.toNat

def isHighHalf (n : Nat) : Bool := 0xD800 ≤ n && n ≤ 0xDBFF

def isLowHalf (n : Nat) : Bool := 0xDC00 ≤ n && n ≤ 0xDFFF

def charOfPair (high low : Nat) : Char :=
  Char.ofNat (0x10000 + 1024 * (high - 0xD800) + (low - 0xDC00))

/-- Decodes from a place on; `done` holds the characters before it, last one first. -/
def decodeFrom (order : ByteOrder) (offset : Nat) (done : List Char) :
    List UInt8 → Except DecodeError (List Char)
  | [] => .ok done.reverse
  | [a] => .error ⟨order, offset, [a], .truncated⟩
  | a :: b :: rest =>
    let high := unit order a b
    if isLowHalf high then .error ⟨order, offset, [a, b], .loneLowHalf⟩
    else if isHighHalf high then
      match rest with
      | [] => .error ⟨order, offset, [a, b], .endOfData⟩
      | [c] => .error ⟨order, offset, [a, b, c], .endOfData⟩
      | c :: d :: rest =>
        let low := unit order c d
        if isLowHalf low then decodeFrom order (offset + 4) (charOfPair high low :: done) rest
        else .error ⟨order, offset, [a, b], .loneHighHalf⟩
    else decodeFrom order (offset + 2) (Char.ofNat high :: done) rest

def decodeOrdered (order : ByteOrder) (bytes : List UInt8) : Except DecodeError (List Char) :=
  decodeFrom order 0 [] bytes

/-- Decodes bytes that may tell their order by a mark at their start. -/
def decode : List UInt8 → Except DecodeError (List Char)
  | 0xFF :: 0xFE :: rest => decodeFrom .little 2 [] rest
  | 0xFE :: 0xFF :: rest => decodeFrom .big 2 [] rest
  | bytes => decodeOrdered .little bytes

end SuiteTrigger.Utf16
