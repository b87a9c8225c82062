import SuiteTrigger.Encoding.Utf16
import SuiteTrigger.Text.Half

namespace SuiteTrigger.Utf32

open Utf16 (ByteOrder)

/-- Why bytes are no character. -/
inductive Flaw where
  | truncated
  /-- Half of a surrogate pair. -/
  | half
  | tooLarge
  deriving DecidableEq

structure DecodeError where
  order : ByteOrder
  offset : Nat
  bytes : List UInt8
  flaw : Flaw
  deriving DecidableEq

def codePoint (order : ByteOrder) (a b c d : UInt8) : Nat :=
  match order with
  | .little => ((d.toNat * 256 + c.toNat) * 256 + b.toNat) * 256 + a.toNat
  | .big => ((a.toNat * 256 + b.toNat) * 256 + c.toNat) * 256 + d.toNat

def codePointLimit : Nat := 0x110000

/-- Decodes from a place on; `done` holds the characters before it, last one first. -/
def decodeFrom (order : ByteOrder) (offset : Nat) (done : List Char) :
    List UInt8 → Except DecodeError (List Char)
  | [] => .ok done.reverse
  | a :: b :: c :: d :: rest =>
    let n := codePoint order a b c d
    if Text.isHalf n then .error ⟨order, offset, [a, b, c, d], .half⟩
    else if codePointLimit ≤ n then .error ⟨order, offset, [a, b, c, d], .tooLarge⟩
    else decodeFrom order (offset + 4) (Char.ofNat n :: done) rest
  | bytes => .error ⟨order, offset, bytes, .truncated⟩

def decodeOrdered (order : ByteOrder) (bytes : List UInt8) : Except DecodeError (List Char) :=
  decodeFrom order 0 [] bytes

/-- Decodes bytes that may tell their order by a mark at their start. -/
def decode : List UInt8 → Except DecodeError (List Char)
  | 0xFF :: 0xFE :: 0 :: 0 :: rest => decodeFrom .little 4 [] rest
  | 0 :: 0 :: 0xFE :: 0xFF :: rest => decodeFrom .big 4 [] rest
  | bytes => decodeOrdered .little bytes

end SuiteTrigger.Utf32
