import SuiteTrigger.Encoding.Multibyte

namespace SuiteTrigger.HanSection

def name : String := "hz"

def pair? (a b : UInt8) : Option Char :=
  Grid.Gb.standard.sign? (a.toNat + 0x80) (b.toNat + 0x80)

/-- Decodes from a place on, in a section or outside one; `done` holds the characters before it,
last one first. -/
def decodeFrom (inside : Bool) (offset : Nat) (done : List Char) :
    List UInt8 → Except Multibyte.DecodeError (List Char)
  | [] => .ok done.reverse
  | [a] =>
    if 0x80 ≤ a then .error ⟨name, offset, [a], .illegal⟩
    else if inside || a = 0x7E then .error ⟨name, offset, [a], .incomplete⟩
    else .ok (Char.ofNat a.toNat :: done).reverse
  | a :: b :: rest =>
    if a = 0x7E then
      match inside, b with
      | false, 0x7E => decodeFrom false (offset + 2) ('~' :: done) rest
      | false, 0x7B => decodeFrom true (offset + 2) done rest
      | false, 0x0A => decodeFrom false (offset + 2) done rest
      | true, 0x7D => decodeFrom false (offset + 2) done rest
      | _, _ => .error ⟨name, offset, [a], .illegal⟩
    else if 0x80 ≤ a then .error ⟨name, offset, [a], .illegal⟩
    else if inside then
      match pair? a b with
      | some c => decodeFrom true (offset + 2) (c :: done) rest
      | none => .error ⟨name, offset, [a], .illegal⟩
    else decodeFrom false (offset + 1) (Char.ofNat a.toNat :: done) (b :: rest)

def decode (bytes : List UInt8) : Except Multibyte.DecodeError (List Char) :=
  decodeFrom false 0 [] bytes

end SuiteTrigger.HanSection
