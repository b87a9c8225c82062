/-!
# Halves of surrogate pairs

Some formats can spell half of a surrogate pair on its own, which is no character. Text that holds
one has a stand-in in its place: the character with the number of the half in a plane that the
standard leaves empty.
-/

namespace SuiteTrigger.Text

/-- Whether a code point is half of a surrogate pair. -/
def isHalf (code : Nat) : Bool := 0xD800 ≤ code && code < 0xE000

/-- The first code point of the plane in which the stand-ins are. -/
def standInPlane : Nat := 0xD0000

/-- The character of a code point, or the stand-in of a half. -/
def charOfCode (code : Nat) : Char := Char.ofNat (if isHalf code then standInPlane + code else code)

/-- Whether a character stands in for a half. -/
def isStandIn (c : Char) : Bool := isHalf (c.toNat - standInPlane)

/-- The code point that a character has or stands in for. -/
def codeOf (c : Char) : Nat := if isStandIn c then c.toNat - standInPlane else c.toNat

/-- Whether a text holds a half, so that it is no Unicode text. -/
def hasHalf (s : String) : Bool := s.toList.any isStandIn

@[simp] theorem hasHalf_empty : hasHalf "" = false := rfl

end SuiteTrigger.Text
