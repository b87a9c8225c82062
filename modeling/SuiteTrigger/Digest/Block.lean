/-!
# Blocks of a message

The digests work on blocks of 64 bytes. A message is followed by the byte `0x80`, by the fewest
zeros that leave eight bytes in the last block, and by its length in bits in those eight bytes. A
block is read as sixteen words of four bytes, first byte highest.
-/

namespace SuiteTrigger.Digest

def blockSize : Nat := 64

/-- The lowest `width` bytes of a number, first byte highest. -/
def bytesOfNat : Nat → Nat → List UInt8
  | 0, _ => []
  | width + 1, n => bytesOfNat width (n / 256) ++ [UInt8.ofNat (n % 256)]

/-- How many zeros a message of the given size is padded with. -/
def zerosFor (size : Nat) : Nat := (blockSize - (size + 9) % blockSize) % blockSize

def pad (message : List UInt8) : List UInt8 :=
  message ++ 0x80 :: List.replicate (zerosFor message.length) 0 ++
    bytesOfNat 8 (8 * message.length)

def word (a b c d : UInt8) : UInt32 :=
  UInt32.ofNat (((a.toNat * 256 + b.toNat) * 256 + c.toNat) * 256 + d.toNat)

def words : List UInt8 → List UInt32
  | a :: b :: c :: d :: rest => word a b c d :: words rest
  | _ => []

def blocks (ws : List UInt32) : List (List UInt32) :=
  match ws with
  | [] => []
  | w :: rest => (w :: rest).take 16 :: blocks (rest.drop 15)
termination_by ws.length
decreasing_by simp only [List.length_drop, List.length_cons]; omega

/-- A word turned left by `n` bits, where `0 < n < 32`. -/
def rotateLeft (w n : UInt32) : UInt32 := (w <<< n) ||| (w >>> (32 - n))

/-- A word turned right by `n` bits, where `0 < n < 32`. -/
def rotateRight (w n : UInt32) : UInt32 := (w >>> n) ||| (w <<< (32 - n))

def bytesOfWords (ws : List UInt32) : List UInt8 := ws.flatMap fun w => bytesOfNat 4 w.toNat

end SuiteTrigger.Digest
