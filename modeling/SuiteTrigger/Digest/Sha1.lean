import SuiteTrigger.Digest.Block

namespace SuiteTrigger.Digest.Sha1

/-- The five words that a digest is built up in. -/
structure State where
  a : UInt32
  b : UInt32
  c : UInt32
  d : UInt32
  e : UInt32
  deriving DecidableEq

def State.start : State := ⟨0x67452301, 0xEFCDAB89, 0x98BADCFE, 0x10325476, 0xC3D2E1F0⟩

def State.add (s t : State) : State := ⟨s.a + t.a, s.b + t.b, s.c + t.c, s.d + t.d, s.e + t.e⟩

def mix (round : Nat) (b c d : UInt32) : UInt32 × UInt32 :=
  if round < 20 then ((b &&& c) ||| (~~~b &&& d), 0x5A827999)
  else if round < 40 then (b ^^^ c ^^^ d, 0x6ED9EBA1)
  else if round < 60 then ((b &&& c) ||| (b &&& d) ||| (c &&& d), 0x8F1BBCDC)
  else (b ^^^ c ^^^ d, 0xCA62C1D6)

def step (round : Nat) (w : UInt32) (s : State) : State :=
  let (mixed, constant) := mix round s.b s.c s.d
  ⟨rotateLeft s.a 5 + mixed + s.e + constant + w, s.a, rotateLeft s.b 30, s.c, s.d⟩

/-- The word that the schedule goes on with after sixteen words. -/
def nextWord (ws : List UInt32) : UInt32 :=
  rotateLeft (ws.getD 13 0 ^^^ ws.getD 8 0 ^^^ ws.getD 2 0 ^^^ ws.getD 0 0) 1

/-- Runs `left` rounds; `ws` holds the next sixteen words of the schedule. -/
def rounds : Nat → List UInt32 → State → State
  | 0, _, s => s
  | left + 1, ws, s =>
    rounds left (ws.drop 1 ++ [nextWord ws]) (step (79 - left) (ws.getD 0 0) s)

def compress (s : State) (block : List UInt32) : State := s.add (rounds 80 block s)

/-- The digest of a message: twenty bytes. -/
def hash (message : List UInt8) : List UInt8 :=
  let s := (blocks (words (pad message))).foldl compress State.start
  bytesOfWords [s.a, s.b, s.c, s.d, s.e]

end SuiteTrigger.Digest.Sha1
