import SuiteTrigger.Digest.Sha1
import SuiteTrigger.Digest.Sha256

namespace SuiteTrigger.Digest

/-- The digests that a message can be signed with. -/
inductive Algorithm where
  | sha1
  | sha256
  deriving DecidableEq

def Algorithm.hash : Algorithm → List UInt8 → List UInt8
  | .sha1 => Sha1.hash
  | .sha256 => Sha256.hash

def blockKey (algorithm : Algorithm) (key : List UInt8) : List UInt8 :=
  let key := if blockSize < key.length then algorithm.hash key else key
  key ++ List.replicate (blockSize - key.length) 0

/-- The digest of a message under a key. -/
def hmac (algorithm : Algorithm) (key message : List UInt8) : List UInt8 :=
  let key := blockKey algorithm key
  let inner := algorithm.hash (key.map (· ^^^ 0x36) ++ message)
  algorithm.hash (key.map (· ^^^ 0x5C) ++ inner)

end SuiteTrigger.Digest
