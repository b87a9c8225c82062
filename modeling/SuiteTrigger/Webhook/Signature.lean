import SuiteTrigger.Digest.Hmac
import SuiteTrigger.Http.Message

/-!
# Signatures of webhooks

A sender that knows the secret signs the bytes of the body with it. The signature names its digest
and gives the keyed digest in lower-case hexadecimal digits. With a secret every body has to be
signed; without one no signature can be checked, so none is accepted.
-/

namespace SuiteTrigger.Webhook

open Http (Headers)

inductive SignatureFault where
  | noSecret
  | missing
  | unknownDigest
  | mismatch
  /-- A signature with characters outside ASCII cannot be compared. -/
  | notAscii
  deriving DecidableEq

def SignatureFault.message : SignatureFault → String
  | .noSecret => "secret not provided"
  | .missing => "signature is missing"
  | .unknownDigest => "signature does not name a known digest"
  | .mismatch => "payload's signature does not align with the secret"
  | .notAscii => "comparing strings with non-ASCII characters is not supported"

/-- The mark of a digest at the start of a signature. -/
def digestMark : Digest.Algorithm → String
  | .sha256 => "sha256="
  | .sha1 => "sha1="

def signatureOf (algorithm : Digest.Algorithm) (secret : String) (body : List UInt8) : String :=
  let key := Utf8.encode secret.toList
  digestMark algorithm ++ String.ofList (Text.hexOfBytes (Digest.hmac algorithm key body))

/-- The digest that a signature names. -/
def digestOf? (signature : String) : Option Digest.Algorithm :=
  [Digest.Algorithm.sha256, .sha1].find? fun algorithm =>
    (Text.afterStart? (digestMark algorithm).toList signature.toList).isSome

/-- The signature in the headers: the stronger one where both are there. -/
def signature? (headers : Headers) : Option String :=
  (headers.lookup "x-hub-signature-256").orElse fun _ => headers.lookup "x-hub-signature"

def checkSigned (secret signature : String) (body : List UInt8) : Except SignatureFault Unit :=
  match digestOf? signature with
  | none => .error .unknownDigest
  | some algorithm =>
    if signature.toList.any fun c => 0x80 ≤ c.toNat then .error .notAscii
    else if signature = signatureOf algorithm secret body then .ok ()
    else .error .mismatch

/-- Checks what the headers of a webhook say about its body. -/
def checkSignature (secret : Option String) (headers : Headers) (body : List UInt8) :
    Except SignatureFault Unit :=
  match secret, signature? headers with
  | none, none => .ok ()
  | none, some _ => .error .noSecret
  | some _, none => .error .missing
  | some secret, some signature => checkSigned secret signature body

end SuiteTrigger.Webhook
