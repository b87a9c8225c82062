import SuiteTrigger.Http.IpAddress
import SuiteTrigger.Text.Quoted
import SuiteTrigger.Text.Ranges

/-!
# Authorities of addresses

The part of an address that names the host. Brackets in it hold an IP address of version 6 or of a
later version, and nothing stands between them and the port. A character that looks like a delimiter
and would become one in its plain form is refused.
-/

namespace SuiteTrigger.Http

/-- Why a text is no address. -/
inductive AddressError where
  | brackets
  | laterVersion
  | version4
  | notIp (host : String)
  | disguised (authority : String)
  deriving DecidableEq

namespace Authority

open Text

/-- The characters whose compatibility form has one of the delimiters `/`, `?`, `#`, `@` and `:`. -/
def disguisedRanges : List (Nat × Nat) :=
  [(0x2047, 0x2049), (0x2100, 0x2101), (0x2105, 0x2106), (0x2A74, 0x2A74), (0xFE13, 0xFE13),
   (0xFE16, 0xFE16), (0xFE55, 0xFE56), (0xFE5F, 0xFE5F), (0xFE6B, 0xFE6B), (0xFF03, 0xFF03),
   (0xFF0F, 0xFF0F), (0xFF1A, 0xFF1A), (0xFF1F, 0xFF20)]

/-- Whether a host that begins with `v` has a version and an address after a point. -/
def isLaterVersion (host : List Char) : Bool :=
  match cut? '.' host.tail with
  | some (version, address) =>
    !version.isEmpty && (version.all fun c => (hexValue? c).isSome) && !address.isEmpty
  | none => false

/-- Checks a host in brackets. -/
def checkHost (host : List Char) : Except AddressError Unit :=
  if host.head? = some 'v' then
    if isLaterVersion host then .ok () else .error .laterVersion
  else if IpAddress.isVersion6 host then .ok ()
  else if IpAddress.isVersion4 host then .error .version4
  else .error (.notIp (String.ofList host))

/-- What follows the last at sign: the host and its port. -/
def hostAndPort (authority : List Char) : List Char :=
  (authority.reverse.takeWhile (· ≠ '@')).reverse

/-- Checks an authority in which brackets of both kinds stand. -/
def checkBrackets (authority : List Char) : Except AddressError Unit :=
  let place := hostAndPort authority
  match cut? '[' place with
  | none => checkHost (place.takeWhile (· ≠ ':'))
  | some (_ :: _, _) => .error .brackets
  | some ([], rest) =>
    let host := rest.takeWhile (· ≠ ']')
    match rest.drop (host.length + 1) with
    | [] => checkHost host
    | ':' :: _ => checkHost host
    | _ => .error .brackets

def check (authority : List Char) : Except AddressError Unit := do
  let opens := authority.contains '['
  let closes := authority.contains ']'
  if opens && closes then checkBrackets authority
  else if opens || closes then throw .brackets
  if authority.any (inRanges disguisedRanges) then
    throw (.disguised (String.ofList authority))

end Authority

def AddressError.message : AddressError → String
  | .brackets => "Invalid IPv6 URL"
  | .laterVersion => "IPvFuture address is invalid"
  | .version4 => "An IPv4 address cannot be in brackets"
  | .notIp host => Text.quote host ++ " does not appear to be an IPv4 or IPv6 address"
  | .disguised authority =>
    "netloc '" ++ authority ++ "' contains invalid characters under NFKC normalization"

end SuiteTrigger.Http
