import SuiteTrigger.Text.Hex
import SuiteTrigger.Text.Split

namespace SuiteTrigger.Http.Target

open Text

def isVisible (c : Char) : Bool := '!' ≤ c && c ≤ '~'

/-- The path that a text begins with, up to its query or fragment. -/
def pathOf (cs : List Char) : List Char := cs.takeWhile fun c => c ≠ '?' && c ≠ '#'

def userMarks : List Char := "-_.!~*'()%;:&=+$,".toList

def isUserChar (c : Char) : Bool := c.isAlphanum || userMarks.contains c

def isHostChar (c : Char) : Bool := c.isAlphanum || c = '.' || c = '-'

def isZoneChar (c : Char) : Bool := isHostChar c || c = '%' || c = '_' || c = '~'

def isIpChar (c : Char) : Bool := (hexValue? c).isSome || c = ':' || c = '.'

def portLimit : Nat := 65535

/-- Whether a text is empty or a port behind a colon. -/
def isPort : List Char → Bool
  | [] => true
  | ':' :: digits =>
    !digits.isEmpty && digits.all Char.isDigit &&
      digits.foldl (fun n d => 10 * n + (d.toNat - 48)) 0 ≤ portLimit
  | _ => false

/-- Whether a text is an IP address that stands between brackets, with its zone. -/
def isBracketed (cs : List Char) : Bool :=
  match cut? '%' cs with
  | none => !cs.isEmpty && cs.all isIpChar
  | some (address, zone) =>
    !address.isEmpty && address.all isIpChar && !zone.isEmpty && zone.all isZoneChar

def isHost : List Char → Bool
  | '[' :: rest =>
    match cut? ']' rest with
    | some (address, port) => isBracketed address && isPort port
    | none => false
  | cs => (cs.takeWhile isHostChar).length > 0 && isPort (cs.dropWhile isHostChar)

/-- Whether a text is a host behind the name of its user, if there is one. -/
def isAuthority (cs : List Char) : Bool :=
  match cut? '@' cs with
  | some (user, host) => user.all isUserChar && isHost host
  | none => isHost cs

/-- The path in a whole address; empty when it has none. -/
def addressPath? (cs : List Char) : Option (List Char) :=
  let scheme := cs.takeWhile Char.isAlpha
  match scheme, afterStart? "://".toList (cs.drop scheme.length) with
  | _ :: _, some rest =>
    let authority := rest.takeWhile fun c => c ≠ '/' && c ≠ '?'
    if isAuthority authority then some (pathOf (rest.drop authority.length)) else none
  | _, _ => none

/-- The path of a target, if it has one; none for a text that is no target. -/
def read? (target : String) : Option (Option String) :=
  let cs := target.toList
  if !cs.all isVisible then none
  else match cs with
    | '/' :: _ => some (some (String.ofList (pathOf cs)))
    | '*' :: _ => some (some (String.ofList (pathOf cs)))
    | _ => (addressPath? cs).map fun path =>
      if path.isEmpty then none else some (String.ofList path)

end SuiteTrigger.Http.Target
