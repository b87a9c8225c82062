import SuiteTrigger.Text.Hex
import SuiteTrigger.Text.Split

/-!
# IP addresses in text

An address of version 4 is four decimal numbers below 256. One of version 6 is eight groups of up
to four hexadecimal digits; two colons in a row, once, stand for one or more groups, the last two
groups may be written as an address of version 4, and a zone may follow a percent sign.
-/

namespace SuiteTrigger.Http.IpAddress

open Text

/-- A decimal number below 256 without superfluous zeros. -/
def isOctet (cs : List Char) : Bool :=
  let value := cs.foldl (fun n c => 10 * n + (c.toNat - 48)) 0
  !cs.isEmpty && cs.length ≤ 3 && cs.all Char.isDigit && value < 256 &&
    (cs.length = 1 || cs.head? ≠ some '0')

def isVersion4 (cs : List Char) : Bool :=
  let parts := splitOn '.' cs
  parts.length = 4 && parts.all isOctet

def isGroup (cs : List Char) : Bool :=
  !cs.isEmpty && cs.length ≤ 4 && cs.all fun c => (hexValue? c).isSome

def groupCount : Nat := 8

/-- Whether the groups before and after two colons leave at least one to them. A lone empty group is
the end of the address. -/
def isShortened (before after : List (List Char)) : Bool :=
  let groups := (if before = [[]] then [] else before) ++ if after = [[]] then [] else after
  groups.length < groupCount && groups.all isGroup

/-- Whether the parts between colons are the groups of an address. -/
def isGroups (parts : List (List Char)) : Bool :=
  let inner := parts.tail.dropLast
  let before := inner.takeWhile (!·.isEmpty)
  match inner.drop before.length with
  | [] => parts.length = groupCount && parts.all isGroup
  | _ :: after => isShortened (parts.take 1 ++ before) (after ++ parts.getLast?.toList)

/-- The parts between colons, where an address of version 4 at the end stands for two groups. -/
def parts (cs : List Char) : List (List Char) :=
  let parts := splitOn ':' cs
  if (parts.getLast?.map isVersion4).getD false then parts.dropLast ++ [['0'], ['0']] else parts

/-- Whether a zone behind an address is one: it is not empty, and no other follows it. -/
def isZone (cs : List Char) : Bool := !cs.isEmpty && !cs.contains '%'

def isVersion6 (cs : List Char) : Bool :=
  let (address, zone) := match cut? '%' cs with
    | some (address, zone) => (address, isZone zone)
    | none => (cs, true)
  zone && address.count ':' ≥ 2 && isGroups (parts address)

end SuiteTrigger.Http.IpAddress
