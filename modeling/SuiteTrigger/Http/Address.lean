import SuiteTrigger.Http.Authority
import SuiteTrigger.Text.Split

/-!
# Addresses

An address that is met anywhere is resolved against the root of the code host. One with a host of
its own stays as it is, down to the dots in its path. One without is a path on the code host: empty
segments drop out, and dots lead to the same or to the upper directory.
-/

namespace SuiteTrigger.Http

/-- The parts of an address. The parameters follow a semicolon in the last segment of the path. -/
structure Address where
  scheme : List Char
  authority : List Char
  path : List Char
  parameters : List Char
  query : List Char
  fragment : List Char
  deriving DecidableEq

namespace Address

def rootScheme : List Char := "https".toList

def rootAuthority : List Char := "api.github.com".toList

def isSchemeChar (c : Char) : Bool := c.isAlphanum || c = '+' || c = '-' || c = '.'

/-- The scheme before the first colon, in lower case, where there is one, and what follows it. -/
def splitScheme (cs : List Char) : Option (List Char) × List Char :=
  match Text.cut? ':' cs with
  | some (c :: name, rest) =>
    if c.isAlpha && name.all isSchemeChar then (some ((c :: name).map Char.toLower), rest)
    else (none, cs)
  | _ => (none, cs)

/-- The host after two slashes, and what follows it. -/
def splitAuthority (cs : List Char) : List Char × List Char :=
  match cs with
  | '/' :: '/' :: rest =>
    let inside (c : Char) : Bool := c ≠ '/' && c ≠ '?' && c ≠ '#'
    (rest.takeWhile inside, rest.dropWhile inside)
  | _ => ([], cs)

/-- What precedes a separator and what follows it; all and nothing where there is none. -/
def splitAt (separator : Char) (cs : List Char) : List Char × List Char :=
  (Text.cut? separator cs).getD (cs, [])

/-- The parameters in the last segment of a path, and the path without them. -/
def splitParameters (path : List Char) : List Char × List Char :=
  let last := (path.reverse.takeWhile (· ≠ '/')).reverse
  let (name, parameters) := splitAt ';' last
  (path.take (path.length - last.length) ++ name, parameters)

def isControlOrSpace (c : Char) : Bool := c.toNat ≤ 0x20

def isTabOrLineEnd (c : Char) : Bool := c = '\t' || c = '\r' || c = '\n'

/-- An address without the control characters and spaces at its start and without tabs and ends of
lines anywhere. -/
def clean (cs : List Char) : List Char :=
  (cs.dropWhile isControlOrSpace).filter fun c => !isTabOrLineEnd c

/-- The parts of an address whose authority holds. -/
def parse (cs : List Char) : Except AddressError Address := do
  let (scheme, rest) := splitScheme (clean cs)
  let (authority, rest) := splitAuthority rest
  Authority.check authority
  let (rest, fragment) := splitAt '#' rest
  let (rest, query) := splitAt '?' rest
  let (path, parameters) := splitParameters rest
  return ⟨scheme.getD rootScheme, authority, path, parameters, query, fragment⟩

/-- A part behind its mark; nothing for an empty part. -/
def marked (mark : Char) (part : List Char) : List Char :=
  if part.isEmpty then [] else mark :: part

/-- A path that has a slash at its start unless it is empty. -/
def rooted (path : List Char) : List Char :=
  match path with
  | [] => []
  | '/' :: rest => '/' :: rest
  | path => '/' :: path

def render (a : Address) : List Char :=
  a.scheme ++ "://".toList ++ a.authority ++ rooted (a.path ++ marked ';' a.parameters) ++
    marked '?' a.query ++ marked '#' a.fragment

/-- Follows the segments of a path; `done` holds the directories entered, last one first. -/
def follow (done : List (List Char)) : List (List Char) → List (List Char)
  | [] => done.reverse
  | segment :: rest =>
    if segment = ['.', '.'] then follow done.tail rest
    else if segment = ['.'] then follow done rest
    else follow (segment :: done) rest

def isDots (segment : List Char) : Bool := segment = ['.'] || segment = ['.', '.']

/-- The segments of a path on the code host. A path from the root keeps its empty segments; another
one loses them, except that an empty last segment stays. -/
def segments (path : List Char) : List (List Char) :=
  let parts := Text.splitOn '/' path
  match path with
  | '/' :: _ => parts
  | _ =>
    [] :: (parts.dropLast.filter fun part => !part.isEmpty) ++ parts.getLast?.toList

/-- A path on the code host with its dots followed. -/
def resolvePath (path : List Char) : List Char :=
  let parts := segments path
  let entered := follow [] parts
  let entered := if (parts.getLast?.map isDots).getD false then entered ++ [[]] else entered
  let joined := ['/'].intercalate entered
  if joined.isEmpty then ['/'] else joined

/-- An address on the code host in place of one without a host. -/
def onRoot (a : Address) : Address :=
  if a.path.isEmpty && a.parameters.isEmpty then
    { a with authority := rootAuthority, path := ['/'] }
  else { a with authority := rootAuthority, path := resolvePath a.path }

/-- The address that a reference leads to from the root of the code host. One slash at its start
says nothing. -/
def resolve (reference : List Char) : Except AddressError (List Char) := do
  let reference := (Text.afterStart? ['/'] reference).getD reference
  if reference.isEmpty then return rootScheme ++ "://".toList ++ rootAuthority ++ ['/']
  let a ← parse reference
  return if a.scheme ≠ rootScheme then reference
    else if a.authority.isEmpty then (onRoot a).render
    else a.render

end Address

end SuiteTrigger.Http
