import PredictionLeague.Text.Percent

/-!
# Addresses

An address names a path and a query. It may begin with a scheme and a host, and it may end with a
fragment; none of them has a part in the answer. An address without a scheme and a host is taken
from the root.

* `Address.ofText?`: the address that a text writes, unless it is malformed;
* `Address.normalized`: a path without the segments `.` and `..`.
-/

namespace PredictionLeague.Api

/-- The path of a request, in characters, and its query. -/
structure Address where
  path : List Char
  query : List (String × String)
  deriving DecidableEq

namespace Address

/-- The largest number of characters of an address. -/
def sizeLimit : Nat := 65536

/-- The parts of a text between separators; there is always one part. -/
def parts (separator : Char) (cs : List Char) : List (List Char) :=
  cs.foldr
    (fun c parts =>
      if c = separator then [] :: parts
      else match parts with
        | part :: parts => (c :: part) :: parts
        | [] => [[c]])
    [[]]

/-- The parts of a text put together again. -/
def joined (separator : Char) (parts : List (List Char)) : List Char :=
  match parts with
  | [] => []
  | part :: parts => part ++ parts.flatMap (separator :: ·)

/-! ### Segments -/

/-- The segments of a path without `.` and, for each `..`, without the segment before it; `done`
are the segments before, the last one first. The root is never left. -/
def withoutDots (done : List (List Char)) : List (List Char) → List (List Char)
  | [] => done.reverse
  | segment :: segments =>
    if segment = ['.'] then withoutDots done segments
    else if segment = ['.', '.'] then
      withoutDots (if done = [[]] then done else done.drop 1) segments
    else withoutDots (segment :: done) segments

/-- A path without the segments `.` and `..`; the empty path is the root. -/
def normalized (path : List Char) : List Char :=
  match joined '/' (withoutDots [] (parts '/' path)) with
  | [] => ['/']
  | path => path

/-! ### Queries -/

/-- A name or a value of a query; a plus sign stands for a space. -/
def decoded (cs : List Char) : String :=
  String.ofList (Text.percentDecoded (cs.map fun c => if c = '+' then ' ' else c))

/-- The names and values of a query. -/
def fields (query : List Char) : List (String × String) :=
  ((parts '&' query).filter fun part => !part.isEmpty).map fun part =>
    (decoded (part.takeWhile (· != '=')), decoded ((part.dropWhile (· != '=')).drop 1))

/-! ### Whole addresses -/

/-- Whether a character may stand in a scheme. -/
def isSchemeChar (c : Char) : Bool := c.isAlphanum || c = '+' || c = '.' || c = '-'

/-- Split off the scheme with its colon; without one the scheme is empty. -/
def spanScheme (cs : List Char) : List Char × List Char :=
  let front := cs.takeWhile isSchemeChar
  match cs.dropWhile isSchemeChar with
  | ':' :: rest => if front.head?.all Char.isAlpha then (front, rest) else ([], cs)
  | _ => ([], cs)

/-- Split off the host that follows two slashes; without one the host is empty. -/
def spanHost : List Char → List Char × List Char
  | '/' :: '/' :: cs =>
    let ends : Char → Bool := fun c => c = '/' || c = '?' || c = '#'
    (cs.takeWhile (!ends ·), cs.dropWhile (!ends ·))
  | cs => ([], cs)

/-- Whether a host is written as one: what follows its colon is a number or nothing. -/
def isHost (host : List Char) : Bool :=
  let host := if host.contains '@' then (host.dropWhile (· != '@')).drop 1 else host
  host.head? = some '[' || ((host.dropWhile (· != ':')).drop 1).all Char.isDigit

/-- Whether a character is an ASCII control. -/
def isControl (c : Char) : Bool := c.toNat < 0x20 || c.toNat = 0x7f

/-- The address that a text writes. Percent signs in a path are decoded twice. -/
def ofText? (s : String) : Option Address :=
  let cs := s.toList
  if sizeLimit < cs.length || cs.any isControl then none
  else
    let (scheme, rest) := spanScheme cs
    let (host, rest) := spanHost rest
    let path := rest.takeWhile fun c => c != '?' && c != '#'
    let rest := rest.dropWhile fun c => c != '?' && c != '#'
    let query := match rest with
      | '?' :: query => query.takeWhile (· != '#')
      | _ => []
    let doubtful := ['/', '/'].isPrefixOf path || path.head? = some ':'
    if !isHost host || (scheme.isEmpty && host.isEmpty && doubtful) then none
    else
      let path :=
        if scheme.isEmpty || host.isEmpty then '/' :: path.dropWhile (· = '/') else path
      some
        { path := Text.percentDecoded (Text.percentDecoded (normalized path))
          query := fields query }

end Address

end PredictionLeague.Api
