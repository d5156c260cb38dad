import BundleLedger.Access.Token
import BundleLedger.Text.Octets

/-!
# Addresses

The address that a request is sent to. It is split into scheme, authority, path, query and fragment; an
address without both scheme and host is taken relative to the root of the service. Of the result only the
path and the query matter. Some addresses are refused before anything is sent.
-/

set_option autoImplicit false

namespace BundleLedger

/-- The path and the query of an address, as they are written. -/
structure Address where
  path : List Char
  query : Option (List Char)
deriving DecidableEq, Repr

namespace Address

/-- The refusal of an address. -/
def refused {α : Type} (text : String) : Except Cause α :=
  .error (.fault (.named "InvalidURL") text)

/-- The greatest length of an address. -/
def maxLength : Nat := 65536

/-- A character that no address may hold. -/
def isForbidden (c : Char) : Bool :=
  c.toNat < 128 && !Text.isPrintable c

/-- Nothing is refused of an address that is not too long and has printable characters only. -/
def checkCharacters (s : List Char) : Except Cause Unit :=
  if maxLength < s.length then refused "URL too long"
  else
    match s.find? isForbidden with
    | none => .ok ()
    | some c => refused ("Invalid non-printable ASCII character in URL, " ++
        Text.quoted (String.ofList [c]) ++ " at position " ++
        Text.natural (s.takeWhile fun other ↦ !isForbidden other).length ++ ".")

/-! ### Parts -/

def isLetter (c : Char) : Bool :=
  (65 ≤ c.toNat && c.toNat ≤ 90) || (97 ≤ c.toNat && c.toNat ≤ 122)

/-- A character of a scheme after its first. -/
def isSchemeChar (c : Char) : Bool :=
  isLetter c || Text.isAsciiDigit c || c ∈ ['+', '.', '-']

/-- The scheme in front of a colon, which may be empty, and what follows the colon. -/
def splitScheme (s : List Char) : List Char × List Char :=
  let scheme := s.takeWhile isSchemeChar
  match s.drop scheme.length with
  | ':' :: rest => if (scheme.head?.map isLetter).getD true then (scheme, rest) else ([], s)
  | _ => ([], s)

/-- The authority after two slashes, and what follows it. -/
def splitAuthority : List Char → List Char × List Char
  | '/' :: '/' :: rest =>
    rest.span fun c ↦ c ≠ '/' && c ≠ '?' && c ≠ '#'
  | s => ([], s)

/-- The path, and the query after a question mark; what follows a number sign is left out. -/
def splitQuery (s : List Char) : Address :=
  let s := s.takeWhile (· ≠ '#')
  let (path, query) := Text.splitFirst '?' s
  ⟨path, query⟩

/-- Who answers at an address: a user, a host, and the number of a service there. -/
structure Authority where
  user : List Char
  host : List Char
  service : List Char
deriving DecidableEq, Repr

/-- The parts of an authority: the user before the last at sign, the host, which may stand in brackets, and
the service after a colon. -/
def Authority.ofChars (s : List Char) : Authority :=
  let back := s.reverse
  let (user, s) : List Char × List Char :=
    if '@' ∈ s then
      (((back.dropWhile (· ≠ '@')).drop 1).reverse, (back.takeWhile (· ≠ '@')).reverse)
    else ([], s)
  let host : List Char :=
    if s.head? = some '[' ∧ ']' ∈ s then (s.reverse.dropWhile (· ≠ ']')).reverse
    else s.takeWhile (· ≠ ':')
  match s.drop host.length with
  | ':' :: service => ⟨user, host, service⟩
  | service => ⟨user, host, service⟩

/-- Whether a host has the form of four numbers. -/
def isDotted (host : List Char) : Bool :=
  let parts := Text.splitAll '.' host
  parts.length = 4 && parts.all fun part ↦ part ≠ [] && part.all Text.isAsciiDigit

/-- Whether a number may stand in a dotted host: up to 255, without zeros in front. -/
def isOctet (part : List Char) : Bool :=
  part.length ≤ 3 && (part = ['0'] || part.head? ≠ some '0') && (Text.natural? part).getD 0 ≤ 255

/-- Whether a host in brackets can be made of groups of hexadecimal digits. -/
def isGrouped (host : List Char) : Bool :=
  2 ≤ (host.filter (· = ':')).length &&
    host.all fun c ↦ c = ':' || c = '.' || Text.isHexDigit c

/-- Nothing is refused of a host in numbers that are in range. -/
def checkHost (host : List Char) : Except Cause Unit :=
  let shown := Text.quoted (String.ofList host)
  if isDotted host ∧ ¬ (Text.splitAll '.' host).all isOctet then refused ("Invalid IPv4 address: " ++ shown)
  else if host.head? = some '[' ∧ host.getLast? = some ']' ∧ ¬ isGrouped ((host.drop 1).dropLast) then
    refused ("Invalid IPv6 address: " ++ shown)
  else .ok ()

/-- Nothing is refused of a service that is missing or a number. -/
def checkService (service : List Char) : Except Cause Unit :=
  if service = [] ∨ (Token.numberText? (String.ofList service)).isSome then .ok ()
  else refused ("Invalid port: " ++ Text.quoted (String.ofList service))

/-- Nothing is refused of a path that cannot be mistaken for another part. -/
def checkPath (scheme : List Char) (authority : Authority) (path : List Char) : Except Cause Unit :=
  let hasAuthority := authority ≠ ⟨[], [], []⟩
  if !hasAuthority && scheme.isEmpty then
    match path with
    | '/' :: '/' :: _ => refused "Relative URLs cannot have a path starting with \x27//\x27"
    | ':' :: _ => refused "Relative URLs cannot have a path starting with \x27:\x27"
    | _ => .ok ()
  else .ok ()

/-! ### Paths -/

/-- The segments of a path without those that are one point; two points take away the segment before,
unless there is only the root. -/
def resolveSegments (seen : List (List Char)) : List (List Char) → List (List Char)
  | [] => seen.reverse
  | ['.'] :: rest => resolveSegments seen rest
  | ['.', '.'] :: rest =>
    resolveSegments (if seen = [] ∨ seen = [[]] then seen else seen.drop 1) rest
  | segment :: rest => resolveSegments (segment :: seen) rest

/-- Segments with slashes between. -/
def joined : List (List Char) → List Char
  | [] => []
  | [segment] => segment
  | segment :: rest => segment ++ '/' :: joined rest

/-- A path without the segments that only point to others. -/
def resolved (path : List Char) : List Char :=
  joined (resolveSegments [] (Text.splitAll '/' path))

/-- A path under the root of the service. -/
def underRoot (path : List Char) : List Char :=
  resolved ('/' :: path.dropWhile (· = '/'))

/-- The address that a text spells, under the root of the service. -/
def ofText (text : String) : Except Cause Address := do
  checkCharacters text.toList
  let (scheme, rest) := splitScheme text.toList
  let (authority, rest) := splitAuthority rest
  let authority := Authority.ofChars authority
  let ⟨path, query⟩ := splitQuery rest
  checkHost authority.host
  checkService authority.service
  checkPath scheme authority path
  let path := if scheme = [] ∧ authority = ⟨[], [], []⟩ then path else resolved path
  if scheme ≠ [] ∧ authority.host ≠ [] then return ⟨if path = [] then ['/'] else path, query⟩
  else return ⟨underRoot path, query⟩

end Address
end BundleLedger
