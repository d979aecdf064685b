import Overlay.Address.Text
import Overlay.Http.Percent

/-!
# URLs

Where an outgoing call goes. Names and addresses are put into URLs as they are, so reading a URL has
to cope with whatever they hold: blanks and control characters at the ends and line ends anywhere
are dropped, a question mark starts the query and a number sign the fragment, a backslash is a
slash, segments of one dot vanish and segments of two dots remove the one before them. Characters
that cannot stand in a URL are percent-encoded.

A host of numbers is an IPv4 address in any of its old notations: up to four parts, each decimal,
octal or hexadecimal, of which the last one fills the rest of the address.
-/

namespace Overlay.Http

/-- The host of a URL. -/
inductive Host where
  | name (text : List Char)
  | address (a : IpAddress)

/-- A URL of the scheme `http`. -/
structure Url where
  host : Host
  port : Nat
  /-- The segments of the path, encoded. -/
  path : List (List Char)
  query : Option (List Char)
  fragment : Option (List Char)

/-! ## What has to be encoded -/

/-- What is encoded everywhere: control characters and what is not ASCII. -/
def isControl (c : Char) : Bool :=
  c.toNat < 0x20 || 0x7E < c.toNat

/-- What is encoded in a fragment. -/
def isFragmentReserved (c : Char) : Bool :=
  isControl c || [' ', '"', '<', '>', '\x60'].contains c

/-- What is encoded in a path. -/
def isPathReserved (c : Char) : Bool :=
  isFragmentReserved c || ['#', '?', '\x7b', '\x7d'].contains c

/-- What is encoded in a query. -/
def isQueryReserved (c : Char) : Bool :=
  isControl c || [' ', '"', '#', '<', '>', '\''].contains c

/-! ## Hosts -/

/-- A part of an IPv4 address: decimal, octal after a zero, hexadecimal after `0x`. -/
def readHostNumber? (cs : List Char) : Option Nat :=
  match cs with
  | '0' :: 'x' :: rest | '0' :: 'X' :: rest =>
    if rest.isEmpty then some 0 else Numeral.read? 16 rest
  | '0' :: c :: rest => Numeral.read? 8 (c :: rest)
  | cs => Numeral.read? 10 cs

/-- The parts of an IPv4 address as one number. -/
def hostValue? : List Nat → Option Nat
  | [] => none
  | parts =>
    let last := parts.getLastD 0
    let front := parts.dropLast
    if parts.length ≤ 4 ∧ front.all (· < 256) ∧ last < Nat.pow 256 (5 - parts.length) then
      some (Numeral.value 256 front * Nat.pow 256 (5 - parts.length) + last)
    else none

/-- The IPv4 address that a host denotes. -/
def readHostAddress? (cs : List Char) : Option IpAddress := do
  let parts := splitOn '.' cs
  let parts := if parts.getLast? = some [] ∧ 1 < parts.length then parts.dropLast else parts
  let v ← hostValue? (← parts.mapM readHostNumber?)
  return .ofValue .v4 v

/-- The host of a URL. -/
def readHost? (cs : List Char) : Option Host :=
  match cs with
  | [] => none
  | '[' :: rest =>
    if rest.getLast? = some ']' then
      (IpAddress.readV6? .strict rest.dropLast).map fun gs =>
        .address (.ofValue .v6 (Numeral.value 65536 gs))
    else none
  | cs => do
    let text ← percentDecode? cs
    let lower := text.toList.map Char.toLower
    match readHostAddress? lower with
    | some a => return .address a
    | none => return .name lower

/-! ## Reading -/

/-- The port after the colon; without one, the port of the scheme. -/
def readUrlPort? (cs : List Char) : Option Nat :=
  if cs.isEmpty then some 80 else (Numeral.read? 10 cs).filter (· < UInt16.size)

/-- The host and the port. A colon inside brackets is part of the host. -/
def readAuthority? (cs : List Char) : Option (Host × Nat) := do
  let cs := ((cs.reverse.takeWhile (· != '@'))).reverse
  let bracketed := if cs.head? = some '[' then cs.takeWhile (· != ']') else []
  let rest := cs.drop bracketed.length
  let host := bracketed ++ rest.takeWhile (· != ':')
  let port := (rest.dropWhile (· != ':')).drop 1
  return (← readHost? host, ← readUrlPort? port)

/-- Whether a segment stands for one dot. -/
def isDot (seg : List Char) : Bool :=
  let lower := String.ofList (seg.map Char.toLower)
  lower == "." || lower == "%2e"

/-- Whether a segment stands for two dots. -/
def isDoubleDot (seg : List Char) : Bool :=
  let lower := String.ofList (seg.map Char.toLower)
  lower == ".." || lower == ".%2e" || lower == "%2e." || lower == "%2e%2e"

/-- The segments of a path after those that come before, without dots. A path that ends with dots
ends with a slash. -/
def resolveSegments : List (List Char) → List (List Char) → List (List Char)
  | done, [] => done
  | done, seg :: rest =>
    let close (done : List (List Char)) := if rest.isEmpty then done ++ [[]] else done
    if isDoubleDot seg then resolveSegments (close done.dropLast) rest
    else if isDot seg then resolveSegments (close done) rest
    else resolveSegments (done ++ [percentEncode isPathReserved seg]) rest

/-- Whether a character ends a part of a path. -/
def isSlash (c : Char) : Bool :=
  c = '/' || c = '\\'

/-- The path of a URL. -/
def readPath (cs : List Char) : List (List Char) :=
  let cs := if cs.head?.any isSlash then cs.drop 1 else cs
  resolveSegments [] (splitOn '/' (cs.map fun c => if c = '\\' then '/' else c))

/-- What stands before the first occurrence of a character, and what stands after it. -/
def cutAt (c : Char) (cs : List Char) : List Char × Option (List Char) :=
  match cs.dropWhile (· != c) with
  | [] => (cs, none)
  | _ :: rest => (cs.takeWhile (· != c), some rest)

/-- Whether a character is dropped at the ends of a URL. -/
def isUrlBlank (c : Char) : Bool :=
  c.toNat ≤ 0x20

namespace Url

/-- The URL that a text denotes. -/
def ofText? (text : String) : Option Url := do
  let cs := ((text.toList.dropWhile isUrlBlank).reverse.dropWhile isUrlBlank).reverse
  let cs := cs.filter fun c => c != '\t' && c != '\n' && c != '\r'
  let rest ← "http:".toList.isPrefixOf? cs
  let rest := rest.dropWhile isSlash
  let ends (c : Char) : Bool := isSlash c || c = '?' || c = '#'
  let (host, port) ← readAuthority? (rest.takeWhile fun c => !ends c)
  let (rest, fragment) := cutAt '#' (rest.dropWhile fun c => !ends c)
  let (path, query) := cutAt '?' rest
  return ⟨host, port, readPath path, query.map (percentEncode isQueryReserved),
    fragment.map (percentEncode isFragmentReserved)⟩

/-- The path and the query, as they are sent. -/
def target (u : Url) : String :=
  let query := match u.query with
    | some q => '?' :: q
    | none => []
  String.ofList ('/' :: joinWith ['/'] u.path ++ query)

/-- The text of a host. -/
def hostText : Host → String
  | .name text => String.ofList text
  | .address a =>
    match a.family with
    | .v4 => a.text
    | .v6 => "[" ++ a.text ++ "]"

/-- The text of a URL. -/
def text (u : Url) : String :=
  let port := if u.port = 80 then "" else s!":{u.port}"
  let fragment := match u.fragment with
    | some f => "#" ++ String.ofList f
    | none => ""
  "http://" ++ hostText u.host ++ port ++ u.target ++ fragment

/-- Whether the host is this machine, on the address where servers listen. -/
def isLocal (u : Url) : Bool :=
  match u.host with
  | .name text => String.ofList text == "localhost"
  | .address a =>
    match a.family with
    | .v4 => a.value = 0x7F000001 || a.value = 0
    | .v6 => a.value = 0xFFFF7F000001

end Url

end Overlay.Http
