import Overlay.Address.Basic
import Overlay.Text.Split

/-!
# The texts of IP addresses

IPv4 is written as four decimal octets. IPv6 is written as hexadecimal groups in lower case, the
longest run of at least two zero groups (the first of equally long ones) as `::`, and an
IPv4-mapped address as `::ffff:` with an IPv4 tail.

Reading accepts more: groups of one to four digits in either case, `::` for any number of zero
groups but none, and an IPv4 tail in the place of the last two groups. Octets have no leading zeros.
Zone identifiers, brackets, ports and network lengths are not part of an address. The address of a
network may be written more freely (`Strictness.lenient`).
-/

namespace Overlay.IpAddress

/-! ## Writing -/

/-- Four octets in dotted notation. -/
def octetsText (value : Nat) : List Char :=
  joinWith ['.'] ((octets value).map (Numeral.digits 10))

/-- Groups in hexadecimal, with colons between them. -/
def groupsText (gs : List Nat) : List Char :=
  joinWith [':'] (gs.map (Numeral.digits 16))

/-- The start and the length of the longest run of zeros, the first of equally long ones. -/
def longestZeroRun : List Nat → Nat × Nat
  | [] => (0, 0)
  | g :: gs =>
    let here := ((g :: gs).takeWhile (· == 0)).length
    let later := longestZeroRun gs
    if later.2 ≤ here then (0, here) else (later.1 + 1, later.2)

/-- Eight groups, with the longest run of at least two zeros left out. -/
def compressedText (gs : List Nat) : List Char :=
  let (start, length) := longestZeroRun gs
  if length ≤ 1 then groupsText gs
  else groupsText (gs.take start) ++ [':', ':'] ++ groupsText (gs.drop (start + length))

/-- What an IPv4-mapped address starts with. -/
def mappedLead : List Char :=
  [':', ':', 'f', 'f', 'f', 'f', ':']

/-- The characters of an address. -/
def chars (a : IpAddress) : List Char :=
  match a.family with
  | .v4 => octetsText a.value
  | .v6 =>
    if a.value / Family.v4.size = 0xFFFF then mappedLead ++ octetsText a.value
    else compressedText (groups a.value)

/-- The text of an address. -/
def text (a : IpAddress) : String :=
  String.ofList a.chars

/-! ## Reading -/

/-- How closely a text has to keep to the rules. -/
inductive Strictness where
  /-- Octets have no leading zeros, and `::` stands for at least one group. -/
  | strict
  /-- Octets may have leading zeros, and `::` may stand for no group. -/
  | lenient
  deriving DecidableEq, Repr

/-- One octet: up to three digits, at most 255. -/
def readOctet? (strictness : Strictness) (cs : List Char) : Option Nat :=
  if 3 < cs.length ∨ (strictness = .strict ∧ 1 < cs.length ∧ cs.head? = some '0') then none
  else (Numeral.read? 10 cs).filter (· < 256)

/-- Four octets with dots between them. -/
def readOctets? (strictness : Strictness) (cs : List Char) : Option (List Nat) :=
  let parts := splitOn '.' cs
  if parts.length = 4 then parts.mapM (readOctet? strictness) else none

/-- One group: one to four hexadecimal digits. -/
def readGroup? (cs : List Char) : Option Nat :=
  if 4 < cs.length then none else Numeral.read? 16 cs

/-- An IPv4 tail as two groups. -/
def readTail? (strictness : Strictness) (cs : List Char) : Option (List Nat) :=
  (readOctets? strictness cs).map fun os =>
    let v := Numeral.value 256 os
    [v / 65536, v % 65536]

/-- The groups of colon-separated parts, of which the last may be an IPv4 tail. -/
def readParts? (strictness : Strictness) : List (List Char) → Option (List Nat)
  | [] => some []
  | [part] =>
    match readGroup? part with
    | some g => some [g]
    | none => readTail? strictness part
  | part :: parts => do
    let g ← readGroup? part
    let gs ← readParts? strictness parts
    return g :: gs

/-- Groups with colons between them and possibly an IPv4 tail; an empty text holds none. -/
def readGroups? (strictness : Strictness) (cs : List Char) : Option (List Nat) :=
  if cs.isEmpty then some [] else readParts? strictness (splitOn ':' cs)

/-- Groups with colons between them and no IPv4 tail. -/
def readPlainGroups? (cs : List Char) : Option (List Nat) :=
  if cs.isEmpty then some [] else (splitOn ':' cs).mapM readGroup?

/-- The eight groups of an IPv6 text. -/
def readV6? (strictness : Strictness) (cs : List Char) : Option (List Nat) :=
  match breakOn? [':', ':'] cs with
  | none => (readGroups? strictness cs).filter (·.length = 8)
  | some (before, after) => do
    let front ← readPlainGroups? before
    let back ← readGroups? strictness after
    let most := match strictness with
      | .strict => 7
      | .lenient => 8
    if front.length < 8 ∧ front.length + back.length ≤ most then
      return front ++ List.replicate (8 - front.length - back.length) 0 ++ back
    else none

/-- The address that a text denotes, in either family. -/
def ofChars? (strictness : Strictness) (cs : List Char) : Option IpAddress :=
  match readOctets? strictness cs with
  | some os => some (ofValue .v4 (Numeral.value 256 os))
  | none => (readV6? strictness cs).map fun gs => ofValue .v6 (Numeral.value 65536 gs)

/-- The address that a text denotes, in either family. -/
def ofText? (s : String) : Option IpAddress :=
  ofChars? .strict s.toList

end Overlay.IpAddress
