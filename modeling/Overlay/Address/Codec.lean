import Overlay.Address.Text
import Overlay.Text.Blank

/-!
# Address texts, bytes and numbers

Pools count in numbers, store bytes and speak in texts. This module moves between the three:
`stringify` and `parse` between bytes and text, `toValue` and `ofValue` between bytes and numbers,
`render` from numbers to text. `canonicalAddress` gives all texts of one address the same form, and
leaves any other text as it is but for blanks at its ends.
-/

namespace Overlay

/-- Why something is not an address. -/
inductive AddressFault where
  /-- A byte vector of a length that no family has. -/
  | wrongLength (length : Nat)
  /-- An address of the other family. -/
  | wrongFamily (text : String) (family : Family)
  /-- A text that denotes no address. -/
  | notAnAddress (text : String)
  deriving DecidableEq, Repr

namespace AddressFault

/-- The wording of a fault. -/
def message : AddressFault → String
  | wrongLength n => s!"expected 4 or 16 bytes, got {n}"
  | wrongFamily text family =>
    let name := family.name
    s!"{text} is not an {name} address"
  | notAnAddress text => s!"{text}: invalid IP address syntax"

end AddressFault

namespace Codec

/-- The text of a byte vector. -/
def stringify (bytes : List UInt8) : Except AddressFault String :=
  match IpAddress.ofBytes? bytes with
  | some a => .ok a.text
  | none => .error (.wrongLength bytes.length)

/-- The address of a family that a text denotes; blanks around it do not count. -/
def parseAddress (text : String) (family : Family) : Except AddressFault IpAddress :=
  match IpAddress.ofText? (trimmed text) with
  | some a => if a.family = family then .ok a else .error (.wrongFamily (trimmed text) family)
  | none => .error (.notAnAddress (trimmed text))

/-- The bytes of the address of a family that a text denotes. -/
def parse (text : String) (family : Family) : Except AddressFault (List UInt8) :=
  (parseAddress text family).map (·.bytes)

/-- The number of a byte vector, of which only the last 128 bits count. -/
def toValue (bytes : List UInt8) : Nat :=
  bytesToNat bytes % Family.v6.size

/-- The bytes of a number in the width of a family; higher bits are dropped. -/
def ofValue (value : Nat) (family : Family) : List UInt8 :=
  natToBytes family.width value

/-- The text of a number in a family. -/
def render (value : Nat) (family : Family) : String :=
  (IpAddress.ofValue family value).text

/-- An IPv4-mapped IPv6 address as the IPv4 address inside it; any other text without the blanks
around it. -/
def sanitize (text : String) : String :=
  match (IpAddress.ofText? (trimmed text)).bind IpAddress.mapped? with
  | some a => a.text
  | none => trimmed text

/-- The host of an outgoing call: IPv6 addresses stand in brackets. -/
def urlHost (text : String) : String :=
  let host := sanitize text
  match IpAddress.ofText? host with
  | some a =>
    match a.family with
    | .v6 => s!"[{host}]"
    | .v4 => host
  | none => host

end Codec

/-- The canonical text of an address; any other text without the blanks around it. -/
def canonicalAddress (text : String) : String :=
  match IpAddress.ofText? (trimmed text) with
  | some a => a.text
  | none => trimmed text

end Overlay
