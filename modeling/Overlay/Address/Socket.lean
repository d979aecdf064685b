import Overlay.Address.Text

/-!
# Socket addresses

An address with a port: `172.18.0.1:80`, or `[fc00::1]:80` with the IPv6 address in brackets.
An IPv6 address may have a numeric zone after a percent sign; zone zero is not written.
-/

namespace Overlay

/-- An address with a port. The zone counts for IPv6 only. -/
structure SocketAddress where
  address : IpAddress
  zone : Nat
  port : UInt16

namespace SocketAddress

/-- The text of a socket address. -/
def text (s : SocketAddress) : String :=
  let address := s.address.text
  match s.address.family with
  | .v4 => s!"{address}:{s.port}"
  | .v6 =>
    if s.zone = 0 then s!"[{address}]:{s.port}" else s!"[{address}%{s.zone}]:{s.port}"

/-- A port. -/
def readPort? (cs : List Char) : Option UInt16 :=
  ((Numeral.read? 10 cs).filter (· < UInt16.size)).map UInt16.ofNat

/-- An IPv6 address with or without a zone. -/
def readZoned? (cs : List Char) : Option (IpAddress × Nat) := do
  match breakOn? ['%'] cs with
  | none => return (← IpAddress.ofChars? .strict cs, 0)
  | some (address, zone) =>
    let zone ← (Numeral.read? 10 zone).filter (· < UInt32.size)
    return (← IpAddress.ofChars? .strict address, zone)

/-- The socket address that a text denotes. -/
def ofText? (s : String) : Option SocketAddress := do
  match s.toList with
  | '[' :: rest =>
    let (inside, after) ← breakOn? [']', ':'] rest
    let (address, zone) ← readZoned? inside
    let port ← readPort? after
    if address.family = .v6 then return ⟨address, zone, port⟩ else none
  | cs =>
    let (before, after) ← breakOn? [':'] cs
    let address ← IpAddress.ofChars? .strict before
    let port ← readPort? after
    if address.family = .v4 then return ⟨address, 0, port⟩ else none

end SocketAddress

end Overlay
