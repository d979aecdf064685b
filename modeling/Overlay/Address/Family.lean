/-!
# Address families

The two families of addresses, the width of their addresses in bytes and the number of addresses
they hold.
-/

namespace Overlay

/-- An address family. -/
inductive Family where
  | v4
  | v6
  deriving DecidableEq, Repr

namespace Family

/-- The width of an address in bytes. -/
def width : Family → Nat
  | v4 => 4
  | v6 => 16

/-- The number of addresses of the family. -/
def size (f : Family) : Nat :=
  Nat.pow 256 f.width

/-- The name of the family. -/
def name : Family → String
  | v4 => "ipv4"
  | v6 => "ipv6"

theorem size_pos (f : Family) : 0 < f.size := by
  cases f <;> decide

end Family

/-- One thing for each family. -/
structure Dual (α : Type) where
  v4 : α
  v6 : α
  deriving DecidableEq, Repr

namespace Dual

variable {α β : Type}

/-- The part of one family. -/
def get (d : Dual α) : Family → α
  | .v4 => d.v4
  | .v6 => d.v6

/-- The parts that are there, each with its family, IPv4 first. -/
def present (d : Dual (Option α)) : List (Family × α) :=
  (d.v4.toList.map fun a => (.v4, a)) ++ (d.v6.toList.map fun a => (.v6, a))

/-- Whether neither part is there. -/
def isEmpty (d : Dual (Option α)) : Bool :=
  d.v4.isNone && d.v6.isNone

end Dual

/-- An optional address text of each family. -/
abbrev Addresses := Dual (Option String)

/-- No address of either family. -/
def Addresses.none : Addresses := ⟨Option.none, Option.none⟩

end Overlay
