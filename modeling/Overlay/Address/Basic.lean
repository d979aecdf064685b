import Overlay.Address.Family
import Overlay.Numeral

/-!
# IP addresses

An `IpAddress` is a number of its family's address space. As bytes it has the full width of the
family, most significant byte first; the two views determine each other
(`IpAddress.ofBytes?_bytes`, `IpAddress.bytes_of_ofBytes?`).
-/

namespace Overlay

/-- An address: its family and its number. -/
structure IpAddress where
  family : Family
  value : Nat
  value_lt : value < family.size
  deriving DecidableEq

namespace IpAddress

/-- The address of a family with a number; high bits beyond the family's width are dropped. -/
def ofValue (family : Family) (value : Nat) : IpAddress :=
  ⟨family, value % family.size, Nat.mod_lt _ family.size_pos⟩

/-- The four octets of a number, of which only the low 32 bits count. -/
def octets (value : Nat) : List Nat :=
  Numeral.words 256 4 value

/-- The eight groups of sixteen bits of a number. -/
def groups (value : Nat) : List Nat :=
  Numeral.words 65536 8 value

/-- The IPv4 address inside an IPv4-mapped IPv6 address. -/
def mapped? (a : IpAddress) : Option IpAddress :=
  match a.family with
  | .v6 => if a.value / Family.v4.size = 0xFFFF then some (ofValue .v4 a.value) else none
  | .v4 => none

@[simp] theorem family_ofValue (family : Family) (value : Nat) :
    (ofValue family value).family = family := rfl

@[simp] theorem value_ofValue (family : Family) (value : Nat) :
    (ofValue family value).value = value % family.size := rfl

theorem ext {a b : IpAddress} (hf : a.family = b.family) (hv : a.value = b.value) : a = b := by
  obtain ⟨f, v, h⟩ := a
  obtain ⟨f', v', h'⟩ := b
  subst hf
  subst hv
  rfl

@[simp] theorem ofValue_value (a : IpAddress) : ofValue a.family a.value = a :=
  ext rfl (Nat.mod_eq_of_lt a.value_lt)

end IpAddress

/-! ## Bytes -/

/-- The number of a byte vector, most significant byte first. -/
def bytesToNat (bytes : List UInt8) : Nat :=
  Numeral.value 256 (bytes.map (·.toNat))

/-- The last `count` bytes of a number, most significant first. -/
def natToBytes (count value : Nat) : List UInt8 :=
  (Numeral.words 256 count value).map UInt8.ofNat

@[simp] theorem length_natToBytes (count value : Nat) :
    (natToBytes count value).length = count := by
  simp [natToBytes]

theorem bytesToNat_natToBytes (count value : Nat) :
    bytesToNat (natToBytes count value) = value % Nat.pow 256 count := by
  rw [bytesToNat, natToBytes, List.map_map, ← Numeral.value_words]
  congr 1
  refine (List.map_congr_left fun w hw => ?_).trans (List.map_id _)
  have := Numeral.lt_of_mem_words (by decide : 0 < 256) hw
  simp only [Function.comp, UInt8.toNat_ofNat']
  exact Nat.mod_eq_of_lt this

theorem natToBytes_bytesToNat (bytes : List UInt8) :
    natToBytes bytes.length (bytesToNat bytes) = bytes := by
  have hlt : ∀ w ∈ bytes.map (·.toNat), w < 256 := by
    intro w hw
    obtain ⟨b, _, rfl⟩ := List.mem_map.1 hw
    exact b.toNat_lt
  have h := Numeral.words_value hlt
  rw [List.length_map] at h
  rw [natToBytes, bytesToNat, h, List.map_map]
  exact (List.map_congr_left fun b _ => by simp).trans (List.map_id _)

namespace IpAddress

/-- The bytes of an address, in the full width of its family. -/
def bytes (a : IpAddress) : List UInt8 :=
  natToBytes a.family.width a.value

/-- The address with the given bytes; they have to be as many as an address of one family has. -/
def ofBytes? (bytes : List UInt8) : Option IpAddress :=
  if bytes.length = Family.v4.width then some (ofValue .v4 (bytesToNat bytes))
  else if bytes.length = Family.v6.width then some (ofValue .v6 (bytesToNat bytes))
  else none

@[simp] theorem length_bytes (a : IpAddress) : a.bytes.length = a.family.width := by
  simp [bytes]

@[simp] theorem bytesToNat_bytes (a : IpAddress) : bytesToNat a.bytes = a.value := by
  rw [bytes, bytesToNat_natToBytes]
  exact Nat.mod_eq_of_lt a.value_lt

theorem ofBytes?_bytes (a : IpAddress) : ofBytes? a.bytes = some a := by
  obtain ⟨f, v, h⟩ := a
  cases f <;> simp [ofBytes?, Family.width] <;>
    exact ext rfl (Nat.mod_eq_of_lt h)

theorem bytes_of_ofBytes? {bs : List UInt8} {a : IpAddress} (h : ofBytes? bs = some a) :
    a.bytes = bs := by
  have key : ∀ f : Family, bs.length = f.width → (ofValue f (bytesToNat bs)).bytes = bs := by
    intro f hf
    rw [bytes, family_ofValue, value_ofValue]
    have hlt : bytesToNat bs < f.size := by
      have h1 := bytesToNat_natToBytes bs.length (bytesToNat bs)
      rw [natToBytes_bytesToNat] at h1
      rw [h1, Family.size, ← hf]
      exact Nat.mod_lt _ (Nat.pow_pos (by decide))
    rw [Nat.mod_eq_of_lt hlt, ← hf, natToBytes_bytesToNat]
  rw [ofBytes?] at h
  split at h
  · next hl => obtain rfl := Option.some.inj h; exact key .v4 hl
  · split at h
    · next hl => obtain rfl := Option.some.inj h; exact key .v6 hl
    · cases h

end IpAddress

end Overlay
