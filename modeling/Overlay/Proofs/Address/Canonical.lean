import Overlay.Job.Basic
import Overlay.Proofs.Address.RoundTrip

/-!
# Numbers, bytes and texts of one address

The pools count in numbers, store bytes and speak in texts, and the registry compares texts. The
three agree: a rendered number parses back to its bytes (`Codec.parse_render`), the bytes of a
number are written as its rendering (`Codec.stringify_ofValue`), and two texts have the same
canonical form exactly if they denote the same address, or none and are the same but for blanks
(`canonicalAddress_eq_iff`). So a job has an address, whatever its spelling, exactly if one of its
texts denotes it (`Job.hasAddress_text`).
-/

namespace Overlay

/-- The address that a text denotes; blanks around it do not count. -/
def IpAddress.denoted? (text : String) : Option IpAddress :=
  IpAddress.ofText? (trimmed text)

@[simp] theorem IpAddress.denoted?_text (a : IpAddress) : IpAddress.denoted? a.text = some a := by
  rw [IpAddress.denoted?, IpAddress.trimmed_text, IpAddress.ofText?_text]

/-- Addresses with numbers that their families hold differ in the family or in the number. -/
theorem IpAddress.ofValue_inj {f f' : Family} {v v' : Nat} (hv : v < f.size) (hv' : v' < f'.size)
    (h : IpAddress.ofValue f v = IpAddress.ofValue f' v') : f = f' ∧ v = v' := by
  obtain rfl : f = f' := congrArg IpAddress.family h
  have hval := congrArg IpAddress.value h
  rw [IpAddress.value_ofValue, IpAddress.value_ofValue, Nat.mod_eq_of_lt hv,
    Nat.mod_eq_of_lt hv'] at hval
  exact ⟨rfl, hval⟩

/-! ## Canonical texts -/

/-- The canonical form of a text that denotes an address is the text of the address. -/
theorem canonicalAddress_of_some {t : String} {a : IpAddress}
    (h : IpAddress.denoted? t = some a) : canonicalAddress t = a.text := by
  rw [IpAddress.denoted?] at h
  simp [canonicalAddress, h]

/-- A text that denotes no address only loses the blanks around it. -/
theorem canonicalAddress_of_none {t : String} (h : IpAddress.denoted? t = none) :
    canonicalAddress t = trimmed t := by
  rw [IpAddress.denoted?] at h
  simp [canonicalAddress, h]

/-- The canonical form of a text denotes what the text denotes. -/
theorem denoted?_canonicalAddress (t : String) :
    IpAddress.denoted? (canonicalAddress t) = IpAddress.denoted? t := by
  cases h : IpAddress.denoted? t with
  | some a => rw [canonicalAddress_of_some h, IpAddress.denoted?_text]
  | none => rw [canonicalAddress_of_none h, ← h, IpAddress.denoted?, trimmed_trimmed]; rfl

/-- **Canonical forms.** Two texts have the same one exactly if they denote the same address, or
none and are the same but for the blanks around them. -/
theorem canonicalAddress_eq_iff {s t : String} :
    canonicalAddress s = canonicalAddress t ↔
      IpAddress.denoted? s = IpAddress.denoted? t ∧
        (IpAddress.denoted? s = none → trimmed s = trimmed t) := by
  constructor
  · intro h
    have hst : IpAddress.denoted? s = IpAddress.denoted? t := by
      rw [← denoted?_canonicalAddress s, h, denoted?_canonicalAddress]
    refine ⟨hst, fun hs => ?_⟩
    calc trimmed s = canonicalAddress s := (canonicalAddress_of_none hs).symm
      _ = canonicalAddress t := h
      _ = trimmed t := canonicalAddress_of_none (hst.symm.trans hs)
  · rintro ⟨hst, htrim⟩
    cases hs : IpAddress.denoted? s with
    | some a => rw [canonicalAddress_of_some hs, canonicalAddress_of_some (hst.symm.trans hs)]
    | none =>
      rw [canonicalAddress_of_none hs, canonicalAddress_of_none (hst.symm.trans hs), htrim hs]

/-- A text has the canonical form of an address exactly if it denotes the address. -/
theorem canonicalAddress_eq_text {t : String} {a : IpAddress} :
    canonicalAddress t = a.text ↔ IpAddress.denoted? t = some a := by
  constructor
  · intro h
    rw [← denoted?_canonicalAddress, h, IpAddress.denoted?_text]
  · exact canonicalAddress_of_some

/-- A job has an address exactly if one of its texts denotes it. -/
theorem Job.hasAddress_text {job : Job} {a : IpAddress} :
    job.hasAddress a.text = true ↔ ∃ t ∈ job.addressTexts, IpAddress.denoted? t = some a := by
  simp only [Job.hasAddress, List.any_eq_true, beq_iff_eq]
  rw [canonicalAddress_of_some (IpAddress.denoted?_text a)]
  simp only [canonicalAddress_eq_text]

/-! ## Numbers and bytes -/

namespace Codec

/-- Bytes hold no more than the low part of a number. -/
theorem ofValue_mod (value : Nat) (family : Family) :
    Codec.ofValue (value % family.size) family = Codec.ofValue value family := by
  have h := natToBytes_bytesToNat (natToBytes family.width value)
  rw [length_natToBytes, bytesToNat_natToBytes] at h
  exact h

/-- The bytes of a number are the bytes of its address. -/
theorem ofValue_eq_bytes (value : Nat) (family : Family) :
    Codec.ofValue value family = (IpAddress.ofValue family value).bytes := by
  rw [← ofValue_mod]
  rfl

@[simp] theorem length_ofValue (value : Nat) (family : Family) :
    (Codec.ofValue value family).length = family.width :=
  length_natToBytes _ _

/-- A number that the family holds comes back from its bytes. -/
theorem toValue_ofValue {value : Nat} {family : Family} (h : value < family.size) :
    toValue (Codec.ofValue value family) = value := by
  have hle : family.size ≤ Family.v6.size := by cases family <;> decide
  rw [toValue, ofValue_eq_bytes, IpAddress.bytesToNat_bytes, IpAddress.value_ofValue,
    Nat.mod_eq_of_lt h, Nat.mod_eq_of_lt (by omega)]

/-- Numbers that the family holds have different bytes. -/
theorem ofValue_inj {v w : Nat} {family : Family} (hv : v < family.size) (hw : w < family.size) :
    Codec.ofValue v family = Codec.ofValue w family ↔ v = w := by
  refine ⟨fun h => ?_, fun h => h ▸ rfl⟩
  rw [← toValue_ofValue hv, h, toValue_ofValue hw]

/-- Numbers that the family holds have different renderings. -/
theorem render_inj {v w : Nat} {family : Family} (hv : v < family.size) (hw : w < family.size) :
    render v family = render w family ↔ v = w := by
  refine ⟨fun h => ?_, fun h => h ▸ rfl⟩
  exact (IpAddress.ofValue_inj hv hw (IpAddress.text_injective h)).2

/-- The address that a rendered number denotes. -/
@[simp] theorem denoted?_render (value : Nat) (family : Family) :
    IpAddress.denoted? (render value family) = some (IpAddress.ofValue family value) :=
  IpAddress.denoted?_text _

/-- The bytes of a number are written as its rendering. -/
@[simp] theorem stringify_ofValue (value : Nat) (family : Family) :
    stringify (Codec.ofValue value family) = .ok (render value family) := by
  rw [stringify, ofValue_eq_bytes, IpAddress.ofBytes?_bytes]
  rfl

/-- What parses in a family: the texts that denote one of its addresses, as the address's bytes. -/
theorem parse_eq_ok_iff {text : String} {family : Family} {bytes : List UInt8} :
    parse text family = .ok bytes ↔
      ∃ a, IpAddress.denoted? text = some a ∧ a.family = family ∧ a.bytes = bytes := by
  rw [parse, parseAddress, ← IpAddress.denoted?]
  cases IpAddress.denoted? text with
  | none => simp [Except.map]
  | some a => by_cases hf : a.family = family <;> simp [Except.map, hf]

/-- A text that denotes an address of a family parses as the bytes of its number. -/
theorem parse_of_denoted? {text : String} {a : IpAddress} (h : IpAddress.denoted? text = some a) :
    parse text a.family = .ok (Codec.ofValue a.value a.family) :=
  parse_eq_ok_iff.2 ⟨a, h, rfl, rfl⟩

/-- A rendered number parses as its bytes. -/
@[simp] theorem parse_render (value : Nat) (family : Family) :
    parse (render value family) family = .ok (Codec.ofValue value family) :=
  parse_eq_ok_iff.2 ⟨_, denoted?_render value family, rfl, (ofValue_eq_bytes value family).symm⟩

end Codec

end Overlay
