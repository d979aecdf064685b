import Overlay.Proofs.Registry.Jobs

/-!
# When two addresses are the same

Pools and the registry compare addresses in different ways. A pool reads a text as bytes, counts in
their number and writes its answers from the number. The registry compares canonical texts. Both ways
come to the same:

* bytes, texts and numbers of an address determine each other, and of all texts that are read as the
  same bytes one is written (`Codec.round_trips`);
* that one is the canonical form of each of them, so a job has an address that a pool has rendered
  exactly if a pool would read its number off one of the job's texts (`addresses_agree`).

What both rest on is that the text of an address denotes the address (`IpAddress.ofText?_text`).
-/

namespace Overlay

/-! ## Bytes, texts and numbers -/

/-- Bytes in the width of a family are those of one of its addresses. -/
theorem IpAddress.exists_of_length {family : Family} {bytes : List UInt8}
    (h : bytes.length = family.width) : ∃ a : IpAddress, a.family = family ∧ a.bytes = bytes := by
  refine ⟨.ofValue family (bytesToNat bytes), rfl, bytes_of_ofBytes? ?_⟩
  cases family <;> simp [ofBytes?, h, Family.width]

namespace Codec

/-- The bytes of an address are written as its text. -/
theorem stringify_bytes (a : IpAddress) : stringify a.bytes = .ok a.text := by
  rw [stringify, IpAddress.ofBytes?_bytes]

/-- The text of an address is read as its bytes. -/
theorem parse_text (a : IpAddress) : parse a.text a.family = .ok a.bytes :=
  parse_eq_ok_iff.2 ⟨a, IpAddress.denoted?_text a, rfl, rfl⟩

/-- The number of an address is that of its bytes. -/
theorem toValue_bytes (a : IpAddress) : toValue a.bytes = a.value := by
  have hle : a.family.size ≤ Family.v6.size := by cases a.family <;> decide
  have hlt := a.value_lt
  rw [toValue, IpAddress.bytesToNat_bytes, Nat.mod_eq_of_lt (by omega)]

/-- Addresses with the same text have the same bytes, and the other way round. -/
theorem stringify_eq_iff (a b : IpAddress) :
    stringify a.bytes = stringify b.bytes ↔ a.bytes = b.bytes := by
  refine ⟨fun h => ?_, congrArg stringify⟩
  rw [stringify_bytes, stringify_bytes] at h
  exact congrArg IpAddress.bytes (IpAddress.text_injective (Except.ok.inj h))

/-- How bytes, texts and numbers of addresses turn into each other. -/
structure RoundTrips : Prop where
  /-- Bytes are written as a text, and are read from it. -/
  bytes : ∀ family bytes, bytes.length = Family.width family →
    ∃ text, stringify bytes = .ok text ∧ parse text family = .ok bytes
  /-- What is written for a text that is read, is read as the same bytes. -/
  texts : ∀ family text bytes, parse text family = .ok bytes →
    ∃ form, stringify bytes = .ok form ∧ parse form family = .ok bytes
  /-- The same is written for two texts, of whatever families, exactly if they are read as the same
  bytes. -/
  forms : ∀ family family' text text' bytes bytes', parse text family = .ok bytes →
    parse text' family' = .ok bytes' → (stringify bytes = stringify bytes' ↔ bytes = bytes')
  /-- A number is rendered as its bytes are written. -/
  render : ∀ family value, value < 2 ^ 128 →
    stringify (ofValue value family) = .ok (render value family)
  /-- A number of 128 bits comes back from its bytes, without the bits that they do not hold. -/
  numbers : ∀ value < 2 ^ 128,
    toValue (ofValue value .v4) = value % 2 ^ 32 ∧ toValue (ofValue value .v6) = value
  /-- Bytes come back from their number. -/
  values : ∀ family bytes, bytes.length = Family.width family →
    ofValue (toValue bytes) family = bytes

/-- **Round trips.** Whatever is written of an address is read as the address, in both families and
for all bytes, texts and numbers. -/
theorem round_trips : RoundTrips where
  bytes family bytes hlength := by
    obtain ⟨a, rfl, rfl⟩ := IpAddress.exists_of_length hlength
    exact ⟨a.text, stringify_bytes a, parse_text a⟩
  texts family text bytes hparse := by
    obtain ⟨a, -, rfl, rfl⟩ := parse_eq_ok_iff.1 hparse
    exact ⟨a.text, stringify_bytes a, parse_text a⟩
  forms family family' text text' bytes bytes' hparse hparse' := by
    obtain ⟨a, -, -, rfl⟩ := parse_eq_ok_iff.1 hparse
    obtain ⟨b, -, -, rfl⟩ := parse_eq_ok_iff.1 hparse'
    exact stringify_eq_iff a b
  render family value _ := stringify_ofValue value family
  numbers value hvalue := by
    simp only [ofValue_eq_bytes, toValue_bytes, IpAddress.value_ofValue]
    exact ⟨rfl, Nat.mod_eq_of_lt hvalue⟩
  values family bytes hlength := by
    obtain ⟨a, rfl, rfl⟩ := IpAddress.exists_of_length hlength
    rw [toValue_bytes]
    rfl

end Codec

/-! ## Canonical texts and numbers -/

/-- The text stands for one of the addresses of the job: one that all its instances share, or one
that an instance has. -/
def Job.Bears (job : Job) (text : String) : Prop :=
  (∃ a ∈ job.serviceAddresses, ∃ family, a.addresses.get family = some text) ∨
    ∃ i ∈ job.instances, ∃ family, i.addresses.get family = some text

theorem Job.bears_iff {job : Job} {text : String} : job.Bears text ↔ text ∈ job.addressTexts := by
  rw [Job.mem_addressTexts]
  simp only [Job.shared, Job.held, List.mem_flatMap, Dual.mem_present, exists_or]
  rw [Job.Bears]
  refine or_congr ⟨?_, ?_⟩ ⟨?_, ?_⟩
  · rintro ⟨a, ha, family, hget⟩
    exact ⟨family, a, ha, hget⟩
  · rintro ⟨family, a, ha, hget⟩
    exact ⟨a, ha, family, hget⟩
  · rintro ⟨i, hi, family, hget⟩
    exact ⟨family, i, hi, hget⟩
  · rintro ⟨family, i, hi, hget⟩
    exact ⟨i, hi, family, hget⟩

/-- A text denotes the address with a number exactly if the number is read off it. -/
theorem Codec.toValue_parse_iff {text : String} {family : Family} {value : Nat}
    (h : value < family.size) :
    (∃ bytes, parse text family = .ok bytes ∧ toValue bytes = value) ↔
      IpAddress.denoted? text = some (.ofValue family value) := by
  constructor
  · rintro ⟨bytes, hparse, rfl⟩
    obtain ⟨a, hdenoted, rfl, rfl⟩ := parse_eq_ok_iff.1 hparse
    rw [toValue_bytes, IpAddress.ofValue_value, hdenoted]
  · intro hdenoted
    refine ⟨_, parse_eq_ok_iff.2 ⟨_, hdenoted, rfl, rfl⟩, ?_⟩
    rw [toValue_bytes, IpAddress.value_ofValue, Nat.mod_eq_of_lt h]

/-- How canonical texts go together with what pools read and write. -/
structure AddressesAgree : Prop where
  /-- Two texts have the same canonical form exactly if they denote the same address, or none and are
  the same but for the blanks around them. -/
  same : ∀ text text', canonicalAddress text = canonicalAddress text' ↔
    (∃ a, IpAddress.ofText? (trimmed text) = some a ∧ IpAddress.ofText? (trimmed text') = some a) ∨
      (IpAddress.ofText? (trimmed text) = none ∧ IpAddress.ofText? (trimmed text') = none ∧
        trimmed text = trimmed text')
  /-- A canonical form is its own one. -/
  again : ∀ text, canonicalAddress (canonicalAddress text) = canonicalAddress text
  /-- The canonical form of a text that a pool reads is what the pool writes for it. -/
  written : ∀ text family bytes, Codec.parse text family = .ok bytes →
    Codec.stringify bytes = .ok (canonicalAddress text)
  /-- A job has a rendered address exactly if its number is read off one of the job's texts. -/
  has : ∀ job : Job, ∀ family value, value < family.size →
    (job.hasAddress (Codec.render value family) = true ↔ ∃ text, job.Bears text ∧
      ∃ bytes, Codec.parse text family = .ok bytes ∧ Codec.toValue bytes = value)
  /-- All spellings of an address find the same job. -/
  found : ∀ (r : Registry) text text' a, IpAddress.ofText? (trimmed text) = some a →
    IpAddress.ofText? (trimmed text') = some a → r.jobByAddress? text = r.jobByAddress? text'

/-- **The same address.** The registry and the pools mean the same by it. -/
theorem addresses_agree : AddressesAgree where
  same text text' := by
    rw [canonicalAddress_eq_iff]
    change _ ↔ (∃ a, IpAddress.denoted? text = some a ∧ IpAddress.denoted? text' = some a) ∨
      (IpAddress.denoted? text = none ∧ IpAddress.denoted? text' = none ∧
        trimmed text = trimmed text')
    cases IpAddress.denoted? text with
    | some a => simp [eq_comm]
    | none => simp [eq_comm]
  again text := canonicalAddress_eq_iff.2
    ⟨denoted?_canonicalAddress text, fun hnone => by
      rw [denoted?_canonicalAddress] at hnone
      rw [canonicalAddress_of_none hnone, trimmed_trimmed]⟩
  written text family bytes hparse := by
    obtain ⟨a, hdenoted, -, rfl⟩ := Codec.parse_eq_ok_iff.1 hparse
    rw [Codec.stringify_bytes, canonicalAddress_of_some hdenoted]
  has job family value hvalue := by
    simp only [Codec.toValue_parse_iff hvalue, Job.bears_iff]
    exact Job.hasAddress_text
  found r text text' a htext htext' := by
    refine Registry.jobByAddress?_spelling ?_ r
    exact (canonicalAddress_of_some htext).trans (canonicalAddress_of_some htext').symm

/-- Five spellings of one address, and a host name that is none. -/
example : ["fdff::1", "FDFF:0:0::0001", " fdff:0000:0::1\t", "fdff::0:0.0.0.1", "edge1 "].map
    canonicalAddress = ["fdff::1", "fdff::1", "fdff::1", "fdff::1", "edge1"] := by
  decide +kernel

end Overlay
