import Overlay.Address.Text

/-!
# Address spaces

A layout says which addresses a pool may hand out and in which order. It lists blocks of numbers
and a stepping rule:

* `stride n` goes on by `n`, from the end of a block to the start of the next one;
* `octetWrap m` counts the last octet up to `m`, then the one before it, and then the space has run
  out.

After the last address the counter of a pool rests on `Layout.limit`, the end of the last block.
-/

namespace Overlay

/-- The numbers from `start` up to but not including `stop`. -/
structure Block where
  start : Nat
  stop : Nat
  deriving DecidableEq, Repr

namespace Block

/-- Whether a number lies in the block. -/
def contains (b : Block) (v : Nat) : Bool :=
  b.start ≤ v && v < b.stop

/-- The addresses of a network: those that share the first `bits` bits with `value`. The last
address of IPv6 cannot be a block's last one, since its successor is no number of 128 bits. -/
def network (family : Family) (value bits : Nat) : Block :=
  let size := Nat.pow 2 (8 * family.width - bits)
  let start := value / size * size
  ⟨start, min (start + size) (Family.v6.size - 1)⟩

/-- How many digits the length of a network has at most. -/
def lengthDigits : Family → Nat
  | .v4 => 2
  | .v6 => 3

/-- The network that a text in slash notation denotes, such as `10.30.0.0/16`. Its numbers may have
leading zeros. -/
def ofText? (s : String) : Option Block :=
  match splitOn '/' s.toList with
  | [address, bits] => do
    let a ← IpAddress.ofChars? .lenient address
    let n ← Numeral.read? 10 bits
    if bits.length ≤ lengthDigits a.family ∧ n ≤ 8 * a.family.width then
      some (network a.family a.value n)
    else none
  | _ => none

end Block

/-- How the successor of an address is found. -/
inductive Stepping where
  /-- Counts the last two octets, each below the modulus. -/
  | octetWrap (modulus : UInt8)
  /-- Goes on by a fixed distance. -/
  | stride (distance : Nat)
  deriving DecidableEq, Repr

/-- An address space in the order in which it is handed out. -/
structure Layout where
  family : Family
  blocks : List Block
  stepping : Stepping
  deriving DecidableEq, Repr

namespace Layout

/-- An IPv4 network whose last two octets stay below 254. -/
def octets (network : Block) : Layout :=
  ⟨.v4, [network], .octetWrap 254⟩

/-- The first address. -/
def start (l : Layout) : Nat :=
  (l.blocks.head?.map (·.start)).getD 0

/-- Where the counter rests when the space has run out. -/
def limit (l : Layout) : Nat :=
  (l.blocks.getLast?.map (·.stop)).getD 0

/-- The number of addresses in the blocks. -/
def size (l : Layout) : Nat :=
  l.blocks.foldr (fun b rest => b.stop - b.start + rest) 0

/-- The blocks from the first one on that contains a number. -/
def blocksFrom (l : Layout) (v : Nat) : List Block :=
  l.blocks.dropWhile fun b => !b.contains v

/-- Whether a number lies in a block. -/
def covers (l : Layout) (v : Nat) : Bool :=
  l.blocks.any fun b => b.contains v

/-- Whether a number is an address of the space, apart from strides. -/
def contains (l : Layout) (v : Nat) : Bool :=
  l.covers v &&
    match l.stepping with
    | .octetWrap m => v % 256 < m.toNat && v / 256 % 256 < m.toNat
    | .stride _ => true

/-- Whether a number is a whole number of strides from the start of its block. -/
def aligned (l : Layout) (v : Nat) : Bool :=
  match l.blocksFrom v, l.stepping with
  | [], _ => false
  | _ :: _, .octetWrap _ => true
  | b :: _, .stride n => (v - b.start) % n == 0

/-- The address after an address, and the limit after the last one. -/
def successor (l : Layout) (v : Nat) : Nat :=
  match l.blocksFrom v, l.stepping with
  | [], _ => l.limit
  | _ :: _, .octetWrap m =>
    let fourth := (v + 1) % 256
    let third := v / 256 % 256
    let base := v / 65536 * 65536
    if fourth % m.toNat ≠ 0 then base + third * 256 + fourth
    else
      let third := (third + 1) % m.toNat
      if third = 0 then l.limit else base + third * 256
  | b :: rest, .stride n =>
    if v + n < b.stop then v + n
    else (rest.head?.map (·.start)).getD l.limit

/-- Whether a number lies in a block but alignment means nothing, because the stride is zero. -/
def alignmentFails (l : Layout) (v : Nat) : Bool :=
  l.covers v && l.stepping == .stride 0

/-- Whether a number lies in a block but has no successor, because the octets count up to zero. -/
def successorFails (l : Layout) (v : Nat) : Bool :=
  l.covers v && l.stepping == .octetWrap 0

end Layout

end Overlay
