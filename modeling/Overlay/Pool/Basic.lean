import Overlay.Pool.Layout
import Overlay.Registry.Basic

/-!
# Address pools

A pool hands out the addresses of a layout. Addresses that came back go out again first, the last
one before all others; otherwise the pool's counter moves on. Instance and round-robin pools skip
addresses that a job of the registry already has. An address can come back if it was handed out
and is not free already (`Pool.releasable`).

A tier has six pools: for instances, for round-robin addresses and for the subnets of workers, each
in both families.
-/

namespace Overlay

/-- What the addresses of a pool are for. -/
inductive Purpose where
  | oneInstance
  | roundRobin
  | subnet
  deriving DecidableEq, Repr

/-- Which of the pools of a tier. -/
structure PoolKind where
  purpose : Purpose
  family : Family
  deriving DecidableEq, Repr

/-- Why a pool refuses. -/
inductive PoolError where
  | malformed (fault : AddressFault)
  /-- The stored counter has no width of the family. -/
  | malformedNext (pool : String) (length : Nat)
  | exhausted (pool : String)
  | conflict (address owner : String)
  | outOfRange (address pool : String)
  /-- The address was never handed out: the counter has not passed it. -/
  | aheadOfNext (address pool next : String)
  | alreadyFree (address pool : String)
  | misaligned (address pool : String)
  | jobNameEmpty
  /-- The layout has a stride of zero. -/
  | zeroStride
  deriving DecidableEq, Repr

namespace PoolError

/-- The wording of an error. -/
def message : PoolError → String
  | malformed fault => "malformed address: " ++ fault.message
  | malformedNext pool n => s!"malformed address: stored next of pool {pool} has {n} bytes"
  | exhausted pool => s!"address space exhausted for pool {pool}"
  | conflict address owner => s!"address {address} already used by job {owner}"
  | outOfRange address pool => s!"address {address} is outside pool {pool}"
  | aheadOfNext address pool next =>
    s!"address {address} was never handed out by pool {pool} (next is {next})"
  | alreadyFree address pool =>
    s!"address {address} is already on the free list of pool {pool}"
  | misaligned address pool => s!"address {address} is not a block boundary of pool {pool}"
  | jobNameEmpty => "invalid arguments: job name is empty"
  | zeroStride => "the stride of the layout is zero"

end PoolError

namespace PoolKind

/-- All pools of a tier. -/
def all : List PoolKind :=
  [⟨.oneInstance, .v4⟩, ⟨.oneInstance, .v6⟩, ⟨.roundRobin, .v4⟩, ⟨.roundRobin, .v6⟩,
    ⟨.subnet, .v4⟩, ⟨.subnet, .v6⟩]

/-- The name under which the state of a pool is stored. -/
def name (k : PoolKind) : String :=
  match k.purpose, k.family with
  | .oneInstance, .v4 => "service_ip"
  | .oneInstance, .v6 => "service_ip_v6"
  | .roundRobin, .v4 => "rr_ip"
  | .roundRobin, .v6 => "rr_ip_v6"
  | .subnet, .v4 => "subnet_ip"
  | .subnet, .v6 => "subnet_ip_v6"

/-- The pool of a name. -/
def ofName? (name : String) : Option PoolKind :=
  all.find? fun k => k.name == name

/-- Whether addresses are looked up in the registry before they are handed out. -/
def checksJobs (k : PoolKind) : Bool :=
  k.purpose != .subnet

/-- The address space of a pool: 172.30.0.0/16 and fdff::/20 for instances, 10.30.0.0/16 and
fdff:2000::/21 for round-robin addresses, and for the subnets of workers 64 addresses each from
172.18.0.0 up to 172.30.0.0 and 256 each from fc00:: up to fdfe::. -/
def layout (k : PoolKind) : Layout :=
  match k.purpose, k.family with
  | .oneInstance, .v4 => .octets (.network .v4 0xAC1E0000 16)
  | .oneInstance, .v6 =>
    ⟨.v6, [.network .v6 0xFDFF0000000000000000000000000000 21,
      .network .v6 0xFDFF0800000000000000000000000000 21], .stride 1⟩
  | .roundRobin, .v4 => .octets (.network .v4 0x0A1E0000 16)
  | .roundRobin, .v6 => ⟨.v6, [.network .v6 0xFDFF2000000000000000000000000000 21], .stride 1⟩
  | .subnet, .v4 => ⟨.v4, [⟨0xAC120000, 0xAC1E0000⟩], .stride 64⟩
  | .subnet, .v6 =>
    ⟨.v6, [⟨0xFC000000000000000000000000000000, 0xFDFE0000000000000000000000000000⟩], .stride 256⟩

end PoolKind

/-- A pool over a registry. -/
structure Pool where
  kind : PoolKind
  layout : Layout
  deriving DecidableEq, Repr

namespace Pool

/-- The pool of a kind with its own layout. -/
def ofKind (k : PoolKind) : Pool :=
  ⟨k, k.layout⟩

/-- The name under which the state of the pool is stored. -/
def name (p : Pool) : String :=
  p.kind.name

/-- The family of the pool's addresses. -/
def family (p : Pool) : Family :=
  p.kind.family

/-- The counter of the pool. An unused pool starts with the first address. -/
def next (p : Pool) (r : Registry) : Except PoolError Nat :=
  match (r.pool p.name).next with
  | none => .ok p.layout.start
  | some bytes =>
    if bytes.length = p.family.width then .ok (Codec.toValue bytes)
    else .error (.malformedNext p.name bytes.length)

/-- The text of the address at the counter. -/
def nextAddress (p : Pool) (r : Registry) : Except PoolError String :=
  (p.next r).map fun v => Codec.render v p.family

/-- Whether the pool skips a number, because a job has its address. -/
def taken (p : Pool) (r : Registry) (v : Nat) : Bool :=
  p.kind.checksJobs && (r.jobByAddress? (Codec.render v p.family)).isSome

/-! ## Handing out -/

/-- Moves the counter on past addresses that are taken, up to one that is not. A counter that meets
no number twice ends within as many steps as the layout has addresses. -/
def advance (p : Pool) : Nat → Registry → Except PoolError String × Registry
  | 0, r => (.error (.exhausted p.name), r)
  | steps + 1, r =>
    match p.next r with
    | .error e => (.error e, r)
    | .ok v =>
      if p.layout.contains v then
        let r := r.setNext p.name (Codec.ofValue (p.layout.successor v) p.family)
        if p.taken r v then p.advance steps r else (.ok (Codec.render v p.family), r)
      else (.error (.exhausted p.name), r)

/-- Hands out an address. -/
def allocate (p : Pool) : Action Registry PoolError String := fun r =>
  match r.popFree p.name with
  | (some bytes, r) => ((Codec.stringify bytes).mapError .malformed, r)
  | (none, r) => p.advance (p.layout.size + 1) r

/-- Hands out addresses one after the other; the first failure ends it. -/
def allocateMany (p : Pool) : Nat → Action Registry PoolError (List String)
  | 0 => pure []
  | n + 1 => do
    let address ← p.allocate
    return address :: (← p.allocateMany n)

/-! ## Taking back -/

/-- The bytes of an address that may come back. -/
def releasable (p : Pool) (r : Registry) (address : String) : Except PoolError (List UInt8) := do
  let bytes ← (Codec.parse address p.family).mapError .malformed
  let v := Codec.toValue bytes
  if !p.layout.contains v then throw (.outOfRange address p.name)
  if p.layout.alignmentFails v then throw .zeroStride
  if !p.layout.aligned v then throw (.misaligned address p.name)
  let next ← p.next r
  if next ≤ v then throw (.aheadOfNext address p.name (Codec.render next p.family))
  if (r.pool p.name).free.contains bytes then throw (.alreadyFree address p.name)
  return bytes

/-- Whether an address may come back now. -/
def checkRelease (p : Pool) (address : String) : Action Registry PoolError Unit := fun r =>
  ((p.releasable r address).map fun _ => (), r)

/-- Takes an address back. -/
def release (p : Pool) (address : String) : Action Registry PoolError Unit := fun r =>
  match p.releasable r address with
  | .ok bytes => (.ok (), r.pushFree p.name bytes)
  | .error e => (.error e, r)

end Pool

/-! ## The pools of a tier -/

namespace Pool

/-- The pool of instance addresses. -/
def instances (family : Family) : Pool :=
  ofKind ⟨.oneInstance, family⟩

/-- The pool of round-robin addresses. -/
def roundRobin (family : Family) : Pool :=
  ofKind ⟨.roundRobin, family⟩

/-- The pool of worker subnets. -/
def subnets (family : Family) : Pool :=
  ofKind ⟨.subnet, family⟩

/-- A round-robin address for a job: the requested one, if it lies in the space of the pool and no
other job has it, or one from the pool. A requested address is not taken out of the pool. -/
def assignShared (jobName : String) (requested : Option String) (family : Family) :
    Action Registry PoolError String := fun r =>
  let p := roundRobin family
  if jobName.isEmpty then (.error .jobNameEmpty, r)
  else match requested.bind nonblank? with
    | none => p.allocate r
    | some wanted =>
      let answer : Except PoolError String := do
        let bytes ← (Codec.parse wanted family).mapError .malformed
        if !p.layout.covers (Codec.toValue bytes) then throw (.outOfRange wanted p.name)
        let address ← (Codec.stringify bytes).mapError .malformed
        match r.jobByAddress? address with
        | some owner =>
          if owner.name = jobName then return address else throw (.conflict address owner.name)
        | none => return address
      (answer, r)

end Pool

end Overlay
