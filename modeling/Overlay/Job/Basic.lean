import Overlay.Address.Codec
import Overlay.NameSet

/-!
# Jobs

A job is a named service with its instances. It has service addresses, which all its instances
share, and each instance has addresses of its own. The network of an instance is set up by the
worker that hosts it and reported later. Instance numbers only grow: a number that was given to an
instance is not given again while the job exists.

A job carries the names of the parties that rely on it, its interest set.
-/

namespace Overlay

/-- What the hosting worker has set up for an instance. -/
structure Network where
  namespaces : Addresses
  hostAddress : Option String
  hostPort : Option UInt16
  deriving DecidableEq

namespace Network

/-- Nothing set up yet. -/
def none : Network :=
  ⟨Addresses.none, Option.none, Option.none⟩

/-- Whether nothing is set up. -/
def isEmpty (n : Network) : Bool :=
  n.namespaces.isEmpty && n.hostAddress.isNone && n.hostPort.isNone

end Network

/-- One replica of a job. -/
structure Instance where
  number : UInt32
  addresses : Addresses
  network : Network
  worker : Option String
  cluster : Option String
  deriving DecidableEq

/-- How far the set-up of an instance has come. -/
inductive Phase where
  | unassigned
  | addressAssigned
  | networkConfigured
  deriving DecidableEq

namespace Instance

/-- An instance with addresses but without a network. -/
def fresh (number : UInt32) (addresses : Addresses) (cluster : Option String) : Instance :=
  ⟨number, addresses, Network.none, none, cluster⟩

/-- Whether the worker has reported its network. -/
def isConfigured (i : Instance) : Bool :=
  !i.network.isEmpty

/-- How far the set-up has come. -/
def phase (i : Instance) : Phase :=
  if i.isConfigured then .networkConfigured
  else if !i.addresses.isEmpty then .addressAssigned
  else .unassigned

end Instance

/-- What a service address stands for. -/
inductive ServiceAddress.Kind where
  /-- Any instance of the job in turn. -/
  | roundRobin
  /-- One instance; found in answers to queries only. -/
  | oneInstance
  deriving DecidableEq

/-- An address of a service in both families. -/
structure ServiceAddress where
  kind : ServiceAddress.Kind
  addresses : Addresses
  deriving DecidableEq

namespace ServiceAddress

/-- An address that all instances share. -/
def shared (addresses : Addresses) : ServiceAddress :=
  ⟨.roundRobin, addresses⟩

end ServiceAddress

/-- A named service. -/
structure Job where
  name : String
  /-- The identifier the scheduler gave to the job. -/
  systemId : String
  serviceAddresses : List ServiceAddress
  instances : List Instance
  /-- The number of the next instance, unless a live instance has it or a higher one. -/
  nextNumber : UInt32
  /-- The parties that rely on the job. -/
  parties : NameSet

namespace Job

/-- A job without addresses, instances and parties. -/
def new (name systemId : String) : Job :=
  ⟨name, systemId, [], [], 0, ∅⟩

/-! ## Instances -/

/-- The instance of a number. -/
def instance? (job : Job) (number : UInt32) : Option Instance :=
  job.instances.find? (fun i => i.number == number)

/-- The number that is one above the highest live instance. -/
def aboveLive (job : Job) : UInt32 :=
  job.instances.foldl (fun top i => max top (i.number + 1)) 0

/-- Takes a number for a new instance. -/
def takeNumber (job : Job) : UInt32 × Job :=
  let number := max job.nextNumber job.aboveLive
  (number, { job with nextNumber := number + 1 })

/-- Replaces the first element that satisfies a condition. -/
def replaceFirst {α : Type} (p : α → Bool) (f : α → α) : List α → Option (List α)
  | [] => none
  | a :: as => if p a then some (f a :: as) else (replaceFirst p f as).map (a :: ·)

/-- Stores an instance, in place of the one with its number or after all others. -/
def upsert (job : Job) (i : Instance) : Job :=
  let instances := replaceFirst (fun j => j.number == i.number) (fun _ => i) job.instances
  { job with instances := instances.getD (job.instances ++ [i]) }

/-- Removes the instance of a number. -/
def remove (job : Job) (number : UInt32) : Job :=
  { job with instances := job.instances.eraseP (fun i => i.number == number) }

/-- Records the network of the instance of a number, if there is one. -/
def setNetwork (job : Job) (number : UInt32) (network : Network) : Option Job :=
  (replaceFirst (fun j => j.number == number) (fun j => { j with network }) job.instances).map
    fun instances => { job with instances }

/-! ## Addresses -/

/-- All address texts of the job and its instances. -/
def addressTexts (job : Job) : List String :=
  (job.serviceAddresses.flatMap fun a => a.addresses.present.map (·.2)) ++
    job.instances.flatMap fun i => i.addresses.present.map (·.2)

/-- Whether the job or one of its instances has an address, in whatever spelling. -/
def hasAddress (job : Job) (text : String) : Bool :=
  job.addressTexts.any fun a => canonicalAddress a == canonicalAddress text

/-- The addresses of the first shared service address. -/
def sharedAddresses (job : Job) : Addresses :=
  match job.serviceAddresses.find? (fun a => a.kind == .roundRobin) with
  | some a => a.addresses
  | none => Addresses.none

/-- The job without its interest set. -/
def withoutParties (job : Job) : Job :=
  { job with parties := ∅ }

end Job

end Overlay
