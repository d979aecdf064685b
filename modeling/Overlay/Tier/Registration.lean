import Overlay.Tier.Undeployment

/-!
# Registration of services

The root registers services and schedules their instances. A service gets a round-robin address in
each family: the one it has, the one it asks for, or one from the pool. An instance gets an address
of each family from the instance pools. If one address is missing, those taken before it go back and
nothing is stored.
-/

namespace Overlay

open Json

/-- How a service is named, and the round-robin addresses it asks for. -/
structure ServiceDescriptor where
  appName : String
  appNamespace : String
  serviceName : String
  serviceNamespace : String
  requested : Addresses
  deriving DecidableEq

namespace ServiceDescriptor

/-- The parts of the job's name. -/
def parts (d : ServiceDescriptor) : List String :=
  [d.appName, d.appNamespace, d.serviceName, d.serviceNamespace]

/-- The name of the service's job: the four parts with dots between them. -/
def jobName (d : ServiceDescriptor) : Except BadArgument String :=
  if d.parts.any isBlankText then .error .incompleteDescriptor
  else .ok (".".intercalate (d.parts.map trimmed))

/-- The members of a descriptor. -/
def record : Record ServiceDescriptor ServiceDescriptor :=
  (Record.start fun app ns service serviceNs v4 v6 => ⟨app, ns, service, serviceNs, ⟨v4, v6⟩⟩)
    |>.field (.required "app_name" .text) (·.appName)
    |>.field (.required "app_ns" .text) (·.appNamespace)
    |>.field (.required "service_name" .text) (·.serviceName)
    |>.field (.required "service_ns" .text) (·.serviceNamespace)
    |>.field (.optional "RR_ip" .text) (·.requested.v4)
    |>.field (.optional "RR_ip_v6" .text) (·.requested.v6)

/-- The form of a descriptor. -/
def form : Form ServiceDescriptor :=
  record.form

end ServiceDescriptor

namespace Registry

/-! ## Round-robin addresses -/

/-- A round-robin address of a job, and whether it was just taken from the pool: the current one
unless another one is asked for, the one asked for, or one from the pool. -/
def sharedAddress (jobName : String) (requested current : Option String) (family : Family) :
    Action Registry TierError (String × Bool) :=
  match requested.bind nonblank?, current with
  | none, some address => pure (address, false)
  | requested, _ => do
    let address ← (Pool.assignShared jobName requested family).mapError .pool
    return (address, requested.isNone)

/-- Registers a service, or registers it again. The job keeps its instances and parties. -/
def register (d : ServiceDescriptor) (systemId : String) : Action Registry TierError Job := do
  let name ← .ofExcept (d.jobName.mapError .badArgument)
  if isBlankText systemId then throw (.badArgument .systemIdEmpty)
  let job := ((← .inspect fun r => r.job? name)).getD (.new name systemId)
  let current := job.sharedAddresses
  let (v4, taken) ← sharedAddress name d.requested.v4 current.v4 .v4
  match ← (sharedAddress name d.requested.v6 current.v6 .v6).attempt with
  | .error e =>
    if taken then
      let _ ← ((Pool.roundRobin .v4).release v4).attempt
    throw e
  | .ok (v6, _) =>
    let job := { job with systemId, serviceAddresses := [.shared ⟨some v4, some v6⟩] }
    .modify fun r => r.putJob job
    return job

/-! ## Instances -/

/-- Takes an instance address of each family, or none. -/
def takeInstancePair : Action Registry TierError Addresses := do
  let v4 ← (Pool.instances .v4).allocate.mapError .pool
  match ← (Pool.instances .v6).allocate.attempt with
  | .ok v6 => return ⟨some v4, some v6⟩
  | .error e =>
    returnInstanceAddresses [(.v4, v4)]
    throw (.pool e)

/-- Takes pairs of instance addresses. If one of them fails, all go back. -/
def takeInstancePairs : Nat → List Addresses → Action Registry TierError (List Addresses)
  | 0, taken => pure taken
  | count + 1, taken => do
    match ← takeInstancePair.attempt with
    | .ok pair => takeInstancePairs count (taken ++ [pair])
    | .error e =>
      returnInstanceAddresses (taken.flatMap Dual.present)
      throw e

/-- Adds one instance per pair of addresses. -/
def addEach (cluster : String) : List Addresses → Job → List Instance × Job
  | [], job => ([], job)
  | addresses :: rest, job =>
    let (number, job) := job.takeNumber
    let i := Instance.fresh number addresses (some cluster)
    let (added, job) := addEach cluster rest (job.upsert i)
    (i :: added, job)

/-- Schedules instances of a job on a cluster. -/
def addInstances (systemId : String) (replicas : UInt32) (cluster : String) :
    Action Registry TierError (List Instance) := do
  if replicas = 0 || isBlankText cluster then throw (.badArgument .noReplicas)
  match ← .inspect fun r => r.jobBySystemId? systemId with
  | none => throw (.jobNotFound systemId)
  | some job =>
    let pairs ← takeInstancePairs replicas.toNat []
    match ← updateJob job.name fun job => .ok (addEach cluster pairs job) with
    | some added => return added
    | none =>
      returnInstanceAddresses (pairs.flatMap Dual.present)
      throw (.jobNotFound systemId)

end Registry

namespace Tier

variable {σ : Type}

/-- Registers a service. -/
def register (t : Tier σ) (d : ServiceDescriptor) (systemId : String) : Action σ TierError Job :=
  t.atRoot .jobsBelongToRoot (Registry.register d systemId)

/-- Schedules instances of a job. -/
def addInstances (t : Tier σ) (systemId : String) (replicas : UInt32) (cluster : String) :
    Action σ TierError (List Instance) :=
  t.atRoot .jobsBelongToRoot (Registry.addInstances systemId replicas cluster)

/-- Removes an instance of the job with an identifier given by the scheduler. -/
def undeployInstance (t : Tier σ) (systemId : String) (number : UInt32) :
    Action σ TierError Undeployment := do
  if !t.isRoot then throw (.badArgument .jobsBelongToRoot)
  match ← t.look fun r => r.jobBySystemId? systemId with
  | none => throw (.jobNotFound systemId)
  | some job => t.undeploy (.name job.name) number

end Tier

end Overlay
