import Overlay.Action
import Overlay.Cluster
import Overlay.Gateway
import Overlay.Table

/-!
# The registry of a tier

Everything a tier remembers: jobs, the state of its address pools, clusters, worker nodes and
gateways. Records are stored under their names and listed in the order of the names. An edit that
fails writes nothing.
-/

namespace Overlay

/-- What a pool remembers: the address it hands out next, unless it is unused, and the addresses
that came back, oldest first. -/
structure PoolState where
  next : Option (List UInt8)
  free : List (List UInt8)
  deriving DecidableEq

/-- The state of an unused pool. -/
def PoolState.unused : PoolState :=
  ⟨none, []⟩

/-- What a tier remembers. -/
structure Registry where
  jobs : Table Job
  pools : Table PoolState
  clusters : Table Cluster
  nodes : Table WorkerNode
  gateways : Table Gateway

/-- What the removal of an interested party has changed. -/
structure InterestChange where
  /-- Whether the party was interested. -/
  wasPresent : Bool
  /-- How many parties are left. -/
  remaining : Nat
  /-- Whether the job went away with its last party. -/
  jobDeleted : Bool
  deriving DecidableEq

/-- Why an edit was not written: whoever made it has refused it. -/
structure EditRefused where
  why : String

/-- The wording of a refused edit. -/
def EditRefused.message (e : EditRefused) : String :=
  "write error: " ++ e.why

namespace Registry

/-- The registry without records. -/
def empty : Registry :=
  ⟨∅, ∅, ∅, ∅, ∅⟩

instance : EmptyCollection Registry := ⟨empty⟩

variable {ε α : Type}

/-! ## Jobs -/

/-- Stores a job under its name. -/
def putJob (r : Registry) (job : Job) : Registry :=
  { r with jobs := r.jobs.insert job.name job }

/-- The job of a name. -/
def job? (r : Registry) (name : String) : Option Job :=
  r.jobs.get? name

/-- The first job that has an address, in whatever spelling. -/
def jobByAddress? (r : Registry) (address : String) : Option Job :=
  r.jobs.values.find? fun job => job.hasAddress address

/-- The first job with an identifier given by the scheduler. -/
def jobBySystemId? (r : Registry) (id : String) : Option Job :=
  r.jobs.values.find? fun job => job.systemId == id

/-- Removes the job of a name. -/
def deleteJob (r : Registry) (name : String) : Registry :=
  { r with jobs := r.jobs.erase name }

/-- Edits the job of a name, if there is one. -/
def updateJob (name : String) (edit : Job → Except ε (α × Job)) :
    Action Registry ε (Option α) := fun r =>
  match r.job? name with
  | none => (.ok none, r)
  | some job =>
    match edit job with
    | .ok (a, job) => (.ok (some a), { r with jobs := r.jobs.insert name job })
    | .error e => (.error e, r)

/-- Takes an instance over into a job. The hosting worker is kept where the other side does not
know it. -/
def mergeInstance (job : Job) (i : Instance) : Job :=
  job.upsert { i with worker := i.worker.or ((job.instance? i.number).bind (·.worker)) }

/-- Takes a job of another tier over into the local record of it. The interest set stays, and so
do instances the other tier does not mention. -/
def merged (current : Option Job) (incoming : Job) : Job :=
  match current with
  | none => incoming.withoutParties
  | some job =>
    incoming.instances.foldl mergeInstance
      { job with systemId := incoming.systemId, serviceAddresses := incoming.serviceAddresses }

/-- Takes a job of another tier over, and gives the record as stored. -/
def mergeJob (r : Registry) (incoming : Job) : Job × Registry :=
  let job := merged (r.job? incoming.name) incoming
  (job, { r with jobs := r.jobs.insert incoming.name job })

/-! ## Interested parties -/

/-- The parties interested in the job of a name, none if there is no such job. -/
def parties (r : Registry) (name : String) : List String :=
  match r.job? name with
  | some job => job.parties.toList
  | none => []

/-- Adds an interested party. Gives whether it is new, or nothing if there is no such job. -/
def addParty (r : Registry) (name party : String) : Option Bool × Registry :=
  match r.job? name with
  | none => (none, r)
  | some job =>
    (some (!job.parties.contains party),
      { r with jobs := r.jobs.insert name { job with parties := job.parties.insert party } })

/-- Removes an interested party; with `dropUnused` the job goes with its last party. A stranger's
removal changes nothing. -/
def removeParty (r : Registry) (name party : String) (dropUnused : Bool) :
    Option InterestChange × Registry :=
  match r.job? name with
  | none => (none, r)
  | some job =>
    let wasPresent := job.parties.contains party
    let parties := job.parties.erase party
    let jobDeleted := wasPresent && dropUnused && parties.isEmpty
    let change := ⟨wasPresent, parties.size, jobDeleted⟩
    if jobDeleted then (some change, r.deleteJob name)
    else if wasPresent then
      (some change, { r with jobs := r.jobs.insert name { job with parties } })
    else (some change, r)

/-! ## Pools -/

/-- The state of a pool. -/
def pool (r : Registry) (name : String) : PoolState :=
  (r.pools.get? name).getD .unused

/-- Replaces the state of a pool. -/
def setPool (r : Registry) (name : String) (state : PoolState) : Registry :=
  { r with pools := r.pools.insert name state }

/-- Sets the address that a pool hands out next. -/
def setNext (r : Registry) (name : String) (next : List UInt8) : Registry :=
  r.setPool name { r.pool name with next := some next }

/-- Takes the address that came back last. -/
def popFree (r : Registry) (name : String) : Option (List UInt8) × Registry :=
  match (r.pool name).free.getLast? with
  | none => (none, r)
  | some bytes =>
    (some bytes, r.setPool name { r.pool name with free := (r.pool name).free.dropLast })

/-- Puts an address that came back after all others. -/
def pushFree (r : Registry) (name : String) (bytes : List UInt8) : Registry :=
  r.setPool name { r.pool name with free := (r.pool name).free ++ [bytes] }

/-! ## Clusters, nodes and gateways -/

/-- Stores a cluster under its identifier. -/
def putCluster (r : Registry) (cluster : Cluster) : Registry :=
  { r with clusters := r.clusters.insert cluster.id cluster }

/-- The cluster of an identifier. -/
def cluster? (r : Registry) (id : String) : Option Cluster :=
  r.clusters.get? id

/-- Changes the status of a cluster. Gives whether there is such a cluster. -/
def setClusterStatus (r : Registry) (id : String) (status : Cluster.Status) : Bool × Registry :=
  match r.cluster? id with
  | none => (false, r)
  | some cluster => (true, { r with clusters := r.clusters.insert id { cluster with status } })

/-- Stores a worker node under its identifier. -/
def putNode (r : Registry) (node : WorkerNode) : Registry :=
  { r with nodes := r.nodes.insert node.id node }

/-- The worker node of an identifier. -/
def node? (r : Registry) (id : String) : Option WorkerNode :=
  r.nodes.get? id

/-- Removes the worker node of an identifier. -/
def deleteNode (r : Registry) (id : String) : Registry :=
  { r with nodes := r.nodes.erase id }

/-- Stores a gateway under its identifier. -/
def putGateway (r : Registry) (gateway : Gateway) : Registry :=
  { r with gateways := r.gateways.insert gateway.id gateway }

/-- The gateway of an identifier. -/
def gateway? (r : Registry) (id : String) : Option Gateway :=
  r.gateways.get? id

/-- Removes the gateway of an identifier. -/
def deleteGateway (r : Registry) (id : String) : Registry :=
  { r with gateways := r.gateways.erase id }

/-- Edits the gateway of an identifier, if there is one. -/
def updateGateway (id : String) (edit : Gateway → Except ε (α × Gateway)) :
    Action Registry ε (Option α) := fun r =>
  match r.gateway? id with
  | none => (.ok none, r)
  | some gateway =>
    match edit gateway with
    | .ok (a, gateway) => (.ok (some a), { r with gateways := r.gateways.insert id gateway })
    | .error e => (.error e, r)

end Registry

end Overlay
