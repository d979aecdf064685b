import Overlay.Http.Api
import Overlay.Http.Url
import Overlay.Retry

/-!
# Calls to other tiers

A cluster asks its parent, and the root tells its clusters, over HTTP. Both try again as their
policy allows. The parent answers with an envelope: the data, or an error for a status that is no
success; a job it does not know is answered with the status 404.

A cluster whose callback fails is marked and skipped until it registers again.
-/

namespace Overlay.Http

open Json

/-- What comes back from a call. -/
structure Reply where
  status : Status
  body : String

/-- A way to carry requests to other tiers. -/
abbrev Transport (σ : Type) : Type :=
  Url → Request → Action σ TransportFault Reply

/-- What a response says on the wire. -/
def Response.reply (r : Response) : Reply :=
  ⟨r.status, (r.body.map Json.write).getD ""⟩

/-! ## The parent -/

/-- Any value that can be read. -/
def anything : Form Json where
  write v := v
  read _ v := if readable v then .ok v else .error .malformed

/-- The data and the error of an answer. -/
structure Envelope (α : Type) where
  data : Option α
  error : Option String

/-- The form of an answer, as it is read. -/
def Envelope.form {α : Type} (form : Form α) : Form (Envelope α) :=
  (Record.start Envelope.mk)
    |>.field (.placed "data" form) (·.data)
    |>.field (.placed "error" .text) (·.error)
    |>.form

/-- How a cluster reaches its parent. -/
structure ParentClient where
  baseUrl : String
  clusterId : String
  retry : RetryPolicy

namespace ParentClient

variable {σ α : Type}

/-- A client for a parent; slashes at the end of its address do not count. -/
def new (baseUrl clusterId : String) (retry : RetryPolicy) : ParentClient :=
  ⟨String.ofList (baseUrl.toList.reverse.dropWhile (· == '/')).reverse, clusterId, retry⟩

/-- Whether a text can be sent in a header. -/
def isHeaderText (s : String) : Bool :=
  s.toList.all fun c => c = '\t' ∨ (0x20 ≤ c.toNat ∧ c.toNat ≠ 0x7F)

/-- One attempt of a call. -/
def attempt (c : ParentClient) (transport : Transport σ) (method path : String)
    (body : Option Json) : Action σ TransportFault Reply :=
  match Url.ofText? (c.baseUrl ++ "/api/net" ++ path) with
  | none => throw .unsendable
  | some url =>
    if isHeaderText c.clusterId then
      let json := if body.isSome then [("content-type", "application/json")] else []
      transport url
        ⟨method, url.target, json ++ [(clusterHeader, c.clusterId)], body.map Json.write⟩
    else throw .unsendable

/-- A call, tried as often as the policy allows. -/
def send (c : ParentClient) (transport : Transport σ) (method path : String)
    (body : Option Json) : Action σ EscalationFault Reply :=
  (c.retry.send (·.status) (c.attempt transport method path body)).mapError
    fun fault => .unreachable fault.message

/-- The data of an answer. -/
def dataOf (form : Form α) (reply : Reply) : Except EscalationFault (Option α) :=
  match (Json.read reply.body).decode (Envelope.form form) with
  | .error _ => .error (.undecodable reply.status.display)
  | .ok envelope =>
    if reply.status.isSuccess then .ok envelope.data
    else .error (.refused reply.status.display (envelope.error.getD ""))

/-- A call whose answer holds nothing of interest. -/
def tell (c : ParentClient) (transport : Transport σ) (method path : String)
    (body : Option Json) : Action σ EscalationFault Unit := do
  let reply ← c.send transport method path body
  let _ ← .ofExcept (dataOf anything reply)

/-- The path under which a job is found. -/
def jobPath : Selector → String
  | .name name => "/service/" ++ name ++ "/instances"
  | .address address => "/service/ip/" ++ address ++ "/instances"

/-- The connection to the parent. -/
def parent (c : ParentClient) (transport : Transport σ) : Parent σ
  | .fetchJob selector => do
    let reply ← c.send transport "GET" (jobPath selector) none
    if reply.status = 404 then return none
    .ofExcept (dataOf Job.form reply)
  | .reportDeployment report =>
    c.tell transport "POST" "/instance/deploy_status" (some (DeployReport.form.write report))
  | .requestSubnets => do
    let reply ← c.send transport "GET" "/subnet" none
    match ← .ofExcept (dataOf subnetsForm reply) with
    | some subnets => return subnets
    | none => throw .noSubnet
  | .releaseSubnets subnets =>
    c.tell transport "DELETE" "/subnet" (some (subnetsForm.write subnets))
  | .removeInterest jobName => c.tell transport "DELETE" ("/interest/" ++ jobName) none
  | .register registration =>
    c.tell transport "POST" "/cluster" (some (ClusterRegistration.form.write registration))

end ParentClient

/-! ## The clusters -/

/-- The address of a cluster's callback. -/
def callbackUrl (cluster : Cluster) : String :=
  "http://" ++ Codec.urlHost cluster.address ++ s!":{cluster.port}" ++ "/api/net/job/update"

/-- One attempt to call a cluster back. -/
def callBack {σ : Type} (transport : Transport σ) (cluster : Cluster) (update : JobUpdate) :
    Action σ TransportFault Reply :=
  match Url.ofText? (callbackUrl cluster) with
  | none => throw .unsendable
  | some url =>
    transport url ⟨"POST", url.target, [("content-type", "application/json")],
      some (JobUpdate.form.write update).write⟩

/-- Tells clusters of changes. A cluster that has failed is skipped, one that fails is marked. Other
messages are not for clusters and count as delivered. -/
def clusterNotifier {σ : Type} (site : Part σ Registry) (retry : RetryPolicy)
    (transport : Transport σ) : Notifier σ := fun recipient message =>
  match message with
  | .update update => do
    let cluster? ← .inspect fun s => (site.get s).cluster? recipient
    match cluster? with
    | none => throw (.notRegistered recipient)
    | some cluster =>
      if cluster.status = .failed then return
      let mark : Action σ DeliveryFault Bool :=
        (Action.step fun r : Registry => r.setClusterStatus recipient .failed).zoom site
      match ← (retry.send (·.status) (callBack transport cluster update)).attempt with
      | .ok reply =>
        if reply.status.isSuccess then return
        let _ ← mark
        throw (.answered recipient reply.status.display)
      | .error fault =>
        let _ ← mark
        throw (.failed recipient fault.message)
  | _ => pure ()

end Overlay.Http
