import Overlay.Http.Basic
import Overlay.Http.MediaType
import Overlay.Http.Percent
import Overlay.Text.Split
import Overlay.Tier.Gateways
import Overlay.Tier.Registration
import Overlay.Tier.Requests

/-!
# The HTTP interface of a tier

Every path starts with `/api/net`. The root and the clusters have different paths (`Endpoint`). An
answer is an object that says whether the request was carried out, with the data or the error.

A request is refused before the tier hears of it, in this order: if the path is none (404), if the
method is not for the path (405), if the path holds no text (400), if the body has no JSON media
type (415), if it is no JSON (400), if it has another shape (422). Calls of child tiers name the
calling cluster in a header, which is looked at after the body.
-/

namespace Overlay.Http

open Json

/-- The header that names the calling cluster. -/
def clusterHeader : String :=
  "x-tiernet-cluster"

/-- Which interface is served. -/
inductive Router where
  | root
  | cluster
  deriving DecidableEq

/-- What a path stands for. Parts of the path that vary are given as they were sent. -/
inductive Endpoint where
  | jobByName (name : List Char)
  | jobByAddress (address : List Char)
  | services
  | deployReports
  | instances
  | undeployments
  | subnets
  | interest (jobName : List Char)
  | clusters
  | gateways
  | gatewayDeployments
  | gatewayNamespaces (id : List Char)
  | gatewayServices (id : List Char)
  | updates
  | requests (client : List Char)

namespace Endpoint

/-- The endpoint of the root that the parts of a path lead to. -/
def ofRootPath? : List (List Char) → Option Endpoint
  | [a, b] =>
    match String.ofList a, String.ofList b with
    | "service", "deploy" => some .services
    | "instance", "deploy_status" => some .deployReports
    | "instance", "deploy" => some .instances
    | "instance", "undeploy" => some .undeployments
    | "gateway", "deploy" => some .gatewayDeployments
    | "interest", _ => if b.isEmpty then none else some (.interest b)
    | _, _ => none
  | [a] =>
    match String.ofList a with
    | "subnet" => some .subnets
    | "cluster" => some .clusters
    | "gateway" => some .gateways
    | _ => none
  | [a, b, c] =>
    match String.ofList a, String.ofList c with
    | "service", "instances" => some (.jobByName b)
    | "gateway", "namespace" => some (.gatewayNamespaces b)
    | "gateway", "service" => some (.gatewayServices b)
    | _, _ => none
  | [a, b, c, d] =>
    match String.ofList a, String.ofList b, String.ofList d with
    | "service", "ip", "instances" => some (.jobByAddress c)
    | _, _, _ => none
  | _ => none

/-- The endpoint of a cluster that the parts of a path lead to. -/
def ofClusterPath? : List (List Char) → Option Endpoint
  | [a, b] =>
    match String.ofList a, String.ofList b with
    | "job", "update" => some .updates
    | _, _ => none
  | [a, b, c] =>
    match String.ofList a, String.ofList c with
    | "nodes", "requests" => some (.requests b)
    | _, _ => none
  | _ => none

/-- The endpoint that a request target leads to; a host and a query do not matter. -/
def ofTarget? (router : Router) (target : String) : Option Endpoint :=
  match splitOn '/' (targetPath target) with
  | [] :: a :: b :: parts =>
    if String.ofList a = "api" ∧ String.ofList b = "net" then
      match router with
      | .root => ofRootPath? parts
      | .cluster => ofClusterPath? parts
    else none
  | _ => none

/-- The methods of an endpoint. Where `GET` is one, so is `HEAD`. -/
def methods : Endpoint → List String
  | jobByName _ | jobByAddress _ | gateways => ["GET", "HEAD"]
  | services | deployReports | instances | undeployments | clusters | gatewayDeployments => ["POST"]
  | updates | requests _ => ["POST"]
  | subnets => ["GET", "HEAD", "DELETE"]
  | interest _ => ["DELETE"]
  | gatewayNamespaces _ | gatewayServices _ => ["PUT"]

end Endpoint

/-! ## Answers -/

namespace Response

/-- A refusal that comes before the tier. -/
def bare (status : Status) : Response :=
  ⟨status, none⟩

/-- The answer to a request that was carried out. -/
def success (status : Status) (data : Json) : Response :=
  ⟨status, some (object [("success", bool true), ("data", data)])⟩

/-- The answer to a request that was not carried out. -/
def failure (status : Status) (error : String) : Response :=
  ⟨status, some (object [("success", bool false), ("error", string error)])⟩

end Response

/-- The status of a refusal by a pool. -/
def poolStatus : PoolError → Status
  | .exhausted _ => 507
  | .conflict _ _ | .alreadyFree _ _ | .aheadOfNext _ _ _ => 409
  | .malformed _ | .malformedNext _ _ | .outOfRange _ _ | .misaligned _ _ | .jobNameEmpty
  | .zeroStride => 400

/-- The status of a failed operation. -/
def errorStatus : TierError → Status
  | .badArgument _ => 400
  | .jobNotFound _ | .instanceNotFound _ _ | .gatewayNotFound _ => 404
  | .conflictingReport _ _ => 409
  | .escalationFailed _ | .resolutionFailed _ | .notDelivered _ => 502
  | .pool e => poolStatus e

/-! ## Bodies -/

/-- The body of a request to register a service. -/
def serviceForm : Form (String × ServiceDescriptor) :=
  (Record.start fun id d => (id, d))
    |>.field (.required "system_job_id" .text) (·.1)
    |>.including ServiceDescriptor.record (·.2)
    |>.form

/-- The body of a request to schedule instances; without a number, one. -/
def instancesForm : Form (String × UInt32 × String) :=
  (Record.start fun id replicas cluster => (id, replicas, cluster))
    |>.field (.required "system_job_id" .text) (·.1)
    |>.field (.defaulted "replicas" .uint32 1) (·.2.1)
    |>.field (.required "cluster_id" .text) (·.2.2)
    |>.form

/-- The body of a request to remove an instance. -/
def undeploymentForm : Form (String × UInt32) :=
  (Record.start fun id number => (id, number))
    |>.field (.required "system_job_id" .text) (·.1)
    |>.field (.required "instance_number" .uint32) (·.2)
    |>.form

/-- The body of a request to replace the services of a gateway. -/
def servicesForm : Form (List ExposedService) :=
  (Record.start id)
    |>.field (.defaulted "services" (.list ExposedService.form) []) id
    |>.form

namespace Request

/-- The body of the request in a form, or the refusal. -/
def read {α : Type} (r : Request) (form : Form α) : Except Response α :=
  if (r.visibleHeader? "content-type").any isJsonMediaType then
    match (Json.read (r.body.getD "")).decode form with
    | .ok a => .ok a
    | .error .malformed => .error (.bare 400)
    | .error .mismatched => .error (.bare 422)
  else .error (.bare 415)

/-- The cluster that the request says it comes from. -/
def callingCluster? (r : Request) : Option String :=
  (r.visibleHeader? clusterHeader).bind nonblank?

end Request

/-! ## Serving -/

namespace Api

variable {σ α : Type}

/-- Answers with the outcome of an operation. -/
def answer (status : Status) (write : α → Json) (x : Action σ TierError α) :
    Action σ Empty Response := do
  match ← x.attempt with
  | .ok a => return .success status (write a)
  | .error e => return .failure (errorStatus e) e.message

/-- Goes on with the body of a request. -/
def withBody (r : Request) (form : Form α) (k : α → Action σ Empty Response) :
    Action σ Empty Response :=
  match r.read form with
  | .ok a => k a
  | .error refusal => pure refusal

/-- Goes on with the text of a part of the path. -/
def withText (part : List Char) (k : String → Action σ Empty Response) : Action σ Empty Response :=
  match percentDecode? part with
  | some text => k text
  | none => pure (.bare 400)

/-- Goes on with the cluster that calls, if it is registered. -/
def withCluster (t : Tier σ) (r : Request) (k : String → Action σ Empty Response) :
    Action σ Empty Response :=
  match r.callingCluster? with
  | none => pure (.failure 400 ("missing " ++ clusterHeader ++ " header"))
  | some cluster => do
    match ← (t.requireCluster cluster).attempt with
    | .ok _ => k cluster
    | .error e => return .failure (errorStatus e) e.message

/-- Answers a look-up of a child tier. -/
def lookup (t : Tier σ) (r : Request) (selector : Selector) : Action σ Empty Response :=
  withCluster t r fun cluster => do
    match ← (t.childLookup cluster selector).attempt with
    | .ok (some job) => return .success 200 (Job.form.write job)
    | .ok none => return .failure 404 "job not found"
    | .error e => return .failure (errorStatus e) e.message

/-- What is said about an ended interest. -/
def interestData (jobName : String) (change : InterestChange) : Json :=
  object [("job_name", string jobName), ("was_present", bool change.wasPresent),
    ("remaining", nat change.remaining)]

/-- What is said about a removed instance. -/
def undeploymentData (u : Undeployment) : Json :=
  object [("job_name", string u.jobName), ("instance_number", nat u.removed.number.toNat),
    ("job_deleted", bool u.jobDeleted), ("notified", nat u.notified)]

/-- Serves a request whose path and method are known. -/
def serve (t : Tier σ) (r : Request) : Endpoint → Action σ Empty Response
  | .jobByName part => withText part fun name => lookup t r (.name name)
  | .jobByAddress part => withText part fun address => lookup t r (.address address)
  | .services => withBody r serviceForm fun (id, d) =>
    answer 201 Job.form.write (t.register d id)
  | .deployReports => withBody r DeployReport.form fun report =>
    answer 200 (fun changed => object [("applied", array (changed.map fun n => nat n.toNat))])
      (t.applyDeployReport report)
  | .instances => withBody r instancesForm fun (id, replicas, cluster) =>
    answer 201 (Form.list Instance.form).write (t.addInstances id replicas cluster)
  | .undeployments => withBody r undeploymentForm fun (id, number) =>
    answer 200 undeploymentData (t.undeployInstance id number)
  | .subnets =>
    if r.method = "DELETE" then
      withBody r subnetsForm fun subnets => withCluster t r fun _ =>
        answer 200 (fun () => string "released") (t.releaseSubnets subnets)
    else withCluster t r fun _ => answer 200 subnetsForm.write t.requestSubnets
  | .interest part => withText part fun jobName => withCluster t r fun cluster =>
    answer 200 (interestData jobName) (t.removeInterest jobName cluster)
  | .clusters => withBody r ClusterRegistration.form fun registration =>
    answer 201 Cluster.form.write (t.registerCluster registration)
  | .gateways => answer 200 (Form.list Gateway.form).write t.gateways
  | .gatewayDeployments => withBody r GatewayDeployment.form fun d =>
    answer 201 Job.form.write (t.deployGateway d)
  | .gatewayNamespaces part => withText part fun id =>
    withBody r gatewayNamespacesForm fun namespaces =>
      answer 200 Gateway.form.write (t.setGatewayNamespaces id namespaces)
  | .gatewayServices part => withText part fun id =>
    withBody r servicesForm fun services =>
      answer 200 Gateway.form.write (t.setGatewayServices id services)
  | .updates => withBody r JobUpdate.form fun update =>
    answer 200 (fun relevant => object [("relevant", bool relevant)]) (t.applyUpdate update)
  | .requests part => withText part fun client => withBody r ChildRequest.form fun request =>
    answer 200 ChildMessage.form.option.write (t.handle client request)

/-- Responds to a request. -/
def respond (t : Tier σ) (router : Router) (r : Request) : Action σ Empty Response :=
  match Endpoint.ofTarget? router r.target with
  | none => pure (.bare 404)
  | some endpoint =>
    if r.method ∈ endpoint.methods then do
      let response ← serve t r endpoint
      if r.method = "HEAD" then return .bare response.status else return response
    else pure (.bare 405)

end Api

end Overlay.Http
