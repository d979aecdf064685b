import Overlay.Job.Form
import Overlay.Selector
import Overlay.Text.Split

/-!
# Requests of child tiers

What a party below asks for: reports of instances that came or went, table queries, subnets, the end
of an interest. A request arrives on the topic `nodes/<client>/net/<kind>`, where the client is
not empty and has no slash and the kind is one of five. Its payload has the form of its kind.
-/

namespace Overlay

open Json

/-- An instance whose network was set up. -/
structure DeployedReport where
  jobName : String
  number : UInt32
  network : Network
  deriving DecidableEq

/-- An instance that is gone. -/
structure UndeployedReport where
  jobName : String
  number : UInt32
  deriving DecidableEq

/-- A look-up by an optional name and an optional address. -/
structure TableQuery where
  name : Option String
  address : Option String
  deriving DecidableEq

/-- What to do about the subnet of a worker. -/
inductive SubnetMethod where
  | get
  | delete
  deriving DecidableEq

/-- A request of a party below. -/
inductive ChildRequest where
  | deployed (report : DeployedReport)
  | undeployed (report : UndeployedReport)
  | tableQuery (query : TableQuery)
  | subnet (method : SubnetMethod)
  | removeInterest (jobName : String)
  deriving DecidableEq

/-- Why a publication is no request. -/
inductive RequestFault where
  | unexpectedTopic (topic : String)
  | badRequest (kind : String)
  deriving DecidableEq

/-! ## Forms -/

namespace DeployedReport

/-- The form of a report of an instance whose network was set up. -/
def form : Form DeployedReport :=
  (Record.start fun name number v4 v6 host port => ⟨name, number, ⟨⟨v4, v6⟩, host, port⟩⟩)
    |>.field (.required "appname" .text) (·.jobName)
    |>.field (.required "instance_number" .uint32) (·.number)
    |>.field (.nullable "nsip" .text) (·.network.namespaces.v4)
    |>.field (.nullable "nsipv6" .text) (·.network.namespaces.v6)
    |>.field (.nullable "host_ip" .text) (·.network.hostAddress)
    |>.field (.nullable "host_port" .uint16) (·.network.hostPort)
    |>.form

end DeployedReport

namespace UndeployedReport

/-- The form of a report of an instance that is gone. -/
def form : Form UndeployedReport :=
  (Record.start UndeployedReport.mk)
    |>.field (.required "appname" .text) (·.jobName)
    |>.field (.required "instance_number" .uint32) (·.number)
    |>.form

end UndeployedReport

namespace TableQuery

/-- What the query asks for. -/
def selector? (q : TableQuery) : Option Selector :=
  Selector.ofParts? q.name q.address

/-- The form of a table query. -/
def form : Form TableQuery :=
  (Record.start TableQuery.mk)
    |>.field (.nullable "sname" .text) (·.name)
    |>.field (.nullable "sip" .text) (·.address)
    |>.form

end TableQuery

namespace SubnetMethod

/-- The name of a method. -/
def name : SubnetMethod → String
  | get => "GET"
  | delete => "DELETE"

end SubnetMethod

namespace ChildRequest

/-- The form of a subnet request. -/
def subnetForm : Form SubnetMethod :=
  (Record.start id)
    |>.field (.required "METHOD" (.choice SubnetMethod.name [.get, .delete])) id
    |>.form

/-- The form of a request to end an interest. -/
def removeInterestForm : Form String :=
  (Record.start id)
    |>.field (.required "appname" .text) id
    |>.form

/-- The kind of a request, the last part of its topic. -/
def kind : ChildRequest → String
  | deployed _ => "service/deployed"
  | undeployed _ => "service/undeployed"
  | tableQuery _ => "tablequery/request"
  | subnet _ => "subnet"
  | removeInterest _ => "interest/remove"

/-- The request without its kind. -/
def payload : ChildRequest → Json
  | deployed report => DeployedReport.form.write report
  | undeployed report => UndeployedReport.form.write report
  | tableQuery query => TableQuery.form.write query
  | subnet method => subnetForm.write method
  | removeInterest name => removeInterestForm.write name

/-- How the payload of a kind is read. -/
def readPayload (kind : String) : Option (Source → Json → Except Fault ChildRequest) :=
  match kind with
  | "service/deployed" => some fun s v => (DeployedReport.form.read s v).map .deployed
  | "service/undeployed" => some fun s v => (UndeployedReport.form.read s v).map .undeployed
  | "tablequery/request" => some fun s v => (TableQuery.form.read s v).map .tableQuery
  | "subnet" => some fun s v => (subnetForm.read s v).map .subnet
  | "interest/remove" => some fun s v => (removeInterestForm.read s v).map .removeInterest
  | _ => none

/-- The form of a request. -/
def form : Form ChildRequest :=
  .tagged kind payload readPayload

/-! ## Topics -/

/-- The topic on which a client publishes the request. -/
def topic (r : ChildRequest) (client : String) : String :=
  "nodes/" ++ client ++ "/net/" ++ r.kind

/-- The request of a kind with a payload. -/
def ofPayload (kind : String) (payload : Json) : Except RequestFault ChildRequest :=
  match readPayload kind with
  | none => .error (.badRequest kind)
  | some reader => (reader .direct payload).mapError fun _ => .badRequest kind

/-- The client and the kind of a topic. -/
def topicParts? (topic : String) : Option (String × String) := do
  let rest ← "nodes/".toList.isPrefixOf? topic.toList
  let (client, kind) ← breakOn? "/net/".toList rest
  if client.isEmpty ∨ '/' ∈ client ∨ kind.isEmpty then none
  else some (String.ofList client, String.ofList kind)

/-- The client and the request of a publication. -/
def ofPublication (topic : String) (payload : Json) :
    Except RequestFault (String × ChildRequest) :=
  match topicParts? topic with
  | none => .error (.unexpectedTopic topic)
  | some (client, kind) => (ofPayload kind payload).map fun request => (client, request)

end ChildRequest

end Overlay
