import Overlay.Job.Form

/-!
# Messages to child tiers

What a tier tells the parties below it: answers to their queries, subnets, changes of jobs they
rely on. Each message has a kind; it is published for its recipient on the topic
`nodes/<recipient>/net/<kind>`.
-/

namespace Overlay

open Json

/-- An instance as a requester sees it: with the addresses of its job and its own one. -/
structure ResolvedInstance where
  record : Instance
  serviceAddresses : List ServiceAddress

/-- A job as a requester sees it. -/
structure ResolvedJob where
  name : String
  systemId : String
  instances : List ResolvedInstance
  serviceAddresses : List ServiceAddress

/-- What has happened to an instance. -/
inductive Change where
  | deployment
  | undeployment
  deriving DecidableEq

/-- An instance of a job has changed. -/
structure JobUpdate where
  jobName : String
  number : UInt32
  change : Change
  deriving DecidableEq

/-- The answer to a table query; empty texts and no instances if nothing was found. -/
structure TableAnswer where
  jobName : String
  instances : List ResolvedInstance
  /-- The name or address that was asked for. -/
  key : String

/-- A message for one party below. -/
inductive ChildMessage where
  | tableAnswer (answer : TableAnswer)
  | subnets (addresses : Addresses)
  | update (update : JobUpdate)
  | interestRemoved (jobName : String)

/-! ## What a requester sees -/

namespace ResolvedInstance

/-- An instance with the addresses of its job, followed by its own one. -/
def ofInstance (shared : List ServiceAddress) (i : Instance) : ResolvedInstance :=
  ⟨i, if i.addresses.isEmpty then shared else shared ++ [⟨.oneInstance, i.addresses⟩]⟩

/-- The form of an instance as a requester sees it. -/
def form : Form ResolvedInstance :=
  (Record.start fun addresses record => ⟨record, addresses⟩)
    |>.field (.defaulted "service_ip" (.list ServiceAddress.form) []) (·.serviceAddresses)
    |>.including Instance.record (·.record)
    |>.form

end ResolvedInstance

namespace ResolvedJob

/-- What is seen of a job that nobody knows. -/
def unknown : ResolvedJob :=
  ⟨"", "", [], []⟩

/-- Whether nothing was found. -/
def isUnknown (job : ResolvedJob) : Bool :=
  job.name.isEmpty

/-- What a requester sees of a job. -/
def ofJob (job : Job) : ResolvedJob :=
  ⟨job.name, job.systemId, job.instances.map (.ofInstance job.serviceAddresses),
    job.serviceAddresses⟩

/-- The form of a job as a requester sees it. -/
def form : Form ResolvedJob :=
  (Record.start ResolvedJob.mk)
    |>.field (.required "job_name" .text) (·.name)
    |>.field (.defaulted "system_job_id" .text "") (·.systemId)
    |>.field (.defaulted "instance_list" (.list ResolvedInstance.form) []) (·.instances)
    |>.field (.defaulted "service_ip_list" (.list ServiceAddress.form) []) (·.serviceAddresses)
    |>.form

end ResolvedJob

/-! ## Forms -/

namespace Change

/-- The name of a change. -/
def name : Change → String
  | deployment => "DEPLOYMENT"
  | undeployment => "UNDEPLOYMENT"

/-- The form of a change. -/
def form : Form Change :=
  .choice name [.deployment, .undeployment]

end Change

namespace JobUpdate

/-- The form of a change of a job. -/
def form : Form JobUpdate :=
  (Record.start JobUpdate.mk)
    |>.field (.required "job_name" .text) (·.jobName)
    |>.field (.required "instance_number" .uint32) (·.number)
    |>.field (.required "type" Change.form) (·.change)
    |>.form

end JobUpdate

namespace TableAnswer

/-- The answer when nothing was found. -/
def nothing (key : String) : TableAnswer :=
  ⟨"", [], key⟩

/-- The form of an answer to a table query. -/
def form : Form TableAnswer :=
  (Record.start TableAnswer.mk)
    |>.field (.required "app_name" .text) (·.jobName)
    |>.field (.required "instance_list" (.list ResolvedInstance.form)) (·.instances)
    |>.field (.required "query_key" .text) (·.key)
    |>.form

end TableAnswer

namespace ChildMessage

/-- The form of an answer to a subnet request. -/
def subnetsForm : Form Addresses :=
  (Record.start fun v4 v6 => ⟨v4, v6⟩)
    |>.field (.placed "address" .text) (·.v4)
    |>.field (.placed "address_v6" .text) (·.v6)
    |>.form

/-- The form of the news that an interest was removed. -/
def interestRemovedForm : Form String :=
  (Record.start id)
    |>.field (.required "job_name" .text) id
    |>.form

/-- The kind of a message, the last part of its topic. -/
def kind : ChildMessage → String
  | tableAnswer _ => "tablequery/result"
  | subnets _ => "subnetwork/result"
  | update _ => "deploy/notify"
  | interestRemoved _ => "interest/removed"

/-- The topic on which the message is published for a recipient. -/
def topic (m : ChildMessage) (recipient : String) : String :=
  "nodes/" ++ recipient ++ "/net/" ++ m.kind

/-- The message without its kind. -/
def payload : ChildMessage → Json
  | tableAnswer answer => TableAnswer.form.write answer
  | subnets addresses => subnetsForm.write addresses
  | update u => JobUpdate.form.write u
  | interestRemoved name => interestRemovedForm.write name

/-- How the payload of a kind is read. -/
def readPayload (kind : String) : Option (Source → Json → Except Fault ChildMessage) :=
  match kind with
  | "tablequery/result" => some fun s v => (TableAnswer.form.read s v).map .tableAnswer
  | "subnetwork/result" => some fun s v => (subnetsForm.read s v).map .subnets
  | "deploy/notify" => some fun s v => (JobUpdate.form.read s v).map .update
  | "interest/removed" => some fun s v => (interestRemovedForm.read s v).map .interestRemoved
  | _ => none

/-- The form of a message. -/
def form : Form ChildMessage :=
  .tagged kind payload readPayload

end ChildMessage

end Overlay
