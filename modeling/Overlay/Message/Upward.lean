import Overlay.Job.Form

/-!
# Messages to the parent tier

What a tier sends to the tier above it: reports of networks that were set up, subnets given back,
its own registration.
-/

namespace Overlay

open Json

/-- The network of one instance. -/
structure InstanceReport where
  number : UInt32
  network : Network
  deriving DecidableEq

/-- The networks of instances of one job. -/
structure DeployReport where
  /-- The identifier the scheduler gave to the job. -/
  systemId : String
  instances : List InstanceReport
  deriving DecidableEq

/-- How a cluster registers with the root. -/
structure ClusterRegistration where
  id : String
  address : String
  port : UInt16
  deriving DecidableEq

namespace InstanceReport

/-- The form of a report about one instance. -/
def form : Form InstanceReport :=
  (Record.start InstanceReport.mk)
    |>.field (.required "instance_number" .uint32) (·.number)
    |>.including Network.record (·.network)
    |>.form

end InstanceReport

namespace DeployReport

/-- The form of a report about a job. -/
def form : Form DeployReport :=
  (Record.start DeployReport.mk)
    |>.field (.required "job_id" .text) (·.systemId)
    |>.field (.required "instances" (.list InstanceReport.form)) (·.instances)
    |>.form

end DeployReport

/-- The form of a pair of worker subnets. -/
def subnetsForm : Form Addresses :=
  (Record.start fun v4 v6 => ⟨v4, v6⟩)
    |>.field (.optional "subnet_addr" .text) (·.v4)
    |>.field (.optional "subnet_addr_v6" .text) (·.v6)
    |>.form

namespace ClusterRegistration

/-- The form of a registration. -/
def form : Form ClusterRegistration :=
  (Record.start ClusterRegistration.mk)
    |>.field (.required "cluster_id" .text) (·.id)
    |>.field (.required "cluster_address" .text) (·.address)
    |>.field (.required "cluster_port" .uint16) (·.port)
    |>.form

end ClusterRegistration

end Overlay
