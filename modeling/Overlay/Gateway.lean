import Overlay.Job.Form

/-!
# Gateways

An edge gateway makes overlay services reachable from outside. It holds instance addresses like a
service does, and is found through a job of one instance, its gateway job. A gateway gets an
address in each family in which its host has a public one.
-/

namespace Overlay

open Json

/-- A service port that a gateway publishes. -/
structure ExposedService where
  jobName : String
  serviceId : String
  exposedPort : UInt16
  internalPort : UInt16
  deriving DecidableEq

/-- An edge gateway. -/
structure Gateway where
  id : String
  host : String
  cluster : String
  /-- The public addresses of the host. -/
  publicAddresses : Addresses
  hostPort : Option UInt16
  addresses : Addresses
  namespaces : Addresses
  services : List ExposedService
  deriving DecidableEq

/-- A request to set up a gateway. -/
structure GatewayDeployment where
  id : String
  host : String
  cluster : String
  publicAddresses : Addresses
  hostPort : Option UInt16
  deriving DecidableEq

namespace ExposedService

/-- The form of an exposed service. -/
def form : Form ExposedService :=
  (Record.start ExposedService.mk)
    |>.field (.required "job_name" .text) (·.jobName)
    |>.field (.required "microserviceID" .text) (·.serviceId)
    |>.field (.required "exposed_port" .uint16) (·.exposedPort)
    |>.field (.required "internal_port" .uint16) (·.internalPort)
    |>.form

end ExposedService

namespace Gateway

/-- The name of the job through which the gateway is found. -/
def jobName (g : Gateway) : String :=
  g.host ++ ".tiernet.gateway.0"

/-- The only instance of the gateway job. -/
def theInstance (g : Gateway) : Instance where
  number := 0
  addresses := g.addresses
  network := ⟨g.namespaces, g.publicAddresses.v4, g.hostPort⟩
  worker := none
  cluster := some g.cluster

/-- The job through which the gateway is found. It has no shared address. -/
def job (g : Gateway) : Job :=
  { Job.new g.jobName g.id with instances := [g.theInstance], nextNumber := 1 }

/-- The exposed services, which are left out when there are none. -/
def servicesMember : Member (List ExposedService) :=
  ⟨"services", .list ExposedService.form, some [], some [], fun s => !s.isEmpty⟩

/-- The form of a gateway. -/
def form : Form Gateway :=
  (Record.start fun id host cluster p4 p6 port a4 a6 n4 n6 services =>
      ⟨id, host, cluster, ⟨p4, p6⟩, port, ⟨a4, a6⟩, ⟨n4, n6⟩, services⟩)
    |>.field (.required "gateway_id" .text) (·.id)
    |>.field (.required "host" .text) (·.host)
    |>.field (.required "cluster_id" .text) (·.cluster)
    |>.field (.optional "gateway_ipv4" .text) (·.publicAddresses.v4)
    |>.field (.optional "gateway_ipv6" .text) (·.publicAddresses.v6)
    |>.field (.optional "host_port" .uint16) (·.hostPort)
    |>.field (.optional "instance_ip" .text) (·.addresses.v4)
    |>.field (.optional "instance_ip_v6" .text) (·.addresses.v6)
    |>.field (.optional "namespace_ip" .text) (·.namespaces.v4)
    |>.field (.optional "namespace_ip_v6" .text) (·.namespaces.v6)
    |>.field servicesMember (·.services)
    |>.form

end Gateway

namespace GatewayDeployment

/-- The gateway that is asked for, before it has addresses. -/
def gateway (d : GatewayDeployment) : Gateway :=
  ⟨d.id, d.host, d.cluster, d.publicAddresses, d.hostPort, Addresses.none, Addresses.none, []⟩

/-- The form of a deployment request. -/
def form : Form GatewayDeployment :=
  (Record.start fun id host cluster v4 v6 port => ⟨id, host, cluster, ⟨v4, v6⟩, port⟩)
    |>.field (.required "gateway_id" .text) (·.id)
    |>.field (.required "host" .text) (·.host)
    |>.field (.required "cluster_id" .text) (·.cluster)
    |>.field (.nullable "gateway_ipv4" .text) (·.publicAddresses.v4)
    |>.field (.nullable "gateway_ipv6" .text) (·.publicAddresses.v6)
    |>.field (.nullable "host_port" .uint16) (·.hostPort)
    |>.form

end GatewayDeployment

/-- The form of the namespace addresses of a gateway. -/
def gatewayNamespacesForm : Form Addresses :=
  (Record.start fun v4 v6 => ⟨v4, v6⟩)
    |>.field (.nullable "namespace_ip" .text) (·.v4)
    |>.field (.nullable "namespace_ip_v6" .text) (·.v6)
    |>.form

end Overlay
