import Overlay.Job.Basic
import Overlay.Json.Form

/-!
# The JSON form of jobs

Optional members are left out when there is nothing to say, and so is an empty interest set. All
other members are always written; when reading, a job needs only its name and an instance only its
number.
-/

namespace Overlay

open Json

namespace Network

/-- The members of a network. -/
def record : Record Network Network :=
  (Record.start fun v4 v6 host port => ⟨⟨v4, v6⟩, host, port⟩)
    |>.field (.optional "namespace_ip" .text) (·.namespaces.v4)
    |>.field (.optional "namespace_ip_v6" .text) (·.namespaces.v6)
    |>.field (.optional "host_ip" .text) (·.hostAddress)
    |>.field (.optional "host_port" .uint16) (·.hostPort)

/-- The form of a network. -/
def form : Form Network :=
  record.form

end Network

namespace Instance

/-- The members of an instance. -/
def record : Record Instance Instance :=
  (Record.start fun number v4 v6 ns4 ns6 host port worker cluster =>
      ⟨number, ⟨v4, v6⟩, ⟨⟨ns4, ns6⟩, host, port⟩, worker, cluster⟩)
    |>.field (.required "instance_number" .uint32) (·.number)
    |>.field (.optional "instance_ip" .text) (·.addresses.v4)
    |>.field (.optional "instance_ip_v6" .text) (·.addresses.v6)
    |>.field (.optional "namespace_ip" .text) (·.network.namespaces.v4)
    |>.field (.optional "namespace_ip_v6" .text) (·.network.namespaces.v6)
    |>.field (.optional "host_ip" .text) (·.network.hostAddress)
    |>.field (.optional "host_port" .uint16) (·.network.hostPort)
    |>.field (.optional "worker_id" .text) (·.worker)
    |>.field (.optional "cluster_id" .text) (·.cluster)

/-- The form of an instance. -/
def form : Form Instance :=
  record.form

end Instance

namespace ServiceAddress

/-- The name of a kind. -/
def Kind.name : Kind → String
  | roundRobin => "RR"
  | oneInstance => "instance_ip"

/-- The form of a service address. -/
def form : Form ServiceAddress :=
  (Record.start fun kind v4 v6 => ⟨kind, ⟨v4, v6⟩⟩)
    |>.field (.required "IpType" (.choice Kind.name [.roundRobin, .oneInstance])) (·.kind)
    |>.field (.optional "Address" .text) (·.addresses.v4)
    |>.field (.optional "Address_v6" .text) (·.addresses.v6)
    |>.form

end ServiceAddress

namespace Phase

/-- The name of a phase. -/
def name : Phase → String
  | unassigned => "unassigned"
  | addressAssigned => "address_assigned"
  | networkConfigured => "network_configured"

end Phase

namespace Job

/-- The interest set, which is left out when it is empty. -/
def partiesMember : Member NameSet :=
  ⟨"interested_parties", .names, some ∅, some ∅, fun s => !s.isEmpty⟩

/-- The form of a job. -/
def form : Form Job :=
  (Record.start Job.mk)
    |>.field (.required "job_name" .text) (·.name)
    |>.field (.defaulted "system_job_id" .text "") (·.systemId)
    |>.field (.defaulted "service_ip_list" (.list ServiceAddress.form) []) (·.serviceAddresses)
    |>.field (.defaulted "instance_list" (.list Instance.form) []) (·.instances)
    |>.field (.defaulted "next_instance_number" .uint32 0) (·.nextNumber)
    |>.field partiesMember (·.parties)
    |>.form

end Job

end Overlay
