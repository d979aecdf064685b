import Overlay.Address.Family
import Overlay.Json.Form

/-!
# Clusters and worker nodes

The root tier knows its clusters and where to call them. A cluster whose callback failed is marked
and left alone until it registers again. A cluster tier knows which subnets its worker nodes have.
-/

namespace Overlay

open Json

/-- Whether the callback of a cluster can be used. -/
inductive Cluster.Status where
  | active
  /-- The last call failed. -/
  | failed
  deriving DecidableEq

/-- A registered child cluster. -/
structure Cluster where
  id : String
  address : String
  port : UInt16
  status : Cluster.Status
  deriving DecidableEq

namespace Cluster

/-- The name of a status. -/
def Status.name : Status → String
  | active => "active"
  | failed => "error"

/-- The form of a status. -/
def Status.form : Form Status :=
  .choice Status.name [.active, .failed]

/-- The form of a cluster. -/
def form : Form Cluster :=
  (Record.start Cluster.mk)
    |>.field (.required "cluster_id" .text) (·.id)
    |>.field (.required "address" .text) (·.address)
    |>.field (.required "port" .uint16) (·.port)
    |>.field (.required "status" Status.form) (·.status)
    |>.form

end Cluster

/-- The subnets of a worker node. -/
structure WorkerNode where
  id : String
  subnets : Addresses
  deriving DecidableEq

namespace WorkerNode

/-- The form of a worker node. -/
def form : Form WorkerNode :=
  (Record.start fun id v4 v6 => ⟨id, ⟨v4, v6⟩⟩)
    |>.field (.required "node_id" .text) (·.id)
    |>.field (.optional "subnet" .text) (·.subnets.v4)
    |>.field (.optional "subnet_v6" .text) (·.subnets.v6)
    |>.form

end WorkerNode

end Overlay
