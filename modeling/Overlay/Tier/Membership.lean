import Overlay.Tier.Basic

/-!
# Clusters of the root

A cluster registers with the root under its identifier, with the address and port of its callback.
Registering again clears a failed status.
-/

namespace Overlay.Tier

variable {σ : Type}

/-- Registers a cluster. -/
def registerCluster (t : Tier σ) (registration : ClusterRegistration) :
    Action σ TierError Cluster := do
  if !t.isRoot then throw (.badArgument .clustersBelongToRoot)
  if registration.id.isEmpty || registration.address.isEmpty then
    throw (.badArgument .incompleteRegistration)
  let cluster : Cluster :=
    ⟨registration.id, registration.address, registration.port, .active⟩
  t.change fun r => r.putCluster cluster
  return cluster

/-- The registered cluster of an identifier. -/
def requireCluster (t : Tier σ) (id : String) : Action σ TierError Cluster := do
  match ← t.look fun r => r.cluster? id with
  | some cluster => return cluster
  | none => throw (.badArgument (.clusterNotRegistered id))

/-- Registers the tier with its parent. -/
def registerWithParent (t : Tier σ) (address : String) (port : UInt16) :
    Action σ TierError Unit :=
  match t.role with
  | .root => throw (.badArgument .rootHasNoParent)
  | .cluster id parent => escalate parent (.register ⟨id, address, port⟩)

end Overlay.Tier
