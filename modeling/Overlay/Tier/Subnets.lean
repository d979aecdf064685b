import Overlay.Tier.Basic

/-!
# Subnets of workers

Each worker gets a subnet of each family. The root takes them from its pools, a cluster asks its
parent. A cluster remembers which worker has which subnets, so that a worker that asks twice gets
the same ones.
-/

namespace Overlay

namespace Registry

/-- Takes a subnet of each family, or none. -/
def takeSubnets : Action Registry TierError Addresses := do
  let v4 ← (Pool.subnets .v4).allocate.mapError .pool
  match ← (Pool.subnets .v6).allocate.attempt with
  | .ok v6 => return ⟨some v4, some v6⟩
  | .error e =>
    let _ ← ((Pool.subnets .v4).release v4).attempt
    throw (.pool e)

/-- Takes subnets back, one after the other. -/
def returnSubnets : List (Family × String) → Action Registry TierError Unit
  | [] => pure ()
  | (family, subnet) :: rest => do
    ((Pool.subnets family).release subnet).mapError .pool
    returnSubnets rest

end Registry

namespace Tier

variable {σ : Type}

/-- Subnets for a worker. -/
def requestSubnets (t : Tier σ) : Action σ TierError Addresses :=
  match t.parent? with
  | none => Registry.takeSubnets.zoom t.site
  | some parent => escalate parent .requestSubnets

/-- Gives subnets back. -/
def releaseSubnets (t : Tier σ) (subnets : Addresses) : Action σ TierError Unit :=
  match t.parent? with
  | none => (Registry.returnSubnets subnets.present).zoom t.site
  | some parent => escalate parent (.releaseSubnets subnets)

/-- The subnets of a worker: those it has, or new ones. -/
def nodeSubnets (t : Tier σ) (id : String) : Action σ TierError Addresses := do
  match ← t.look fun r => r.node? id with
  | some node => return node.subnets
  | none =>
    let subnets ← t.requestSubnets
    t.change fun r => r.putNode ⟨id, subnets⟩
    return subnets

/-- Gives the subnets of a worker back, if it has any. -/
def releaseNodeSubnets (t : Tier σ) (id : String) : Action σ TierError Unit := do
  match ← t.look fun r => r.node? id with
  | none => return
  | some node =>
    t.releaseSubnets node.subnets
    t.change fun r => r.deleteNode id

end Tier

end Overlay
