import Overlay.Tier.Undeployment

/-!
# Gateways of the root

The root sets up gateways. A gateway takes its addresses from the instance pools, one in each
family in which its host has a public address, and is entered as a job. Setting a gateway up again
changes nothing.
-/

namespace Overlay

namespace Registry

/-- An instance address for a gateway, if its host has a public address of the family. -/
def gatewayAddress (publicAddress : Option String) (family : Family) :
    Action Registry TierError (Option String) :=
  match publicAddress with
  | none => pure none
  | some _ => do return some (← (Pool.instances family).allocate.mapError .pool)

/-- Sets a gateway up, and gives the job through which it is found. -/
def deployGateway (d : GatewayDeployment) : Action Registry TierError Job := do
  if [d.id, d.host, d.cluster].any isBlankText then throw (.badArgument .incompleteGateway)
  if d.publicAddresses.isEmpty then throw (.badArgument .gatewayWithoutAddress)
  if let some existing ← .inspect fun r => r.gateway? d.id then return existing.job
  let name := d.gateway.jobName
  if let some taken ← .inspect fun r => r.job? name then
    throw (.badArgument (.gatewayNameTaken name taken.systemId))
  let v4 ← gatewayAddress d.publicAddresses.v4 .v4
  match ← (gatewayAddress d.publicAddresses.v6 .v6).attempt with
  | .error e =>
    returnInstanceAddresses (Dual.present ⟨v4, none⟩)
    throw e
  | .ok v6 =>
    let gateway := { d.gateway with addresses := ⟨v4, v6⟩ }
    .modify fun r => (r.putJob gateway.job).putGateway gateway
    return gateway.job

/-- Edits a gateway, and gives it as edited. -/
def editGateway (id : String) (edit : Gateway → Gateway) : Action Registry TierError Gateway := do
  match ← updateGateway id fun gateway => .ok (edit gateway, edit gateway) with
  | some gateway => return gateway
  | none => throw (.gatewayNotFound id)

/-- The first instance of a gateway job with other namespace addresses. -/
def withNamespaces (namespaces : Addresses) (job : Job) : Job :=
  match job.instance? 0 with
  | some i => job.upsert { i with network := { i.network with namespaces } }
  | none => job

/-- Records the namespace addresses of a gateway, in its record and in its job. -/
def setGatewayNamespaces (id : String) (namespaces : Addresses) :
    Action Registry TierError Gateway := do
  let gateway ← editGateway id fun gateway => { gateway with namespaces }
  match ← updateJob gateway.jobName fun job => .ok ((), withNamespaces namespaces job) with
  | some () => return gateway
  | none =>
    .modify fun r => r.putJob gateway.job
    return gateway

/-- Replaces the services that a gateway exposes. -/
def setGatewayServices (id : String) (services : List ExposedService) :
    Action Registry TierError Gateway :=
  editGateway id fun gateway => { gateway with services }

end Registry

namespace Tier

variable {σ : Type}

/-- Sets a gateway up. -/
def deployGateway (t : Tier σ) (d : GatewayDeployment) : Action σ TierError Job :=
  t.atRoot .gatewaysBelongToRoot (Registry.deployGateway d)

/-- Records the namespace addresses of a gateway. -/
def setGatewayNamespaces (t : Tier σ) (id : String) (namespaces : Addresses) :
    Action σ TierError Gateway :=
  t.atRoot .gatewaysBelongToRoot (Registry.setGatewayNamespaces id namespaces)

/-- Replaces the services that a gateway exposes. -/
def setGatewayServices (t : Tier σ) (id : String) (services : List ExposedService) :
    Action σ TierError Gateway :=
  t.atRoot .gatewaysBelongToRoot (Registry.setGatewayServices id services)

/-- All gateways. -/
def gateways (t : Tier σ) : Action σ TierError (List Gateway) :=
  t.atRoot .gatewaysBelongToRoot (.inspect fun r => r.gateways.values)

end Tier

end Overlay
