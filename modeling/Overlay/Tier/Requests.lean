import Overlay.Tier.Membership
import Overlay.Tier.Reports
import Overlay.Tier.Subnets
import Overlay.Tier.Undeployment

/-!
# Requests of the parties below

Each request of a party below is one operation of the tier. If there is something to answer, the
answer is published for the party and also given back; that it cannot be published does not matter.
-/

namespace Overlay.Tier

variable {σ : Type}

/-- What a tier answers to a request. -/
def answer? (t : Tier σ) (client : String) :
    ChildRequest → Action σ TierError (Option ChildMessage)
  | .deployed report => do
    let _ ← t.reportNetwork (.name report.jobName) report.number report.network client
    return none
  | .undeployed report => do
    let _ ← t.undeploy (.name report.jobName) report.number
    return none
  | .tableQuery query => return some (.tableAnswer (← t.tableQuery client query))
  | .subnet .get => return some (.subnets (← t.nodeSubnets client))
  | .subnet .delete => do
    t.releaseNodeSubnets client
    return none
  | .removeInterest jobName => do
    match ← (t.removeInterest jobName client).attempt with
    | .ok _ | .error (.jobNotFound _) => return some (.interestRemoved jobName)
    | .error e => throw e

/-- Handles a request of a party below. -/
def handle (t : Tier σ) (client : String) (request : ChildRequest) :
    Action σ TierError (Option ChildMessage) := do
  if client.isEmpty then throw (.badArgument .clientEmpty)
  let reply ← t.answer? client request
  if let some message := reply then
    let _ ← (t.notify client message).attempt
  return reply

/-- Handles a publication on a topic. -/
def handlePublication (t : Tier σ) (topic : String) (payload : Json) :
    Action σ TierError (Option ChildMessage) := do
  let (client, request) ← .ofExcept
    ((ChildRequest.ofPublication topic payload).mapError fun fault => .badArgument (.request fault))
  t.handle client request

end Overlay.Tier
