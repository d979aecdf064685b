import Overlay.Tier.Basic
import Overlay.Tier.Resolution

/-!
# Undeployment

An instance goes, its addresses return to the pools of the root, and the interested parties are
told. At a cluster a job goes with its last instance; the root keeps the job. Nothing changes unless
both addresses can be returned.
-/

namespace Overlay

/-- The outcome of removing an instance. -/
structure Undeployment where
  jobName : String
  removed : Instance
  /-- Whether the job went with its last instance. -/
  jobDeleted : Bool
  /-- The number of parties that were told. -/
  notified : Nat

namespace Registry

/-- Removes an instance of a job. Gives the instance and the number of those left. -/
def removeInstance (jobName : String) (number : UInt32) :
    Action Registry TierError (Instance × Nat) := do
  let removed ← updateJob jobName fun job =>
    match job.instance? number with
    | none => .error (.instanceNotFound jobName number)
    | some i => .ok ((i, (job.remove number).instances.length), job.remove number)
  match removed with
  | some removed => return removed
  | none => throw (.jobNotFound jobName)

/-- Checks that addresses can return to the instance pools. -/
def checkReturn : List (Family × String) → Action Registry TierError Unit
  | [] => pure ()
  | (family, address) :: rest => do
    ((Pool.instances family).checkRelease address).mapError .pool
    checkReturn rest

/-- Returns addresses to the instance pools. One that is refused does not stop the others. -/
def returnInstanceAddresses {ε : Type} : List (Family × String) → Action Registry ε Unit
  | [] => pure ()
  | (family, address) :: rest => do
    let _ ← ((Pool.instances family).release address).attempt
    returnInstanceAddresses rest

end Registry

namespace Tier

variable {σ : Type}

/-- Removes an instance of the job of a selector. -/
def undeploy (t : Tier σ) (selector : Selector) (number : UInt32) :
    Action σ TierError Undeployment := do
  match ← t.look fun r => r.select selector with
  | none => throw (.jobNotFound selector.key)
  | some job =>
    match job.instance? number with
    | none => throw (.instanceNotFound job.name number)
    | some i =>
      if t.isRoot then (Registry.checkReturn i.addresses.present).zoom t.site
      let parties ← t.look fun r => r.parties job.name
      let (removed, left) ← (Registry.removeInstance job.name number).zoom t.site
      if t.isRoot then (Registry.returnInstanceAddresses removed.addresses.present).zoom t.site
      let jobDeleted := left == 0 && !t.isRoot
      if jobDeleted then t.change fun r => r.deleteJob job.name
      let notified ← t.notifyAll (.update ⟨job.name, number, .undeployment⟩) parties
      return ⟨job.name, removed, jobDeleted, notified⟩

end Tier

end Overlay
