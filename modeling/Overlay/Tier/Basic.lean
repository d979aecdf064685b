import Overlay.Message.Downward
import Overlay.Message.Upward
import Overlay.Tier.Error

/-!
# Tiers

A tier is one level of the hierarchy. The root tier owns the address pools; a cluster tier asks its
parent and remembers the answers. Each tier tells the parties below it what has changed.

A tier works on a state `σ` of which its registry is a part: alone, the state also records what
happens outside; in a hierarchy it holds the registries of all tiers, and a call to the parent or a
message to a child works on the same state.
-/

namespace Overlay

/-- What a tier asks of its parent. -/
inductive ParentCall where
  | fetchJob (selector : Selector)
  | reportDeployment (report : DeployReport)
  | requestSubnets
  | releaseSubnets (subnets : Addresses)
  | removeInterest (jobName : String)
  | register (registration : ClusterRegistration)
  deriving DecidableEq

/-- What the parent answers to a call. -/
abbrev ParentCall.Answer : ParentCall → Type
  | fetchJob _ => Option Job
  | requestSubnets => Addresses
  | _ => Unit

/-- A connection to the parent tier. -/
abbrev Parent (σ : Type) : Type :=
  (call : ParentCall) → Action σ EscalationFault call.Answer

/-- A way to reach the parties below. -/
abbrev Notifier (σ : Type) : Type :=
  (recipient : String) → ChildMessage → Action σ DeliveryFault Unit

/-- Where a tier stands. -/
inductive Role (σ : Type) where
  | root
  | cluster (id : String) (parent : Parent σ)

/-- One level of the hierarchy. -/
structure Tier (σ : Type) where
  role : Role σ
  site : Part σ Registry
  notify : Notifier σ

namespace Tier

variable {σ ε α : Type}

/-- The parent of the tier, none at the root. -/
def parent? (t : Tier σ) : Option (Parent σ) :=
  match t.role with
  | .root => none
  | .cluster _ parent => some parent

/-- Whether the tier owns the address pools. -/
def isRoot (t : Tier σ) : Bool :=
  match t.role with
  | .root => true
  | .cluster _ _ => false

/-! ## The registry -/

/-- Something that the registry shows. -/
def look (t : Tier σ) (f : Registry → α) : Action σ ε α :=
  .inspect fun s => f (t.site.get s)

/-- A change of the registry that cannot fail. -/
def change (t : Tier σ) (f : Registry → Registry) : Action σ ε Unit :=
  .modify fun s => t.site.set (f (t.site.get s)) s

/-- A step on the registry that cannot fail. -/
def record (t : Tier σ) (f : Registry → α × Registry) : Action σ ε α :=
  (Action.step f).zoom t.site

/-- An operation of the root tier on its registry. -/
def atRoot (t : Tier σ) (fault : BadArgument) (x : Action Registry TierError α) :
    Action σ TierError α :=
  if t.isRoot then x.zoom t.site else throw (.badArgument fault)

/-! ## The parent and the parties below -/

/-- A call to the parent of the tier. -/
def escalate (parent : Parent σ) (call : ParentCall) : Action σ TierError call.Answer :=
  (parent call).mapError .escalationFailed

/-- Tells each of the parties. One that cannot be reached does not stop the others. Gives the number
of those that were reached. -/
def notifyAll (t : Tier σ) (message : ChildMessage) : List String → Action σ ε Nat
  | [] => pure 0
  | party :: rest => do
    let outcome ← (t.notify party message).attempt
    let reached ← t.notifyAll message rest
    return reached + if outcome.isOk then 1 else 0

/-- Tells every party that is interested in the job. -/
def fanOut (t : Tier σ) (update : JobUpdate) : Action σ ε Nat := do
  let parties ← t.look fun r => r.parties update.jobName
  t.notifyAll (.update update) parties

end Tier

end Overlay
