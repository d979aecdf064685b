import Overlay.Tier.Basic

/-!
# Resolution

Where does a job run? The registry answers if it can. Otherwise a cluster asks its parent and keeps
the answer, so that the next look-up stays local. A job nobody knows is an answer, not an error; a
parent that cannot be asked is an error, and then nothing is kept.
-/

namespace Overlay

/-- The outcome of a look-up. -/
structure Resolution where
  job : ResolvedJob
  foundLocally : Bool

/-- The job of the registry that a selector asks for. -/
def Registry.select (r : Registry) : Selector → Option Job
  | .name name => r.job? name
  | .address address => r.jobByAddress? address

namespace Tier

variable {σ : Type}

/-- Looks a job up in the registry, and at the parent if it is not there. -/
def resolve (t : Tier σ) (selector : Selector) : Action σ TierError Resolution := do
  match ← t.look fun r => r.select selector with
  | some job => return ⟨.ofJob job, true⟩
  | none =>
    match t.parent? with
    | none => return ⟨.unknown, false⟩
    | some parent =>
      match ← (parent (.fetchJob selector)).mapError .resolutionFailed with
      | some job =>
        if job.name.isEmpty then return ⟨.unknown, false⟩
        else return ⟨.ofJob (← t.record fun r => r.mergeJob job), false⟩
      | none => return ⟨.unknown, false⟩

end Tier

end Overlay
