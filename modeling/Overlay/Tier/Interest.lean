import Overlay.Tier.Resolution

/-!
# Interest

Who relies on a job? A party that asks for a job becomes interested in it and is told of its
changes. At a cluster a job is kept only as long as somebody is interested: with the last party the
cluster drops the job and withdraws its own interest at the parent, whose failure does not matter.
The root only keeps the books.
-/

namespace Overlay.Tier

variable {σ : Type}

/-- Notes that a party is interested in a job. Gives whether it is new. For an empty name or a job
the tier does not know nothing is noted. -/
def addInterest (t : Tier σ) (jobName party : String) : Action σ TierError Bool := do
  if jobName.isEmpty then return false
  if party.isEmpty then throw (.badArgument .requesterEmpty)
  return (← t.record fun r => r.addParty jobName party).getD false

/-- Ends the interest of a party in a job. -/
def removeInterest (t : Tier σ) (jobName party : String) : Action σ TierError InterestChange := do
  match ← t.record fun r => r.removeParty jobName party t.parent?.isSome with
  | none => throw (.jobNotFound jobName)
  | some change =>
    if change.jobDeleted then
      if let some parent := t.parent? then
        let _ ← (parent (.removeInterest jobName)).attempt
    return change

/-- Whether anybody is interested in a job. -/
def isRelevant (t : Tier σ) (jobName : String) : Action σ TierError Bool :=
  t.look fun r => !(r.parties jobName).isEmpty

/-- Answers a look-up of a child tier, which becomes interested in the job. -/
def childLookup (t : Tier σ) (child : String) (selector : Selector) :
    Action σ TierError (Option Job) := do
  let found ← t.resolve selector
  if found.job.isUnknown then return none
  let _ ← t.addInterest found.job.name child
  t.look fun r => (r.job? found.job.name).map (·.withoutParties)

/-- Answers a table query. Whatever goes wrong, the answer is an empty one. -/
def tableQuery (t : Tier σ) (requester : String) (query : TableQuery) :
    Action σ TierError TableAnswer := do
  match query.selector? with
  | none => return .nothing ""
  | some selector =>
    match ← (t.resolve selector).attempt with
    | .error _ => return .nothing selector.key
    | .ok found =>
      let _ ← (t.addInterest found.job.name requester).attempt
      return ⟨found.job.name, found.job.instances, selector.key⟩

end Overlay.Tier
