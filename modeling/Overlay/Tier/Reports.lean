import Overlay.Tier.Interest

/-!
# Reports of networks

The worker that hosts an instance sets up its network and reports it. A report fills in what is
empty, is accepted again if it says the same, and is refused if it says something else; a refused
report changes nothing. Reports climb one tier at a time, and each change is told to the parties
that are interested in the job.

Changes come down again: a cluster that is told of a change by its parent takes it over and passes
it on, if anybody there is interested.
-/

namespace Overlay

/-- What a report has changed. -/
inductive ReportOutcome where
  | applied
  | unchanged
  deriving DecidableEq

namespace Job

/-- Applies one report. With a reporter, it becomes the worker of the instance. -/
def applyReport (jobName : String) (reporter : Option String) (job : Job)
    (report : InstanceReport) : Except TierError (ReportOutcome × Job) :=
  match job.instance? report.number with
  | none => .error (.instanceNotFound jobName report.number)
  | some i =>
    if i.network.isEmpty then
      .ok (.applied,
        job.upsert { i with network := report.network, worker := reporter.or i.worker })
    else if i.network = report.network then .ok (.unchanged, job)
    else .error (.conflictingReport jobName report.number)

/-- Applies reports in turn. -/
def applyReports (jobName : String) (reporter : Option String) :
    List InstanceReport → Job → Except TierError (List (UInt32 × ReportOutcome) × Job)
  | [], job => .ok ([], job)
  | report :: rest, job => do
    let (outcome, job) ← applyReport jobName reporter job report
    let (outcomes, job) ← applyReports jobName reporter rest job
    return ((report.number, outcome) :: outcomes, job)

/-- The networks of the instances that a worker hosts, as the parent wants to see them. -/
def reportOf (job : Job) (worker : String) : DeployReport :=
  ⟨job.systemId,
    (job.instances.filter fun i => i.worker == some worker && i.isConfigured).map
      fun i => ⟨i.number, i.network⟩⟩

end Job

namespace Registry

/-- Applies reports to a job, all or none of them. -/
def applyReports (jobName : String) (reports : List InstanceReport) (reporter : Option String) :
    Action Registry TierError (List (UInt32 × ReportOutcome)) := do
  if let some empty := reports.find? fun report => report.network.isEmpty then
    throw (.badArgument (.emptyNetwork empty.number jobName))
  match ← updateJob jobName (Job.applyReports jobName reporter reports) with
  | some outcomes => return outcomes
  | none => throw (.jobNotFound jobName)

end Registry

namespace Tier

variable {σ : Type}

/-- The job of a selector, from the registry or from the parent. -/
def locate (t : Tier σ) (selector : Selector) : Action σ TierError Job := do
  match ← t.look fun r => r.select selector with
  | some job => return job
  | none =>
    match t.parent? with
    | none => throw (.jobNotFound selector.key)
    | some parent =>
      match ← escalate parent (.fetchJob selector) with
      | some job => t.record fun r => r.mergeJob job
      | none => throw (.jobNotFound selector.key)

/-- Takes the report of a worker about the network of an instance, and passes on to the parent what
is known of the worker's instances. That the parent cannot be reached does not matter. -/
def reportNetwork (t : Tier σ) (selector : Selector) (number : UInt32) (network : Network)
    (reporter : String) : Action σ TierError ReportOutcome := do
  let job ← t.locate selector
  let outcomes ← (Registry.applyReports job.name [⟨number, network⟩] (some reporter)).zoom t.site
  let outcome := (outcomes.head?.map (·.2)).getD .unchanged
  if outcome = .applied then
    let _ ← t.fanOut ⟨job.name, number, .deployment⟩
  if let some parent := t.parent? then
    match ← t.look fun r => r.job? job.name with
    | none => throw (.jobNotFound job.name)
    | some job =>
      let _ ← (parent (.reportDeployment (job.reportOf reporter))).attempt
  return outcome

/-- Takes the report of a child tier. Gives the instances that have changed. -/
def applyDeployReport (t : Tier σ) (report : DeployReport) :
    Action σ TierError (List UInt32) := do
  if report.systemId.isEmpty || report.instances.isEmpty then
    throw (.badArgument .emptyReport)
  match ← t.look fun r => r.jobBySystemId? report.systemId with
  | none => throw (.jobNotFound report.systemId)
  | some job =>
    let outcomes ← (Registry.applyReports job.name report.instances none).zoom t.site
    let changed := (outcomes.filter fun o => o.2 = .applied).map (·.1)
    for number in changed do
      let _ ← t.fanOut ⟨job.name, number, .deployment⟩
    return changed

/-- Takes a change over that the parent has announced. Gives whether anybody here is interested. -/
def applyUpdate (t : Tier σ) (update : JobUpdate) : Action σ TierError Bool := do
  if (← t.look fun r => r.parties update.jobName).isEmpty then return false
  match update.change with
  | .deployment =>
    if let some parent := t.parent? then
      if let some job ← escalate parent (.fetchJob (.name update.jobName)) then
        let _ ← t.record fun r => r.mergeJob job
  | .undeployment =>
    let _ ← (Registry.updateJob update.jobName fun job =>
      .ok ((), job.remove update.number)).zoom t.site
  let _ ← t.fanOut update
  return true

end Tier

end Overlay
