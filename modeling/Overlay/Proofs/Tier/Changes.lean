import Overlay.Proofs.Hierarchy.Callbacks
import Overlay.Proofs.Hierarchy.Networks

/-!
# Changes before they are announced

An operation that tells parties of a change makes the change first. What it does until then is
separated here from the messages that follow: for an undeployment (`Tier.undeploy_eq`), a report of
a child tier (`Tier.applyDeployReport_eq`) and an update of the parent (`Tier.applyUpdate_eq`). The
first two work on the registry alone. What a report has changed are the instances that have a network
now and had none before (`Registry.Recorded.deployed`).
-/

namespace Overlay

open Overlay.Action (Triple)

/-! ## Parties and networks -/

namespace Registry

variable {r r' : Registry} {name : String}

/-- The parties of a job are listed in order. -/
theorem parties_sorted (r : Registry) (name : String) : (r.parties name).Pairwise (· < ·) := by
  rw [parties]
  split
  · next job _ => exact List.pairwise_map.2 job.parties.table.sorted
  · exact .nil

theorem nodup_parties (r : Registry) (name : String) : (r.parties name).Nodup := by
  rw [parties]
  split
  · exact NameSet.nodup_toList _
  · exact List.nodup_nil

/-- Another job is stored. -/
theorem parties_insert_of_ne {new : Job} {key : String} (hj : r'.jobs = r.jobs.insert name new)
    (hkey : key ≠ name) : r'.parties key = r.parties key := by
  have hjob : r'.job? key = r.job? key := by
    rw [job?, job?, hj, Table.get?_insert_of_ne _ hkey]
  rw [parties, parties, hjob]

/-- A job takes the place of one with the same parties. -/
theorem parties_insert {job new : Job} (hjob : r.job? name = some job)
    (hj : r'.jobs = r.jobs.insert name new) (hparties : new.parties = job.parties) (key : String) :
    r'.parties key = r.parties key := by
  by_cases hkey : key = name
  · exact hkey ▸ parties_replace hjob hj hparties
  · exact parties_insert_of_ne hj hkey

/-- A copy of the parent brings no parties. -/
theorem parties_withCopy (r : Registry) (copy : Option Job) (key : String) :
    (r.withCopy copy).parties key = r.parties key := by
  cases copy with
  | none => rfl
  | some copy =>
    rw [withCopy, mergeJob]
    cases hjob : r.job? copy.name with
    | some job => exact parties_insert hjob rfl (parties_merged job copy) key
    | none =>
      by_cases hkey : key = copy.name
      · subst hkey
        rw [parties, parties, hjob, job?, Table.get?_insert_self]
        rfl
      · exact parties_insert_of_ne rfl hkey

/-- Whether an instance of the job of a name has a network. -/
def configured (r : Registry) (name : String) (number : UInt32) : Bool :=
  (r.job? name).any (·.configured number)

/-- The changes are the deployments of the instances that have a network now and had none before,
each of them once. -/
structure Deployed (r r' : Registry) (changes : List JobUpdate) : Prop where
  nodup : changes.Nodup
  mem_iff : ∀ change, change ∈ changes ↔ change.change = .deployment ∧
    r.configured change.jobName change.number = false ∧
    r'.configured change.jobName change.number = true

theorem Recorded.parties {reports : List InstanceReport} {reporter : Option String}
    {outcomes : List (UInt32 × ReportOutcome)} (h : Recorded r name reports reporter outcomes r')
    (key : String) : r'.parties key = r.parties key := by
  obtain ⟨hjob, -, happlied⟩ := h
  exact parties_insert hjob rfl (Job.applyReports_spec happlied).1.parties key

/-- The reports that are applied are the deployments. -/
theorem Recorded.deployed {reports : List InstanceReport} {reporter : Option String}
    {outcomes : List (UInt32 × ReportOutcome)} (h : Recorded r name reports reporter outcomes r') :
    r.Deployed r' ((Job.changed outcomes).map (⟨name, ·, .deployment⟩)) := by
  obtain ⟨hjob, hnetworks, happlied⟩ := h
  obtain ⟨hnodup, hmem⟩ := Job.mem_changed_iff happlied hnetworks
  refine ⟨hnodup.map fun m n hmn => (JobUpdate.mk.inj hmn).2.1, fun change => ?_⟩
  obtain ⟨key, number, kind⟩ := change
  rw [List.mem_map]
  by_cases hkey : key = name
  · subst hkey
    rw [configured, configured, hjob, job?, Table.get?_insert_self, Option.any_some,
      Option.any_some, ← hmem]
    constructor
    · rintro ⟨_, hchanged, heq⟩
      obtain ⟨-, rfl, rfl⟩ := JobUpdate.mk.inj heq
      exact ⟨rfl, hchanged⟩
    · rintro ⟨rfl, hchanged⟩
      exact ⟨number, hchanged, rfl⟩
  · refine iff_of_false ?_ ?_
    · rintro ⟨_, -, heq⟩
      exact hkey (JobUpdate.mk.inj heq).1.symm
    · rintro ⟨-, hbefore, hafter⟩
      rw [configured, job?, Table.get?_insert_of_ne _ hkey, ← job?, ← configured, hbefore] at hafter
      cases hafter

end Registry

/-! ## Undeployment -/

/-- The part of an undeployment that nobody hears of. Gives the outcome, without the number of
parties that were told, and the parties to tell. -/
def Registry.withdrawInstance (isRoot : Bool) (selector : Selector) (number : UInt32) :
    Action Registry TierError (Undeployment × List String) := do
  match ← Action.inspect fun r => r.select selector with
  | none => throw (.jobNotFound selector.key)
  | some job =>
    match job.instance? number with
    | none => throw (.instanceNotFound job.name number)
    | some i =>
      if isRoot then checkReturn i.addresses.present
      let parties ← .inspect fun r => r.parties job.name
      let (removed, left) ← removeInstance job.name number
      if isRoot then returnInstanceAddresses removed.addresses.present
      let jobDeleted := left == 0 && !isRoot
      if jobDeleted then .modify fun r => r.deleteJob job.name
      return (⟨job.name, removed, jobDeleted, 0⟩, parties)

namespace Registry

variable {ε : Type} {r : Registry}

/-- Addresses that return touch nothing but pools. -/
theorem returnInstanceAddresses_onlyPools (list : List (Family × String)) (r : Registry) :
    Triple (· = r) (returnInstanceAddresses list : Action Registry ε Unit)
      (fun _ r' => OnlyPools r r') (fun _ _ => False) := by
  induction list generalizing r with
  | nil => exact .pure fun _ hr => hr ▸ .refl r
  | cons first rest ih =>
    obtain ⟨family, address⟩ := first
    have hrelease : Triple (· = r) ((Pool.instances family).release address)
        (fun _ r' => OnlyPools r r') (fun _ r' => OnlyPools r r') :=
      .of_after fun _ hr => hr ▸ .ofSameBut ((Pool.instances family).release_sameBut address _)
    have hrest : Triple (fun r' => OnlyPools r r')
        (returnInstanceAddresses rest : Action Registry ε Unit)
        (fun _ r' => OnlyPools r r') (fun _ _ => False) :=
      .of_forall fun r' hr' => (ih r').mono (fun _ _ h => hr'.trans h) fun _ _ h => h
    exact .attempt_bind hrelease (fun _ => hrest) fun _ => hrest

/-- **Withdrawing.** An instance of a job is gone, and maybe the job with it, and the clusters are as
they were; or nothing has changed. -/
theorem withdrawInstance_spec (isRoot : Bool) (selector : Selector) (number : UInt32) :
    Triple (· = r) (withdrawInstance isRoot selector number)
      (fun told r' => ∃ job known, r.select selector = some job ∧
        r.job? job.name = some known ∧ known.instance? number = some told.1.removed ∧
        told.1.jobName = job.name ∧ told.2 = r.parties job.name ∧
        (r'.job? job.name = if told.1.jobDeleted then none else some (known.remove number)) ∧
        r'.clusters = r.clusters)
      (fun _ r' => r' = r) := by
  simp only [withdrawInstance]
  refine .inspect_bind ?_
  cases hselect : r.select selector with
  | none => exact .throw fun _ hr => hr
  | some job =>
  dsimp only
  split
  · exact .throw fun _ hr => hr
  cases isRoot with
  | true =>
    simp only [if_true, Bool.not_true, Bool.and_false, Bool.false_eq_true, if_false]
    refine .bind (checkReturn_spec _) fun _ => .inspect_bind ?_
    refine .bind (removeInstance_spec job.name number) fun _ => .of_forall fun _ hremoved => ?_
    obtain ⟨hknown, hi⟩ := hremoved
    refine .bind ((returnInstanceAddresses_onlyPools _ _).mono (fun _ _ hr => hr) nofun) fun _ => ?_
    refine .pure fun r' honly => ⟨job, _, rfl, hknown, hi, rfl, rfl, ?_, honly.clusters⟩
    rw [job?, honly.jobs]
    exact Table.get?_insert_self ..
  | false =>
    simp only [Bool.false_eq_true, if_false, Bool.not_false, Bool.and_true]
    refine .inspect_bind ?_
    refine .bind (removeInstance_spec job.name number) fun _ => .of_forall fun _ hremoved => ?_
    obtain ⟨hknown, hi⟩ := hremoved
    split
    · next hlast =>
      refine .bind (R := fun _ r' => r'.job? job.name = none ∧ r'.clusters = r.clusters)
        (.modify ?_) fun _ => .pure fun r' hr =>
          ⟨job, _, rfl, hknown, hi, rfl, rfl, hr.1.trans (if_pos hlast).symm, hr.2⟩
      rintro _ rfl
      exact ⟨Table.get?_erase_self .., rfl⟩
    · next hmore =>
      refine .pure fun r' hr => ⟨job, _, rfl, hknown, hi, rfl, rfl, ?_, hr ▸ rfl⟩
      rw [if_neg hmore, hr]
      exact Table.get?_insert_self ..

end Registry

namespace Tier

variable {σ : Type}

/-- First the registry changes, then the parties are told. -/
theorem undeploy_eq (t : Tier σ) (selector : Selector) (number : UInt32) :
    t.undeploy selector number = do
      let (outcome, parties) ← (Registry.withdrawInstance t.isRoot selector number).zoom t.site
      let notified ← t.notifyAll (.update ⟨outcome.jobName, number, .undeployment⟩) parties
      return { outcome with notified } := by
  simp only [undeploy, Registry.withdrawInstance, Action.zoom_bind, Action.zoom_inspect, bind_assoc]
  refine bind_congr fun found => ?_
  cases found with
  | none => simp only [Action.zoom_throw, Action.throw_bind]
  | some job =>
    dsimp only
    cases job.instance? number with
    | none => simp only [Action.zoom_throw, Action.throw_bind]
    | some i =>
      cases t.isRoot with
      | true =>
        simp only [if_true, Action.zoom_bind, Action.zoom_inspect, Action.zoom_pure, bind_assoc,
          pure_bind, Bool.not_true, Bool.and_false, Bool.false_eq_true, if_false]
        rfl
      | false =>
        simp only [Bool.false_eq_true, if_false, Action.zoom_bind, Action.zoom_inspect, bind_assoc,
          Bool.not_false, Bool.and_true]
        refine bind_congr fun parties => bind_congr fun removed => ?_
        split
        · simp only [Action.zoom_bind, Action.zoom_modify, Action.zoom_pure, bind_assoc, pure_bind]
          rfl
        · simp only [Action.zoom_pure, pure_bind]

end Tier

/-! ## Reports of child tiers -/

namespace Registry

variable {r : Registry}

/-- The part of a report of a child tier that nobody hears of. Gives the name of the job and the
instances that have changed. -/
def recordBatch (report : DeployReport) : Action Registry TierError (String × List UInt32) := do
  if report.systemId.isEmpty || report.instances.isEmpty then
    throw (.badArgument .emptyReport)
  match ← Action.inspect fun r => r.jobBySystemId? report.systemId with
  | none => throw (.jobNotFound report.systemId)
  | some job =>
    let outcomes ← applyReports job.name report.instances none
    return (job.name, Job.changed outcomes)

theorem recordBatch_spec (report : DeployReport) : Triple (· = r) (recordBatch report)
    (fun told r' => r.Deployed r' (told.2.map (⟨told.1, ·, .deployment⟩)) ∧
      ∀ name, r'.parties name = r.parties name)
    (fun _ r' => r' = r) := by
  simp only [recordBatch, Action.throw_bind]
  split
  · exact .throw fun _ hr => hr
  refine .inspect_bind ?_
  cases r.jobBySystemId? report.systemId with
  | none => exact .throw fun _ hr => hr
  | some job =>
    refine .bind ((applyReports_recorded job.name report.instances none).mono (fun _ _ hr => hr)
      fun _ _ hr => hr.1) fun outcomes => ?_
    exact .pure fun r' hrecorded => ⟨hrecorded.deployed, hrecorded.parties⟩

end Registry

namespace Tier

variable {σ : Type}

/-- First the registry changes, then the parties are told. -/
theorem applyDeployReport_eq (t : Tier σ) (report : DeployReport) :
    t.applyDeployReport report = do
      let (name, numbers) ← (Registry.recordBatch report).zoom t.site
      for number in numbers do
        let _ ← t.fanOut ⟨name, number, .deployment⟩
      return numbers := by
  simp only [applyDeployReport, Registry.recordBatch]
  split
  · simp only [Action.throw_bind, Action.zoom_throw]
  simp only [Action.zoom_bind, Action.zoom_inspect, bind_assoc]
  refine bind_congr fun found => ?_
  cases found with
  | none => simp only [Action.zoom_throw, Action.throw_bind]
  | some job =>
    simp only [Action.zoom_bind, Action.zoom_pure, bind_assoc, pure_bind]
    rfl

/-! ## Updates -/

/-- The part of an update that nobody hears of. -/
def refresh (t : Tier σ) (news : JobUpdate) : Action σ TierError Unit := do
  match news.change with
  | .deployment =>
    if let some parent := t.parent? then
      if let some job ← escalate parent (.fetchJob (.name news.jobName)) then
        let _ ← t.record fun r => r.mergeJob job
  | .undeployment =>
    let _ ← (Registry.updateJob news.jobName fun job =>
      .ok ((), job.remove news.number)).zoom t.site

/-- First the registry changes, then the parties are told. -/
theorem applyUpdate_eq (t : Tier σ) (news : JobUpdate) : t.applyUpdate news = do
    if (← t.look fun r => r.parties news.jobName).isEmpty then return false
    t.refresh news
    let _ ← t.fanOut news
    return true := by
  simp only [applyUpdate, refresh]
  refine bind_congr fun parties => ?_
  split
  · rfl
  cases news.change with
  | deployment =>
    cases t.parent? with
    | none => rfl
    | some parent =>
      simp only [bind_assoc]
      refine bind_congr fun found => ?_
      cases found <;> rfl
  | undeployment => simp only [bind_assoc, pure_bind]

end Tier

end Overlay
