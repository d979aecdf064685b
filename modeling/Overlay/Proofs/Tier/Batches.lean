import Overlay.Proofs.Job.Batches
import Overlay.Proofs.Root.Undeployment
import Overlay.Proofs.Tier.Operations

/-!
# Reports of child tiers

A child tier reports the networks of several instances at once. Such a report is applied as a whole
or not at all, the order of its entries does not matter, and when it comes again, nothing happens
any more (`Tier.applyDeployReport_whole`). What is announced may have effects on the registry, but
only such that the books do not look at (`Tier.Discreet`).
-/

namespace Overlay

namespace Registry

variable {r r' : Registry} {id : String} {job job' : Job} {report : DeployReport}

/-- A report that can be applied to a job of the registry. -/
structure Accepts (r : Registry) (report : DeployReport) (job : Job) : Prop where
  identified : report.systemId.isEmpty = false
  nonempty : report.instances ≠ []
  found : r.jobBySystemId? report.systemId = some job
  networks : ∀ one ∈ report.instances, one.network.isEmpty = false
  taken : job.TakesAll report.instances

theorem Accepts.perm {instances : List InstanceReport} (h : r.Accepts report job)
    (hperm : instances.Perm report.instances) : r.Accepts ⟨report.systemId, instances⟩ job where
  identified := h.identified
  nonempty heq := h.nonempty (List.perm_nil.1 (heq ▸ hperm.symm))
  found := h.found
  networks one hone := h.networks one (hperm.subset hone)
  taken := h.taken.perm hperm

/-- A job that keeps its name and its identifier is found by the identifier. -/
theorem jobBySystemId?_putJob (hnamed : r.Named) (hfound : r.jobBySystemId? id = some job)
    (hname : job'.name = job.name) (hid : job'.systemId = job.systemId) :
    (r.putJob job').jobBySystemId? id = some job' := by
  have hjob := hnamed.job?_of_mem (mem_of_jobBySystemId? hfound)
  -- who has which identifier is as before
  let key : Job → String × String := fun job => (job.name, job.systemId)
  have hkeys : (r.putJob job').jobs.map key = r.jobs.map key := by
    rw [putJob, hname]
    exact Table.map_insert_of_get? hjob (by simp [key, hname, hid])
  have hfind : ∀ r : Registry, (r.jobBySystemId? id).map key =
      (r.jobs.map key).values.find? fun k => k.2 == id := by
    intro r
    rw [Table.values_map, List.find?_map]
    rfl
  have hsame := hfind (r.putJob job')
  rw [hkeys, ← hfind, hfound, Option.map_some] at hsame
  obtain ⟨other, hother, hkey⟩ := Option.map_eq_some_iff.1 hsame
  have hothername : other.name = job.name := congrArg Prod.fst hkey
  have hnamed' : (r.putJob job').Named := hnamed.insert rfl rfl
  have hstored := hnamed'.job?_of_mem (mem_of_jobBySystemId? hother)
  rw [hothername, ← hname] at hstored
  rw [hother]
  exact hstored.symm.trans (Table.get?_insert_self ..)

/-- Once it was applied, it can be applied again, and says nothing new. -/
theorem Accepts.again (h : r.Accepts report job) (hnamed : r.Named)
    (hsame : (r.putJob (job.filled report.instances)).SameBooks r') :
    ∃ job', r'.Accepts report job' ∧ job'.Carries report.instances := by
  have hfound := jobBySystemId?_putJob hnamed h.found
    (rfl : (job.filled report.instances).name = job.name) rfl
  have hagain := hsame.jobBySystemId? report.systemId
  rw [hfound, Option.map_some] at hagain
  obtain ⟨job', hjob', heq⟩ := Option.map_eq_some_iff.1 hagain
  have hinstance : ∀ n, job'.instance? n = (job.filled report.instances).instance? n := by
    intro n
    have hsameInstance := congrArg (Job.instance? · n) heq
    exact hsameInstance
  have hcarries : job'.Carries report.instances := by
    intro one hone
    rw [hinstance]
    exact h.taken.carries_filled one hone
  refine ⟨job', ⟨h.identified, h.nonempty, hjob', h.networks, fun one hone => ?_, h.taken.agree⟩,
    hcarries⟩
  obtain ⟨i, hi, hnetwork⟩ := hcarries one hone
  exact ⟨i, hi, .inr hnetwork⟩

end Registry

namespace Tier

open Registry (Accepts)

variable {σ : Type} {t : Tier σ} {s : σ} {report : DeployReport} {job : Job}

/-- A report that is applied comes from a tier that accepts it. -/
theorem accepts_of_applyDeployReport {changed : List UInt32} {s' : σ}
    (hnamed : (t.site.get s).Named) (h : t.applyDeployReport report s = (.ok changed, s')) :
    ∃ job, (t.site.get s).Accepts report job := by
  have hempty : report.systemId.isEmpty = false ∧ report.instances ≠ [] := by
    by_contra hnot
    have hthrow : (report.systemId.isEmpty || report.instances.isEmpty) = true := by
      simpa [-not_and, not_and_or, List.isEmpty_iff] using hnot
    rw [applyDeployReport, if_pos hthrow, Action.throw_bind] at h
    cases h
  obtain ⟨job, outcomes, r', hfound, hrecorded, -⟩ :=
    (applyDeployReport_announces report s).of_ok rfl h
  obtain ⟨hjob, hnetworks, happlied⟩ := hrecorded
  have hplace := hnamed.job?_of_mem (Registry.mem_of_jobBySystemId? hfound)
  obtain rfl := Option.some.inj (hplace.symm.trans hjob)
  exact ⟨_, hempty.1, hempty.2, hfound, hnetworks,
    (Job.applyReports_ok_iff_takesAll hnetworks).1 ⟨_, _, happlied⟩⟩

/-- **A report that is accepted.** -/
theorem applyDeployReport_of_accepts (hnamed : (t.site.get s).Named)
    (hdistinct : (t.site.get s).Distinct) (h : (t.site.get s).Accepts report job) :
    ∃ changed, t.applyDeployReport report s = (.ok changed, t.announceAll job.name changed
        (t.site.set ((t.site.get s).putJob (job.filled report.instances)) s)) ∧
      changed.Nodup ∧
      ∀ n, n ∈ changed ↔
        (∃ one ∈ report.instances, one.number = n) ∧ job.configured n = false := by
  have hplace := hnamed.job?_of_mem (Registry.mem_of_jobBySystemId? h.found)
  have hspec := applyDeployReport_announces (t := t) report s
  rcases hrun : t.applyDeployReport report s with ⟨e | changed, s'⟩
  · obtain ⟨outcomes, job', happlied⟩ : ∃ outcomes job',
        Job.applyReports job.name none report.instances job = .ok (outcomes, job') :=
      (Job.applyReports_ok_iff_takesAll h.networks).2 h.taken
    exact absurd (.intro hplace h.networks happlied)
      ((hspec.of_error rfl hrun).2 h.identified h.nonempty job outcomes _ h.found)
  · obtain ⟨known, outcomes, r', hfound, hrecorded, rfl, rfl⟩ := hspec.of_ok rfl hrun
    obtain rfl := Option.some.inj (h.found.symm.trans hfound)
    obtain ⟨hjob, hnetworks, happlied⟩ := hrecorded
    obtain rfl := Option.some.inj (hplace.symm.trans hjob)
    obtain rfl := Job.applyReports_eq_filled (hdistinct _ _ hplace) hnetworks happlied
    exact ⟨_, rfl, (Job.mem_changed_iff happlied hnetworks).1,
      fun n => Job.mem_changed_iff_reported hnetworks happlied⟩

/-- **A report that comes again.** -/
theorem applyDeployReport_of_carries (hnamed : (t.site.get s).Named)
    (h : (t.site.get s).Accepts report job) (hcarries : job.Carries report.instances) :
    t.applyDeployReport report s = (.ok [], s) := by
  have hplace := hnamed.job?_of_mem (Registry.mem_of_jobBySystemId? h.found)
  have hspec := applyDeployReport_announces (t := t) report s
  have hnothing : Job.applyReports job.name none report.instances job =
      .ok (report.instances.map fun one => (one.number, .unchanged), job) :=
    Job.applyReports_of_carries h.networks hcarries
  rcases hrun : t.applyDeployReport report s with ⟨e | changed, s'⟩
  · exact absurd (.intro hplace h.networks hnothing)
      ((hspec.of_error rfl hrun).2 h.identified h.nonempty job _ _ h.found)
  · obtain ⟨known, outcomes, r', hfound, hrecorded, rfl, rfl⟩ := hspec.of_ok rfl hrun
    obtain rfl := Option.some.inj (h.found.symm.trans hfound)
    obtain ⟨hjob, -, happlied⟩ := hrecorded
    obtain rfl := Option.some.inj (hplace.symm.trans hjob)
    obtain ⟨rfl, rfl⟩ := Prod.mk.inj (Except.ok.inj (hnothing.symm.trans happlied))
    have hchanged : Job.changed (report.instances.map fun one =>
        (one.number, ReportOutcome.unchanged)) = [] := by
      simp [Job.changed]
    have hsame : { t.site.get s with
        jobs := (t.site.get s).jobs.insert job.name job } = t.site.get s := by
      rw [Table.insert_of_get? hjob]
    rw [hchanged, hsame, t.site.set_get]
    rfl

/-- **Reports of child tiers.** Either the report is refused, and nothing has happened; or exactly
the reported networks are recorded, and those instances are announced that had none. Then the report
is accepted again, and nothing more happens. All of this is the same for any order of its
entries. -/
theorem applyDeployReport_whole (hdiscreet : t.Discreet) (hnamed : (t.site.get s).Named)
    (hdistinct : (t.site.get s).Distinct) (report : DeployReport) :
    (∃ job, (t.site.get s).Accepts report job ∧
      (job.filled report.instances).Carries report.instances ∧
      ∀ instances, instances.Perm report.instances → ∃ changed s',
        t.applyDeployReport ⟨report.systemId, instances⟩ s = (.ok changed, s') ∧
        s' = t.announceAll job.name changed
          (t.site.set ((t.site.get s).putJob (job.filled report.instances)) s) ∧
        changed.Nodup ∧
        (∀ n, n ∈ changed ↔
          (∃ one ∈ report.instances, one.number = n) ∧ job.configured n = false) ∧
        t.applyDeployReport ⟨report.systemId, instances⟩ s' = (.ok [], s')) ∨
    (¬∃ job, (t.site.get s).Accepts report job) ∧
      ∀ instances, instances.Perm report.instances →
        ∃ e, t.applyDeployReport ⟨report.systemId, instances⟩ s = (.error e, s) := by
  by_cases h : ∃ job, (t.site.get s).Accepts report job
  · obtain ⟨job, h⟩ := h
    refine .inl ⟨job, h, h.taken.carries_filled, fun instances hperm => ?_⟩
    have hinstances := h.perm hperm
    obtain ⟨changed, hrun, hnodup, hchanged⟩ :=
      applyDeployReport_of_accepts hnamed hdistinct hinstances
    have hfilled : job.filled instances = job.filled report.instances :=
      Job.filled_perm h.taken.agree hperm
    have hsame : ((t.site.get s).putJob (job.filled instances)).SameBooks (t.site.get
        (t.announceAll job.name changed
          (t.site.set ((t.site.get s).putJob (job.filled instances)) s))) := by
      obtain ⟨messages, -, htell⟩ := announceAll_eq_tell (t := t) job.name changed
        (t.site.set ((t.site.get s).putJob (job.filled instances)) s)
      have htold := hdiscreet.tell messages
        (t.site.set ((t.site.get s).putJob (job.filled instances)) s)
      rwa [t.site.get_set, ← htell] at htold
    obtain ⟨job', hagain, hcarries⟩ := hinstances.again hnamed hsame
    have hnamed' := hsame.named (hnamed.insert rfl rfl)
    refine ⟨changed, _, hrun, by rw [hfilled], hnodup, fun n => (hchanged n).trans ?_,
      applyDeployReport_of_carries hnamed' hagain hcarries⟩
    simp only [hperm.mem_iff]
  · refine .inr ⟨h, fun instances hperm => ?_⟩
    rcases hrun : t.applyDeployReport ⟨report.systemId, instances⟩ s with ⟨e | changed, s'⟩
    · obtain ⟨rfl, -⟩ := (applyDeployReport_announces _ s).of_error rfl hrun
      exact ⟨e, rfl⟩
    · obtain ⟨job, haccepts⟩ := accepts_of_applyDeployReport hnamed hrun
      exact absurd ⟨job, haccepts.perm hperm.symm⟩ h

/-- A report that says the same twice about the only instance of a service. -/
def repeated : DeployReport :=
  ⟨"J", [⟨0, ⟨⟨some "10.0.0.1", none⟩, none, none⟩⟩, ⟨0, ⟨⟨some "10.0.0.1", none⟩, none, none⟩⟩]⟩

/-- The instance changes once, and not at all when the report comes again. -/
theorem applyDeployReport_repeated : Standalone.delivering.tier.Discreet ∧
    (Standalone.delivering.site.get RootTier.serving).Named ∧
    (Standalone.delivering.site.get RootTier.serving).Distinct ∧
    ∃ s', Standalone.delivering.tier.applyDeployReport repeated RootTier.serving =
        (.ok [0], s') ∧
      Standalone.delivering.tier.applyDeployReport repeated s' = (.ok [], s') := by
  have hdiscreet : Standalone.delivering.tier.Discreet := Standalone.delivering.keeps
  have hnamed := RootTier.serving_named
  have hdistinct : (Standalone.delivering.site.get RootTier.serving).Distinct :=
    Standalone.delivering.state_distinct RootTier.oneInstance (.start ⟨[], [], []⟩ [])
  have hchanges : (Standalone.delivering.tier.applyDeployReport repeated
      RootTier.serving).1.toOption = some [0] := by
    decide +kernel
  refine ⟨hdiscreet, hnamed, hdistinct, ?_⟩
  rcases applyDeployReport_whole hdiscreet hnamed hdistinct repeated with
    ⟨job, -, -, hall⟩ | ⟨-, hall⟩
  · obtain ⟨changed, s', hrun, -, -, -, hagain⟩ := hall repeated.instances (.refl _)
    have hfirst := congrArg (fun x => x.1.toOption) hrun
    obtain rfl : changed = [0] := Option.some.inj (hfirst.symm.trans hchanges)
    exact ⟨s', hrun, hagain⟩
  · obtain ⟨e, hrun⟩ := hall repeated.instances (.refl _)
    have hfirst := congrArg (fun x => x.1.toOption) hrun
    exact absurd (hfirst.symm.trans hchanges) nofun

end Tier

end Overlay
