import Overlay.Proofs.Tier.Operations

/-!
# Reports of workers

A worker reports the network of one instance. The tier looks the job up, and either it enters the
network into the record of the job, tells the parties that are interested if this is news, and
passes on what it knows of the worker (`Tier.reportNetwork_of_enters`); or it refuses the report,
and then the look-up is all that has happened (`Tier.reportNetwork_of_not_enters`).
-/

namespace Overlay

/-- What is reported of a job does not depend on its parties. -/
theorem Job.reportOf_congr {job job' : Job} (h : job.withoutParties = job'.withoutParties)
    (worker : String) : job.reportOf worker = job'.reportOf worker := by
  have hreport := congrArg (Job.reportOf · worker) h
  exact hreport

namespace Registry

variable {r : Registry} {name : String} {reporter : Option String} {report : InstanceReport}
  {known new : Job} {outcome : ReportOutcome}

/-- One report that is accepted. -/
theorem applyReports_of_applyReport (hknown : r.job? name = some known)
    (hnetwork : report.network.isEmpty = false)
    (happlied : Job.applyReport name reporter known report = .ok (outcome, new)) :
    applyReports name [report] reporter r =
      (.ok [(report.number, outcome)], { r with jobs := r.jobs.insert name new }) := by
  have hreports : Job.applyReports name reporter [report] known =
      .ok ([(report.number, outcome)], new) :=
    Job.applyReports_cons.2 ⟨outcome, new, [], happlied, rfl, rfl⟩
  simp [applyReports, updateJob, Action.bind_apply, hnetwork, hknown, hreports]

/-- One report that is not. -/
theorem applyReports_of_not (h : ¬∃ known outcome new, r.job? name = some known ∧
      report.network.isEmpty = false ∧
      Job.applyReport name reporter known report = .ok (outcome, new)) :
    ∃ e, applyReports name [report] reporter r = (.error e, r) := by
  have hspec := applyReports_recorded (r := r) name [report] reporter
  rcases hrun : applyReports name [report] reporter r with ⟨e | outcomes, r'⟩
  · obtain ⟨rfl, -⟩ := hspec.of_error rfl hrun
    exact ⟨e, rfl⟩
  · obtain ⟨hjob, hnetworks, happlied⟩ := hspec.of_ok rfl hrun
    obtain ⟨outcome, new, others, hone, -, -⟩ := Job.applyReports_cons.1 happlied
    exact absurd ⟨_, outcome, new, hjob, hnetworks report List.mem_cons_self, hone⟩ h

end Registry

namespace Tier

variable {σ : Type} {t : Tier σ} {s : σ} {selector : Selector} {reporter : String}
  {report : InstanceReport} {job known new : Job} {outcome : ReportOutcome}

/-- The report is about a job that the tier has or gets from its parent, and it can be applied to
the record of the job. -/
structure Enters (t : Tier σ) (s : σ) (selector : Selector) (reporter : String)
    (report : InstanceReport) (job known new : Job) (outcome : ReportOutcome) : Prop where
  located : (t.locate selector s).1 = .ok job
  found : (t.site.get (t.locate selector s).2).job? job.name = some known
  network : report.network.isEmpty = false
  applied : Job.applyReport job.name (some reporter) known report = .ok (outcome, new)

/-- What becomes of the registry then. -/
theorem Enters.recorded (h : t.Enters s selector reporter report job known new outcome) :
    (t.site.get (t.locate selector s).2).Recorded job.name [report] (some reporter)
      [(report.number, outcome)] { t.site.get (t.locate selector s).2 with
        jobs := (t.site.get (t.locate selector s).2).jobs.insert job.name new } :=
  .intro h.found (List.forall_mem_singleton.2 h.network)
    (Job.applyReports_cons.2 ⟨outcome, new, [], h.applied, rfl, rfl⟩)

/-- The state after the record of a job was stored again, and a change was announced if there is
one. -/
def entered (t : Tier σ) (new : Job) (name : String) (number : UInt32) (outcome : ReportOutcome)
    (s : σ) : σ :=
  let stored := t.site.set { t.site.get s with jobs := (t.site.get s).jobs.insert name new } s
  if outcome = .applied then t.announce ⟨name, number, .deployment⟩ stored else stored

/-- The state after a report went to the parent, if there is one. -/
def passed (t : Tier σ) (report : DeployReport) (s : σ) : σ :=
  match t.parent? with
  | none => s
  | some parent => (parent (.reportDeployment report) s).2

/-- What is announced leaves the record as it was stored, but for its parties. -/
theorem Discreet.job?_entered (h : t.Discreet) (new : Job) (name : String) (number : UInt32)
    (outcome : ReportOutcome) (s : σ) :
    ∃ stored, (t.site.get (t.entered new name number outcome s)).job? name = some stored ∧
      stored.withoutParties = new.withoutParties := by
  have hbooks : Registry.SameBooks
      { t.site.get s with jobs := (t.site.get s).jobs.insert name new }
      (t.site.get (t.entered new name number outcome s)) := by
    rw [entered]
    split
    · have hannounced := h.announce ⟨name, number, .deployment⟩
        (t.site.set { t.site.get s with jobs := (t.site.get s).jobs.insert name new } s)
      rwa [t.site.get_set] at hannounced
    · rw [t.site.get_set]
      exact .refl _
  have hfound := hbooks.job? name
  rw [Registry.job?, Registry.job?, Table.get?_insert_self, Option.map_some] at hfound
  exact Option.map_eq_some_iff.1 hfound

/-- Passing on what is known of a job that is there. -/
theorem pass_apply {name : String} {stored : Job}
    (hstored : (t.site.get s).job? name = some stored) (reporter : String)
    (outcome : ReportOutcome) :
    (do
      if let some parent := t.parent? then
        match ← t.look fun r => r.job? name with
        | none => throw (.jobNotFound name)
        | some job =>
          let _ ← (parent (.reportDeployment (job.reportOf reporter))).attempt
      return outcome : Action σ TierError ReportOutcome) s =
      (.ok outcome, t.passed (stored.reportOf reporter) s) := by
  rw [passed]
  cases t.parent? with
  | none => rfl
  | some parent =>
    have hlook : (t.look fun r => r.job? name : Action σ TierError (Option Job)) s =
        (.ok (some stored), s) := by
      rw [look, Action.inspect_apply, hstored]
    dsimp only
    rw [Action.bind_of_ok hlook]
    rfl

/-- **A report that is accepted.** -/
theorem reportNetwork_of_enters (hdiscreet : t.Discreet)
    (h : t.Enters s selector reporter report job known new outcome) :
    t.reportNetwork selector report.number report.network reporter s = (.ok outcome,
      t.passed (new.reportOf reporter)
        (t.entered new job.name report.number outcome (t.locate selector s).2)) := by
  have hlocate : t.locate selector s = (.ok job, (t.locate selector s).2) := Prod.ext h.located rfl
  generalize hs₁ : (t.locate selector s).2 = s₁ at hlocate ⊢
  have hfound := h.found
  rw [hs₁] at hfound
  have happly : (Registry.applyReports job.name [report] (some reporter)).zoom t.site s₁ =
      (.ok [(report.number, outcome)], t.site.set { t.site.get s₁ with
        jobs := (t.site.get s₁).jobs.insert job.name new } s₁) := by
    rw [Action.zoom_apply, Registry.applyReports_of_applyReport hfound h.network h.applied]
  obtain ⟨stored, hstored, hsame⟩ :=
    hdiscreet.job?_entered new job.name report.number outcome s₁
  have hreport := Job.reportOf_congr hsame reporter
  have hpass := pass_apply hstored reporter outcome
  have hnews : ([(report.number, outcome)].head?.map (·.2)).getD .unchanged = outcome := rfl
  rw [reportNetwork, Action.bind_of_ok hlocate, Action.bind_of_ok happly]
  dsimp only
  rw [hnews, ← hreport, ← hpass, entered]
  split
  · obtain ⟨told, _, htold, rfl⟩ := (fanOut_spec (t := t)
      ⟨job.name, report.number, .deployment⟩ (t.site.set { t.site.get s₁ with
        jobs := (t.site.get s₁).jobs.insert job.name new } s₁)).exists_ok rfl
    rw [Action.bind_of_ok htold]
    rfl
  · rfl

/-- A report is refused for the same reason at every tier that locates the job alike. -/
theorem exists_refusal
    (h : ¬∃ job known new outcome, t.Enters s selector reporter report job known new outcome) :
    ∃ e, ∀ t' : Tier σ, t'.site = t.site → t'.locate selector = t.locate selector →
      t'.reportNetwork selector report.number report.network reporter s =
        (.error e, (t.locate selector s).2) := by
  rcases hlocate : t.locate selector s with ⟨e | job, s₁⟩
  · exact ⟨e, fun t' _ hsame => Action.bind_of_error (hsame ▸ hlocate) _⟩
  · have hnot : ¬∃ known outcome new, (t.site.get s₁).job? job.name = some known ∧
        report.network.isEmpty = false ∧
        Job.applyReport job.name (some reporter) known report = .ok (outcome, new) := by
      rintro ⟨known, outcome, new, hfound, hnetwork, happlied⟩
      exact h ⟨job, known, new, outcome, by rw [hlocate], by rwa [hlocate], hnetwork, happlied⟩
    obtain ⟨e, hrefused⟩ := Registry.applyReports_of_not hnot
    have happly : (Registry.applyReports job.name [report] (some reporter)).zoom t.site s₁ =
        (.error e, s₁) := by
      rw [Action.zoom_apply, hrefused, t.site.set_get]
    exact ⟨e, fun t' hsite hsame => (Action.bind_of_ok (hsame ▸ hlocate) _).trans
      (Action.bind_of_error (hsite ▸ happly) _)⟩

/-- **A report that is refused.** -/
theorem reportNetwork_of_not_enters
    (h : ¬∃ job known new outcome, t.Enters s selector reporter report job known new outcome) :
    ∃ e, t.reportNetwork selector report.number report.network reporter s =
      (.error e, (t.locate selector s).2) :=
  (exists_refusal h).imp fun _ hrun => hrun t rfl rfl

end Tier

end Overlay
