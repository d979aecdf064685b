import Overlay.Proofs.Job.Reports

/-!
# Batches of reports

The reports of a batch are applied one after the other, each to what the ones before it have left of
the job. Still, what comes of a batch does not depend on the order. If the job takes the reports
(`Job.TakesAll`), then it has the reported networks afterwards, and everything else is as before
(`Job.applyReports_eq_filled`). A batch whose networks are all there changes nothing
(`Job.applyReports_of_carries`).
-/

namespace Overlay

/-- An instance with the network that is reported for it, if one is. -/
def Instance.filledBy (reports : List InstanceReport) (i : Instance) : Instance :=
  match reports.find? fun report => report.number == i.number with
  | some report => { i with network := report.network }
  | none => i

namespace Job

variable {job job' next : Job} {i : Instance} {n : UInt32} {name : String}
  {reporter : Option String} {report : InstanceReport} {outcome : ReportOutcome}
  {reports reports' : List InstanceReport} {outcomes : List (UInt32 × ReportOutcome)}

/-- A job with the networks that are reported for its instances. -/
def filled (job : Job) (reports : List InstanceReport) : Job :=
  { job with instances := job.instances.map (Instance.filledBy reports) }

/-! ## What a batch makes of a job -/

theorem filledBy_of_mem (hagree : Agree reports) (hreport : report ∈ reports)
    (hn : report.number = i.number) :
    i.filledBy reports = { i with network := report.network } := by
  rw [Instance.filledBy]
  cases hfind : reports.find? fun report => report.number == i.number with
  | none => exact absurd hn (by simpa using List.find?_eq_none.1 hfind report hreport)
  | some other =>
    have hother : other.number = i.number := by simpa using List.find?_some hfind
    have heq := hagree other (List.mem_of_find?_eq_some hfind) report hreport
      (hother.trans hn.symm)
    rw [← heq]

theorem filledBy_of_forall_ne (h : ∀ report ∈ reports, report.number ≠ i.number) :
    i.filledBy reports = i := by
  have hnone : (reports.find? fun report => report.number == i.number) = none := by
    simpa using h
  rw [Instance.filledBy, hnone]

@[simp] theorem number_filledBy (reports : List InstanceReport) (i : Instance) :
    (i.filledBy reports).number = i.number := by
  rw [Instance.filledBy]
  split
  · rfl
  · rfl

/-- Reports that agree fill in the same in any order. -/
theorem filled_perm (hagree : Agree reports) (hperm : reports'.Perm reports) :
    job.filled reports' = job.filled reports := by
  have hsame : ∀ i : Instance, i.filledBy reports' = i.filledBy reports := by
    intro i
    by_cases h : ∃ report ∈ reports, report.number = i.number
    · obtain ⟨report, hreport, hn⟩ := h
      rw [filledBy_of_mem hagree hreport hn,
        filledBy_of_mem (hagree.perm hperm) (hperm.symm.subset hreport) hn]
    · have hne : ∀ report ∈ reports, report.number ≠ i.number :=
        fun report hreport hn => h ⟨report, hreport, hn⟩
      rw [filledBy_of_forall_ne hne,
        filledBy_of_forall_ne fun report hreport => hne report (hperm.subset hreport)]
  rw [filled, filled, List.map_congr_left fun i _ => hsame i]

theorem instance?_filled (job : Job) (reports : List InstanceReport) (n : UInt32) :
    (job.filled reports).instance? n = (job.instance? n).map (Instance.filledBy reports) := by
  rw [instance?, filled, List.find?_map, instance?]
  congr 2
  funext i
  simp

theorem numbers_filled (job : Job) (reports : List InstanceReport) :
    (job.filled reports).instances.map (·.number) = job.instances.map (·.number) := by
  simp [filled]

theorem Distinct.filled (h : job.Distinct) (reports : List InstanceReport) :
    (job.filled reports).Distinct := by
  rwa [Distinct, numbers_filled]

/-- Jobs with distinct numbers in the same order have the same instances if each number has. -/
theorem Distinct.instances_eq (h : job.Distinct)
    (hnumbers : job'.instances.map (·.number) = job.instances.map (·.number))
    (hsame : ∀ n, job'.instance? n = job.instance? n) : job'.instances = job.instances := by
  have h' : job'.Distinct := by rwa [Distinct, hnumbers]
  refine List.ext_getElem (by simpa using congrArg List.length hnumbers) fun k hk' hk => ?_
  have hn : job'.instances[k].number = job.instances[k].number := by
    have hget := congrArg (·[k]?) hnumbers
    simpa [hk, hk'] using hget
  have hfound := h.instance?_eq_some.2 ⟨List.getElem_mem hk, rfl⟩
  have hfound' := h'.instance?_eq_some.2 ⟨List.getElem_mem hk', hn⟩
  exact Option.some.inj (hfound'.symm.trans ((hsame _).trans hfound))

/-- One network that is filled in. -/
theorem instance?_filled_single (hi : job.instance? report.number = some i) (k : UInt32) :
    (job.filled [report]).instance? k =
      if k = report.number then some { i with network := report.network }
      else job.instance? k := by
  rw [instance?_filled]
  split
  · next hk =>
    have hn := (mem_of_instance? hi).2
    have hagree : Agree [report] := by simp [Agree]
    rw [hk, hi, Option.map_some, filledBy_of_mem hagree List.mem_cons_self hn.symm]
  · next hk =>
    cases hfound : job.instance? k with
    | none => rfl
    | some j =>
      have hj := (mem_of_instance? hfound).2
      rw [Option.map_some, filledBy_of_forall_ne]
      exact List.forall_mem_singleton.2 fun heq => hk (hj.symm.trans heq.symm)

/-- A job that differs in that network only. -/
theorem Distinct.eq_filled (hd : job.Distinct) (hi : job.instance? report.number = some i)
    (hfields : next = { job with instances := next.instances })
    (hnumbers : next.instances.map (·.number) = job.instances.map (·.number))
    (hsame : ∀ k, next.instance? k = if k = report.number then
      some { i with network := report.network } else job.instance? k) :
    next = job.filled [report] := by
  have hinstances : next.instances = (job.filled [report]).instances := by
    refine (hd.filled [report]).instances_eq ?_ fun k => ?_
    · rw [hnumbers, numbers_filled]
    · rw [hsame, instance?_filled_single hi]
  rw [hfields, hinstances, Job.filled]

/-- One report that names no worker fills in its network. -/
theorem applyReport_eq_filled (hd : job.Distinct)
    (h : applyReport name none job report = .ok (outcome, next)) : next = job.filled [report] := by
  cases outcome with
  | applied =>
    obtain ⟨i, hi, -, rfl⟩ := applyReport_applied_iff.1 h
    have hn := (mem_of_instance? hi).2
    have hplace : job.instance? i.number = some i := by rw [hn, hi]
    refine hd.eq_filled hi rfl (map_upsert hplace rfl) fun k => ?_
    rw [instance?_upsert, hn]
    rfl
  | unchanged =>
    obtain ⟨-, ⟨i, hi, hnetwork⟩, -, -⟩ := applyReport_cases h
    obtain rfl := applyReport_unchanged h
    refine hd.eq_filled hi rfl rfl fun k => ?_
    split
    · next hk => rw [hk, hi, ← hnetwork]
    · rfl

/-- Filling in one network after the other. -/
theorem filled_filled {rest : List InstanceReport} (hagree : Agree (report :: rest)) :
    (job.filled [report]).filled rest = job.filled (report :: rest) := by
  have hsame : ∀ i : Instance,
      (i.filledBy [report]).filledBy rest = i.filledBy (report :: rest) := by
    intro i
    by_cases hn : report.number = i.number
    · rw [filledBy_of_mem hagree List.mem_cons_self hn,
        filledBy_of_mem (by simp [Agree]) List.mem_cons_self hn]
      by_cases h : ∃ other ∈ rest, other.number = i.number
      · obtain ⟨other, hother, hon⟩ := h
        have hrest : Agree rest := fun one hone other hother =>
          hagree one (List.mem_cons_of_mem _ hone) other (List.mem_cons_of_mem _ hother)
        have hsay := hagree other (List.mem_cons_of_mem _ hother) report List.mem_cons_self
          (hon.trans hn.symm)
        have hmore := filledBy_of_mem (i := { i with network := report.network }) hrest hother hon
        rw [hmore, hsay]
      · exact filledBy_of_forall_ne fun other hother hon => h ⟨other, hother, hon⟩
    · rw [filledBy_of_forall_ne (List.forall_mem_singleton.2 hn), Instance.filledBy,
        Instance.filledBy, List.find?_cons_of_neg (by simpa using hn)]
  rw [filled, filled, filled, List.map_map]
  exact congrArg (fun instances => { job with instances }) (List.map_congr_left fun i _ => hsame i)

/-- **Outcome.** A batch that names no worker fills in its networks and changes nothing else. -/
theorem applyReports_eq_filled (hd : job.Distinct)
    (hnetworks : ∀ report ∈ reports, report.network.isEmpty = false)
    (h : applyReports name none reports job = .ok (outcomes, job')) :
    job' = job.filled reports := by
  have hagree := ((applyReports_ok_iff_takesAll hnetworks).1 ⟨_, _, h⟩).agree
  induction reports generalizing job outcomes with
  | nil =>
    obtain ⟨-, rfl⟩ := Prod.mk.inj (Except.ok.inj h)
    have hsame : job.instances.map (Instance.filledBy []) = job.instances := List.map_id _
    rw [filled, hsame]
  | cons first rest ih =>
    obtain ⟨hnetwork, hothers⟩ := List.forall_mem_cons.1 hnetworks
    obtain ⟨outcome, next, others, hone, hrest, rfl⟩ := applyReports_cons.1 h
    have hnext := applyReport_eq_filled hd hone
    have hdnext : next.Distinct := hnext ▸ hd.filled _
    have hrestAgree := ((applyReports_ok_iff_takesAll hothers).1 ⟨_, _, hrest⟩).agree
    rw [ih hdnext hothers hrest hrestAgree, hnext, filled_filled hagree]

/-- **Changes.** The numbers that are listed as changed are those that are reported and were not
configured before. -/
theorem mem_changed_iff_reported
    (hnetworks : ∀ report ∈ reports, report.network.isEmpty = false)
    (h : applyReports name reporter reports job = .ok (outcomes, job')) :
    n ∈ changed outcomes ↔
      (∃ report ∈ reports, report.number = n) ∧ job.configured n = false := by
  rw [(mem_changed_iff h hnetworks).2, and_comm]
  refine and_congr_left fun hbefore => ⟨fun hafter => ?_, ?_⟩
  · by_contra hnot
    have hsame := instance?_applyReports_of_forall_ne h
      fun report hreport hn => hnot ⟨report, hreport, hn⟩
    rw [configured, hsame, ← configured, hbefore] at hafter
    cases hafter
  · rintro ⟨report, hreport, rfl⟩
    obtain ⟨i, hi, hnetwork⟩ := network_applyReports h hnetworks report hreport
    rw [configured, hi, Option.any_some, Instance.isConfigured, hnetwork, hnetworks report hreport]
    rfl

/-! ## Batches that say nothing new -/

/-- Each reported network is there. -/
def Carries (job : Job) (reports : List InstanceReport) : Prop :=
  ∀ report ∈ reports, ∃ i, job.instance? report.number = some i ∧ i.network = report.network

theorem TakesAll.carries_filled (h : job.TakesAll reports) :
    (job.filled reports).Carries reports := by
  intro report hreport
  obtain ⟨i, hi, -⟩ := h.each report hreport
  refine ⟨{ i with network := report.network }, ?_, rfl⟩
  rw [instance?_filled, hi, Option.map_some,
    filledBy_of_mem h.agree hreport (mem_of_instance? hi).2.symm]

/-- A batch that says nothing new changes nothing. -/
theorem applyReports_of_carries
    (hnetworks : ∀ report ∈ reports, report.network.isEmpty = false) (h : job.Carries reports) :
    applyReports name reporter reports job =
      .ok (reports.map fun report => (report.number, .unchanged), job) := by
  induction reports with
  | nil => rfl
  | cons first rest ih =>
    obtain ⟨hnetwork, hothers⟩ := List.forall_mem_cons.1 hnetworks
    obtain ⟨⟨i, hi, heq⟩, hrest⟩ := List.forall_mem_cons.1 h
    have hone : applyReport name reporter job first = .ok (.unchanged, job) := by
      rw [applyReport, hi]
      dsimp only
      rw [heq, hnetwork, if_neg Bool.false_ne_true, if_pos rfl]
    exact applyReports_cons.2 ⟨.unchanged, job, _, hone, ih hothers hrest, rfl⟩

end Job

end Overlay
