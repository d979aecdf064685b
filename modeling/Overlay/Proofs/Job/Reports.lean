import Overlay.Proofs.Job.Instances

/-!
# Reports of networks

What reports do to the instances of a job, number by number. A report fills in a network that is
empty and changes nothing else (`Job.applyReport_fresh`); so a network that was reported stays, and
of several reports each instance is changed by one at most. Reports are accepted if each of them is
taken by its instance and reports for the same instance agree (`Job.applyReports_ok_iff_takesAll`),
and then the instances that are listed as changed are those that were not configured before
(`Job.mem_changed_iff`).
-/

namespace Overlay

namespace Job

variable {job job' : Job} {i : Instance} {n : UInt32}

/-! ## The instance of a number -/

/-- What a look-up finds once the first match was replaced by another match. -/
theorem find?_replaceFirst_self {α : Type} {p : α → Bool} {b : α} {as bs : List α} (hb : p b = true)
    (h : replaceFirst p (fun _ => b) as = some bs) : bs.find? p = some b := by
  induction as generalizing bs with
  | nil => cases h
  | cons a as ih =>
    rw [replaceFirst] at h
    split at h
    · obtain rfl := Option.some.inj h
      rw [List.find?_cons, hb]
    · next hp =>
      obtain ⟨cs, hcs, rfl⟩ := Option.map_eq_some_iff.1 h
      rw [Bool.not_eq_true] at hp
      rw [List.find?_cons, hp]
      exact ih hcs

/-- Another look-up finds what it found before, if it finds neither the first match nor its
replacement. -/
theorem find?_replaceFirst_of_disjoint {α : Type} {p q : α → Bool} {b : α} {as bs : List α}
    (hb : q b = false) (hpq : ∀ a, p a = true → q a = false)
    (h : replaceFirst p (fun _ => b) as = some bs) : bs.find? q = as.find? q := by
  induction as generalizing bs with
  | nil => cases h
  | cons a as ih =>
    rw [replaceFirst] at h
    split at h
    · next hp =>
      obtain rfl := Option.some.inj h
      rw [List.find?_cons, List.find?_cons, hb, hpq a hp]
    · obtain ⟨cs, hcs, rfl⟩ := Option.map_eq_some_iff.1 h
      rw [List.find?_cons, List.find?_cons, ih hcs]

/-- **Storing.** The instance is the one of its number, and others are as before. -/
theorem instance?_upsert (job : Job) (i : Instance) (n : UInt32) :
    (job.upsert i).instance? n = if n = i.number then some i else job.instance? n := by
  rw [upsert, instance?, instance?]
  cases h : replaceFirst (fun j => j.number == i.number) (fun _ => i) job.instances with
  | none =>
    have hnone := replaceFirst_eq_none.1 h
    rw [Option.getD_none, List.find?_append]
    by_cases hn : n = i.number
    · subst hn
      simp [hnone]
    · have hne : (i.number == n) = false := by simpa using Ne.symm hn
      simp [hne, hn]
  | some bs =>
    rw [Option.getD_some]
    split
    · next hn =>
      subst hn
      exact find?_replaceFirst_self (by simp) h
    · next hn =>
      refine find?_replaceFirst_of_disjoint (by simpa using Ne.symm hn) (fun j hj => ?_) h
      rw [beq_iff_eq] at hj
      simpa [hj] using Ne.symm hn

/-- Where numbers are distinct, a number that was removed is gone. -/
theorem Distinct.instance?_remove (h : job.Distinct) (n : UInt32) :
    (job.remove n).instance? n = none := by
  rw [instance?_eq_none]
  intro i hi
  exact (h.mem_remove.1 hi).2

/-- Where numbers are distinct, each instance is the one of its number. -/
theorem Distinct.instance?_eq_some (h : job.Distinct) :
    job.instance? n = some i ↔ i ∈ job.instances ∧ i.number = n := by
  refine ⟨mem_of_instance?, fun hi => ?_⟩
  obtain ⟨hi, hn⟩ := hi
  cases hfound : job.instance? n with
  | none => exact absurd hn (instance?_eq_none.1 hfound i hi)
  | some j =>
    obtain ⟨hj, hjn⟩ := mem_of_instance? hfound
    exact congrArg some (List.inj_on_of_nodup_map h hj hi (hjn.trans hn.symm))

/-- Where numbers are distinct, storing an instance drops the one with its number. -/
theorem Distinct.mem_upsert (h : job.Distinct) {x : Instance} :
    x ∈ (job.upsert i).instances ↔ x = i ∨ x ∈ job.instances ∧ x.number ≠ i.number := by
  have hmem : x ∈ (job.upsert i).instances ↔ (job.upsert i).instance? x.number = some x := by
    rw [(h.upsert i).instance?_eq_some, and_iff_left rfl]
  rw [hmem, instance?_upsert]
  split
  · next hn =>
    rw [Option.some_inj, eq_comm, or_iff_left]
    exact fun hx => hx.2 hn
  · next hn =>
    rw [h.instance?_eq_some, and_iff_left rfl, and_iff_left hn, or_iff_right]
    rintro rfl
    exact hn rfl

/-! ## One report -/

/-- Whether the network of an instance was reported. -/
def configured (job : Job) (n : UInt32) : Bool :=
  (job.instance? n).any Instance.isConfigured

/-- An instance takes a report if it has no network or the one that is reported. -/
def Takes (job : Job) (report : InstanceReport) : Prop :=
  ∃ i, job.instance? report.number = some i ∧
    (i.network.isEmpty = true ∨ i.network = report.network)

theorem Takes.congr {report : InstanceReport}
    (h : job'.instance? report.number = job.instance? report.number) :
    job'.Takes report ↔ job.Takes report := by
  rw [Takes, Takes, h]

variable {name : String} {reporter : Option String} {report : InstanceReport}
  {outcome : ReportOutcome}

/-- A network that is not there yet is filled in. -/
theorem applyReport_fresh (hi : job.instance? report.number = some i)
    (hempty : i.network.isEmpty = true) : applyReport name reporter job report = .ok (.applied,
      job.upsert { i with network := report.network, worker := reporter.or i.worker }) := by
  simp [applyReport, hi, hempty]

/-- **One report.** A report that is accepted is taken, and its number has the network afterwards;
it counts as applied if the number had none before. No other instance has changed, and neither has
one that had a network. -/
theorem applyReport_cases (h : applyReport name reporter job report = .ok (outcome, job')) :
    job.Takes report ∧ (∃ i, job'.instance? report.number = some i ∧ i.network = report.network) ∧
      (outcome = .applied ↔ job.configured report.number = false) ∧
      ∀ k, k ≠ report.number ∨ job.configured k = true → job'.instance? k = job.instance? k := by
  rw [applyReport] at h
  split at h
  · cases h
  next i hi =>
  have hn := (mem_of_instance? hi).2
  have hconfigured : job.configured report.number = !i.network.isEmpty := by
    rw [configured, hi, Option.any_some, Instance.isConfigured]
  split at h
  · next hempty =>
    obtain ⟨rfl, rfl⟩ := Prod.mk.inj (Except.ok.inj h)
    refine ⟨⟨i, hi, .inl hempty⟩, ?_, by simp [hconfigured, hempty], fun k hk => ?_⟩
    · exact ⟨_, (instance?_upsert job _ _).trans (if_pos hn.symm), rfl⟩
    · rw [instance?_upsert, if_neg]
      rintro rfl
      rw [hn, hconfigured, hempty] at hk
      simp at hk
  · next hempty =>
    split at h
    · next hsame =>
      obtain ⟨rfl, rfl⟩ := Prod.mk.inj (Except.ok.inj h)
      exact ⟨⟨i, hi, .inr hsame⟩, ⟨i, hi, hsame⟩, by simp [hconfigured, hempty], fun _ _ => rfl⟩
    · cases h

/-- **News.** A report is applied if and only if there is no network yet, which is filled in then. -/
theorem applyReport_applied_iff :
    applyReport name reporter job report = .ok (.applied, job') ↔
      ∃ i, job.instance? report.number = some i ∧ i.network.isEmpty = true ∧
        job' = job.upsert { i with network := report.network, worker := reporter.or i.worker } := by
  constructor
  · intro h
    obtain ⟨⟨i, hi, -⟩, -, happlied, -⟩ := applyReport_cases h
    have hconfigured := happlied.1 rfl
    rw [configured, hi, Option.any_some, Instance.isConfigured, Bool.not_eq_false'] at hconfigured
    have hfresh := h.symm.trans (applyReport_fresh hi hconfigured)
    exact ⟨i, hi, hconfigured, congrArg Prod.snd (Except.ok.inj hfresh)⟩
  · rintro ⟨i, hi, hempty, rfl⟩
    exact applyReport_fresh hi hempty

/-- A report that is no news changes nothing. -/
theorem applyReport_unchanged (h : applyReport name reporter job report = .ok (.unchanged, job')) :
    job' = job := by
  rw [applyReport] at h
  split at h
  · cases h
  split at h
  · cases h
  split at h
  · exact (congrArg Prod.snd (Except.ok.inj h)).symm
  · cases h

/-- A report that is taken is accepted. -/
theorem Takes.applyReport (h : job.Takes report) :
    ∃ outcome job', Job.applyReport name reporter job report = .ok (outcome, job') := by
  obtain ⟨i, hi, hcases⟩ := h
  rw [Job.applyReport, hi]
  dsimp only
  split
  · exact ⟨_, _, rfl⟩
  · next hempty => exact ⟨_, _, if_pos (hcases.resolve_left hempty)⟩

/-! ## Several reports -/

variable {reports reports' : List InstanceReport} {outcomes : List (UInt32 × ReportOutcome)}
  {next : Job}

/-- The numbers of the instances that reports have changed. -/
def changed (outcomes : List (UInt32 × ReportOutcome)) : List UInt32 :=
  (outcomes.filter fun o => o.2 = .applied).map (·.1)

/-- Several reports are accepted if the first one is, and then the others. -/
theorem applyReports_cons {rest : List InstanceReport} :
    applyReports name reporter (report :: rest) job = .ok (outcomes, job') ↔
      ∃ outcome next others, applyReport name reporter job report = .ok (outcome, next) ∧
        applyReports name reporter rest next = .ok (others, job') ∧
        outcomes = (report.number, outcome) :: others := by
  rw [applyReports]
  cases hone : applyReport name reporter job report with
  | error e => simp [bind, Except.bind]
  | ok first =>
    obtain ⟨outcome, next⟩ := first
    cases hrest : applyReports name reporter rest next with
    | error e => simp [hrest, bind, Except.bind]
    | ok others =>
      simp only [hrest, bind, Except.bind, pure, Except.pure, Except.ok.injEq, Prod.mk.injEq]
      constructor
      · rintro ⟨rfl, rfl⟩
        exact ⟨outcome, next, others.1, ⟨rfl, rfl⟩, hrest, rfl⟩
      · rintro ⟨_, _, _, ⟨rfl, rfl⟩, hothers, rfl⟩
        rw [hrest] at hothers
        obtain rfl := Except.ok.inj hothers
        exact ⟨rfl, rfl⟩

/-- An instance that has a network keeps everything it has. -/
theorem instance?_applyReports (h : applyReports name reporter reports job = .ok (outcomes, job'))
    (hnetworks : ∀ report ∈ reports, report.network.isEmpty = false)
    (hn : job.configured n = true) : job'.instance? n = job.instance? n := by
  induction reports generalizing job outcomes with
  | nil =>
    obtain ⟨-, rfl⟩ := Prod.mk.inj (Except.ok.inj h)
    rfl
  | cons report rest ih =>
    obtain ⟨outcome, next, others, hone, hrest, rfl⟩ := applyReports_cons.1 h
    obtain ⟨-, -, -, hsame⟩ := applyReport_cases hone
    have hnext := hsame n (.inr hn)
    have hn' : next.configured n = true := by rw [configured, hnext, ← configured, hn]
    exact (ih hrest (fun r hr => hnetworks r (List.mem_cons_of_mem _ hr)) hn').trans hnext

/-- An instance that no report is about keeps everything it has. -/
theorem instance?_applyReports_of_forall_ne
    (h : applyReports name reporter reports job = .ok (outcomes, job'))
    (hn : ∀ report ∈ reports, report.number ≠ n) : job'.instance? n = job.instance? n := by
  induction reports generalizing job outcomes with
  | nil =>
    obtain ⟨-, rfl⟩ := Prod.mk.inj (Except.ok.inj h)
    rfl
  | cons report rest ih =>
    obtain ⟨outcome, next, others, hone, hrest, rfl⟩ := applyReports_cons.1 h
    obtain ⟨-, -, -, hsame⟩ := applyReport_cases hone
    obtain ⟨hfirst, hothers⟩ := List.forall_mem_cons.1 hn
    exact (ih hrest hothers).trans (hsame n (.inl (Ne.symm hfirst)))

/-- Afterwards each reported number has the reported network. -/
theorem network_applyReports (h : applyReports name reporter reports job = .ok (outcomes, job'))
    (hnetworks : ∀ report ∈ reports, report.network.isEmpty = false) :
    ∀ report ∈ reports, ∃ i, job'.instance? report.number = some i ∧
      i.network = report.network := by
  induction reports generalizing job outcomes with
  | nil => nofun
  | cons first rest ih =>
    intro report hreport
    obtain ⟨outcome, next, others, hone, hrest, rfl⟩ := applyReports_cons.1 h
    have hothers := fun r hr => hnetworks r (List.mem_cons_of_mem first hr)
    rcases List.mem_cons.1 hreport with rfl | hreport
    · have hnetwork := hnetworks report List.mem_cons_self
      obtain ⟨-, ⟨i, hi, hi'⟩, -, -⟩ := applyReport_cases hone
      have hconfigured : next.configured report.number = true := by
        rw [configured, hi, Option.any_some, Instance.isConfigured, hi', hnetwork]
        rfl
      exact ⟨i, (instance?_applyReports hrest hothers hconfigured).trans hi, hi'⟩
    · exact ih hrest hothers report hreport

/-- **What has changed.** The numbers that are listed as changed are those that were configured by
the reports, each of them once. -/
theorem mem_changed_iff (h : applyReports name reporter reports job = .ok (outcomes, job'))
    (hnetworks : ∀ report ∈ reports, report.network.isEmpty = false) :
    (changed outcomes).Nodup ∧ ∀ k, k ∈ changed outcomes ↔
      job.configured k = false ∧ job'.configured k = true := by
  induction reports generalizing job outcomes with
  | nil =>
    obtain ⟨rfl, rfl⟩ := Prod.mk.inj (Except.ok.inj h)
    refine ⟨List.nodup_nil, fun k => ?_⟩
    cases job.configured k <;> simp [changed]
  | cons report rest ih =>
    obtain ⟨outcome, next, others, hone, hrest, rfl⟩ := applyReports_cons.1 h
    have hnetwork := hnetworks report List.mem_cons_self
    have hothers := fun r hr => hnetworks r (List.mem_cons_of_mem report hr)
    obtain ⟨-, ⟨i, hi, hi'⟩, happlied, hsame⟩ := applyReport_cases hone
    obtain ⟨hnodup, hmem⟩ := ih hrest hothers
    have hnext : next.configured report.number = true := by
      rw [configured, hi, Option.any_some, Instance.isConfigured, hi', hnetwork]
      rfl
    have hlast : job'.configured report.number = true := by
      rw [configured, instance?_applyReports hrest hothers hnext, ← configured, hnext]
    have hother : ∀ k, k ≠ report.number → next.configured k = job.configured k := by
      intro k hk
      rw [configured, hsame k (.inl hk), ← configured]
    cases outcome with
    | applied =>
      have hbefore := happlied.1 rfl
      have hlist : changed ((report.number, .applied) :: others) =
          report.number :: changed others := rfl
      rw [hlist]
      refine ⟨List.nodup_cons.2 ⟨fun hin => ?_, hnodup⟩, fun k => ?_⟩
      · have hagain := ((hmem _).1 hin).1
        rw [hnext] at hagain
        cases hagain
      · rw [List.mem_cons, hmem]
        by_cases hk : k = report.number
        · subst hk
          simp [hbefore, hlast]
        · simp [hk, hother k hk]
    | unchanged =>
      have hbefore : job.configured report.number = true := by
        cases hc : job.configured report.number with
        | true => rfl
        | false => cases happlied.2 hc
      have hlist : changed ((report.number, .unchanged) :: others) = changed others := rfl
      rw [hlist]
      refine ⟨hnodup, fun k => ?_⟩
      rw [hmem]
      by_cases hk : k = report.number
      · subst hk
        simp [hbefore, hnext]
      · rw [hother k hk]

/-! ## Which reports are accepted -/

/-- Reports for the same instance say the same. -/
def Agree (reports : List InstanceReport) : Prop :=
  ∀ one ∈ reports, ∀ other ∈ reports, one.number = other.number → one.network = other.network

/-- Each report is taken by its instance, and reports for the same instance agree. -/
structure TakesAll (job : Job) (reports : List InstanceReport) : Prop where
  each : ∀ report ∈ reports, job.Takes report
  agree : Agree reports

theorem Agree.perm (h : Agree reports) (hperm : reports'.Perm reports) : Agree reports' :=
  fun one hone other hother => h one (hperm.subset hone) other (hperm.subset hother)

theorem TakesAll.perm (h : job.TakesAll reports) (hperm : reports'.Perm reports) :
    job.TakesAll reports' :=
  ⟨fun report hreport => h.each report (hperm.subset hreport), h.agree.perm hperm⟩

/-- What a report leaves to another one: its instance takes no other network any more. -/
theorem takes_after_iff (h : applyReport name reporter job report = .ok (outcome, next))
    (hnetwork : report.network.isEmpty = false) (other : InstanceReport) : next.Takes other ↔
      job.Takes other ∧ (other.number = report.number → other.network = report.network) := by
  obtain ⟨⟨k, hk, hold⟩, ⟨i, hi, hnew⟩, -, hsame⟩ := applyReport_cases h
  by_cases hn : other.number = report.number
  · rw [Takes, Takes, hn, hi, hk]
    constructor
    · rintro ⟨j, hj, htaken⟩
      obtain rfl := Option.some.inj hj
      have hagree : other.network = report.network := by
        rcases htaken with hempty | heq
        · rw [hnew, hnetwork] at hempty
          cases hempty
        · exact heq.symm.trans hnew
      exact ⟨⟨k, rfl, hagree ▸ hold⟩, fun _ => hagree⟩
    · rintro ⟨-, hagree⟩
      exact ⟨i, rfl, .inr (hnew.trans (hagree rfl).symm)⟩
  · rw [Takes.congr (hsame _ (.inl hn))]
    exact ⟨fun htaken => ⟨htaken, fun heq => absurd heq hn⟩, And.left⟩

/-- Reports are taken if the first one is, and what it leaves takes the others. -/
theorem takesAll_cons_iff {rest : List InstanceReport}
    (h : applyReport name reporter job report = .ok (outcome, next))
    (hnetwork : report.network.isEmpty = false) :
    job.TakesAll (report :: rest) ↔ next.TakesAll rest := by
  have htaken := (applyReport_cases h).1
  constructor
  · rintro ⟨heach, hagree⟩
    refine ⟨fun other hother => (takes_after_iff h hnetwork other).2 ⟨?_, ?_⟩, fun one hone => ?_⟩
    · exact heach other (List.mem_cons_of_mem _ hother)
    · exact hagree other (List.mem_cons_of_mem _ hother) report List.mem_cons_self
    · exact fun other hother =>
        hagree one (List.mem_cons_of_mem _ hone) other (List.mem_cons_of_mem _ hother)
  · rintro ⟨heach, hagree⟩
    have hother := fun other hother => (takes_after_iff h hnetwork other).1 (heach other hother)
    refine ⟨List.forall_mem_cons.2 ⟨htaken, fun other h => (hother other h).1⟩, ?_⟩
    refine List.forall_mem_cons.2 ⟨List.forall_mem_cons.2 ⟨fun _ => rfl, ?_⟩, fun one hone => ?_⟩
    · exact fun other h hn => ((hother other h).2 hn.symm).symm
    · exact List.forall_mem_cons.2 ⟨(hother one hone).2, hagree one hone⟩

/-- **Acceptance.** Reports are accepted if and only if they are taken. -/
theorem applyReports_ok_iff_takesAll
    (hnetworks : ∀ report ∈ reports, report.network.isEmpty = false) :
    (∃ outcomes job', applyReports name reporter reports job = .ok (outcomes, job')) ↔
      job.TakesAll reports := by
  induction reports generalizing job with
  | nil => exact ⟨fun _ => ⟨nofun, nofun⟩, fun _ => ⟨[], job, rfl⟩⟩
  | cons first rest ih =>
    obtain ⟨hnetwork, hothers⟩ := List.forall_mem_cons.1 hnetworks
    constructor
    · rintro ⟨outcomes, job', h⟩
      obtain ⟨outcome, next, others, hone, hrest, -⟩ := applyReports_cons.1 h
      exact (takesAll_cons_iff hone hnetwork).2 ((ih hothers).1 ⟨others, job', hrest⟩)
    · intro hall
      obtain ⟨outcome, next, hone⟩ : ∃ outcome next,
          applyReport name reporter job first = .ok (outcome, next) :=
        (hall.each first List.mem_cons_self).applyReport
      obtain ⟨others, job', hrest⟩ := (ih hothers).2 ((takesAll_cons_iff hone hnetwork).1 hall)
      exact ⟨_, job', applyReports_cons.2 ⟨outcome, next, others, hone, hrest, rfl⟩⟩

/-- Reports about different instances are accepted if each of them is taken. -/
theorem applyReports_ok_iff (hnodup : (reports.map (·.number)).Nodup)
    (hnetworks : ∀ report ∈ reports, report.network.isEmpty = false) :
    (∃ outcomes job', applyReports name reporter reports job = .ok (outcomes, job')) ↔
      ∀ report ∈ reports, job.Takes report := by
  have hagree : Agree reports := fun one hone other hother hn =>
    congrArg InstanceReport.network (List.inj_on_of_nodup_map hnodup hone hother hn)
  rw [applyReports_ok_iff_takesAll hnetworks]
  exact ⟨TakesAll.each, fun heach => ⟨heach, hagree⟩⟩

/-! ## What a worker's instances report -/

section

variable {worker : String}

/-- A report lists the configured instances of the worker. -/
theorem mem_reportOf {r : InstanceReport} : r ∈ (job.reportOf worker).instances ↔
    ∃ x ∈ job.instances, x.worker = some worker ∧ x.isConfigured = true ∧
      r = ⟨x.number, x.network⟩ := by
  simp only [reportOf, List.mem_map, List.mem_filter, Bool.and_eq_true, beq_iff_eq, and_assoc]
  simp only [eq_comm (a := r)]

/-- What is taken of a report, once the network of one more instance is part of it. -/
theorem Distinct.takes_reportOf_upsert (h : job.Distinct) {known : Job} (hworker : i.worker = some worker)
    (hconfigured : i.isConfigured = true) (htaken : known.Takes ⟨i.number, i.network⟩) :
    (∀ r ∈ ((job.upsert i).reportOf worker).instances, known.Takes r) ↔
      ∀ x ∈ job.instances, x.number ≠ i.number → x.worker = some worker → x.isConfigured = true →
        known.Takes ⟨x.number, x.network⟩ := by
  constructor
  · intro hall x hx hn hw hc
    exact hall _ (mem_reportOf.2 ⟨x, h.mem_upsert.2 (.inr ⟨hx, hn⟩), hw, hc, rfl⟩)
  · intro hall r hr
    obtain ⟨x, hx, hw, hc, rfl⟩ := mem_reportOf.1 hr
    rcases h.mem_upsert.1 hx with rfl | ⟨hx, hn⟩
    · exact htaken
    · exact hall x hx hn hw hc

/-- Their networks are not empty. -/
theorem isEmpty_of_mem_reportOf {r : InstanceReport} (h : r ∈ (job.reportOf worker).instances) :
    r.network.isEmpty = false := by
  obtain ⟨x, -, -, hconfigured, rfl⟩ := mem_reportOf.1 h
  simpa [Instance.isConfigured] using hconfigured

/-- Each of them is listed once. -/
theorem Distinct.nodup_reportOf (h : job.Distinct) (worker : String) :
    ((job.reportOf worker).instances.map (·.number)).Nodup := by
  rw [reportOf, List.map_map]
  exact h.sublist (List.filter_sublist.map _)

end

end Job

end Overlay
