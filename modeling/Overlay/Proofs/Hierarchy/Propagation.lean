import Overlay.Proofs.Hierarchy.Announcements

/-!
# Changes come down

What a root does about an instance reaches the workers that rely on the job, through two sets of
interested parties: those of the root, which are clusters, and those of the clusters, which are
workers. When an instance is undeployed, every cluster where somebody is interested drops it and
tells each of its interested workers once (`Hierarchy.Farewell`). When networks are recorded, every
such cluster takes the instances over as the root has them, and tells each of its interested workers
once for each of them (`Hierarchy.Arrival`). Nobody else is told anything.

By `Hierarchy.propagates` this holds in every state in which a root is called: between the steps of
a run, and in the middle of one, when the report of a worker climbs.
-/

namespace Overlay

namespace Registry

variable {r : Registry} {known : Job}

/-- Somebody is interested in the job of another tier, and every instance is stored here as it is
there, but for the worker that hosts it. -/
structure Current (r : Registry) (known : Job) : Prop where
  interested : (r.parties known.name).isEmpty = false
  instances : ∃ job, r.job? known.name = some job ∧
    ∀ x ∈ known.instances, ∃ worker, job.instance? x.number = some { x with worker }

/-- A tier that takes a job over is up to date. -/
theorem current_refreshed (hd : known.Distinct)
    (hsome : (r.parties known.name).isEmpty = false) : (r.refreshed known).Current known := by
  refine ⟨(parties_refreshed known).symm ▸ hsome, ?_⟩
  obtain ⟨job, hjob, -⟩ := job?_of_parties hsome
  have hname : known.withoutParties.name = known.name := rfl
  have hmerged : (r.mergeJob known.withoutParties).2.job? known.name =
      some (merged (some job) known.withoutParties) := by
    rw [mergeJob, hname, hjob]
    exact Table.get?_insert_self ..
  rw [refreshed, if_neg (by rw [hsome]; exact Bool.false_ne_true)]
  refine ⟨_, hmerged, fun x hx => ?_⟩
  exact ⟨_, instance?_merged hd hx⟩

/-- One that takes it over at least once is up to date in the end. -/
theorem current_foldl_refreshed (hd : known.Distinct)
    (hsome : (r.parties known.name).isEmpty = false) {numbers : List UInt32}
    (hne : numbers ≠ []) : (numbers.foldl (fun r _ => r.refreshed known) r).Current known := by
  have hstays : ∀ (numbers : List UInt32) (r : Registry), r.Current known →
      (numbers.foldl (fun r _ => r.refreshed known) r).Current known := by
    intro numbers
    induction numbers with
    | nil => exact fun _ hr => hr
    | cons _ rest ih => exact fun r hr => ih _ (current_refreshed hd hr.interested)
  cases numbers with
  | nil => exact absurd rfl hne
  | cons _ rest => exact hstays rest _ (current_refreshed hd hsome)

end Registry

namespace Hierarchy

variable {n : Nat} {ids : Fin n ↪ String} {w w' : World n}

/-- The states in which a root is called: between the steps of a run, or in the middle of one, when a
cluster has taken the report of a worker and passes it on (`Tier.reportNetwork_eq`). -/
inductive Reached (ids : Fin n ↪ String) : World n → Prop
  | between (steps : List (Step n)) : Reached ids (after ids steps)
  | reporting {steps : List (Step n)} {i : Fin n} {selector : Selector} {number : UInt32}
      {network : Network} {client : String} {taken : ReportOutcome × DeployReport} {w : World n} :
      (directCluster ids i).takeReport selector number network client (after ids steps) =
        (.ok taken, w) → Reached ids w

theorem Reached.linked (h : Reached ids w) : Linked ids w := by
  cases h with
  | between steps => exact linked_after ids steps
  | @reporting steps i selector number network client taken _ htaken =>
    have hkeeps : KeepsCoherent ids (fun _ _ _ => True) (callBack ids) := callBack_coherent
    have hupholds := upholds_coherent hkeeps i
    exact (hupholds.steady.takeReport selector number network client).of_ok (linked_after ids steps) htaken

/-! ## Undeployment -/

/-- An instance was undeployed, and whoever relies on the job knows. The parties of a registry are
listed without repetition (`NameSet.nodup_toList`). -/
structure Farewell (jobName : String) (number : UInt32) (w w' : World n) : Prop where
  /-- The root has removed the instance. -/
  root : ∃ known, w.root.job? jobName = some known ∧
    w'.root.job? jobName = some (known.remove number) ∧
    (known.remove number).instance? number = none
  /-- Every cluster where somebody is interested has removed it. -/
  cached : ∀ (i : Fin n) job, w.clusters[i].job? jobName = some job → job.parties.isEmpty = false →
    w'.clusters[i].job? jobName = some (job.remove number) ∧
      (job.remove number).instance? number = none
  /-- Every interested worker was told once, and nobody else was told anything. -/
  sent : ∀ i : Fin n, w'.sent i = w.sent i ++
    (w.clusters[i].parties jobName).map (notice ⟨jobName, number, .undeployment⟩)

/-- **Undeployment.** Where caches are linked, the farewells of the root reach all who rely on the
job. -/
theorem undeployInstance_farewell (h : Linked ids w) {systemId : String} {number : UInt32}
    {u : Undeployment} (hok : (directRoot ids).undeployInstance systemId number w = (.ok u, w')) :
    ∃ job, w.root.jobBySystemId? systemId = some job ∧ Farewell job.name number w w' := by
  obtain ⟨lost, hb⟩ := h.sound.books
  obtain ⟨job, i, root, hfound, hwithdrawn, hw'⟩ :=
    (Tier.undeployInstance_root (t := directRoot ids) rfl hb systemId number).of_ok rfl hok
  have hjob : w.root.job? job.name = some job := hwithdrawn.job.1
  have hj : root.jobs = w.root.jobs.insert job.name (job.remove number) := hwithdrawn.job.2
  have hstep : RootStep w.root lost (.undeployInstance systemId number) (.ok u)
      (Tier.farewells w.root job.name number) root := .withdrawn hfound hwithdrawn
  obtain ⟨hsound, hclusters⟩ := h.sound.step hb hstep fun _ _ => trivial
  have hlinked := h.retain hsound (hstep.retains hb nofun) hclusters
  have hknown : root.job? job.name = some (job.remove number) := by
    rw [Registry.job?, hj, Table.get?_insert_self]
  -- the parties of the job are the same once the instance is removed
  have hannounced : w' = (directRoot ids).announce ⟨job.name, number, .undeployment⟩
      { w with root } := by
    rw [hw', Tier.announce, Tier.announcements]
    refine congrArg ((directRoot ids).tell · _) ?_
    exact congrArg (List.map _) (Registry.parties_replace hjob hj rfl).symm
  have ha := announce_spec (relays_undeployment ids (job.remove number) number)
    (hlinked.listed hknown)
  subst hannounced
  refine ⟨job, hfound, ?_, fun i cached hcached hsome => ?_, fun i => ?_⟩
  · refine ⟨job, hjob, ?_, (h.sound.distinct _ job hjob).instance?_remove number⟩
    exact (Registry.job?_congr ha.jobs _).trans hknown
  · refine ⟨?_, (h.cached i _ cached hcached).distinct.instance?_remove number⟩
    have hheard := (ha.clusters i).trans (Registry.heard_of_parties hcached hsome)
    exact (congrArg (·.job? job.name) hheard).trans (Table.get?_insert_self ..)
  · exact (ha.sent i).trans (congrArg _ (List.flatMap_singleton ..))

/-! ## Reports -/

/-- Networks of instances were recorded, and whoever relies on the job knows. -/
structure Arrival (jobName : String) (numbers : List UInt32) (w w' : World n) : Prop where
  /-- Every number is listed once. -/
  nodup : numbers.Nodup
  /-- The instances are those that the root has newly configured. -/
  configured : ∃ known known', w.root.job? jobName = some known ∧
    w'.root.job? jobName = some known' ∧ ∀ number, number ∈ numbers ↔
      known.configured number = false ∧ known'.configured number = true
  /-- Every cluster where somebody is interested has them as the root has them, but for the
  worker. -/
  cached : ∀ i : Fin n, (w.clusters[i].parties jobName).isEmpty = false → ∀ number ∈ numbers,
    ∃ known' job' x worker, w'.root.job? jobName = some known' ∧
      w'.clusters[i].job? jobName = some job' ∧ known'.instance? number = some x ∧
      job'.instance? number = some { x with worker }
  /-- Every interested worker was told of each of them once, and nobody else was told anything. -/
  sent : ∀ i : Fin n, w'.sent i = w.sent i ++ numbers.flatMap fun number =>
    (w.clusters[i].parties jobName).map (notice ⟨jobName, number, .deployment⟩)

/-- **Reports.** Where caches are linked, what the root announces reaches all who rely on the job. -/
theorem applyDeployReport_arrival (h : Linked ids w) {report : DeployReport}
    {changed : List UInt32}
    (hok : (directRoot ids).applyDeployReport report w = (.ok changed, w')) :
    ∃ job, w.root.jobBySystemId? report.systemId = some job ∧ Arrival job.name changed w w' := by
  obtain ⟨lost, hb⟩ := h.sound.books
  obtain ⟨job, outcomes, root, hfound, hrecorded, rfl, hw'⟩ :=
    (Tier.applyDeployReport_announces (t := directRoot ids) report w).of_ok rfl hok
  have hstep : RootStep w.root lost (.applyDeployReport report) (.ok (Job.changed outcomes)) []
      root := .reported hrecorded.restored nofun
  obtain ⟨hsound, hclusters⟩ := h.sound.step hb hstep fun _ _ => trivial
  have hlinked := h.retain hsound (hstep.retains hb nofun) hclusters
  refine ⟨job, hfound, ?_⟩
  obtain ⟨known, known', hjob, hnetworks, happlied, hj⟩ : ∃ known known',
      w.root.job? job.name = some known ∧
      (∀ r ∈ report.instances, r.network.isEmpty = false) ∧
      Job.applyReports job.name none report.instances known = .ok (outcomes, known') ∧
      root.jobs = w.root.jobs.insert job.name known' := by
    obtain ⟨hjob, hnetworks, happlied⟩ := hrecorded
    exact ⟨_, _, hjob, hnetworks, happlied, rfl⟩
  have hknown' : root.job? job.name = some known' := by
    rw [Registry.job?, hj, Table.get?_insert_self]
  obtain ⟨lost', hb'⟩ := hsound.books
  have hname : known'.name = job.name := hb'.named _ _ hknown'
  have ha := announceAll_spec (hlinked.listed hknown') (Job.changed outcomes)
  rw [hname] at ha
  have hannounced : w' = (directRoot ids).announceAll job.name (Job.changed outcomes)
      { w with root } := hw'
  subst hannounced
  have hroot := (Registry.job?_congr ha.jobs job.name).trans hknown'
  obtain ⟨hnodup, hmem⟩ := Job.mem_changed_iff happlied hnetworks
  refine ⟨hnodup, ⟨known, known', hjob, hroot, hmem⟩, fun i hsome number hnumber => ?_,
    fun i => ?_⟩
  · obtain ⟨x, hx, -⟩ := (Option.any_eq_true _ _).1 ((hmem number).1 hnumber).2
    obtain ⟨hx', rfl⟩ := Job.mem_of_instance? hx
    have hcurrent := Registry.current_foldl_refreshed (hsound.distinct _ _ hknown')
      (hname ▸ hsome) (List.ne_nil_of_mem hnumber)
    obtain ⟨job', hjob', hinstances⟩ := hcurrent.instances
    obtain ⟨worker, hworker⟩ := hinstances x hx'
    refine ⟨known', job', x, worker, hroot, ?_, hx, hworker⟩
    rw [hname] at hjob'
    exact (congrArg (·.job? job.name) (ha.clusters i)).trans hjob'
  · exact (ha.sent i).trans (congrArg _ (List.flatMap_map ..))

/-! ## Every state -/

/-- **Propagation.** In every state in which the root is called, a successful undeployment reaches
all who rely on the job, and so do the networks that a report makes the root record. -/
theorem propagates (h : Reached ids w) :
    (∀ systemId number u,
      ((directRoot ids).perform (.undeployInstance systemId number) w).1 = .ok u →
        ∃ job, w.root.jobBySystemId? systemId = some job ∧ Farewell job.name number w
          ((directRoot ids).perform (.undeployInstance systemId number) w).2) ∧
    (∀ report changed,
      ((directRoot ids).perform (.applyDeployReport report) w).1 = .ok changed →
        ∃ job, w.root.jobBySystemId? report.systemId = some job ∧ Arrival job.name changed w
          ((directRoot ids).perform (.applyDeployReport report) w).2) :=
  ⟨fun _ _ _ hok => undeployInstance_farewell h.linked (Prod.ext hok rfl),
    fun _ _ hok => applyDeployReport_arrival h.linked (Prod.ext hok rfl)⟩

/-- One of two instances goes, or the network of the other one is reported. -/
theorem propagates_askedFor :
    (∃ job, (after alone askedFor).root.jobBySystemId? "J" = some job ∧
      Farewell job.name 0 (after alone askedFor)
        ((directRoot alone).perform (.undeployInstance "J" 0) (after alone askedFor)).2) ∧
    (∃ job, (after alone askedFor).root.jobBySystemId? "J" = some job ∧
      Arrival job.name [1] (after alone askedFor)
        ((directRoot alone).perform (.applyDeployReport
          ⟨"J", [⟨1, ⟨⟨some "10.18.0.2", none⟩, none, none⟩⟩]⟩) (after alone askedFor)).2) := by
  have h := propagates (Reached.between askedFor : Reached alone (after alone askedFor))
  constructor
  · have hok : ((directRoot alone).perform (.undeployInstance "J" 0)
        (after alone askedFor)).1.isOk = true := by
      decide +kernel
    cases hresult : ((directRoot alone).perform (.undeployInstance "J" 0)
        (after alone askedFor)).1 with
    | ok u => exact h.1 "J" 0 u hresult
    | error e =>
      rw [hresult] at hok
      cases hok
  · have hok : ((directRoot alone).perform (.applyDeployReport
        ⟨"J", [⟨1, ⟨⟨some "10.18.0.2", none⟩, none, none⟩⟩]⟩)
        (after alone askedFor)).1.toOption = some [1] := by
      decide +kernel
    cases hresult : ((directRoot alone).perform (.applyDeployReport
        ⟨"J", [⟨1, ⟨⟨some "10.18.0.2", none⟩, none, none⟩⟩]⟩) (after alone askedFor)).1 with
    | ok changed =>
      rw [hresult] at hok
      obtain rfl : changed = [1] := Option.some.inj hok
      exact h.2 _ _ hresult
    | error e =>
      rw [hresult] at hok
      cases hok

end Hierarchy

end Overlay
