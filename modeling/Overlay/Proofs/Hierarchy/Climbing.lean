import Overlay.Proofs.Hierarchy.Announcements
import Overlay.Proofs.Hierarchy.Networks

/-!
# Reports climb

A worker reports a network to its cluster, the cluster records it and passes on to the root what it
knows of all instances of this worker, and the root records all of it or nothing. The cluster looks
at what it has cached first; that the root refuses the report does not matter to it.

So a report that the root could use may get lost. By `Hierarchy.climbs_iff` this happens in three
cases: when the cluster has cached the job without the instance, or with a network that the root
does not have; when the root does not find the job under the identifier that the cluster has; and
when the root refuses something else that the cluster says of the worker's instances.
-/

namespace Overlay

open Overlay.Action (Triple)

/-! ## The network of an instance -/

namespace Registry

variable {r r' : Registry} {name : String} {number : UInt32} {network : Network}

/-- An instance without a network has not got the one that a report gives. -/
theorem network?_ne_of_isEmpty {known : Job} {x : Instance} (hknown : r.job? name = some known)
    (hx : known.instance? number = some x) (hempty : x.network.isEmpty = true)
    (hnetwork : network.isEmpty = false) : r.network? name number ≠ some network := by
  intro hsome
  rw [network?, hknown, Option.bind_some, hx, Option.map_some, Option.some_inj] at hsome
  rw [← hsome, hempty] at hnetwork
  cases hnetwork

/-- What was reported is there. -/
theorem Recorded.network? {reports : List InstanceReport} {reporter : Option String}
    {outcomes : List (UInt32 × ReportOutcome)} (h : Recorded r name reports reporter outcomes r')
    (hmem : ⟨number, network⟩ ∈ reports) : r'.network? name number = some network := by
  obtain ⟨-, hnetworks, happlied⟩ := h
  obtain ⟨x, hx, hnetwork⟩ := Job.network_applyReports happlied hnetworks _ hmem
  rw [Registry.network?, Registry.job?, Table.get?_insert_self, Option.bind_some, hx,
    Option.map_some, hnetwork]

end Registry

namespace Hierarchy

variable {n : Nat} {ids : Fin n ↪ String} {i : Fin n} {w : World n} {notify : Notifier (World n)}
  {name client : String} {number : UInt32} {network : Network} {seen known : Job}

/-! ## The cluster -/

/-- What a cluster goes by when a worker reports: what it has cached, or else what the root knows. -/
def World.seen? (w : World n) (i : Fin n) (name : String) : Option Job :=
  (w.clusters[i].job? name).or ((w.root.job? name).map (·.withoutParties))

/-- A job is seen under its own name, and its numbers are distinct. -/
theorem Linked.of_seen (h : Linked ids w) (hseen : w.seen? i name = some seen) :
    seen.name = name ∧ seen.Distinct := by
  rw [World.seen?] at hseen
  cases hcached : w.clusters[i].job? name with
  | some cached =>
    rw [hcached] at hseen
    obtain rfl := Option.some.inj hseen
    have hbacked := h.cached i name cached hcached
    exact ⟨hbacked.named, hbacked.distinct⟩
  | none =>
    rw [hcached, Option.none_or] at hseen
    obtain ⟨known, hknown, rfl⟩ := Option.map_eq_some_iff.1 hseen
    obtain ⟨lost, hb⟩ := h.sound.books
    exact ⟨hb.named name known hknown, h.sound.distinct name known hknown⟩

/-- **Locating.** A registered cluster finds what it sees and has it in its cache then. The root
learns at most that the cluster is interested. -/
theorem locate_spec (h : Linked ids w) (hregistered : (w.root.cluster? (ids i)).isSome = true)
    (hseen : w.seen? i name = some seen) :
    Triple (· = w) ((clusterBelow (rootTelling notify) (ids i) i).locate (.name name))
      (fun job w' => job = seen ∧ w'.clusters[i].job? name = some seen ∧
        w.root.SameBooks w'.root) (fun _ _ => False) := by
  refine Tier.look_bind ?_
  rw [clusterBelow_get, Registry.select, Tier.parent?_of_cluster rfl]
  rw [World.seen?] at hseen
  cases hcached : w.clusters[i].job? name with
  | some cached =>
    rw [hcached] at hseen
    obtain rfl := Option.some.inj hseen
    refine .pure fun _ hw => ?_
    subst hw
    exact ⟨rfl, hcached, .refl _⟩
  | none =>
    rw [hcached, Option.none_or] at hseen
    obtain ⟨known, hknown, rfl⟩ := Option.map_eq_some_iff.1 hseen
    obtain ⟨lost, hb⟩ := h.sound.books
    obtain rfl : known.name = name := hb.named name known hknown
    refine .bind (.mapError ((fetch_spec h.sound (.name known.name)).mono (fun _ _ hw => hw) ?_))
      fun found => .of_forall fun w' hw => ?_
    · intro _ w' hw
      rw [hw.2] at hregistered
      cases hregistered
    obtain ⟨-, root, rfl, hl⟩ := hw
    have hbooks := hl.sameBooks
    cases hl with
    | unknown hnone =>
      have hempty := hnone known hknown
      rw [(h.sound.identified known.name known hknown).1] at hempty
      cases hempty
    | found hselect _ =>
      obtain rfl := Option.some.inj (hknown.symm.trans hselect)
      refine Tier.record_spec fun w' hw => ?_
      subst hw
      have hmerged : w.clusters[i].mergeJob known.withoutParties = _ :=
        Registry.mergeJob_of_none hcached
      refine ⟨congrArg Prod.fst hmerged, ?_, hbooks⟩
      have hget := (clusterPart i).get_set (w.clusters[i].mergeJob known.withoutParties).2 w
      refine (congrArg (·.job? known.name) (hget.trans (congrArg Prod.snd hmerged))).trans ?_
      exact Table.get?_insert_self ..

/-- **The cluster's part.** The report is applied to what the cluster sees, and what is passed on is
what the worker's instances report then. -/
theorem takeReport_spec (h : Linked ids w) (hregistered : (w.root.cluster? (ids i)).isSome = true)
    (hseen : w.seen? i name = some seen) (hnetwork : network.isEmpty = false) :
    Triple (· = w)
      ((clusterBelow (rootTelling notify) (ids i) i).takeReport (.name name) number network client)
      (fun taken w' => w.root.SameBooks w'.root ∧ ∃ job,
        Job.applyReport name (some client) seen ⟨number, network⟩ = .ok (taken.1, job) ∧
        taken.2 = job.reportOf client)
      (fun _ _ => ∀ outcome job,
        Job.applyReport name (some client) seen ⟨number, network⟩ ≠ .ok (outcome, job)) := by
  obtain rfl : seen.name = name := (h.of_seen hseen).1
  refine .bind ((locate_spec h hregistered hseen).mono (fun _ _ hw => hw) fun _ _ => False.elim)
    fun located => .of_forall fun w₁ hw => ?_
  obtain ⟨rfl, hjob, hbooks⟩ := hw
  have happly := Triple.zoom_at (p := clusterPart i) (s := w₁)
    (Registry.applyReports_single hjob ⟨number, network⟩ hnetwork (some client))
  refine .bind (happly.mono (fun _ _ hw => hw) fun _ _ hw => hw.choose_spec.2)
    fun outcomes => .of_forall fun w₂ hw => ?_
  obtain ⟨r, rfl, outcome, job, happlied, rfl, hr⟩ := hw
  have hstored : ((clusterPart i).set r w₁).clusters[i].job? located.name = some job :=
    (congrArg (·.job? located.name) ((clusterPart i).get_set r w₁)).trans hr
  dsimp only [List.head?_cons, Option.map_some, Option.getD_some]
  split
  · -- what the cluster tells its workers is only published
    refine .bind (Tier.fanOut_spec ..) fun _ => .of_forall fun w₃ hw => ?_
    rw [Tier.announcements, tell_published] at hw
    subst hw
    exact Tier.passOn_spec hstored ⟨hbooks, job, happlied, rfl⟩
  · exact Tier.passOn_spec hstored ⟨hbooks, job, happlied, rfl⟩

/-! ## The root -/

/-- What is announced is recorded already. -/
theorem jobs_applyDeployReport (h : Linked ids w) {report : DeployReport} {jobName : String}
    {outcomes : List (UInt32 × ReportOutcome)} {root : Registry}
    (hrecorded : w.root.Recorded jobName report.instances none outcomes root)
    (numbers : List UInt32) :
    ((directRoot ids).announceAll jobName numbers { w with root }).root.jobs = root.jobs := by
  obtain ⟨lost, hb⟩ := h.sound.books
  have hstep : RootStep w.root lost (.applyDeployReport report) (.ok numbers) [] root :=
    .reported hrecorded.restored nofun
  obtain ⟨hsound, hclusters⟩ := h.sound.step hb hstep fun _ _ => trivial
  have hlinked := h.retain hsound (hstep.retains hb nofun) hclusters
  obtain ⟨known, hknown⟩ : ∃ known, root.job? jobName = some known := by
    obtain ⟨-, -, -⟩ := hrecorded
    exact ⟨_, Table.get?_insert_self ..⟩
  obtain ⟨lost', hb'⟩ := hsound.books
  obtain rfl : known.name = jobName := hb'.named jobName known hknown
  exact (announceAll_spec (hlinked.listed hknown) numbers).jobs

/-- **The root's part.** The root records the network of an instance that has none, if and only if it
finds the job under the identifier of the report and takes everything that the report says. -/
theorem applyDeployReport_records_iff (h : Linked ids w) {report : DeployReport} {x : Instance}
    (hknown : w.root.job? name = some known) (hx : known.instance? number = some x)
    (hempty : x.network.isEmpty = true) (hmem : ⟨number, network⟩ ∈ report.instances)
    (hnetworks : ∀ r ∈ report.instances, r.network.isEmpty = false)
    (hnodup : (report.instances.map (·.number)).Nodup) :
    ((directRoot ids).applyDeployReport report w).2.root.network? name number = some network ↔
      (w.root.jobBySystemId? report.systemId).map (·.name) = some name ∧
        ∀ r ∈ report.instances, known.Takes r := by
  have hunrecorded := Registry.network?_ne_of_isEmpty hknown hx hempty (hnetworks _ hmem)
  obtain ⟨lost, hb⟩ := h.sound.books
  have hspec := Tier.applyDeployReport_announces (t := directRoot ids) report w
  cases hrun : (directRoot ids).applyDeployReport report w with
  | mk result w' =>
  cases result with
  | ok changed =>
    obtain ⟨job, outcomes, root, hfound, hrecorded, -, hw'⟩ := hspec.of_ok rfl hrun
    have hfound' : w.root.jobBySystemId? report.systemId = some job := hfound
    have hjobs : w'.root.jobs = root.jobs := by
      rw [hw']
      exact jobs_applyDeployReport h hrecorded changed
    have hlast : w'.root.network? name number = root.network? name number :=
      Registry.network?_congr (Registry.job?_congr hjobs name)
    rw [hfound', Option.map_some, Option.some_inj, hlast]
    by_cases hname : job.name = name
    · subst hname
      refine iff_of_true (hrecorded.network? hmem) ⟨rfl, ?_⟩
      obtain ⟨hknown', -, happlied⟩ := hrecorded
      obtain rfl := Option.some.inj (hknown.symm.trans hknown')
      exact (Job.applyReports_ok_iff hnodup hnetworks).1 ⟨outcomes, _, happlied⟩
    · refine iff_of_false (fun hnew => ?_) fun hother => hname hother.1
      obtain ⟨-, -, -⟩ := hrecorded
      refine hunrecorded ((Registry.network?_congr ?_).symm.trans hnew)
      exact Table.get?_insert_of_ne w.root.jobs (Ne.symm hname) _
  | error e =>
    obtain ⟨rfl, hnot⟩ := hspec.of_error rfl hrun
    refine iff_of_false hunrecorded fun hclear => ?_
    obtain ⟨hidentified, htakes⟩ := hclear
    obtain ⟨job, hfound, rfl⟩ := Option.map_eq_some_iff.1 hidentified
    obtain ⟨outcomes, job', happlied⟩ := (Job.applyReports_ok_iff hnodup hnetworks).2 htakes
    have hid : report.systemId.isEmpty = false := by
      have hsystem : job.systemId = report.systemId := by
        have := List.find?_some hfound
        exact eq_of_beq this
      have hjob := hb.named.job?_of_mem (Registry.mem_of_jobBySystemId? hfound)
      exact hsystem ▸ (h.sound.identified _ job hjob).2
    exact hnot hid (List.ne_nil_of_mem hmem) job outcomes _ hfound
      (.intro hknown hnetworks happlied)

/-- What is passed on once a cluster has stored a report is recorded by a root that has the same
books as before, under the same conditions on what the cluster saw. -/
theorem passedOn_records_iff {w₁ : World n} {job : Job} {x : Instance} (h₁ : Linked ids w₁)
    (hbooks : w.root.SameBooks w₁.root) (hd : seen.Distinct)
    (hknown : w.root.job? name = some known) (hx : known.instance? number = some x)
    (hempty : x.network.isEmpty = true) (hnetwork : network.isEmpty = false)
    (happlied : Job.applyReport name (some client) seen ⟨number, network⟩ = .ok (.applied, job)) :
    ((directRoot ids).applyDeployReport (job.reportOf client) w₁).2.root.network? name number =
        some network ↔
      (w.root.jobBySystemId? seen.systemId).map (·.name) = some name ∧
        ∀ z ∈ seen.instances, z.number ≠ number → z.worker = some client →
          z.isConfigured = true → known.Takes ⟨z.number, z.network⟩ := by
  obtain ⟨stored, hworker, hconfigured, rfl, rfl, rfl⟩ : ∃ stored : Instance,
      stored.worker = some client ∧ stored.isConfigured = true ∧ stored.number = number ∧
      stored.network = network ∧ job = seen.upsert stored := by
    obtain ⟨y, hy, -, rfl⟩ := Job.applyReport_applied_iff.1 happlied
    refine ⟨{ y with network, worker := some client }, rfl, ?_, (Job.mem_of_instance? hy).2, rfl,
      rfl⟩
    rw [Instance.isConfigured, hnetwork, Bool.not_false]
  obtain ⟨known₁, hknown₁, hsame⟩ : ∃ known₁, w₁.root.job? name = some known₁ ∧
      known₁.instances = known.instances := by
    have hsame := hbooks.job? name
    rw [hknown, Option.map_some] at hsame
    obtain ⟨known₁, hknown₁, hsame⟩ := Option.map_eq_some_iff.1 hsame
    have hinstances : known₁.withoutParties.instances = known.withoutParties.instances :=
      congrArg Job.instances hsame
    exact ⟨known₁, hknown₁, hinstances⟩
  have hinstance : ∀ k, known₁.instance? k = known.instance? k := by
    intro k
    rw [Job.instance?, hsame, ← Job.instance?]
  have htakes : ∀ r : InstanceReport, known₁.Takes r ↔ known.Takes r :=
    fun r => Job.Takes.congr (hinstance r.number)
  have hid : (w₁.root.jobBySystemId? seen.systemId).map (·.name) =
      (w.root.jobBySystemId? seen.systemId).map (·.name) := by
    have hmap := congrArg (Option.map Job.name) (hbooks.jobBySystemId? seen.systemId)
    rw [Option.map_map, Option.map_map] at hmap
    exact hmap
  have hmem : ⟨stored.number, stored.network⟩ ∈
      ((seen.upsert stored).reportOf client).instances :=
    Job.mem_reportOf.2 ⟨stored, hd.mem_upsert.2 (.inl rfl), hworker, hconfigured, rfl⟩
  have hroot := applyDeployReport_records_iff h₁ hknown₁ ((hinstance _).trans hx) hempty hmem
    (fun _ hr => Job.isEmpty_of_mem_reportOf hr) ((hd.upsert stored).nodup_reportOf client)
  rw [hroot, hd.takes_reportOf_upsert hworker hconfigured
    ((htakes _).2 ⟨x, hx, .inl hempty⟩), ← hid]
  simp only [htakes]
  rfl

/-! ## Both -/

/-- A report has climbed: the cluster has accepted it as news, and the root has the network. -/
structure Climbed (ids : Fin n ↪ String) (i : Fin n) (client : String) (report : DeployedReport)
    (w : World n) : Prop where
  accepted : ((directCluster ids i).reportNetwork (.name report.jobName) report.number
    report.network client w).1 = .ok .applied
  recorded : ((Step.request i client (.deployed report)).run ids w).root.network? report.jobName
    report.number = some report.network

/-- What a cluster sees of a job is in the way of no report about an instance. -/
structure Clear (root : Registry) (seen known : Job) (client : String) (report : DeployedReport) :
    Prop where
  /-- The cluster sees the instance, and no network of it. -/
  pending : ∃ x, seen.instance? report.number = some x ∧ x.network.isEmpty = true
  /-- The identifier that the cluster sees is the one under which the root finds the job. -/
  identified : (root.jobBySystemId? seen.systemId).map (·.name) = some report.jobName
  /-- The root takes the networks that the cluster sees of the worker's other instances. -/
  others : ∀ x ∈ seen.instances, x.number ≠ report.number → x.worker = some client →
    x.isConfigured = true → known.Takes ⟨x.number, x.network⟩

/-- Passing a report on makes the root apply it. -/
theorem reportDeployment_apply (root : Tier (World n)) (id : String) (report : DeployReport)
    (w : World n) :
    (root.connection id (.reportDeployment report) w).2 = (root.applyDeployReport report w).2 := by
  simp only [Tier.connection, Tier.serve, Action.mapError_apply, Action.bind_apply]
  cases root.applyDeployReport report w with
  | mk result w' => cases result <;> rfl

/-- A cluster that has taken a report accepts it, whatever the root does about it. -/
theorem reportNetwork_of_taken {report : DeployedReport} {taken : ReportOutcome × DeployReport}
    {w₁ : World n} (hrun : (directCluster ids i).takeReport (.name report.jobName) report.number
      report.network client w = (.ok taken, w₁)) :
    (directCluster ids i).reportNetwork (.name report.jobName) report.number report.network client
      w = (.ok taken.1, ((directRoot ids).applyDeployReport taken.2 w₁).2) := by
  have hrole : (directCluster ids i).role = .cluster (ids i) ((directRoot ids).connection (ids i)) :=
    rfl
  rw [Tier.reportNetwork_eq hrole, Action.bind_apply, hrun, ← reportDeployment_apply _ (ids i)]
  simp only [Action.bind_apply, Action.attempt_apply, Action.pure_apply]

/-- **One report.** The cluster accepts it and the root records it, if and only if nothing is in the
way. -/
theorem reportNetwork_climbs_iff {report : DeployedReport} {x : Instance} (h : Linked ids w)
    (hnetwork : report.network.isEmpty = false)
    (hregistered : (w.root.cluster? (ids i)).isSome = true)
    (hseen : w.seen? i report.jobName = some seen)
    (hknown : w.root.job? report.jobName = some known)
    (hx : known.instance? report.number = some x) (hempty : x.network.isEmpty = true) :
    (((directCluster ids i).reportNetwork (.name report.jobName) report.number report.network
        client w).1 = .ok .applied ∧
      ((directCluster ids i).reportNetwork (.name report.jobName) report.number report.network
        client w).2.root.network? report.jobName report.number = some report.network) ↔
      Clear w.root seen known client report := by
  have hspec : Triple (· = w) ((directCluster ids i).takeReport (.name report.jobName)
      report.number report.network client) _ _ := takeReport_spec h hregistered hseen hnetwork
  have hkeeps : KeepsCoherent ids (fun _ _ _ => True) (callBack ids) := callBack_coherent
  have hlinked := (upholds_coherent hkeeps i).steady.takeReport (.name report.jobName) report.number
    report.network client
  cases hrun : (directCluster ids i).takeReport (.name report.jobName) report.number
      report.network client w with
  | mk result w₁ =>
  cases result with
  | error e =>
    have hrefused := hspec.of_error rfl hrun
    refine iff_of_false (fun hc => ?_) fun hc => ?_
    · have hrole : (directCluster ids i).role =
        .cluster (ids i) ((directRoot ids).connection (ids i)) := rfl
      rw [Tier.reportNetwork_eq hrole, Action.bind_apply, hrun] at hc
      cases hc.1
    · obtain ⟨y, hy, hnone⟩ := hc.pending
      exact hrefused _ _ (Job.applyReport_fresh hy hnone)
  | ok taken =>
    obtain ⟨hbooks, job, happlied, hreport⟩ := hspec.of_ok rfl hrun
    have h₁ := hlinked.of_ok h hrun
    rw [reportNetwork_of_taken hrun]
    obtain ⟨outcome, passed⟩ := taken
    dsimp only at happlied hreport ⊢
    subst hreport
    have hd := (h.of_seen hseen).2
    constructor
    · intro hc
      obtain rfl := Except.ok.inj hc.1
      obtain ⟨y, hy, hnone, -⟩ := Job.applyReport_applied_iff.1 happlied
      obtain ⟨hfound, hothers⟩ :=
        (passedOn_records_iff h₁ hbooks hd hknown hx hempty hnetwork happlied).1 hc.2
      exact ⟨⟨y, hy, hnone⟩, hfound, hothers⟩
    · intro hc
      obtain ⟨y, hy, hnone⟩ := hc.pending
      have hfresh := happlied.symm.trans (Job.applyReport_applied_iff.2 ⟨y, hy, hnone, rfl⟩)
      obtain ⟨rfl, -⟩ := Prod.mk.inj (Except.ok.inj hfresh)
      exact ⟨rfl, (passedOn_records_iff h₁ hbooks hd hknown hx hempty hnetwork happlied).2
        ⟨hc.identified, hc.others⟩⟩

/-- **Climbing.** While the root has no network of an instance, the report of a network climbs to it
if and only if nothing that the cluster sees of the job is in the way. -/
theorem climbs_iff (ids : Fin n ↪ String) (steps : List (Step n)) (i : Fin n) (client : String)
    (report : DeployedReport) (hclient : client.isEmpty = false)
    (hnetwork : report.network.isEmpty = false)
    (hregistered : ((after ids steps).root.cluster? (ids i)).isSome = true)
    (hpending : ((after ids steps).root.network? report.jobName report.number).any
      Network.isEmpty = true) :
    Climbed ids i client report (after ids steps) ↔
      ∃ seen known, (after ids steps).seen? i report.jobName = some seen ∧
        (after ids steps).root.job? report.jobName = some known ∧
        Clear (after ids steps).root seen known client report := by
  have h := linked_after ids steps
  generalize after ids steps = w at *
  obtain ⟨known, x, hknown, hx, hempty⟩ : ∃ known x, w.root.job? report.jobName = some known ∧
      known.instance? report.number = some x ∧ x.network.isEmpty = true := by
    obtain ⟨network, hfound, hempty⟩ := (Option.any_eq_true _ _).1 hpending
    obtain ⟨x, hx, rfl⟩ := Option.map_eq_some_iff.1 hfound
    obtain ⟨known, hknown, hx⟩ := Option.bind_eq_some_iff.1 hx
    exact ⟨known, x, hknown, hx, hempty⟩
  obtain ⟨seen, hseen⟩ : ∃ seen, w.seen? i report.jobName = some seen := by
    rw [World.seen?, hknown]
    cases w.clusters[i].job? report.jobName with
    | none => exact ⟨_, rfl⟩
    | some cached => exact ⟨cached, rfl⟩
  have hiff : _ ↔ Clear w.root seen known client report :=
    reportNetwork_climbs_iff h hnetwork hregistered hseen hknown hx hempty
  rw [← Tier.handle_deployed hclient] at hiff
  constructor
  · intro hc
    exact ⟨seen, known, hseen, hknown, hiff.1 ⟨hc.accepted, hc.recorded⟩⟩
  · intro hc
    obtain ⟨seen', known', hseen', hknown', hclear⟩ := hc
    obtain rfl := Option.some.inj (hseen.symm.trans hseen')
    obtain rfl := Option.some.inj (hknown.symm.trans hknown')
    obtain ⟨haccepted, hrecorded⟩ := hiff.2 hclear
    exact ⟨haccepted, hrecorded⟩

/-- A worker that has asked for a job reports the network of an instance. -/
theorem climbed_askedFor :
    Climbed alone 0 "w1" ⟨"a.n.s.n", 1, ⟨⟨some "10.18.0.2", none⟩, none, none⟩⟩
      (after alone askedFor) := by
  have hiff := climbs_iff alone askedFor 0 "w1"
    ⟨"a.n.s.n", 1, ⟨⟨some "10.18.0.2", none⟩, none, none⟩⟩ (by decide) (by decide)
    (by decide +kernel) (by decide +kernel)
  have hpending : (((after alone askedFor).seen? 0 "a.n.s.n").bind (·.instance? 1)).any
      (·.network.isEmpty) = true := by
    decide +kernel
  have hidentified : (((after alone askedFor).seen? 0 "a.n.s.n").bind fun seen =>
      (after alone askedFor).root.jobBySystemId? seen.systemId).map (·.name) =
        some "a.n.s.n" := by
    decide +kernel
  have hothers : ((after alone askedFor).seen? 0 "a.n.s.n").any
      (·.instances.any (·.isConfigured)) = false := by
    decide +kernel
  have hknown : ((after alone askedFor).root.job? "a.n.s.n").isSome = true := by
    decide +kernel
  obtain ⟨known, hknown⟩ := Option.isSome_iff_exists.1 hknown
  refine hiff.2 ?_
  cases hseen : (after alone askedFor).seen? 0 "a.n.s.n" with
  | none =>
    rw [hseen] at hpending
    cases hpending
  | some seen =>
    rw [hseen] at hpending hidentified hothers
    refine ⟨seen, known, rfl, hknown, (Option.any_eq_true _ _).1 hpending, hidentified, ?_⟩
    intro x hx _ _ hconfigured
    have hany : seen.instances.any (·.isConfigured) = true :=
      List.any_eq_true.2 ⟨x, hx, hconfigured⟩
    exact absurd (hany.symm.trans hothers) (by decide)

/-- The job gets one more instance after a worker has asked for it. -/
def grownSince : List (Step 1) :=
  .root (.addInstances "J" 1 "c1") rfl :: askedFor

/-- The cluster refuses a report about the new instance, which it has not cached. -/
theorem refused_grownSince :
    ((after alone grownSince).root.cluster? "c1").isSome = true ∧
      ((after alone grownSince).root.network? "a.n.s.n" 2).any Network.isEmpty = true ∧
      ¬Climbed alone 0 "w1" ⟨"a.n.s.n", 2, ⟨⟨some "10.18.0.2", none⟩, none, none⟩⟩
        (after alone grownSince) := by
  refine ⟨by decide +kernel, by decide +kernel, fun hc => ?_⟩
  have hrefused : ((directCluster alone 0).reportNetwork (.name "a.n.s.n") 2
      ⟨⟨some "10.18.0.2", none⟩, none, none⟩ "w1" (after alone grownSince)).1.isOk = false := by
    decide +kernel
  rw [hc.accepted] at hrefused
  cases hrefused

end Hierarchy

end Overlay
