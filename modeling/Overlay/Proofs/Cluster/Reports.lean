import Overlay.Proofs.Cluster.Copies

/-!
# Reports and what others hear of them

A report that is refused is not heard of: nothing has happened, except that a cluster that did not
have the job has asked its parent for it and keeps the copy (`Surroundings.reportNetwork_refused`).

A report that is accepted goes up to the parent. But the cluster does not pass on what the worker
has said: it tells the parent of the instances that its record ascribes to the worker. A worker that
only confirms a network is not noted in the record. So what it has said is missing from what the
parent is told, unless the record names the worker already (`ClusterTier.forwards_iff`).
-/

namespace Overlay

/-- The report that a call to the parent passes on. -/
def ParentCall.report? : ParentCall → Option DeployReport
  | .reportDeployment report => some report
  | _ => none

namespace Surroundings

variable {ε : Type} (S : Surroundings ε)

/-- The place of a tier in the surroundings: that of a cluster, or that of a root, which does not
have a parent. -/
def role : Option String → Role (Observed ε)
  | some id => .cluster id S.parent
  | none => .root

/-- A tier in the surroundings. -/
def tierAt (cluster : Option String) : Tier (Observed ε) :=
  ⟨S.role cluster, Observed.site,
    fun recipient message => (S.deliver recipient message).zoom Observed.surroundings⟩

theorem tierAt_discreet (cluster : Option String) : (S.tierAt cluster).Discreet :=
  fun _ _ _ => .refl _

variable {S}

/-- **Refusals.** A report that is refused has changed nothing, and nobody has heard of it. All that
may have happened is that a cluster has asked its parent for a job that it did not have, and has
kept the copy. -/
theorem reportNetwork_refused {cluster : Option String} {s s' : Observed ε} {selector : Selector}
    {number : UInt32} {network : Network} {reporter : String} {e : TierError}
    (h : (S.tierAt cluster).reportNetwork selector number network reporter s = (.error e, s')) :
    s' = s ∨ cluster.isSome = true ∧ s.registry.select selector = none ∧
      s' = S.asking selector s := by
  have hnot : ¬∃ job known new outcome, (S.tierAt cluster).Enters s selector reporter
      ⟨number, network⟩ job known new outcome := by
    rintro ⟨job, known, new, outcome, henters⟩
    have hrun := Tier.reportNetwork_of_enters (S.tierAt_discreet cluster) henters
    rw [h] at hrun
    cases hrun
  obtain ⟨e', hrefused⟩ := Tier.reportNetwork_of_not_enters hnot
  have hs' : s' = ((S.tierAt cluster).locate selector s).2 :=
    congrArg Prod.snd (h.symm.trans hrefused)
  cases hselect : s.registry.select selector with
  | some job =>
    have hlocate := Tier.locate_of_select (t := S.tierAt cluster) hselect
    rw [hlocate] at hs'
    exact .inl hs'
  | none =>
    cases cluster with
    | none =>
      have hlook : ((S.tierAt none).look fun r => r.select selector :
          Action (Observed ε) TierError (Option Job)) s = (.ok none, s) :=
        Prod.ext (congrArg Except.ok hselect) rfl
      rw [Tier.locate, Action.bind_of_ok hlook] at hs'
      exact .inl hs'
    | some id => exact .inr ⟨rfl, rfl, hs'.trans (ClusterTier.locate_of_missing hselect id)⟩

/-- The network of an instance with an address in its namespace. -/
def namespaced (text : String) : Network :=
  ⟨⟨some text, none⟩, none, none⟩

/-- A job whose only instance has a network. The parent does not know who hosts it. -/
def settled : Job :=
  (ClusterTier.single.setNetwork 0 (namespaced "10.18.0.2")).getD ClusterTier.single

/-- A worker reports another network than the one that the parent sends. -/
def contradicted : Except TierError ReportOutcome × Observed Unit :=
  ((ClusterTier.knowing settled).tierAt (some "c1")).reportNetwork (.name "a.n.s.n") 0
    (namespaced "10.18.0.9") "w1" ⟨∅, [], ()⟩

/-- The cluster has asked for the job, and nothing else has happened. -/
theorem reportNetwork_refused_contradicted :
    contradicted = (.error (.conflictingReport "a.n.s.n" 0), contradicted.2) ∧
      contradicted.2 = (ClusterTier.knowing settled).asking (.name "a.n.s.n") ⟨∅, [], ()⟩ := by
  have hrun : contradicted = (.error (.conflictingReport "a.n.s.n" 0), contradicted.2) :=
    Prod.ext (by decide +kernel) rfl
  have hasked : contradicted.2.asked ≠ [] := by decide +kernel
  refine ⟨hrun, ?_⟩
  rcases reportNetwork_refused hrun with hsame | ⟨-, -, hasking⟩
  · exact absurd (congrArg Observed.asked hsame) hasked
  · exact hasking

/-- The copy stays in the registry. -/
theorem refusal_leaves_copy : ¬ ∀ (S : Surroundings Unit) (cluster : Option String)
    (s s' : Observed Unit) (selector : Selector) (number : UInt32) (network : Network)
    (reporter : String) (e : TierError),
    (S.tierAt cluster).reportNetwork selector number network reporter s = (.error e, s') →
      s'.registry = s.registry := by
  intro hall
  have hregistry := hall (ClusterTier.knowing settled) (some "c1") ⟨∅, [], ()⟩ contradicted.2
    (.name "a.n.s.n") 0 (namespaced "10.18.0.9") "w1" (.conflictingReport "a.n.s.n" 0)
    (Prod.ext (by decide +kernel) rfl)
  have hcopy : (contradicted.2.registry.job? "a.n.s.n").isSome = true := by decide +kernel
  rw [hregistry] at hcopy
  cases hcopy

end Surroundings

namespace ClusterTier

variable {ε : Type} {S : Surroundings ε} {id : String} {s : Observed ε} {selector : Selector}
  {number : UInt32} {network : Network} {reporter : String} {job known new : Job}
  {outcome : ReportOutcome}

/-! ## What the parent hears -/

/-- A report that is accepted is passed on: the parent gets one report, and it contains what the
worker has said. -/
def Forwards (S : Surroundings ε) (id : String) (s : Observed ε) (selector : Selector)
    (number : UInt32) (network : Network) (reporter : String) : Prop :=
  ∀ outcome s',
    (S.tier id).reportNetwork selector number network reporter s = (.ok outcome, s') →
    ∃ calls report, s'.asked = s.asked ++ calls ∧
      calls.filterMap ParentCall.report? = [report] ∧ ⟨number, network⟩ ∈ report.instances

/-- The worker says what the record has already, and the record ascribes it to somebody else or to
nobody. -/
def Disowns (S : Surroundings ε) (id : String) (s : Observed ε) (selector : Selector)
    (number : UInt32) (network : Network) (reporter : String) : Prop :=
  ∃ job known i, ((S.tier id).locate selector s).1 = .ok job ∧
    (s.registry.withCopy (S.missing? s selector)).job? job.name = some known ∧
    known.instance? number = some i ∧ i.network = network ∧ network.isEmpty = false ∧
    ∀ x ∈ known.instances, x.number = number → x.network = network → x.worker ≠ some reporter

/-- What a cluster reports once it has stored the record. -/
theorem mem_reportOf_of_enters
    (h : (S.tier id).Enters s selector reporter ⟨number, network⟩ job known new outcome) :
    ⟨number, network⟩ ∈ (new.reportOf reporter).instances ↔ outcome = .applied ∨
      ∃ x ∈ known.instances, x.number = number ∧ x.network = network ∧
        x.worker = some reporter := by
  have hconfigured : ∀ x : Instance, x.network = network → x.isConfigured = true := by
    rintro x rfl
    rw [Instance.isConfigured, h.network]
    rfl
  cases outcome with
  | applied =>
    obtain ⟨i, hi, -, rfl⟩ := Job.applyReport_applied_iff.1 h.applied
    refine iff_of_true (Job.mem_reportOf.2 ?_) (.inl rfl)
    have hstored := Job.instance?_upsert known
      { i with network, worker := (some reporter).or i.worker } i.number
    rw [if_pos rfl] at hstored
    have hn : i.number = number := (Job.mem_of_instance? hi).2
    exact ⟨_, (Job.mem_of_instance? hstored).1, rfl, hconfigured _ rfl, by rw [hn]⟩
  | unchanged =>
    obtain rfl := Job.applyReport_unchanged h.applied
    rw [Job.mem_reportOf, or_iff_right (by decide)]
    refine exists_congr fun x => and_congr_right fun _ => ?_
    constructor
    · rintro ⟨hworker, -, heq⟩
      obtain ⟨rfl, rfl⟩ := InstanceReport.mk.inj heq
      exact ⟨rfl, rfl, hworker⟩
    · rintro ⟨rfl, rfl, hworker⟩
      exact ⟨hworker, hconfigured x rfl, rfl⟩

/-- A look-up asks for a job at most. -/
theorem asked_locate (S : Surroundings ε) (id : String) (selector : Selector) (s : Observed ε) :
    ∃ calls, ((S.tier id).locate selector s).2.asked = s.asked ++ calls ∧
      calls.filterMap ParentCall.report? = [] := by
  cases hselect : s.registry.select selector with
  | some job =>
    rw [Tier.locate_of_select (t := S.tier id) hselect]
    exact ⟨[], (List.append_nil _).symm, rfl⟩
  | none =>
    rw [locate_of_missing hselect]
    exact ⟨[.fetchJob selector], rfl, rfl⟩

/-- A report that is accepted makes the cluster send one report to the parent. -/
theorem asked_of_enters
    (h : (S.tier id).Enters s selector reporter ⟨number, network⟩ job known new outcome) :
    ∃ calls s', (S.tier id).reportNetwork selector number network reporter s = (.ok outcome, s') ∧
      s'.asked = s.asked ++ calls ∧
      calls.filterMap ParentCall.report? = [new.reportOf reporter] := by
  have hrun := Tier.reportNetwork_of_enters (tier_discreet S id) h
  obtain ⟨calls, hcalls, hnone⟩ := asked_locate S id selector s
  refine ⟨calls ++ [.reportDeployment (new.reportOf reporter)], _, hrun, ?_, ?_⟩
  · have hpassed : ∀ s₁ : Observed ε, ((S.tier id).passed (new.reportOf reporter) s₁).asked =
        s₁.asked ++ [.reportDeployment (new.reportOf reporter)] := fun _ => rfl
    rw [hpassed, (entered_observed S id ..).2, hcalls, List.append_assoc]
  · rw [List.filterMap_append, hnone]
    rfl

theorem disowns_iff : Disowns S id s selector number network reporter ↔
    ∃ job known new outcome,
      (S.tier id).Enters s selector reporter ⟨number, network⟩ job known new outcome ∧
      ⟨number, network⟩ ∉ (new.reportOf reporter).instances := by
  constructor
  · rintro ⟨job, known, i, hlocated, hknown, hi, hsame, hnetwork, hother⟩
    have happlied : Job.applyReport job.name (some reporter) known ⟨number, network⟩ =
        .ok (.unchanged, known) := by
      have hconfigured : ¬i.network.isEmpty = true := by
        rw [hsame, hnetwork]
        exact Bool.false_ne_true
      simp only [Job.applyReport, hi, if_neg hconfigured, if_pos hsame]
    have henters : (S.tier id).Enters s selector reporter ⟨number, network⟩ job known known
        .unchanged := ⟨hlocated, by rw [site_locate, hknown], hnetwork, happlied⟩
    refine ⟨job, known, known, .unchanged, henters, fun hmem => ?_⟩
    obtain hnews | ⟨x, hx, hn, hnet, hworker⟩ := (mem_reportOf_of_enters henters).1 hmem
    · cases hnews
    · exact hother x hx hn hnet hworker
  · rintro ⟨job, known, new, outcome, henters, hmissing⟩
    rw [mem_reportOf_of_enters henters, not_or] at hmissing
    obtain ⟨hnews, hother⟩ := hmissing
    cases outcome with
    | applied => exact absurd rfl hnews
    | unchanged =>
      obtain ⟨-, ⟨i, hi, hsame⟩, -, -⟩ := Job.applyReport_cases henters.applied
      obtain rfl := Job.applyReport_unchanged henters.applied
      refine ⟨job, new, i, henters.located, ?_, hi, hsame, henters.network, ?_⟩
      · rw [← site_locate S id, henters.found]
      · exact fun x hx hn hnet hworker => hother ⟨x, hx, hn, hnet, hworker⟩

/-- **Forwarding.** What a worker reports is passed on when it is accepted, unless it only confirms
what the record has and does not ascribe to the worker. -/
theorem forwards_iff (S : Surroundings ε) (id : String) (s : Observed ε) (selector : Selector)
    (number : UInt32) (network : Network) (reporter : String) :
    Forwards S id s selector number network reporter ↔
      ¬Disowns S id s selector number network reporter := by
  rw [disowns_iff]
  constructor
  · rintro hforwards ⟨job, known, new, outcome, henters, hmissing⟩
    obtain ⟨sent, s', hrun, hsent, hreport⟩ := asked_of_enters henters
    obtain ⟨calls, report, hcalls, hone, hmem⟩ := hforwards outcome s' hrun
    obtain rfl := List.append_cancel_left (hcalls.symm.trans hsent)
    obtain rfl := List.singleton_inj.1 (hone.symm.trans hreport)
    exact hmissing hmem
  · intro hnot outcome s' hrun
    by_contra hmissing
    have henters : ∃ job known new outcome,
        (S.tier id).Enters s selector reporter ⟨number, network⟩ job known new outcome := by
      by_contra hrefused
      obtain ⟨e, herror⟩ := Tier.reportNetwork_of_not_enters hrefused
      rw [herror] at hrun
      cases hrun
    obtain ⟨job, known, new, outcome', henters⟩ := henters
    obtain ⟨sent, s₁, hrun', hsent, hreport⟩ := asked_of_enters henters
    obtain ⟨-, rfl⟩ := Prod.mk.inj (hrun'.symm.trans hrun)
    refine hnot ⟨job, known, new, outcome', henters, fun hmem => hmissing ?_⟩
    exact ⟨sent, new.reportOf reporter, hsent, hreport, hmem⟩

/-- A worker confirms the network that the parent sends. The parent gets a report without
instances. -/
theorem not_forwards_confirmed : ¬Forwards (knowing Surroundings.settled) "c1" ⟨∅, [], ()⟩
    (.name "a.n.s.n") 0 (Surroundings.namespaced "10.18.0.2") "w1" := by
  intro hforwards
  obtain ⟨calls, report, hcalls, hone, hmem⟩ := hforwards .unchanged _
    (Prod.ext (by decide +kernel) rfl)
  have hsent : calls = [.fetchJob (.name "a.n.s.n"), .reportDeployment ⟨"J", []⟩] :=
    hcalls.symm.trans (by decide +kernel)
  subst hsent
  obtain rfl : ⟨"J", []⟩ = report := List.singleton_inj.1 hone
  cases hmem

end ClusterTier

end Overlay
