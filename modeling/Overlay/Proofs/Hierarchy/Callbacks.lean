import Overlay.Proofs.Hierarchy.Requests

/-!
# Callbacks

The root tells a cluster of a change by calling it back. A cluster where nobody is interested in the
job ignores the call. Another one changes its registry and then tells each of its interested workers
once (`World.announcedAt`). When it is told of an undeployment, it removes the instance from what it
has cached (`Registry.heard`) and does not call the root. When it is told of a deployment, it fetches
the job again and takes it over (`Registry.refreshed`), and nothing becomes stale
(`Hierarchy.callBack_coherent`).
-/

namespace Overlay

open Overlay.Action (Triple)

namespace Registry

variable {r : Registry} {jobName : String} {number : UInt32}

/-- The registry of a tier that was told of an undeployment. Where nobody is interested, it stays as
it is. -/
def heard (r : Registry) (jobName : String) (number : UInt32) : Registry :=
  match r.job? jobName with
  | some job =>
    if job.parties.isEmpty then r
    else { r with jobs := r.jobs.insert jobName (job.remove number) }
  | none => r

/-- The registry of a tier that was told of a deployment and has fetched the job. Where nobody is
interested, it stays as it is. -/
def refreshed (r : Registry) (known : Job) : Registry :=
  if (r.parties known.name).isEmpty then r else (r.mergeJob known.withoutParties).2

/-- Parties are interested in jobs that are there. -/
theorem job?_of_parties (h : (r.parties jobName).isEmpty = false) :
    ∃ job, r.job? jobName = some job ∧ job.parties.isEmpty = false := by
  rw [parties] at h
  cases hjob : r.job? jobName with
  | none =>
    rw [hjob] at h
    cases h
  | some job =>
    rw [hjob] at h
    exact ⟨job, rfl, h⟩

/-- A job takes the place of one with the same interested parties. -/
theorem parties_replace {r' : Registry} {job new : Job} (hjob : r.job? jobName = some job)
    (hj : r'.jobs = r.jobs.insert jobName new) (hparties : new.parties = job.parties) :
    r'.parties jobName = r.parties jobName := by
  rw [parties, parties, hjob, job?, hj, Table.get?_insert_self]
  exact congrArg NameSet.toList hparties

theorem heard_of_isEmpty (h : (r.parties jobName).isEmpty = true) :
    r.heard jobName number = r := by
  rw [heard]
  split
  · next job hjob =>
    rw [parties, hjob] at h
    exact if_pos h
  · rfl

theorem heard_of_parties {job : Job} (hjob : r.job? jobName = some job)
    (h : job.parties.isEmpty = false) :
    r.heard jobName number = { r with jobs := r.jobs.insert jobName (job.remove number) } := by
  rw [heard, hjob]
  refine if_neg ?_
  rw [h]
  exact Bool.false_ne_true

theorem parties_heard (jobName : String) (number : UInt32) :
    (r.heard jobName number).parties jobName = r.parties jobName := by
  rw [heard]
  split
  · next job hjob =>
    split
    · rfl
    · exact parties_replace hjob rfl rfl
  · rfl

theorem parties_refreshed (known : Job) :
    (r.refreshed known).parties known.name = r.parties known.name := by
  rw [refreshed]
  split
  · rfl
  · next hsome =>
    rw [Bool.not_eq_true] at hsome
    obtain ⟨job, hjob, -⟩ := job?_of_parties hsome
    have hname : known.withoutParties.name = known.name := rfl
    rw [mergeJob, hname, hjob]
    exact parties_replace hjob rfl (parties_merged job known.withoutParties)

end Registry

namespace Hierarchy

variable {n : Nat} {ids : Fin n ↪ String} {i : Fin n} {w : World n} {notify : Notifier (World n)}
  {stale : Fin n → String → UInt32 × Addresses → Prop}

/-- Nobody is told of a look-up. -/
theorem silence_coherent : KeepsCoherent ids stale silence :=
  fun _ _ _ _ h => h

/-! ## A cluster that is called back -/

/-- **Deployments.** A registered cluster takes the job over again, and does not fail. -/
theorem applyUpdate_coherent {update : JobUpdate} (hchange : update.change = .deployment)
    (h : Coherent ids stale w) (hregistered : (w.root.cluster? (ids i)).isSome = true) :
    Triple (· = w) ((calledBack ids i).applyUpdate update)
      (fun _ => Coherent ids stale) (fun _ _ => False) := by
  have hsilence : KeepsCoherent ids stale silence := silence_coherent
  have hupholds := upholds_coherent hsilence i
  have hpass : Triple (Coherent ids stale) (do
      let _ ← (calledBack ids i).fanOut update
      return true : Action (World n) TierError Bool)
      (fun _ => Coherent ids stale) (fun _ _ => False) :=
    .bind (hupholds.steady.fanOut update) fun _ => .pure fun _ h => h
  simp only [Tier.applyUpdate, hchange]
  refine Tier.look_bind ?_
  split
  · exact .pure fun _ hw => hw ▸ h
  refine .bind (.mapError ((fetch_backed h (.name update.jobName)).mono (fun _ _ hw => hw) ?_)) ?_
  · rintro _ _ ⟨-, hnone⟩
    rw [hnone] at hregistered
    cases hregistered
  rintro (_ | job)
  · exact hpass.pre fun _ h => h.1
  · exact .bind (hupholds.steady.mergeRecord.pre fun _ h => ⟨h.1, h.2 job rfl⟩) fun _ => hpass

/-- What a worker is sent when it is told of a change. -/
def notice (update : JobUpdate) (worker : String) : Publication :=
  ⟨(ChildMessage.update update).topic worker, (ChildMessage.update update).payload⟩

/-- What a cluster has published, in order. -/
def World.sent (w : World n) (i : Fin n) : List Publication :=
  (w.published.filter (·.1 = i)).map (·.2)

/-- The hierarchy once a cluster has changed its registry and told all its workers that are
interested in the job. -/
def World.announcedAt (w : World n) (i : Fin n) (update : JobUpdate) (f : Registry → Registry) :
    World n :=
  { (clusterPart i).set (f w.clusters[i]) w with
    published := w.published ++
      (w.clusters[i].parties update.jobName).map fun worker => (i, notice update worker) }

/-- What a cluster tells its workers is published for them in turn. -/
theorem tell_published (root : Tier (World n)) (id : String) (i : Fin n) (update : JobUpdate)
    (workers : List String) (w : World n) :
    (clusterBelow root id i).tell (workers.map (·, .update update)) w =
      { w with published := w.published ++ workers.map fun worker => (i, notice update worker) } := by
  induction workers generalizing w with
  | nil => simp [Tier.tell]
  | cons worker rest ih =>
    rw [List.map_cons, Tier.tell, List.foldl_cons, ← Tier.tell, ih]
    simp [clusterBelow, publisher, notice]

section

variable {update : JobUpdate} {f : Registry → Registry}

/-- A cluster that has changed its registry, but not who is interested in the job, tells its
workers. -/
theorem fanOut_announcedAt {root : Tier (World n)} {id : String}
    (hparties : (f w.clusters[i]).parties update.jobName =
      w.clusters[i].parties update.jobName) :
    Triple (· = (clusterPart i).set (f w.clusters[i]) w) (do
      let _ ← (clusterBelow root id i).fanOut update
      return true : Action (World n) TierError Bool)
      (fun _ w' => w' = w.announcedAt i update f) (fun _ _ => False) := by
  refine .bind (Tier.fanOut_spec update _) fun _ => .pure fun w' hw => ?_
  have hmessages : Tier.announcements ((clusterPart i).get ((clusterPart i).set
      (f w.clusters[i]) w)) update =
        (w.clusters[i].parties update.jobName).map (·, .update update) := by
    rw [(clusterPart i).get_set, Tier.announcements, hparties]
  have htell := congrArg ((clusterBelow root id i).tell ·
    ((clusterPart i).set (f w.clusters[i]) w)) hmessages
  exact hw.trans (htell.trans (tell_published root id i update _ _))

/-- A cluster where nobody is interested in the job stays as it is. -/
theorem announcedAt_of_isEmpty (hempty : (w.clusters[i].parties update.jobName).isEmpty = true)
    (hf : f w.clusters[i] = w.clusters[i]) : w.announcedAt i update f = w := by
  rw [World.announcedAt, List.isEmpty_iff.1 hempty, hf, List.map_nil, List.append_nil]
  exact (clusterPart i).set_get w

end

/-- **Undeployments.** The cluster drops the instance if one of its workers is interested in the
job, and does not fail. -/
theorem applyUpdate_heard {update : JobUpdate} (hchange : update.change = .undeployment) :
    Triple (· = w) ((clusterBelow (rootTelling notify) (ids i) i).applyUpdate update)
      (fun _ w' => w' = w.announcedAt i update (·.heard update.jobName update.number))
      (fun _ _ => False) := by
  simp only [Tier.applyUpdate, hchange]
  refine Tier.look_bind ?_
  rw [clusterBelow_get]
  split
  · next hempty =>
    refine .pure fun _ hw => hw.trans (announcedAt_of_isEmpty hempty ?_).symm
    exact Registry.heard_of_isEmpty hempty
  next hsome =>
  rw [Bool.not_eq_true] at hsome
  obtain ⟨job, hjob, hempty⟩ := Registry.job?_of_parties hsome
  have hremove : Triple (· = w.clusters[i]) (Registry.updateJob update.jobName fun job =>
      Except.ok ((), job.remove update.number) : Action Registry TierError (Option Unit))
      (fun _ r => r = w.clusters[i].heard update.jobName update.number) (fun _ _ => False) := by
    refine Registry.updateJob_spec ?_ ?_ ?_
    · intro _ hr hnone
      rw [hr, hjob] at hnone
      cases hnone
    · intro _ old _ _ hr hold hedit
      subst hr
      cases hedit
      obtain rfl := Option.some.inj (hjob.symm.trans hold)
      exact (Registry.heard_of_parties hjob hempty).symm
    · rintro _ _ _ _ _ ⟨⟩
  have hzoom := (Triple.zoom_at (p := clusterPart i) hremove).mono (fun _ _ hw => hw)
    fun _ _ hfailed => hfailed.elim fun _ hboth => hboth.2
  refine .bind hzoom fun _ => .of_forall fun w' hw => ?_
  obtain ⟨_, rfl, rfl⟩ := hw
  exact fanOut_announcedAt (f := (·.heard update.jobName update.number))
    (Registry.parties_heard update.jobName update.number)

/-- **Deployments of a job that the root knows.** A cluster where somebody is interested takes the
job over as the root has it, provided that the root counts the cluster among the interested
parties. -/
theorem applyUpdate_refreshed {update : JobUpdate} {known : Job}
    (hchange : update.change = .deployment) (h : Sound ids w.root)
    (hknown : w.root.job? update.jobName = some known)
    (hlisted : (w.clusters[i].parties update.jobName).isEmpty = false →
      (w.root.cluster? (ids i)).isSome = true ∧ ids i ∈ known.parties) :
    Triple (· = w) ((clusterBelow (rootTelling notify) (ids i) i).applyUpdate update)
      (fun _ w' => w' = w.announcedAt i update (·.refreshed known)) (fun _ _ => False) := by
  obtain ⟨lost, hb⟩ := h.books
  have hname : known.name = update.jobName := hb.named _ _ hknown
  simp only [Tier.applyUpdate, hchange]
  refine Tier.look_bind ?_
  rw [clusterBelow_get]
  split
  · next hempty =>
    refine .pure fun _ hw => hw.trans (announcedAt_of_isEmpty hempty ?_).symm
    rw [Registry.refreshed, hname, if_pos hempty]
  next hsome =>
  rw [Bool.not_eq_true] at hsome
  obtain ⟨hregistered, hparty⟩ := hlisted hsome
  refine .bind (.mapError (fetch_known h hregistered hknown hparty)) fun found => ?_
  refine .of_forall fun w' hw => ?_
  obtain ⟨hw', rfl⟩ := hw
  obtain rfl : w = w' := hw'.symm
  refine .bind (R := fun _ w' =>
    w' = (clusterPart i).set (w.clusters[i].refreshed known) w) ?_ fun _ => ?_
  · refine Tier.record_spec fun w' hw => ?_
    subst hw
    rw [clusterBelow_get, Registry.refreshed, hname, hsome, if_neg Bool.false_ne_true]
    rfl
  · refine fanOut_announcedAt (f := (·.refreshed known)) ?_
    rw [← hname]
    exact Registry.parties_refreshed known

/-! ## A root that calls back -/

/-- **Calling back.** Whoever has not registered is skipped, a stranger may be marked as failed, and
a cluster of the hierarchy is called. -/
theorem callBack_spec {recipient : String} {update : JobUpdate} {Q : World n → Prop}
    (h : Sound ids w.root)
    (hskip : (∀ i, ids i = recipient → w.root.cluster? (ids i) = none) → Q w)
    (hmark : (∀ i, ids i ≠ recipient) →
      Q { w with root := (w.root.setClusterStatus recipient .failed).2 })
    (hreach : ∀ i, ids i = recipient → (w.root.cluster? (ids i)).isSome = true →
      Triple (· = w) ((calledBack ids i).applyUpdate update) (fun _ => Q) (fun _ _ => False)) :
    Q (callBack ids recipient (.update update) w).2 := by
  suffices htriple : Triple (· = w) (callBack ids recipient (.update update)) (fun _ => Q)
      fun _ => Q from htriple.after rfl
  refine .bind (R := fun found w' => w' = w ∧ w.root.cluster? recipient = found)
    (.inspect fun w' hw => ⟨hw, hw ▸ rfl⟩) ?_
  rintro (_ | cluster)
  · refine .throw fun w' hw => hw.1 ▸ hskip fun i hi => ?_
    rw [hi]
    exact hw.2
  refine .of_forall fun w' hw => ?_
  obtain ⟨hw', hcluster⟩ := hw
  obtain rfl : w = w' := hw'.symm
  dsimp only
  split
  · -- no cluster of the hierarchy has failed
    next hfailed =>
    refine .pure fun w' hw => hw ▸ hskip fun i hi => ?_
    have hactive := (h.active i cluster (hi ▸ hcluster)).1
    rw [hfailed] at hactive
    cases hactive
  cases hfound : clusterOf? ids recipient with
  | none =>
    have hstranger : ∀ i, ids i ≠ recipient := by
      intro i hi
      have hno := List.find?_eq_none.1 hfound i (List.mem_finRange i)
      rw [beq_iff_eq] at hno
      exact hno hi
    refine .bind (R := fun _ => Q) (.zoom ?_) fun _ => .throw fun _ hq => hq
    rintro _ rfl
    refine .step ?_
    rintro _ rfl
    exact hmark hstranger
  | some i =>
    have hi : ids i = recipient :=
      eq_of_beq (List.find?_some (p := fun k => ids k == recipient) hfound)
    have hregistered : (w.root.cluster? (ids i)).isSome = true := by
      rw [hi, hcluster]
      rfl
    exact .attempt_bind (hreach i hi hregistered) (fun _ => .pure fun _ hq => hq) fun _ => .of_false

/-- Calling clusters back because of a deployment makes nothing stale. -/
theorem callBack_coherent : KeepsCoherent ids stale (callBack ids) := by
  intro recipient update w hchange h
  refine callBack_spec h.sound (fun _ => h) (fun hstranger => ?_) fun i _ hregistered => ?_
  · obtain ⟨hsound, hjobs, hclusters⟩ := h.sound.mark hstranger
    exact h.grow hsound (.ofJobs hjobs) fun i hi => (hclusters i).symm ▸ hi
  · exact applyUpdate_coherent hchange h hregistered

/-- Recipients were told of a change: the root has the same jobs and the same clusters of the
hierarchy, and each recipient that has registered has changed its registry and told its interested
workers. -/
structure Told (ids : Fin n ↪ String) (recipients : List String) (update : JobUpdate)
    (f : Registry → Registry) (w w' : World n) : Prop where
  sound : Sound ids w'.root
  jobs : w'.root.jobs = w.root.jobs
  registered : ∀ i, w'.root.cluster? (ids i) = w.root.cluster? (ids i)
  clusters : ∀ i, w'.clusters[i] =
    if ids i ∈ recipients ∧ (w.root.cluster? (ids i)).isSome = true then f w.clusters[i]
    else w.clusters[i]
  sent : ∀ i, w'.sent i = w.sent i ++
    if ids i ∈ recipients ∧ (w.root.cluster? (ids i)).isSome = true then
      (w.clusters[i].parties update.jobName).map (notice update)
    else []

/-- A cluster that publishes something leaves alone what the others have published. -/
theorem sent_announcedAt (w : World n) (i k : Fin n) (update : JobUpdate)
    (f : Registry → Registry) : (w.announcedAt i update f).sent k =
      w.sent k ++ if k = i then (w.clusters[i].parties update.jobName).map (notice update)
        else [] := by
  rw [World.sent, World.sent, World.announcedAt, List.filter_append, List.map_append]
  congr 1
  by_cases hk : k = i
  · simp [hk, List.filter_map, Function.comp_def]
  · simp [hk, Ne.symm hk, List.filter_map, Function.comp_def]

/-- **One recipient.** Whatever a cluster that is called back does about the change, is done once
the root has told it. -/
theorem callBack_told {recipient : String} {update : JobUpdate} {f : Registry → Registry}
    (h : Sound ids w.root)
    (happly : ∀ i, ids i = recipient → (w.root.cluster? (ids i)).isSome = true →
      Triple (· = w) ((calledBack ids i).applyUpdate update)
        (fun _ w' => w' = w.announcedAt i update f) (fun _ _ => False)) :
    Told ids [recipient] update f w (callBack ids recipient (.update update) w).2 := by
  refine callBack_spec h (fun hnone => ?_) (fun hstranger => ?_) fun i hi hregistered => ?_
  · have hskip : ∀ i, ¬(ids i ∈ [recipient] ∧ (w.root.cluster? (ids i)).isSome = true) := by
      intro i hi
      have hsome := hi.2
      rw [hnone i (List.mem_singleton.1 hi.1)] at hsome
      cases hsome
    refine ⟨h, rfl, fun _ => rfl, fun i => ?_, fun i => ?_⟩
    · rw [if_neg (hskip i)]
    · rw [if_neg (hskip i), List.append_nil]
  · obtain ⟨hsound, hjobs, hclusters⟩ := h.mark hstranger
    have hskip : ∀ i, ¬(ids i ∈ [recipient] ∧ (w.root.cluster? (ids i)).isSome = true) :=
      fun i hi => hstranger i (List.mem_singleton.1 hi.1)
    refine ⟨hsound, hjobs, hclusters, fun i => ?_, fun i => ?_⟩
    · rw [if_neg (hskip i)]
    · rw [if_neg (hskip i), List.append_nil]
      rfl
  · refine (happly i hi hregistered).mono ?_ fun _ _ hfalse => hfalse
    intro _ w' hw
    subst hw
    have hk : ∀ k, (ids k ∈ [recipient] ∧ (w.root.cluster? (ids k)).isSome = true) ↔ k = i := by
      intro k
      rw [List.mem_singleton, ← hi, ids.injective.eq_iff]
      constructor
      · exact fun hk => hk.1
      · rintro rfl
        exact ⟨rfl, hregistered⟩
    refine ⟨h, rfl, fun _ => rfl, fun k => ?_, fun k => ?_⟩
    · refine (clusters_set i k _ w).trans ?_
      simp only [hk]
      split
      · next heq => rw [heq]
      · rfl
    · rw [sent_announcedAt]
      simp only [hk]
      split
      · next heq => rw [heq]
      · rfl

/-- **Calling back because of an undeployment.** -/
theorem callBack_heard (h : Sound ids w.root) (recipient jobName : String) (number : UInt32) :
    Told ids [recipient] ⟨jobName, number, .undeployment⟩ (·.heard jobName number) w
      (callBack ids recipient (.update ⟨jobName, number, .undeployment⟩) w).2 :=
  callBack_told h fun _ _ _ => applyUpdate_heard rfl

end Hierarchy

end Overlay
