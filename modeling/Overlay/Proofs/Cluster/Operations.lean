import Overlay.Proofs.Tier.Operations

/-!
# Operations of a cluster tier

What an operation of a cluster tier does to the records of jobs that it has cached. Two operations
drop records: an undeployment drops a job with its last instance (`Tier.undeploy_cluster`), and a
removal of interest drops it with its last party (`Tier.removeInterest_cluster`). All others leave
every record in place, as they do at every tier (`Tier.Steady`).

So whoever wants to keep an invariant over the operations of a cluster has to say what becomes of
it in a few kinds of steps (`Tier.Upholds`); the operations follow.
-/

namespace Overlay

open Overlay.Action (Triple)

namespace Registry

variable {r r' : Registry} {name : String}

/-- What is left of a cached job when an instance was removed: nothing, if it was the last one. -/
def withdraw (r : Registry) (job : Job) (number : UInt32) : Registry :=
  if (job.remove number).instances.isEmpty then r.deleteJob job.name
  else { r with jobs := r.jobs.insert job.name (job.remove number) }

/-- The removal of a party drops the job with the last one, or leaves all records in place. -/
theorem removeParty_cases (r : Registry) (name party : String) (dropUnused : Bool) :
    (∃ change, (r.removeParty name party dropUnused).1 = some change ∧ change.jobDeleted = true ∧
      (r.job? name).isSome = true ∧ (r.removeParty name party dropUnused).2 = r.deleteJob name) ∨
    ((∀ change, (r.removeParty name party dropUnused).1 = some change → change.jobDeleted = false) ∧
      r.Trims (r.removeParty name party dropUnused).2) := by
  rw [Registry.removeParty]
  split
  · refine .inr ⟨fun change hchange => ?_, .ofJobs rfl⟩
    cases hchange
  next job hjob =>
  dsimp only
  split
  · next hdeleted => exact .inl ⟨_, rfl, hdeleted, hjob ▸ rfl, rfl⟩
  next hkept =>
  rw [Bool.not_eq_true] at hkept
  split
  · refine .inr ⟨fun change hchange => ?_, .insert hjob rfl rfl (fun hd => hd) fun _ hl => hl⟩
    obtain rfl := Option.some.inj hchange
    exact hkept
  · refine .inr ⟨fun change hchange => ?_, .ofJobs rfl⟩
    obtain rfl := Option.some.inj hchange
    exact hkept

end Registry

namespace Tier

variable {σ α ε : Type} {t : Tier σ} {id : String} {parent : Parent σ} {s : σ}

theorem parent?_of_cluster (h : t.role = .cluster id parent) : t.parent? = some parent := by
  rw [parent?, h]

theorem isRoot_of_cluster (h : t.role = .cluster id parent) : t.isRoot = false := by
  rw [isRoot, h]

/-! ## Operations that drop records -/

/-- **Undeployment at a cluster.** The instance is removed and the parties that were interested are
told, whether the job goes with it or not. The parent is not called. -/
theorem undeploy_cluster (hrole : t.role = .cluster id parent) (hnamed : (t.site.get s).Named)
    (selector : Selector) (number : UInt32) : Triple (· = s) (t.undeploy selector number)
      (fun _ s' => ∃ job i, (t.site.get s).select selector = some job ∧
        job.instance? number = some i ∧
        s' = t.tell (farewells (t.site.get s) job.name number)
          (t.site.set ((t.site.get s).withdraw job number) s))
      (fun _ s' => s' = s ∧
        ∀ job, (t.site.get s).select selector = some job → job.instance? number = none) := by
  simp only [undeploy, isRoot_of_cluster hrole, Bool.false_eq_true, if_false]
  refine look_bind ?_
  cases hselect : (t.site.get s).select selector with
  | none =>
    refine .throw fun s' hs => ⟨hs, fun job hjob => ?_⟩
    cases hjob
  | some job =>
  dsimp only
  split
  · next hnone =>
    refine .throw fun s' hs => ⟨hs, fun job' hjob' => ?_⟩
    obtain rfl := Option.some.inj hjob'
    exact hnone
  next i hi =>
  have hjob := job?_of_select hnamed hselect
  refine look_bind ?_
  have hremove : Registry.removeInstance job.name number (t.site.get s) =
      (Except.ok (i, (job.remove number).instances.length), { t.site.get s with
        jobs := (t.site.get s).jobs.insert job.name (job.remove number) }) := by
    simp [Registry.removeInstance, Registry.updateJob, Action.bind_apply, hjob, hi]
  refine .bind (R := fun removed s' => removed = (i, (job.remove number).instances.length) ∧
    s' = t.site.set { t.site.get s with
      jobs := (t.site.get s).jobs.insert job.name (job.remove number) } s) ?_ ?_
  · refine .of_match fun s' hs => ?_
    subst hs
    rw [Action.zoom_apply, hremove]
    exact ⟨rfl, rfl⟩
  rintro removed
  refine .of_forall ?_
  rintro _ ⟨rfl, rfl⟩
  have hlast : ((job.remove number).instances.length == 0) =
      (job.remove number).instances.isEmpty := by
    cases (job.remove number).instances <;> rfl
  simp only [hlast, Bool.not_false, Bool.and_true]
  have htell : Triple (· = t.site.set ((t.site.get s).withdraw job number) s)
      (t.notifyAll (.update ⟨job.name, number, .undeployment⟩)
        ((t.site.get s).parties job.name) >>= fun notified => pure
          (⟨job.name, i, (job.remove number).instances.isEmpty, notified⟩ : Undeployment))
      (fun _ s' => s' = t.tell (farewells (t.site.get s) job.name number)
        (t.site.set ((t.site.get s).withdraw job number) s))
      (fun (_ : TierError) _ => False) :=
    .bind (notifyAll_spec ..) fun _ => .pure fun _ hs => hs
  refine Triple.mono ?_ (fun _ s' hs => ⟨job, i, rfl, hi, hs⟩) fun _ _ => False.elim
  split
  · next hempty =>
    refine .bind (R := fun _ s' => s' = t.site.set ((t.site.get s).withdraw job number) s)
      (change_spec fun s' hs => ?_) fun _ => htell
    subst hs
    rw [t.site.get_set, t.site.set_set, Registry.withdraw, if_pos hempty, Registry.deleteJob,
      Registry.deleteJob, Table.erase_insert]
  · next hmore =>
    rw [Registry.withdraw, if_neg hmore] at htell ⊢
    exact htell

/-- **A party leaves.** The job is dropped with its last party, and then the parent is told; or all
records stay. -/
theorem removeInterest_cluster {R : σ → Prop} (hrole : t.role = .cluster id parent)
    {name party : String} (hkept : ∀ r', (t.site.get s).Trims r' → R (t.site.set r' s))
    (hdropped : ((t.site.get s).job? name).isSome = true →
      Triple (· = t.site.set ((t.site.get s).deleteJob name) s) (parent (.removeInterest name))
        (fun _ => R) (fun _ => R)) :
    Triple (· = s) (t.removeInterest name party) (fun _ => R) (fun _ => R) := by
  simp only [removeInterest, parent?_of_cluster hrole, Option.isSome_some]
  refine .bind (R := fun found s' => found = ((t.site.get s).removeParty name party true).1 ∧
    s' = t.site.set ((t.site.get s).removeParty name party true).2 s)
    (record_spec fun s' hs => hs ▸ ⟨rfl, rfl⟩) fun found => .of_forall ?_
  rintro _ ⟨rfl, rfl⟩
  rcases (t.site.get s).removeParty_cases name party true with
    ⟨change, hchange, hdeleted, hsome, hr⟩ | ⟨hkeep, htrims⟩
  · rw [hchange, hr]
    simp only [hdeleted, if_true]
    exact .attempt_bind (hdropped hsome) (fun _ => .pure fun _ hs => hs) fun _ =>
      .pure fun _ hs => hs
  · cases hfound : ((t.site.get s).removeParty name party true).1 with
    | none => exact .throw fun _ hs => hs ▸ hkept _ htrims
    | some change =>
      simp only [hkeep change hfound, Bool.false_eq_true, if_false]
      exact .pure fun _ hs => hs ▸ hkept _ htrims

/-! ## Reports -/

/-- **Reports climb.** A cluster takes the report itself and passes it on then. What becomes of it at
the parent does not matter. -/
theorem reportNetwork_eq (hrole : t.role = .cluster id parent) (selector : Selector)
    (number : UInt32) (network : Network) (reporter : String) :
    t.reportNetwork selector number network reporter = do
      let taken ← t.takeReport selector number network reporter
      let _ ← (parent (.reportDeployment taken.2)).attempt
      return taken.1 := by
  simp only [reportNetwork, takeReport, parent?_of_cluster hrole, bind_assoc]
  refine bind_congr fun job => bind_congr fun outcomes => ?_
  split
  · simp only [bind_assoc]
    refine bind_congr fun _ => bind_congr fun found => ?_
    cases found <;> rfl
  · simp only [bind_assoc]
    refine bind_congr fun found => ?_
    cases found <;> rfl

/-! ## Operations that keep records -/

/-- What becomes of an invariant in the steps of a cluster that drop no record. A job that the
parent sends is good enough to be taken over. -/
structure Upholds (t : Tier σ) (id : String) (parent : Parent σ) (I : σ → Prop)
    (Good : Job → σ → Prop) : Prop where
  role : t.role = .cluster id parent
  trim : ∀ {s r}, I s → (t.site.get s).Trims r → I (t.site.set r s)
  merge : ∀ {s job}, I s → Good job s → I (t.site.set ((t.site.get s).mergeJob job).2 s)
  fetch : ∀ selector, Triple I (parent (.fetchJob selector))
    (fun found s => I s ∧ ∀ job, found = some job → Good job s) (fun _ => I)
  call : ∀ {call}, (∀ name, call ≠ .removeInterest name) →
    Triple I (parent call) (fun _ => I) (fun _ => I)
  notify : ∀ recipient message {s}, I s → I (t.notify recipient message s).2

namespace Upholds

variable {I : σ → Prop} {Good : Job → σ → Prop} (h : t.Upholds id parent I Good)

include h

theorem steady : t.Steady I Good where
  trim hs hr _ := h.trim hs hr
  merge := h.merge
  fetch hparent selector := by
    obtain rfl := Option.some.inj ((parent?_of_cluster h.role).symm.trans hparent)
    exact h.fetch selector
  notify := h.notify

/-- A change of anything but the jobs. -/
theorem change {f : Registry → Registry} {E : ε → σ → Prop}
    (hf : ∀ r : Registry, (f r).jobs = r.jobs) : Triple I (t.change f) (fun _ => I) E :=
  change_spec fun s hs => h.trim hs (.ofJobs (hf (t.site.get s)))

/-! ### Subnets -/

theorem nodeSubnets (node : String) :
    Triple I (t.nodeSubnets node) (fun _ => I) (fun _ => I) := by
  simp only [Tier.nodeSubnets, Tier.requestSubnets, parent?_of_cluster h.role]
  refine .bind (R := fun _ => I) (look_spec fun _ hs => hs) ?_
  rintro (_ | known)
  · refine .bind (.mapError (h.call fun _ hcall => by cases hcall)) fun subnets => ?_
    exact .bind (h.change fun _ => rfl) fun _ => .pure fun _ hs => hs
  · exact .pure fun _ hs => hs

theorem releaseNodeSubnets (node : String) :
    Triple I (t.releaseNodeSubnets node) (fun _ => I) (fun _ => I) := by
  simp only [Tier.releaseNodeSubnets, Tier.releaseSubnets, parent?_of_cluster h.role]
  refine .bind (R := fun _ => I) (look_spec fun _ hs => hs) ?_
  rintro (_ | known)
  · exact .pure fun _ hs => hs
  · exact .bind (.mapError (h.call fun _ hcall => by cases hcall)) fun _ => h.change fun _ => rfl

/-! ### Dropping records -/

/-- An undeployment keeps what can lose a record. -/
theorem undeploy (hnamed : ∀ {s}, I s → (t.site.get s).Named)
    (hdrop : ∀ {s} name, I s → I (t.site.set ((t.site.get s).deleteJob name) s))
    (selector : Selector) (number : UInt32) :
    Triple I (t.undeploy selector number) (fun _ => I) (fun _ => I) := by
  refine .of_forall fun s hs => ?_
  refine (undeploy_cluster h.role (hnamed hs) selector number).mono ?_ fun _ _ hs' => hs'.1 ▸ hs
  rintro _ _ ⟨job, i, hselect, -, rfl⟩
  refine h.steady.tell _ ?_
  rw [Registry.withdraw]
  split
  · exact hdrop job.name hs
  · exact h.trim hs (.removed (job?_of_select (hnamed hs) hselect))

/-- The end of an interest keeps what the withdrawal at the parent keeps. -/
theorem removeInterest (hwithdraw : ∀ {s} name, I s →
      Triple (· = t.site.set ((t.site.get s).deleteJob name) s) (parent (.removeInterest name))
        (fun _ => I) (fun _ => I)) (name party : String) :
    Triple I (t.removeInterest name party) (fun _ => I) (fun _ => I) :=
  .of_forall fun _ hs => removeInterest_cluster h.role (fun _ hr => h.trim hs hr)
    fun _ => hwithdraw name hs

/-! ### Requests -/

/-- **Requests.** Two of the requests of a worker drop records. -/
theorem handle (client : String) (request : ChildRequest)
    (hundeploy : ∀ report, request = .undeployed report →
      Triple I (t.undeploy (.name report.jobName) report.number) (fun _ => I) (fun _ => I))
    (hleave : ∀ name, request = .removeInterest name →
      Triple I (t.removeInterest name client) (fun _ => I) (fun _ => I)) :
    Triple I (t.handle client request) (fun _ => I) (fun _ => I) := by
  refine handle_of_answer (fun _ hs => hs) (fun _ => ?_)
    fun message s hs => h.notify client message hs
  cases request with
  | deployed report =>
    refine .bind (h.steady.reportNetwork (fun hparent _ => ?_) ..) fun _ => .pure fun _ hs => hs
    obtain rfl := Option.some.inj ((parent?_of_cluster h.role).symm.trans hparent)
    exact h.call nofun
  | undeployed report => exact .bind (hundeploy report rfl) fun _ => .pure fun _ hs => hs
  | tableQuery query => exact .bind (h.steady.tableQuery ..) fun _ => .pure fun _ hs => hs
  | subnet method =>
    cases method with
    | get => exact .bind (h.nodeSubnets client) fun _ => .pure fun _ hs => hs
    | delete => exact .bind (h.releaseNodeSubnets client) fun _ => .pure fun _ hs => hs
  | removeInterest name => exact answer_removeInterest (hleave name rfl)

end Upholds

end Tier

end Overlay
