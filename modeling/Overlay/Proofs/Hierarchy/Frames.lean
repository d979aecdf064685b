import Overlay.Proofs.Cluster.Operations
import Overlay.Proofs.Hierarchy.Coherence
import Overlay.Proofs.Hierarchy.Unreliable
import Overlay.Proofs.Root.Frames

/-!
# What has nothing to do with subnets

Most steps of a hierarchy leave the subnets alone, whatever becomes of their calls: the subnet pools
of the root and the worker nodes of all clusters are as before (`Hierarchy.survive_sameSubnets`). Left
are the requests of workers for subnets, and calls from outside that take subnets from the root or
give them back (`Hierarchy.Step.aboutSubnets`).
-/

namespace Overlay

open Overlay.Action (Triple)

/-- Whether a call to the parent asks for subnets or gives them back. -/
def ParentCall.aboutSubnets : ParentCall → Bool
  | .requestSubnets | .releaseSubnets _ => true
  | _ => false

namespace Hierarchy

variable {n : Nat} {ids : Fin n ↪ String} {i : Fin n} {w w' w'' : World n} {root : Registry}

/-- Hierarchies with the same subnet pools at the root and the same worker nodes at all clusters. -/
structure SameSubnets (w w' : World n) : Prop where
  pools : w.root.SameSubnets w'.root
  nodes : ∀ i : Fin n, w'.clusters[i].nodes = w.clusters[i].nodes

namespace SameSubnets

theorem refl (w : World n) : SameSubnets w w :=
  ⟨fun _ => rfl, fun _ => rfl⟩

theorem trans (h : SameSubnets w w') (h' : SameSubnets w' w'') : SameSubnets w w'' :=
  ⟨fun f => (h'.pools f).trans (h.pools f), fun i => (h'.nodes i).trans (h.nodes i)⟩

/-- The root works on other things. -/
theorem setRoot (h : SameSubnets w w') (hroot : w'.root.SameSubnets root) :
    SameSubnets w { w' with root } :=
  ⟨fun f => (hroot f).trans (h.pools f), h.nodes⟩

/-- A cluster works on its jobs. -/
theorem setCluster {r : Registry} (h : SameSubnets w w') (hr : w'.clusters[i].OnlyJobs r) :
    SameSubnets w ((clusterPart i).set r w') := by
  refine ⟨h.pools, fun k => ?_⟩
  rw [clusters_set]
  split
  · next heq =>
    subst heq
    exact hr.nodes.trans (h.nodes k)
  · exact h.nodes k

end SameSubnets

/-! ## Calls of the clusters -/

/-- Telling the clusters of something leaves the subnets alone. -/
def KeepsSubnets (notify : Notifier (Unreliable n)) : Prop :=
  ∀ recipient message s, SameSubnets s.world (notify recipient message s).2.world

section

variable {notify : Notifier (Unreliable n)} (hnotify : KeepsSubnets notify)

include hnotify

theorem root_seesSubnets (w : World n) :
    (rootOver notify).SeesSubnets fun s => SameSubnets w s.world where
  role := rfl
  set hs hr := hs.setRoot hr
  notify recipient message {_} hs := hs.trans (hnotify recipient message _)

/-- The root does nothing to the subnets when a cluster calls for something else. -/
theorem connection_sameSubnets {call : ParentCall} (hcall : call.aboutSubnets = false)
    (id : String) : Triple (fun s => SameSubnets w s.world) ((rootOver notify).connection id call)
      (fun _ s => SameSubnets w s.world) (fun _ s => SameSubnets w s.world) := by
  have hsees := root_seesSubnets hnotify w
  refine .mapError ?_
  cases call with
  | fetchJob selector =>
    exact .bind (requireCluster_keeps id) fun _ => hsees.perform (.childLookup id selector) rfl
  | reportDeployment report =>
    exact .bind (hsees.perform (.applyDeployReport report) rfl) fun _ => .pure fun _ hs => hs
  | removeInterest name =>
    refine .bind (requireCluster_keeps id) fun _ => ?_
    exact .bind (hsees.perform (.removeInterest name id) rfl) fun _ => .pure fun _ hs => hs
  | register registration =>
    exact .bind (hsees.perform (.registerCluster registration) rfl) fun _ => .pure fun _ hs => hs
  | requestSubnets => cases hcall
  | releaseSubnets subnets => cases hcall

/-- The same, whatever becomes of the call. -/
theorem carried_sameSubnets {call : ParentCall} (hcall : call.aboutSubnets = false)
    (id : String) (givenUp : EscalationFault) : Triple (fun s => SameSubnets w s.world)
      (carried givenUp ((rootOver notify).connection id call))
      (fun _ s => SameSubnets w s.world) (fun _ s => SameSubnets w s.world) :=
  carried_spec (fun _ _ hs => hs) (fun _ _ hs => hs) (connection_sameSubnets hnotify hcall id)

/-- **One cluster.** What a cluster does about jobs does nothing to the subnets. -/
theorem cluster_unconcerned (w : World n) (id : String) (i : Fin n) :
    (clusterOver (rootOver notify) id i).Unconcerned fun s => SameSubnets w s.world where
  jobs hs hr := hs.setCluster hr
  call hparent call hcall := by
    obtain rfl := Option.some.inj hparent
    refine carried_sameSubnets hnotify ?_ id _
    cases call with
    | requestSubnets => cases hcall
    | releaseSubnets _ => cases hcall
    | _ => rfl
  back hroot := nomatch hroot
  notify _ _ _ hs := ⟨hs.pools, hs.nodes⟩

end

/-! ## Calling back -/

theorem tellNobody_keepsSubnets : KeepsSubnets (tellNobody (n := n)) :=
  fun _ _ _ => .refl _

/-- Calling the clusters back leaves the subnets alone, whatever becomes of the calls. -/
theorem callOver_keepsSubnets (ids : Fin n ↪ String) : KeepsSubnets (callOver ids) := by
  intro recipient message s
  refine (callOver_keeps (P := fun s' => SameSubnets s.world s'.world) (fun _ _ hs => hs)
    (fun i update => ?_) (fun s' hs id => ?_) recipient message).after (.refl s.world)
  · exact (cluster_unconcerned tellNobody_keepsSubnets s.world (ids i) i).steady.applyUpdate update
  · refine hs.setRoot ?_
    rw [Registry.setClusterStatus]
    split
    · exact fun _ => rfl
    · exact fun _ => rfl

/-! ## Steps -/

/-- Whether a step takes subnets or gives them back. -/
def Step.aboutSubnets : Step n → Bool
  | .root call _ => call.aboutSubnets
  | .request _ _ (.subnet _) => true
  | _ => false

/-- **Bystanders.** All other steps leave the subnets alone, whatever becomes of their calls. -/
theorem survive_sameSubnets (ids : Fin n ↪ String) {step : Step n} (hstep : step.aboutSubnets = false)
    (fates : List Fate) (w : World n) : SameSubnets w (step.survive ids fates w) := by
  have hkeeps := callOver_keepsSubnets ids
  have hstart : SameSubnets w (Unreliable.mk w fates).world := .refl w
  cases step with
  | root call outside => exact ((root_seesSubnets hkeeps w).perform call hstep).after hstart
  | join i address port =>
    have hjoin : Triple (fun s => SameSubnets w s.world)
        ((clusterOver (rootOver (callOver ids)) (ids i) i).registerWithParent address port)
        (fun _ s => SameSubnets w s.world) (fun _ s => SameSubnets w s.world) :=
      .mapError (carried_sameSubnets hkeeps rfl (ids i) _)
    exact hjoin.after hstart
  | request i client wanted =>
    refine ((cluster_unconcerned hkeeps w (ids i) i).handle client wanted ?_ ?_).after hstart
    · rintro - rfl
      cases hstep
    · rintro rfl
      cases hstep

end Hierarchy

end Overlay
