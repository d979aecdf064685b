import Overlay.Proofs.Cluster.Operations
import Overlay.Proofs.Hierarchy.Calls

/-!
# Requests of workers

Whatever a worker asks of its cluster, nothing becomes stale (`Hierarchy.handle_coherent`): a record
that the cluster takes over was fetched from the root, a record that it changes only loses
something, and a record whose last party leaves is dropped before the cluster withdraws its interest
at the root.
-/

namespace Overlay.Hierarchy

open Overlay.Action (Triple)

variable {n : Nat} {ids : Fin n ↪ String} {i : Fin n} {w : World n} {notify : Notifier (World n)}
  {stale : Fin n → String → UInt32 × Addresses → Prop}

/-- **One cluster.** A cluster that drops no record makes nothing stale. -/
theorem upholds_coherent (hnotify : KeepsCoherent ids stale notify) (i : Fin n) :
    (clusterBelow (rootTelling notify) (ids i) i).Upholds (ids i)
      ((rootTelling notify).connection (ids i)) (Coherent ids stale)
      fun job w => Backed w.root (ids i) (fun _ => False) job.name job where
  role := rfl
  trim h hr := h.shrink hr.shrinks
  merge h hb := h.merge (hb.weaken nofun)
  fetch selector := by
    refine .of_forall fun w h => (fetch_backed h selector).mono ?_ ?_
    · exact fun _ _ hw => hw
    · exact fun _ _ hw => hw.1 ▸ h
  call hcall := connection_coherent hnotify hcall
  notify _ _ _ h := h.publish _

theorem undeploy_coherent (hnotify : KeepsCoherent ids stale notify) (selector : Selector)
    (number : UInt32) : Triple (Coherent ids stale)
      ((clusterBelow (rootTelling notify) (ids i) i).undeploy selector number)
      (fun _ => Coherent ids stale) (fun _ => Coherent ids stale) := by
  refine (upholds_coherent hnotify i).undeploy (fun {w} h name job hjob => ?_) ?_ selector number
  · exact (h.cached i name job hjob).named
  · exact fun {w} name h => h.shrink (.deleteJob w.clusters[i] name)

theorem removeInterest_coherent (hnotify : KeepsCoherent ids stale notify) (name party : String) :
    Triple (Coherent ids stale)
      ((clusterBelow (rootTelling notify) (ids i) i).removeInterest name party)
      (fun _ => Coherent ids stale) (fun _ => Coherent ids stale) := by
  refine (upholds_coherent hnotify i).removeInterest (fun {w} name h => ?_) name party
  refine (withdraw_coherent (i := i) name).pre ?_
  rintro _ rfl
  refine ⟨h.shrink (.deleteJob w.clusters[i] name), ?_⟩
  have hget := (clusterPart i).get_set (w.clusters[i].deleteJob name) w
  exact (congrArg (·.job? name) hget).trans (Table.get?_erase_self ..)

/-- **Requests.** Whatever a worker asks for, and whatever the answer is, nothing becomes stale. -/
theorem handle_coherent (hnotify : KeepsCoherent ids stale notify) (client : String)
    (request : ChildRequest) : Triple (Coherent ids stale)
      ((clusterBelow (rootTelling notify) (ids i) i).handle client request)
      (fun _ => Coherent ids stale) (fun _ => Coherent ids stale) :=
  (upholds_coherent hnotify i).handle client request
    (fun _ _ => undeploy_coherent hnotify _ _) fun _ _ => removeInterest_coherent hnotify _ _

theorem registerWithParent_coherent (hnotify : KeepsCoherent ids stale notify) (address : String)
    (port : UInt16) : Triple (Coherent ids stale)
      ((clusterBelow (rootTelling notify) (ids i) i).registerWithParent address port)
      (fun _ => Coherent ids stale) (fun _ => Coherent ids stale) :=
  .mapError (connection_coherent hnotify nofun)

end Overlay.Hierarchy
