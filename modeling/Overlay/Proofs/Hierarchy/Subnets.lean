import Mathlib.Data.List.Perm.Basic
import Overlay.Proofs.Hierarchy.Frames
import Overlay.Proofs.Root.Subnets

/-!
# Subnets of the workers

Which subnets are out is written down in two places: the root knows what it has handed out, and each
cluster knows which of its workers has what. In a run in which nobody but workers asks for subnets,
and in which a request that is lost on the way has no effect, the two agree (`Hierarchy.Granted`):
the subnets of the workers of all clusters are exactly those that the root has handed out and not
taken back. So no subnet is forgotten, and no two workers, of the same cluster or of different ones,
have an address in common (`Hierarchy.subnets_in_order`).
-/

namespace Overlay

open Overlay.Action (Triple)

/-- The subnets of all worker nodes of a registry. -/
def Registry.workerSubnets (r : Registry) : List (Family × String) :=
  r.nodes.values.flatMap fun node => node.subnets.present

namespace Hierarchy

variable {n : Nat} {ids : Fin n ↪ String} {i j : Fin n} {w w' : World n} {root r : Registry}
  {client other : String} {node : WorkerNode} {f : Family} {text : String} {v : Nat}

/-! ## Worker nodes of all clusters -/

/-- The subnets of the workers of all clusters. -/
def workerSubnets (w : World n) : List (Family × String) :=
  (List.finRange n).flatMap fun i => w.clusters[i].workerSubnets

/-- A cluster notes down the subnets of a worker. -/
def withNode (i : Fin n) (node : WorkerNode) (w : World n) : World n :=
  (clusterPart i).set (w.clusters[i].putNode node) w

/-- A cluster forgets about a worker. -/
def withoutNode (i : Fin n) (client : String) (w : World n) : World n :=
  (clusterPart i).set (w.clusters[i].deleteNode client) w

theorem node?_withNode : (withNode i node w).clusters[j].node? client =
    if j = i ∧ client = node.id then some node else w.clusters[j].node? client := by
  rw [withNode, clusters_set]
  by_cases hj : j = i
  · subst hj
    simp [Registry.node?, Registry.putNode, Table.get?_insert]
  · simp [hj]

theorem node?_withoutNode : (withoutNode i client w).clusters[j].node? other =
    if j = i ∧ other = client then none else w.clusters[j].node? other := by
  rw [withoutNode, clusters_set]
  by_cases hj : j = i
  · subst hj
    simp [Registry.node?, Registry.deleteNode, Table.get?_erase]
  · simp [hj]

theorem mem_workerSubnets : (f, text) ∈ workerSubnets w ↔
    ∃ (i : Fin n) (client : String) (node : WorkerNode),
      w.clusters[i].node? client = some node ∧ node.subnets.get f = some text := by
  simp only [workerSubnets, Registry.workerSubnets, List.mem_flatMap, List.mem_finRange, true_and,
    Table.mem_values_iff, Dual.mem_present]
  constructor
  · rintro ⟨i, node, ⟨client, hnode⟩, hget⟩
    exact ⟨i, client, node, hnode, hget⟩
  · rintro ⟨i, client, node, hnode, hget⟩
    exact ⟨i, node, ⟨client, hnode⟩, hget⟩

/-- What one cluster has more, all clusters have more. -/
theorem workerSubnets_set {more : List (Family × String)}
    (h : r.workerSubnets.Perm (more ++ w.clusters[i].workerSubnets)) :
    (workerSubnets ((clusterPart i).set r w)).Perm (more ++ workerSubnets w) := by
  have hsplit : (List.finRange n).Perm (i :: (List.finRange n).erase i) :=
    List.perm_cons_erase (List.mem_finRange i)
  -- each of the other clusters has what it had
  have hothers : ((List.finRange n).erase i).flatMap
        (fun k => ((clusterPart i).set r w).clusters[k].workerSubnets) =
      ((List.finRange n).erase i).flatMap fun k => w.clusters[k].workerSubnets := by
    refine List.flatMap_congr fun k hk => ?_
    rw [clusters_set, if_neg ((List.nodup_finRange n).mem_erase_iff.1 hk).1]
  have hafter := hsplit.flatMap_right
    fun k => ((clusterPart i).set r w).clusters[k].workerSubnets
  have hbefore := hsplit.flatMap_right fun k => w.clusters[k].workerSubnets
  rw [List.flatMap_cons, hothers, clusters_set, if_pos rfl] at hafter
  rw [List.flatMap_cons] at hbefore
  refine hafter.trans ((h.append_right _).trans ?_)
  rw [List.append_assoc]
  exact hbefore.symm.append_left more

/-- The subnets of a new worker join those of all others. -/
theorem workerSubnets_withNode (hnew : w.clusters[i].node? node.id = none) :
    (workerSubnets (withNode i node w)).Perm (node.subnets.present ++ workerSubnets w) := by
  have h := Table.flatMap_values_insert (fun node : WorkerNode => node.subnets.present)
    w.clusters[i].nodes node.id node
  rw [show w.clusters[i].nodes.get? node.id = none from hnew] at h
  exact workerSubnets_set h

/-- The subnets of all workers are those of one worker and those of all others. -/
theorem workerSubnets_withoutNode (hnode : w.clusters[i].node? client = some node) :
    (workerSubnets w).Perm (node.subnets.present ++ workerSubnets (withoutNode i client w)) := by
  have h := (Table.values_erase hnode).flatMap_right fun node => node.subnets.present
  rw [List.flatMap_cons] at h
  -- the cluster as it was has more than the one that has forgotten the worker
  have hback : (clusterPart i).set w.clusters[i] (withoutNode i client w) = w := by
    rw [withoutNode, (clusterPart i).set_set]
    exact (clusterPart i).set_get w
  have hsame : (withoutNode i client w).clusters[i].workerSubnets =
      (w.clusters[i].deleteNode client).workerSubnets := by
    rw [withoutNode, clusters_set, if_pos rfl]
  have hafter : (workerSubnets ((clusterPart i).set w.clusters[i] (withoutNode i client w))).Perm
      (node.subnets.present ++ workerSubnets (withoutNode i client w)) := by
    refine workerSubnets_set ?_
    rw [hsame]
    exact h
  rwa [hback] at hafter

/-! ## Both tiers agree -/

/-- The subnets of the workers are those that the root has handed out and not taken back, and each
worker node has a name and a subnet of each family. -/
structure Granted (w : World n) : Prop where
  out : w.root.SubnetsOut (workerSubnets w)
  nodes : ∀ (i : Fin n) (client : String) (node : WorkerNode),
    w.clusters[i].node? client = some node →
      client.isEmpty = false ∧ ∃ v4 v6, node.subnets = ⟨some v4, some v6⟩

namespace Granted

theorem empty : Granted (.empty n) := by
  have hnone : ∀ i : Fin n, (World.empty n).clusters[i] = ∅ := fun i => by
    simp [World.empty]
  refine ⟨?_, fun i client node hnode => ?_⟩
  · have hnil : workerSubnets (World.empty n) = [] :=
      List.flatMap_eq_nil_iff.2 fun i _ => by
        rw [hnone]
        rfl
    rw [hnil]
    exact .empty
  · rw [hnone] at hnode
    cases hnode

theorem congr (h : Granted w) (hsame : SameSubnets w w') : Granted w' where
  out := by
    refine h.out.congr hsame.pools ?_
    simp only [workerSubnets, Registry.workerSubnets, hsame.nodes]
    exact .refl _
  nodes i client node hnode := by
    rw [Registry.node?, hsame.nodes] at hnode
    exact h.nodes i client node hnode

/-- A pair that the root has handed out goes to a worker that had none. -/
theorem grant (h : Granted w) (hclient : client.isEmpty = false)
    (hnew : w.clusters[i].node? client = none) {subnets : Addresses}
    (hpair : ∃ v4 v6, subnets = ⟨some v4, some v6⟩)
    (hout : root.SubnetsOut (subnets.present ++ workerSubnets w)) :
    Granted (withNode i ⟨client, subnets⟩ { w with root }) where
  out := hout.congr (fun _ => rfl) (workerSubnets_withNode (w := { w with root }) hnew)
  nodes k id node hnode := by
    rw [node?_withNode] at hnode
    split at hnode
    · next heq =>
      obtain rfl := Option.some.inj hnode
      exact ⟨heq.2 ▸ hclient, hpair⟩
    · exact h.nodes k id node hnode

/-- A pair that the root has taken back is a worker's no more. -/
theorem revoke (h : Granted w)
    (hout : root.SubnetsOut (workerSubnets (withoutNode i client w))) :
    Granted (withoutNode i client { w with root }) where
  out := hout
  nodes k id node hnode := by
    rw [node?_withoutNode] at hnode
    split at hnode
    · cases hnode
    · exact h.nodes k id node hnode

end Granted

/-! ## Calls of the clusters -/

variable {notify : Notifier (Unreliable n)} {id : String}

/-- The root hands out a pair for a worker that has none, or nothing. -/
theorem connection_requestSubnets (hclient : client.isEmpty = false) :
    Triple (fun s => Granted s.world ∧ s.world.clusters[i].node? client = none)
      ((rootOver notify).connection id .requestSubnets)
      (fun subnets s => Granted (withNode i ⟨client, subnets⟩ s.world))
      (fun _ s => Granted s.world) := by
  refine .mapError (.bind
    (R := fun _ s => Granted s.world ∧ s.world.clusters[i].node? client = none)
    ((requireCluster_keeps id).mono (fun _ _ hs => hs) fun _ _ hs => hs.1) fun _ => .zoom ?_)
  intro s ⟨h, hnew⟩
  refine Registry.takeSubnets_out.conseq ?_
    (fun _ root hout => h.grant hclient hnew hout.1 hout.2) fun _ root hout => ⟨hout, h.nodes⟩
  rintro _ rfl
  exact h.out

/-- The root takes the pair of a worker back. -/
theorem connection_releaseSubnets (node : WorkerNode) :
    Triple (fun s => Granted s.world ∧ s.world.clusters[i].node? client = some node)
      ((rootOver notify).connection id (.releaseSubnets node.subnets))
      (fun _ s => Granted (withoutNode i client s.world)) (fun _ s => Granted s.world) := by
  refine .mapError (.bind
    (R := fun _ s => Granted s.world ∧ s.world.clusters[i].node? client = some node)
    ((requireCluster_keeps id).mono (fun _ _ hs => hs) fun _ _ hs => hs.1) fun _ => .zoom ?_)
  intro s ⟨h, hnode⟩
  have hbefore := h.out.congr (fun _ => rfl) (workerSubnets_withoutNode hnode).symm
  refine (Registry.returnSubnets_out node.subnets.present).conseq ?_
    (fun _ root hout => h.revoke hout) nofun
  rintro _ rfl
  exact hbefore

/-! ## Requests for subnets -/

/-- **Getting.** A worker that has no subnets gets a pair, or none is handed out. -/
theorem nodeSubnets_granted (hclient : client.isEmpty = false) :
    Triple (fun s => Granted s.world ∧ s.Faithful)
      ((clusterOver (rootOver notify) id i).nodeSubnets client)
      (fun _ s => Granted s.world) (fun _ s => Granted s.world) := by
  refine .bind (R := fun found s =>
    (Granted s.world ∧ s.world.clusters[i].node? client = found) ∧ s.Faithful)
    (Tier.look_spec fun _ hs => ⟨⟨hs.1, rfl⟩, hs.2⟩) fun found => ?_
  cases found with
  | some node => exact .pure fun _ hs => hs.1.1
  | none =>
    refine .bind (.mapError (carried_faithful (fun _ _ hs => hs) (fun _ hs => hs.1)
      (connection_requestSubnets hclient))) fun subnets => ?_
    exact .bind (R := fun _ s => Granted s.world) (Tier.change_spec fun _ hs => hs)
      fun _ => .pure fun _ hs => hs

/-- **Giving back.** A worker's pair goes back to the root and is forgotten, or neither. -/
theorem releaseNodeSubnets_granted (client : String) :
    Triple (fun s => Granted s.world ∧ s.Faithful)
      ((clusterOver (rootOver notify) id i).releaseNodeSubnets client)
      (fun _ s => Granted s.world) (fun _ s => Granted s.world) := by
  refine .bind (R := fun found s =>
    (Granted s.world ∧ s.world.clusters[i].node? client = found) ∧ s.Faithful)
    (Tier.look_spec fun _ hs => ⟨⟨hs.1, rfl⟩, hs.2⟩) fun found => ?_
  cases found with
  | none => exact .pure fun _ hs => hs.1.1
  | some node =>
    refine .bind (.mapError (carried_faithful (fun _ _ hs => hs) (fun _ hs => hs.1)
      (connection_releaseSubnets node))) fun _ => ?_
    exact Tier.change_spec fun _ hs => hs

/-- Whether a worker gets subnets or gives them back, both tiers agree afterwards. -/
theorem handle_granted (client : String) (method : SubnetMethod) :
    Triple (fun s => Granted s.world ∧ s.Faithful)
      ((clusterOver (rootOver notify) id i).handle client (.subnet method))
      (fun _ s => Granted s.world) (fun _ s => Granted s.world) := by
  refine Tier.handle_of_answer (R := fun s : Unreliable n => Granted s.world) (fun _ hs => hs.1)
    (fun hclient => ?_) fun _ _ hs => ⟨hs.out, hs.nodes⟩
  cases method with
  | get => exact .bind (nodeSubnets_granted hclient) fun _ => .pure fun _ hs => hs
  | delete => exact .bind (releaseNodeSubnets_granted client) fun _ => .pure fun _ hs => hs

/-! ## Runs -/

/-- Whether a step leaves the subnets of the root to the workers: it does not use them otherwise,
and no request for subnets has an effect without being answered. -/
def Step.throughWorkers : Step n → List Fate → Bool
  | .root call _, _ => !call.aboutSubnets
  | .request _ _ (.subnet _), fates => fates.all fun fate => fate.unheard == 0
  | _, _ => true

/-- **One step.** Both tiers agree after each step. -/
theorem Granted.survive (h : Granted w) {step : Step n} {fates : List Fate}
    (hstep : step.throughWorkers fates = true) : Granted (step.survive ids fates w) := by
  cases habout : step.aboutSubnets with
  | false => exact h.congr (survive_sameSubnets ids habout fates w)
  | true =>
    cases step with
    | root call outside =>
      rw [Step.throughWorkers, show call.aboutSubnets = true from habout] at hstep
      cases hstep
    | join i address port => cases habout
    | request i client wanted =>
      cases wanted with
      | subnet method =>
        have hfaithful : (Unreliable.mk w fates).Faithful := by
          intro fate hfate
          exact beq_iff_eq.1 (List.all_eq_true.1 hstep fate hfate)
        exact (handle_granted client method).after (s := ⟨w, fates⟩) ⟨h, hfaithful⟩
      | _ => cases habout

theorem surviving_granted (ids : Fin n ↪ String) (steps : List (Step n × List Fate))
    (hsteps : ∀ e ∈ steps, e.1.throughWorkers e.2 = true) : Granted (surviving ids steps) := by
  induction steps with
  | nil => exact .empty
  | cons step earlier ih =>
    exact (ih fun e he => hsteps e (List.mem_cons_of_mem _ he)).survive
      (hsteps step List.mem_cons_self)

/-! ## The books in order -/

/-- A cluster has noted down that a worker has the subnet that starts at a number. -/
def HasSubnet (w : World n) (i : Fin n) (client : String) (f : Family) (v : Nat) : Prop :=
  v < f.size ∧ ∃ node, w.clusters[i].node? client = some node ∧
    node.subnets.get f = some (Codec.render v f)

/-- The subnets of a family are in order. -/
structure SubnetsInOrder (w : World n) (f : Family) : Prop where
  /-- The subnets of the workers are those that the root has handed out and not taken back: those
  before its next one that are not free. -/
  out : ∃ next free, (Pool.subnets f).Shows w.root next free ∧
    ∀ v, (∃ (i : Fin n) (client : String), HasSubnet w i client f v) ↔
      (Pool.subnets f).layout.Allocatable v ∧ v < next ∧ v ∉ free
  /-- No subnet is noted down for two workers. -/
  once : ∀ {i j client other v}, HasSubnet w i client f v → HasSubnet w j other f v →
    i = j ∧ client = other
  /-- Each worker that is noted down has a subnet. -/
  everyone : ∀ (i : Fin n) (client : String), (w.clusters[i].node? client).isSome →
    ∃ v, HasSubnet w i client f v
  /-- Different subnets have no address in common. -/
  apart : ∀ {i j client other v v'}, HasSubnet w i client f v → HasSubnet w j other f v' →
    v ≠ v' → v + subnetSize f ≤ v' ∨ v' + subnetSize f ≤ v
  /-- All addresses of a subnet lie in the address space. -/
  inside : ∀ {i client v}, HasSubnet w i client f v → ∀ a, v ≤ a → a < v + subnetSize f →
    (Pool.subnets f).layout.covers a = true

theorem exists_hasSubnet : (∃ (i : Fin n) (client : String), HasSubnet w i client f v) ↔
    v < f.size ∧ Codec.render v f ∈ ofFamily f (workerSubnets w) := by
  rw [mem_ofFamily, mem_workerSubnets]
  constructor
  · rintro ⟨i, client, hv, node, hnode, hget⟩
    exact ⟨hv, i, client, node, hnode, hget⟩
  · rintro ⟨hv, i, client, node, hnode, hget⟩
    exact ⟨i, client, hv, node, hnode, hget⟩

/-- A subnet that is out once is noted down for one worker. -/
theorem HasSubnet.once (h : HasSubnet w i client f v) (h' : HasSubnet w j other f v)
    (hnodup : (ofFamily f (workerSubnets w)).Nodup) : i = j ∧ client = other := by
  obtain ⟨-, node, hnode, hget⟩ := h
  obtain ⟨-, node', hnode', hget'⟩ := h'
  refine Decidable.byContradiction fun hne => ?_
  -- if the first worker is left out, the second one still has the subnet
  have hleft : (withoutNode i client w).clusters[j].node? other = some node' := by
    rw [node?_withoutNode, if_neg fun heq => hne ⟨heq.1.symm, heq.2.symm⟩]
    exact hnode'
  rw [(perm_ofFamily (workerSubnets_withoutNode hnode)).nodup_iff, ofFamily_append] at hnodup
  exact (List.nodup_append.1 hnodup).2.2 _ (mem_ofFamily.2 (Dual.mem_present.2 hget)) _
    (mem_ofFamily.2 (mem_workerSubnets.2 ⟨j, other, node', hleft, hget'⟩)) rfl

/-- Where both tiers agree, the subnets are in order. -/
theorem Granted.inOrder (h : Granted w) (f : Family) : SubnetsInOrder w f := by
  have hledger := h.out f
  obtain ⟨next, free, hshows, hiff⟩ := hledger.mem_render_iff (subnets_regular f)
  have hout : ∀ v, (∃ (i : Fin n) (client : String), HasSubnet w i client f v) ↔
      (Pool.subnets f).layout.Allocatable v ∧ v < next ∧ v ∉ free := by
    refine fun v => exists_hasSubnet.trans ⟨fun ⟨hv, hm⟩ => (hiff v hv).1 hm, fun hv => ?_⟩
    have hlt := (subnets_regular f).lt_size hv.1
    exact ⟨hlt, (hiff v hlt).2 hv⟩
  have hallocatable : ∀ {i client v}, HasSubnet w i client f v →
      (Pool.subnets f).layout.Allocatable v :=
    fun hv => ((hout _).1 ⟨_, _, hv⟩).1
  refine ⟨⟨next, free, hshows, hout⟩, ?_, fun i client hsome => ?_, ?_, ?_⟩
  · exact fun hv hv' => hv.once hv' (hledger.nodup (subnets_regular f))
  · obtain ⟨node, hnode⟩ := Option.isSome_iff_exists.1 hsome
    obtain ⟨-, v4, v6, hpair⟩ := h.nodes i client node hnode
    obtain ⟨text, hget⟩ : ∃ text, node.subnets.get f = some text := by
      rw [hpair]
      cases f with
      | v4 => exact ⟨v4, rfl⟩
      | v6 => exact ⟨v6, rfl⟩
    have hm : text ∈ ofFamily f (workerSubnets w) :=
      mem_ofFamily.2 (mem_workerSubnets.2 ⟨i, client, node, hnode, hget⟩)
    obtain ⟨-, -, v, -, rfl, hok, -⟩ := hledger.mem hm
    exact ⟨v, (subnets_regular f).lt_size hok, node, hnode, hget⟩
  · exact fun hv hv' => subnets_apart (hallocatable hv) (hallocatable hv')
  · exact fun hv _ => covers_of_subnet (hallocatable hv)

/-- **Subnets of the workers.** After every run in which only workers use the subnets of the root,
and in which a request for subnets that is lost on the way has no effect, the subnets that clusters
have noted down for their workers are exactly those that the root has handed out and not taken back.
Each of them is one worker's, different ones have no address in common, and all addresses lie in the
address space. A worker that asks again is answered with its subnets, and nothing else happens. -/
theorem subnets_in_order (ids : Fin n ↪ String) (steps : List (Step n × List Fate))
    (hsteps : ∀ e ∈ steps, e.1.throughWorkers e.2 = true) :
    (∀ f, SubnetsInOrder (surviving ids steps) f) ∧
      ∀ (i : Fin n) (client : String) (node : WorkerNode) (fates : List Fate),
        (surviving ids steps).clusters[i].node? client = some node →
        (clusterOver (rootOver (callOver ids)) (ids i) i).handle client (.subnet .get)
            ⟨surviving ids steps, fates⟩ =
          (.ok (some (.subnets node.subnets)),
            ⟨(publisher i client (.subnets node.subnets) (surviving ids steps)).2, fates⟩) := by
  have hgranted := surviving_granted ids steps hsteps
  refine ⟨hgranted.inOrder, fun i client node fates hnode => ?_⟩
  exact Tier.handle_getSubnets (hgranted.nodes i client node hnode).1 hnode

/-- A worker asks for subnets twice and gives them back twice, since the first request to do so is
lost. Then another worker asks. -/
def handedOn : List (Step 1 × List Fate) :=
  [(.request 0 "w2" (.subnet .get), []),
    (.request 0 "w1" (.subnet .delete), []),
    (.request 0 "w1" (.subnet .delete), [⟨0, false⟩]),
    (.request 0 "w1" (.subnet .get), []),
    (.request 0 "w1" (.subnet .get), []),
    (.join 0 "127.0.0.1" 10000, [])]

/-- The other worker has the same subnets in the end. -/
theorem subnets_in_order_handedOn : (∀ f, SubnetsInOrder (surviving alone handedOn) f) ∧
    ((clusterOver (rootOver (callOver alone)) "c1" 0).handle "w2" (.subnet .get)
        ⟨surviving alone handedOn, []⟩).1 =
      .ok (some (.subnets ⟨some "172.18.0.0", some "fc00::"⟩)) := by
  have hall := subnets_in_order alone handedOn (by decide +kernel)
  refine ⟨hall.1, ?_⟩
  exact congrArg Prod.fst
    (hall.2 0 "w2" ⟨"w2", ⟨some "172.18.0.0", some "fc00::"⟩⟩ [] (by decide +kernel))

end Hierarchy

end Overlay
