import Overlay.Proofs.Cluster.Operations
import Overlay.Proofs.Hierarchy.Coherence
import Overlay.Proofs.Hierarchy.Unreliable

/-!
# Coverage

Whatever a cluster has cached, the root knows, and counts the cluster among the interested parties
(`Hierarchy.Covered`). This needs no call to be answered: the root notes the interest of a cluster
before it answers a look-up, and a cluster drops a record before it withdraws its interest. So an
answer that is lost leaves the root with a party too many, never with one too few
(`Hierarchy.covered_after`).
-/

namespace Overlay.Hierarchy

open Overlay.Action (Triple)

variable {n : Nat} {ids : Fin n ↪ String} {i : Fin n} {w : World n} {root : Registry}

/-- The root knows a job and counts a cluster among its interested parties. -/
def Lists (root : Registry) (id name : String) : Prop :=
  ∃ known, root.job? name = some known ∧ id ∈ known.parties

/-- Whatever a cluster has cached, the root lists the cluster for it. -/
structure Covered (ids : Fin n ↪ String) (w : World n) : Prop where
  books : ∃ lost, w.root.Books lost
  cached : ∀ i name job, w.clusters[i].job? name = some job →
    job.name = name ∧ Lists w.root (ids i) name

/-! ## Changes -/

theorem Lists.retain {id name : String} {root' : Registry} (h : Lists root id name)
    (hretains : root.Retains root') : Lists root' id name := by
  obtain ⟨known, hknown, hparty⟩ := h
  obtain ⟨known', hknown', hparties⟩ := hretains name known hknown
  exact ⟨known', hknown', hparties id hparty⟩

namespace Covered

theorem empty : Covered ids (.empty n) where
  books := ⟨[], .empty⟩
  cached i name job hjob := by
    simp only [World.empty, Vector.getElem_replicate, getElem_number] at hjob
    cases hjob

/-- The root may do whatever keeps its books and takes no party away. -/
theorem retain (h : Covered ids w) (hbooks : ∃ lost, root.Books lost)
    (hretains : w.root.Retains root) : Covered ids { w with root } where
  books := hbooks
  cached i name job hjob := by
    obtain ⟨hname, hlists⟩ := h.cached i name job hjob
    exact ⟨hname, hlists.retain hretains⟩

/-- A cluster may drop what it likes. -/
theorem shrink (h : Covered ids w) {r : Registry} (hr : w.clusters[i].Shrinks r) :
    Covered ids ((clusterPart i).set r w) where
  books := h.books
  cached k name job hjob := by
    rw [clusters_set] at hjob
    split at hjob
    · next heq =>
      subst heq
      obtain ⟨old, hold, hname, -, -⟩ := hr name job hjob
      obtain ⟨hname', hlists⟩ := h.cached k name old hold
      exact ⟨hname.trans hname', hlists⟩
    · exact h.cached k name job hjob

/-- A cluster may take over what the root lists it for. -/
theorem merge (h : Covered ids w) {job : Job} (hlists : Lists w.root (ids i) job.name) :
    Covered ids ((clusterPart i).set (w.clusters[i].mergeJob job).2 w) where
  books := h.books
  cached k name cached hcached := by
    rw [clusters_set] at hcached
    split at hcached
    · next heq =>
      subst heq
      rw [Registry.mergeJob, Registry.job?, Table.get?_insert] at hcached
      split at hcached
      · next hname =>
        subst hname
        obtain rfl := Option.some.inj hcached
        refine ⟨Registry.name_merged fun old hold => ?_, hlists⟩
        exact (h.cached k _ old hold).1
      · exact h.cached k name cached hcached
    · exact h.cached k name cached hcached

/-- The interest of a cluster that has dropped a job may be withdrawn. -/
theorem left (h : Covered ids w) {name : String} (hdropped : w.clusters[i].job? name = none)
    (hleft : Tier.Left w.root name (ids i) root) : Covered ids { w with root } := by
  obtain ⟨lost, hbooks⟩ := h.books
  refine ⟨⟨lost, hleft.sameBooks.books hbooks⟩, fun k key job hjob => ?_⟩
  obtain ⟨hname, known, hknown, hparty⟩ := h.cached k key job hjob
  refine ⟨hname, ?_⟩
  cases hleft with
  | same => exact ⟨known, hknown, hparty⟩
  | @erased old hold =>
    by_cases hkey : key = name
    · subst hkey
      obtain rfl := Option.some.inj (hold.symm.trans hknown)
      refine ⟨_, Table.get?_insert_self .., NameSet.mem_erase.2 ⟨fun heq => ?_, hparty⟩⟩
      have hk : k = i := ids.injective heq
      rw [← hk] at hdropped
      rw [hdropped] at hjob
      cases hjob
    · exact ⟨known, (Table.get?_insert_of_ne _ hkey _).trans hknown, hparty⟩

end Covered

/-! ## Calls of the clusters -/

/-- Telling the clusters of something leaves everything covered. -/
def KeepsCovered (ids : Fin n ↪ String) (notify : Notifier (Unreliable n)) : Prop :=
  ∀ recipient message s, Covered ids s.world → Covered ids (notify recipient message s).2.world

section

variable {notify : Notifier (Unreliable n)} (hnotify : KeepsCovered ids notify)

include hnotify

/-- No call of the root uncovers anything, but for the withdrawal of a party. -/
theorem perform_covered (call : RootCall) (hcall : ∀ name party, call ≠ .removeInterest name party) :
    Triple (fun s => Covered ids s.world) ((rootOver notify).perform call)
      (fun _ s => Covered ids s.world) (fun _ s => Covered ids s.world) := by
  refine .of_after fun s h => ?_
  obtain ⟨lost, hbooks⟩ := h.books
  obtain ⟨r', messages, hstep, hs'⟩ := Tier.perform_spec (t := rootOver notify) (s := s) rfl hbooks
    call
  obtain ⟨hbooks', -⟩ := hstep.books hbooks
  rw [hs']
  refine Tier.tell_keeps (I := fun s : Unreliable n => Covered ids s.world)
    (h.retain ⟨_, hbooks'⟩ (hstep.retains hbooks hcall)) ?_
  exact fun m _ s hs => hnotify m.1 m.2 s hs

omit hnotify in
/-- **Look-ups.** The root lists the cluster for the job that it answers with. -/
theorem fetch_covered (selector : Selector) : Triple (fun s => Covered ids s.world)
    ((rootOver notify).connection (ids i) (.fetchJob selector))
    (fun found s => Covered ids s.world ∧
      ∀ job, found = some job → Lists s.world.root (ids i) job.name)
    (fun _ s => Covered ids s.world) := by
  refine .mapError (.bind (requireCluster_keeps (ids i)) fun _ => .of_forall fun s h => ?_)
  obtain ⟨lost, hbooks⟩ := h.books
  refine (Tier.childLookup_root (t := rootOver notify) (s := s) rfl hbooks.named (ids i)
    selector).mono ?_ fun _ _ hs => hs.1 ▸ h
  intro found s' hfound
  obtain ⟨r', rfl, hl⟩ := hfound
  refine ⟨h.retain ⟨lost, hl.sameBooks.books hbooks⟩ hl.grows.1.retains, ?_⟩
  intro job hjob
  subst hjob
  cases hl with
  | found _ hknown =>
    exact ⟨_, Table.get?_insert_self .., NameSet.mem_insert.2 (.inl rfl)⟩

/-- Calls of a cluster uncover nothing, but for the withdrawal of its interest. -/
theorem connection_covered {call : ParentCall} (hcall : ∀ name, call ≠ .removeInterest name) :
    Triple (fun s => Covered ids s.world) ((rootOver notify).connection (ids i) call)
      (fun _ s => Covered ids s.world) (fun _ s => Covered ids s.world) := by
  have hrequire : Triple (fun s => Covered ids s.world) ((rootOver notify).requireCluster (ids i))
      (fun _ s => Covered ids s.world) (fun _ s => Covered ids s.world) :=
    requireCluster_keeps (ids i)
  refine .mapError ?_
  cases call with
  | fetchJob selector =>
    exact .bind hrequire fun _ => perform_covered hnotify (.childLookup (ids i) selector) nofun
  | reportDeployment report =>
    exact .bind (perform_covered hnotify (.applyDeployReport report) nofun) fun _ =>
      .pure fun _ h => h
  | requestSubnets =>
    exact .bind hrequire fun _ => perform_covered hnotify .requestSubnets nofun
  | releaseSubnets subnets =>
    exact .bind hrequire fun _ => perform_covered hnotify (.releaseSubnets subnets) nofun
  | removeInterest name => exact absurd rfl (hcall name)
  | register registration =>
    exact .bind (perform_covered hnotify (.registerCluster registration) nofun) fun _ =>
      .pure fun _ h => h

omit hnotify in
/-- A cluster that has dropped a job may withdraw its interest, any number of times. -/
theorem withdraw_covered (name : String) :
    Triple (fun s => Covered ids s.world ∧ s.world.clusters[i].job? name = none)
      ((rootOver notify).connection (ids i) (.removeInterest name))
      (fun _ s => Covered ids s.world ∧ s.world.clusters[i].job? name = none)
      (fun _ s => Covered ids s.world ∧ s.world.clusters[i].job? name = none) := by
  refine .mapError (.bind (requireCluster_keeps (ids i)) fun _ => ?_)
  refine .bind (R := fun _ s => Covered ids s.world ∧ s.world.clusters[i].job? name = none)
    (.of_forall fun s h => ?_) fun _ => .pure fun _ hs => hs
  refine (Tier.removeInterest_root (t := rootOver notify) rfl s name (ids i)).mono ?_ ?_
  · intro _ s' hleft
    obtain ⟨r', rfl, hl⟩ := hleft
    exact ⟨h.1.left h.2 hl, h.2⟩
  · intro _ s' hleft
    obtain ⟨r', rfl, hl⟩ := hleft
    exact ⟨h.1.left h.2 hl, h.2⟩

/-! ## One cluster -/

/-- **One cluster.** Whatever becomes of its calls, a cluster that drops no record leaves everything
covered. -/
theorem upholds_covered (i : Fin n) :
    (clusterOver (rootOver notify) (ids i) i).Upholds (ids i)
      (fun call => carried (.unreachable "no answer") ((rootOver notify).connection (ids i) call))
      (fun s => Covered ids s.world) fun job s => Lists s.world.root (ids i) job.name where
  role := rfl
  trim h hr := h.shrink hr.shrinks
  merge h hlists := h.merge hlists
  fetch selector := carried_spec (fun _ _ h => h) (fun _ _ h => h.1) (fetch_covered selector)
  call hcall := carried_spec (fun _ _ h => h) (fun _ _ h => h) (connection_covered hnotify hcall)
  notify _ _ _ h := ⟨h.books, h.cached⟩

/-- **Requests.** Whatever a worker asks for, everything stays covered. -/
theorem handle_covered (client : String) (request : ChildRequest) :
    Triple (fun s => Covered ids s.world)
      ((clusterOver (rootOver notify) (ids i) i).handle client request)
      (fun _ s => Covered ids s.world) (fun _ s => Covered ids s.world) := by
  have hupholds := upholds_covered hnotify i
  refine hupholds.handle client request (fun report _ => ?_) fun name _ => ?_
  · refine hupholds.undeploy (fun {s} h name job hjob => (h.cached i name job hjob).1) ?_ _ _
    exact fun {s} name h => h.shrink (.deleteJob s.world.clusters[i] name)
  · refine hupholds.removeInterest (fun {s} name h => ?_) name client
    refine (carried_spec
      (P := fun s => Covered ids s.world ∧ s.world.clusters[i].job? name = none)
      (fun _ _ hs => hs) (fun _ _ hs => hs) (withdraw_covered name)).conseq ?_
      (fun _ _ hs => hs.1) fun _ _ hs => hs.1
    intro _ hs
    subst hs
    refine ⟨h.shrink (.deleteJob s.world.clusters[i] name), ?_⟩
    have hget := (clusterPart i).get_set (s.world.clusters[i].deleteJob name) s.world
    exact (congrArg (·.job? name) hget).trans (Table.get?_erase_self ..)

end

/-! ## Calling back -/

theorem tellNobody_covered : KeepsCovered ids tellNobody :=
  fun _ _ _ h => h

/-- A cluster that is marked is listed as before. -/
theorem mark_covered (h : Covered ids w) (id : String) :
    Covered ids { w with root := (w.root.setClusterStatus id .failed).2 } := by
  obtain ⟨lost, hbooks⟩ := h.books
  refine h.retain ⟨lost, (Registry.SameBooks.setClusterStatus ..).books hbooks⟩
    (Registry.Grows.ofJobs ?_).retains
  rw [Registry.setClusterStatus]
  split
  · rfl
  · rfl

/-- Calling the clusters back leaves everything covered, whatever becomes of the calls. -/
theorem callOver_covered : KeepsCovered ids (callOver ids) := by
  intro recipient message s h
  refine (callOver_keeps (P := fun s => Covered ids s.world) (fun _ _ h => h) (fun i update => ?_)
    (fun _ h id => mark_covered h id) recipient message).after h
  exact (upholds_covered tellNobody_covered i).steady.applyUpdate update

/-! ## Runs -/

/-- **One step.** Whatever becomes of the calls of a step, everything stays covered. -/
theorem Covered.survive (h : Covered ids w) (step : Step n) (fates : List Fate) :
    Covered ids (step.survive ids fates w) := by
  cases step with
  | root call outside =>
    have hcall : ∀ name party, call ≠ .removeInterest name party := by
      intro name party heq
      subst heq
      cases outside
    exact (perform_covered callOver_covered call hcall).after (s := ⟨w, fates⟩) h
  | join i address port =>
    have hjoin : Triple (fun s => Covered ids s.world)
        ((clusterOver (rootOver (callOver ids)) (ids i) i).registerWithParent address port)
        (fun _ s => Covered ids s.world) (fun _ s => Covered ids s.world) :=
      .mapError ((upholds_covered callOver_covered i).call nofun)
    exact hjoin.after (s := ⟨w, fates⟩) h
  | request i client wanted =>
    exact (handle_covered callOver_covered client wanted).after (s := ⟨w, fates⟩) h

theorem surviving_covered (ids : Fin n ↪ String) (steps : List (Step n × List Fate)) :
    Covered ids (surviving ids steps) := by
  induction steps with
  | nil => exact .empty
  | cons step earlier ih => exact ih.survive step.1 step.2

/-- **Coverage.** After every run, whatever has become of its calls, the root counts each cluster
among the interested parties of each job that the cluster has in its registry. So the cluster is on
the list of those to be told of any change of the job; whether it is called then depends on its not
being marked as failed. -/
theorem covered_after (ids : Fin n ↪ String) (steps : List (Step n × List Fate)) (i : Fin n)
    (name : String) (h : ((surviving ids steps).clusters[i].job? name).isSome = true) :
    ids i ∈ (surviving ids steps).root.parties name ∧ ∀ update : JobUpdate, update.jobName = name →
      (ids i, .update update) ∈ Tier.announcements (surviving ids steps).root update := by
  obtain ⟨job, hjob⟩ := Option.isSome_iff_exists.1 h
  obtain ⟨-, known, hknown, hparty⟩ := (surviving_covered ids steps).cached i name job hjob
  have hparties : ids i ∈ (surviving ids steps).root.parties name := by
    simp only [Registry.parties, hknown, NameSet.mem_toList]
    exact hparty
  refine ⟨hparties, fun update hupdate => ?_⟩
  exact List.mem_map_of_mem (f := (·, ChildMessage.update update)) (hupdate ▸ hparties)

/-- A worker asks for a job twice. The first look-up takes effect and its answer is lost, the second
one is tried again and answered. The worker leaves, and the withdrawal never arrives; then another
worker asks. -/
def lostAnswers : List (Step 1 × List Fate) :=
  [(.request 0 "w2" (.tableQuery ⟨some "a.n.s.n", none⟩), []),
    (.request 0 "w1" (.removeInterest "a.n.s.n"), [⟨0, false⟩]),
    (.request 0 "w1" (.tableQuery ⟨some "a.n.s.n", none⟩), [⟨1, true⟩]),
    (.request 0 "w1" (.tableQuery ⟨some "a.n.s.n", none⟩), [⟨1, false⟩]),
    (.root (.register ⟨"a", "n", "s", "n", ⟨none, none⟩⟩ "J") (Eq.refl false), []),
    (.join 0 "127.0.0.1" 10000, [⟨2, true⟩])]

/-- The cluster has cached the job in the end, and the root lists it. -/
theorem covered_lostAnswers : "c1" ∈ (surviving alone lostAnswers).root.parties "a.n.s.n" ∧
    ∀ update : JobUpdate, update.jobName = "a.n.s.n" →
      ("c1", .update update) ∈ Tier.announcements (surviving alone lostAnswers).root update :=
  covered_after alone lostAnswers 0 "a.n.s.n" (by decide +kernel)

end Overlay.Hierarchy
