import Overlay.Proofs.Hierarchy.Farewells

/-!
# Ghosts

A ghost is an instance that a cluster has cached although the root no longer has it. A cluster that
has cached a job is told when the root undeploys one of its instances, because the root counts it
among the interested parties; but it ignores what it is told if none of its own workers is
interested in the job. That happens when the job came into the cache with the report of a worker and
not with a query.

By `Hierarchy.noGhosts_iff` this is the only way for a ghost to appear while the numbers of
instances fit: a root that has run out of numbers may give one of them to another instance.
-/

namespace Overlay.Hierarchy

open Overlay.Action (Triple)

variable {n : Nat} {ids : Fin n ↪ String} {i : Fin n} {w : World n}

/-- **No ghosts.** Whatever a cluster has cached of a job, the root still has, and so it has
whatever a cluster answers from its cache. -/
structure NoGhosts (ids : Fin n ↪ String) (w : World n) : Prop where
  cached : ∀ (i : Fin n) name job, w.clusters[i].job? name = some job →
    ∃ known, w.root.job? name = some known ∧ ∀ l ∈ job.locations, l ∈ known.locations
  answered : ∀ (i : Fin n) requester query selector job answer, query.selector? = some selector →
    w.clusters[i].select selector = some job →
    ((directCluster ids i).tableQuery requester query w).1 = .ok answer →
    ∃ known, w.root.job? answer.jobName = some known ∧
      ∀ seen ∈ answer.instances, seen.record.location ∈ known.locations

/-- A step by which the root forgets an instance that a cluster has cached, without the cluster's
hearing of it. -/
inductive Unheard (ids : Fin n ↪ String) (w : World n) : Step n → Prop
  /-- The instance is undeployed, and nobody at the cluster is interested in the job. -/
  | undeployed {systemId : String} {number : UInt32}
      {outside : (RootCall.undeployInstance systemId number).forChild = false} {u : Undeployment}
      {known : Job} {i : Fin n} {job : Job} {l : UInt32 × Addresses} :
      ((directRoot ids).perform (.undeployInstance systemId number) w).1 = .ok u →
      w.root.jobBySystemId? systemId = some known → w.clusters[i].job? known.name = some job →
      l ∈ job.locations → l.1 = number → job.parties.isEmpty = true →
      Unheard ids w (.root (.undeployInstance systemId number) outside)
  /-- Instances are added, their numbers do not fit, and one of them gets the number of the cached
  one. -/
  | renumbered {systemId cluster : String} {replicas : UInt32}
      {outside : (RootCall.addInstances systemId replicas cluster).forChild = false}
      {known known' : Job} {i : Fin n} {job : Job} {l : UInt32 × Addresses}
      {addresses : Addresses} :
      w.root.jobBySystemId? systemId = some known → w.clusters[i].job? known.name = some job →
      l ∈ job.locations → ¬known.Fits replicas.toNat →
      ((directRoot ids).perform (.addInstances systemId replicas cluster)
        w).2.root.job? known.name = some known' →
      (l.1, addresses) ∈ known'.locations → addresses ≠ l.2 →
      Unheard ids w (.root (.addInstances systemId replicas cluster) outside)

/-! ## Nothing stale, no ghosts -/

/-- A cluster that has a job answers from its cache. -/
theorem tableQuery_cached {requester : String} {query : TableQuery} {selector : Selector}
    {job : Job} (hquery : query.selector? = some selector)
    (hselect : w.clusters[i].select selector = some job) :
    Triple (· = w) ((directCluster ids i).tableQuery requester query)
      (fun answer _ => answer.jobName = job.name ∧
        answer.instances = job.instances.map (.ofInstance job.serviceAddresses))
      (fun _ _ => False) := by
  have hresolve : Triple (· = w) ((directCluster ids i).resolve selector)
      (fun found _ => found = ⟨.ofJob job, true⟩) (fun _ _ => False) := by
    refine .bind (R := fun found _ => found = some job) (Tier.look_spec ?_) ?_
    · rintro _ rfl
      exact hselect
    · rintro found
      refine .of_forall ?_
      rintro _ rfl
      exact .pure fun _ _ => rfl
  simp only [Tier.tableQuery, hquery]
  refine .attempt_bind hresolve (fun found => .of_forall ?_) fun _ => .of_false
  rintro _ rfl
  refine .attempt_bind (R := fun _ _ => True) (F := fun _ _ => True) ?_ (fun _ => ?_) fun _ => ?_
  · exact .of_after fun _ _ => trivial
  · exact .pure fun _ _ => ⟨rfl, rfl⟩
  · exact .pure fun _ _ => ⟨rfl, rfl⟩

theorem Fresh.noGhosts (h : Fresh ids w) : NoGhosts ids w where
  cached i name job hjob := by
    obtain ⟨-, -, -, known, hknown, -, hlocations⟩ := h.cached i name job hjob
    exact ⟨known, hknown, fun l hl => (hlocations l hl).resolve_right id⟩
  answered i requester query selector job answer hquery hselect hanswer := by
    have hnamed : w.clusters[i].Named := fun name job hjob => (h.cached i name job hjob).named
    have hjob := Tier.job?_of_select hnamed hselect
    obtain ⟨-, -, -, known, hknown, -, hlocations⟩ := h.cached i job.name job hjob
    obtain ⟨hname, hinstances⟩ := (tableQuery_cached hquery hselect).of_ok rfl
      (Prod.ext hanswer rfl)
    refine ⟨known, hname ▸ hknown, fun seen hseen => ?_⟩
    rw [hinstances] at hseen
    obtain ⟨j, hj, rfl⟩ := List.mem_map.1 hseen
    exact (hlocations j.location (List.mem_map_of_mem hj)).resolve_right id

/-! ## One step -/

/-- The root adds instances. -/
theorem addInstances_fresh {systemId cluster : String} {replicas : UInt32}
    {outside : (RootCall.addInstances systemId replicas cluster).forChild = false} (h : Fresh ids w)
    (hheard : ¬Unheard ids w (.root (.addInstances systemId replicas cluster) outside)) :
    Fresh ids ((directRoot ids).perform (.addInstances systemId replicas cluster) w).2 := by
  obtain ⟨lost, hb⟩ := h.sound.books
  obtain ⟨r', messages, hstep, hw'⟩ := Tier.perform_spec (t := directRoot ids) rfl hb
    (.addInstances systemId replicas cluster)
  obtain ⟨hsound, hclusters⟩ := h.sound.step hb hstep fun _ _ => trivial
  generalize ((directRoot ids).perform (.addInstances systemId replicas cluster) w).1 = result
    at hstep
  cases hstep with
  | failed hunder =>
    rw [hw']
    exact h.grow hsound (.ofJobs hunder.1.jobs) hclusters
  | added ha =>
    obtain ⟨known, known', hfound, hknown, hj, hparties, -, hfits, hnumbers⟩ := ha.job hb
    rw [hw']
    refine h.replaceJob hsound hclusters hknown hj (fun _ _ _ hl => hl) fun k job hjob hparty => ?_
    refine ⟨hparties ▸ hparty, fun l hl hmem => .inl ?_⟩
    obtain ⟨addresses, hmem'⟩ := hnumbers l hmem
    by_cases haddresses : addresses = l.2
    · have hsame : (l.1, addresses) = l := Prod.ext rfl haddresses
      exact hsame ▸ hmem'
    by_cases hfit : known.Fits replicas.toNat
    · exact hfits hfit l hmem
    · refine absurd (.renumbered hfound hjob hl hfit ?_ hmem' haddresses) hheard
      have hknown' : r'.job? known.name = some known' := by
        rw [Registry.job?, hj, Table.get?_insert_self]
      rw [hw']
      exact hknown'

/-- The root undeploys an instance. -/
theorem undeployInstance_fresh {systemId : String} {number : UInt32}
    {outside : (RootCall.undeployInstance systemId number).forChild = false} (h : Fresh ids w)
    (hheard : ¬Unheard ids w (.root (.undeployInstance systemId number) outside)) :
    Fresh ids ((directRoot ids).perform (.undeployInstance systemId number) w).2 := by
  obtain ⟨lost, hb⟩ := h.sound.books
  obtain ⟨r', messages, hstep, hw'⟩ := Tier.perform_spec (t := directRoot ids) rfl hb
    (.undeployInstance systemId number)
  obtain ⟨hsound, hclusters⟩ := h.sound.step hb hstep fun _ _ => trivial
  generalize hresult : ((directRoot ids).perform (.undeployInstance systemId number) w).1 = result
    at hstep
  cases hstep with
  | failed hunder =>
    rw [hw']
    exact h.grow hsound (.ofJobs hunder.1.jobs) hclusters
  | @withdrawn _ _ known _ u _ hfound hwithdrawn =>
    have hknown : w.root.job? known.name = some known := hwithdrawn.job.1
    have hdistinct := h.sound.distinct known.name known hknown
    have hparties : w.root.parties known.name = known.parties.toList := by
      rw [Registry.parties, hknown]
    rw [hw']
    refine tell_farewells ?_ ?_
    · refine h.replaceJob hsound hclusters hknown hwithdrawn.job.2 ?_ fun k job _ hparty => ?_
      · intros
        contradiction
      refine ⟨hparty, fun l _ hmem => ?_⟩
      by_cases hn : l.1 = number
      · exact .inr ⟨rfl, hn, (congrArg (ids k ∈ ·) hparties).mpr (NameSet.mem_toList.2 hparty)⟩
      · exact .inl (hdistinct.mem_locations_remove.2 ⟨hmem, hn⟩)
    · rintro k job hjob ⟨l, hl, hn⟩
      rw [← Bool.not_eq_true]
      exact fun hempty => hheard (.undeployed hresult hfound hjob hl hn hempty)

/-- **One step.** Nothing becomes stale in a step, unless a cluster does not hear of it. -/
theorem Fresh.run (h : Fresh ids w) (step : Step n) (hheard : ¬Unheard ids w step) :
    Fresh ids (step.run ids w) := by
  cases step with
  | root call outside =>
    cases call with
    | addInstances systemId replicas cluster => exact addInstances_fresh h hheard
    | undeployInstance systemId number => exact undeployInstance_fresh h hheard
    | childLookup child selector => cases outside
    | removeInterest name party => cases outside
    | _ => exact (perform_coherent callBack_coherent _ rfl).after h
  | join i address port => exact (registerWithParent_coherent callBack_coherent address port).after h
  | request i client wanted => exact (handle_coherent callBack_coherent client wanted).after h

/-- A cluster that does not hear of a step is left with a ghost. -/
theorem Unheard.ghost {step : Step n} (hunheard : Unheard ids w step) (h : Fresh ids w) :
    ¬NoGhosts ids (step.run ids w) := by
  intro hno
  obtain ⟨lost, hb⟩ := h.sound.books
  cases hunheard with
  | @undeployed systemId number _ u known i job l hresult hfound hjob hl hn hempty =>
    obtain ⟨r', messages, hstep, hw'⟩ := Tier.perform_spec (t := directRoot ids) rfl hb
      (.undeployInstance systemId number)
    have hsound := (h.sound.step hb hstep fun _ _ => trivial).1
    change NoGhosts ids ((directRoot ids).perform (.undeployInstance systemId number) w).2 at hno
    rw [hw'] at hno
    rw [hresult] at hstep
    cases hstep with
    | @withdrawn _ _ known _ _ _ hfound' hwithdrawn =>
      obtain rfl := Option.some.inj (hfound.symm.trans hfound')
      have hdistinct := h.sound.distinct _ _ hwithdrawn.job.1
      -- the farewells change neither the jobs of the root nor this cache
      obtain ⟨hjobs, hcluster⟩ := tell_unheard (w := { w with root := r' }) hsound hjob hempty
        (w.root.parties known.name) number
      obtain ⟨known', hknown', hlocations⟩ := hno.cached i known.name job (hcluster ▸ hjob)
      have hafter : r'.job? known.name = some (known.remove number) := by
        rw [Registry.job?, hwithdrawn.job.2, Table.get?_insert_self]
      obtain rfl := Option.some.inj
        (hafter.symm.trans ((Registry.job?_congr hjobs known.name).symm.trans hknown'))
      exact (hdistinct.mem_locations_remove.1 (hlocations l hl)).2 hn
  | @renumbered systemId cluster replicas _ known known' i job l addresses hfound hjob hl _ hknown'
      hmem hne =>
    obtain ⟨r', messages, hstep, hw'⟩ := Tier.perform_spec (t := directRoot ids) rfl hb
      (.addInstances systemId replicas cluster)
    have hsound := (h.sound.step hb hstep fun _ _ => trivial).1
    generalize ((directRoot ids).perform (.addInstances systemId replicas cluster) w).1 = result
      at hstep
    have hsilent : messages = [] := by
      cases hstep with
      | failed _ => rfl
      | added _ => rfl
    subst hsilent
    change NoGhosts ids ((directRoot ids).perform (.addInstances systemId replicas cluster) w).2
      at hno
    rw [hw'] at hno hknown'
    obtain ⟨known'', hknown'', hlocations⟩ := hno.cached i known.name job hjob
    obtain rfl := Option.some.inj (hknown''.symm.trans hknown')
    have hsame := (hsound.distinct _ _ hknown'').location_eq (hlocations l hl) hmem rfl
    exact hne (congrArg Prod.snd hsame).symm

/-- Without unheard steps nothing is stale after a run. -/
theorem fresh_after {steps : List (Step n)}
    (hheard : ∀ step earlier, step :: earlier <:+ steps → ¬Unheard ids (after ids earlier) step) :
    Fresh ids (after ids steps) := by
  induction steps with
  | nil => exact Coherent.empty
  | cons step earlier ih =>
    have hearlier := ih fun s e he => hheard s e (he.trans (List.suffix_cons step earlier))
    exact hearlier.run step (hheard step earlier (List.suffix_refl _))

/-- **Ghosts.** A run is free of ghosts at every moment if and only if none of its steps goes
unheard: no instance is undeployed at the root while a cluster has cached it without any interested
worker, and no number of a cached instance is given to another one because numbers do not fit. -/
theorem noGhosts_iff (ids : Fin n ↪ String) (steps : List (Step n)) :
    (∀ earlier, earlier <:+ steps → NoGhosts ids (after ids earlier)) ↔
      ∀ step earlier, step :: earlier <:+ steps → ¬Unheard ids (after ids earlier) step := by
  constructor
  · intro hno
    induction steps with
    | nil => exact fun _ _ h => nomatch List.suffix_nil.1 h
    | cons step earlier ih =>
      have hearlier := ih fun e he => hno e (he.trans (List.suffix_cons step earlier))
      intro s e he
      rcases List.suffix_cons_iff.1 he with heq | he
      · obtain ⟨rfl, rfl⟩ := List.cons.inj heq
        exact fun hunheard => hunheard.ghost (fresh_after hearlier) (hno _ (List.suffix_refl _))
      · exact hearlier s e he
  · intro hheard earlier he
    exact (fresh_after fun s e hs => hheard s e (hs.trans he)).noGhosts

/-! ## A ghost -/

/-- A worker reports the network of an instance of a job that no worker has asked for. Then the root
undeploys the instance. -/
def reportedThenGone : List (Step 1) :=
  [.root (.undeployInstance "J" 0) (Eq.refl false),
    .request 0 "w1" (.deployed ⟨"a.n.s.n", 0, ⟨⟨some "10.18.0.2", none⟩, none, none⟩⟩),
    .root (.addInstances "J" 2 "c1") (Eq.refl false),
    .root (.register ⟨"a", "n", "s", "n", ⟨none, none⟩⟩ "J") (Eq.refl false),
    .join 0 "127.0.0.1" 10000]

/-- The cluster has cached the job with the report, and goes on to cache the instance. -/
theorem ghost_reported : ¬NoGhosts alone (after alone reportedThenGone) := by
  intro hno
  have hcluster : ((after alone reportedThenGone).clusters[(0 : Fin 1)].job? "a.n.s.n").map
      (fun job => job.locations.map (·.1)) = some [0, 1] := by
    decide +kernel
  have hroot : ((after alone reportedThenGone).root.job? "a.n.s.n").map
      (fun job => job.locations.map (·.1)) = some [1] := by
    decide +kernel
  obtain ⟨job, hjob, hnumbers⟩ := Option.map_eq_some_iff.1 hcluster
  obtain ⟨known, hknown, hlocations⟩ := hno.cached 0 _ job hjob
  rw [hknown, Option.map_some, Option.some_inj] at hroot
  have hmem : (0 : UInt32) ∈ job.locations.map (·.1) := hnumbers ▸ List.mem_cons_self
  obtain ⟨l, hl, hzero⟩ := List.mem_map.1 hmem
  have hghost : l.1 ∈ known.locations.map (·.1) := List.mem_map_of_mem (hlocations l hl)
  rw [hroot, hzero] at hghost
  exact absurd hghost (by decide)

/-- A cluster whose worker has asked for the job hears of the undeployment. -/
example : ((after alone [.root (.undeployInstance "J" 0) rfl,
    .request 0 "w1" (.tableQuery ⟨some "a.n.s.n", none⟩),
    .root (.addInstances "J" 2 "c1") rfl,
    .root (.register ⟨"a", "n", "s", "n", ⟨none, none⟩⟩ "J") rfl,
    .join 0 "127.0.0.1" 10000]).clusters[(0 : Fin 1)].job? "a.n.s.n").map
      (fun job => job.locations.map (·.1)) = some [1] := by
  decide +kernel

end Overlay.Hierarchy
