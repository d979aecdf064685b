import Overlay.Proofs.Root.Returns
import Overlay.Proofs.Root.Rollback

/-!
# Undeployment as a whole

A root undeploys an instance if its pools take both addresses of the instance back, and otherwise
nothing happens at all. It asks the pools first, then removes the instance from the record of its
job, and then returns the addresses. A pool does not look at jobs, and the two addresses come from
two pools, so that a pool still takes what it would have taken when it was asked
(`Registry.exists_givenBack`). `RootTier.undeploys_iff` says this for whatever is in the registry.
-/

namespace Overlay

theorem Pool.family_instances (f : Family) : (Pool.instances f).family = f :=
  rfl

/-- What may come back is the address that the text spells. -/
theorem Pool.parse_of_releasable {p : Pool} {r : Registry} {text : String} {bytes : List UInt8}
    (h : p.releasable r text = .ok bytes) : Codec.parse text p.family = .ok bytes := by
  cases hparse : Codec.parse text p.family with
  | error fault => simp [releasable, hparse, Except.mapError, bind, Except.bind] at h
  | ok parsed =>
    simp only [releasable, hparse, Except.mapError, bind, Except.bind, throw, throwThe,
      MonadExceptOf.throw, pure, Except.pure] at h
    -- Whichever check fails, the address is refused.
    repeat'
      split at h
      · cases h
    exact congrArg _ (Except.ok.inj h)

namespace Registry

variable {ε : Type} {r r' : Registry} {list : List (Family × String)}

/-! ## Addresses that come back -/

theorem instances_name_inj {f g : Family} :
    (Pool.instances f).name = (Pool.instances g).name ↔ f = g := by
  cases f <;> cases g <;> decide

/-- Whether addresses may return is found out without a change. -/
theorem checkReturn_cases (list : List (Family × String)) (r : Registry) :
    (checkReturn list r = (.ok (), r) ∧
      ∀ e ∈ list, ∃ bytes, (Pool.instances e.1).releasable r e.2 = .ok bytes) ∨
    ∃ fault, checkReturn list r = (.error fault, r) ∧
      ∃ e ∈ list, ∃ why, (Pool.instances e.1).releasable r e.2 = .error why := by
  induction list with
  | nil => exact .inl ⟨rfl, nofun⟩
  | cons e rest ih =>
    obtain ⟨f, text⟩ := e
    cases h : (Pool.instances f).releasable r text with
    | error why =>
      have hcheck : ((Pool.instances f).checkRelease text).mapError TierError.pool r =
          (.error (.pool why), r) := by
        rw [Action.mapError_apply, Pool.checkRelease, h]
        rfl
      exact .inr ⟨.pool why, Action.bind_of_error hcheck _, _, List.mem_cons_self, why, h⟩
    | ok bytes =>
      have hcheck : ((Pool.instances f).checkRelease text).mapError TierError.pool r =
          (.ok (), r) := by
        rw [Action.mapError_apply, Pool.checkRelease, h]
        rfl
      rw [checkReturn, Action.bind_of_ok hcheck]
      rcases ih with ⟨hok, hall⟩ | ⟨fault, herror, e, he, hwhy⟩
      · exact .inl ⟨hok, List.forall_mem_cons.2 ⟨⟨bytes, h⟩, hall⟩⟩
      · exact .inr ⟨fault, herror, e, List.mem_cons_of_mem _ he, hwhy⟩

/-- Addresses come back to the instance pools one after the other, and none of them is refused. -/
inductive GivenBack : List (Family × String) → Registry → Registry → Prop
  | nil {r : Registry} : GivenBack [] r r
  | cons {f : Family} {text : String} {rest : List (Family × String)} {r r' r'' : Registry} :
      (Pool.instances f).release text r = (.ok (), r') → GivenBack rest r' r'' →
      GivenBack ((f, text) :: rest) r r''

/-- That is what returning them does then. -/
theorem GivenBack.returnInstanceAddresses (h : GivenBack list r r') :
    (Registry.returnInstanceAddresses list : Action Registry ε Unit) r = (.ok (), r') := by
  induction h with
  | nil => rfl
  | @cons f text rest r r' r'' hrelease _ ih =>
    have hattempt : (((Pool.instances f).release text).attempt : Action Registry ε _) r =
        (.ok (.ok ()), r') := by
      rw [Action.attempt_apply, hrelease]
    rw [Registry.returnInstanceAddresses, Action.bind_of_ok hattempt]
    exact ih

/-- **Nothing is refused.** Addresses of different families that may come back come back one after
the other, each to the end of the free list of its pool. -/
theorem exists_givenBack (hfamilies : (list.map (·.1)).Nodup)
    (h : ∀ e ∈ list, ∃ bytes, (Pool.instances e.1).releasable r e.2 = .ok bytes) :
    ∃ r', GivenBack list r r' ∧ r.OnlyPools r' ∧
      (∀ e ∈ list, ∃ bytes, Codec.parse e.2 e.1 = .ok bytes ∧
        r'.pool (Pool.instances e.1).name = { r.pool (Pool.instances e.1).name with
          free := (r.pool (Pool.instances e.1).name).free ++ [bytes] }) ∧
      ∀ name, (∀ e ∈ list, name ≠ (Pool.instances e.1).name) → r'.pool name = r.pool name := by
  induction list generalizing r with
  | nil => exact ⟨r, .nil, .refl r, nofun, fun _ _ => rfl⟩
  | cons e rest ih =>
    obtain ⟨f, text⟩ := e
    rw [List.map_cons, List.nodup_cons] at hfamilies
    obtain ⟨⟨bytes, hbytes⟩, hrest⟩ := List.forall_mem_cons.1 h
    -- the other addresses are of the other family, whose pool does not change
    have hname : ∀ e ∈ rest, (Pool.instances e.1).name ≠ (Pool.instances f).name :=
      fun e he heq => hfamilies.1 (List.mem_map.2 ⟨e, he, instances_name_inj.1 heq⟩)
    obtain ⟨r₁, hr₁⟩ : ∃ r₁, r₁ = r.pushFree (Pool.instances f).name bytes := ⟨_, rfl⟩
    have hrelease : (Pool.instances f).release text r = (.ok (), r₁) := by
      rw [Pool.release, hbytes, hr₁]
    have hbut : SameBut (Pool.instances f).name r r₁ := by
      rw [hr₁]
      exact .pushFree ..
    have hreleasable : ∀ e ∈ rest, ∃ more, (Pool.instances e.1).releasable r₁ e.2 = .ok more := by
      intro e he
      obtain ⟨more, hmore⟩ := hrest e he
      exact ⟨more, (Pool.releasable_congr (hbut.pool _ (hname e he)) e.2).trans hmore⟩
    obtain ⟨r', hback, honly, hfree, hothers⟩ := ih hfamilies.2 hreleasable
    have hparse := Pool.parse_of_releasable hbytes
    rw [Pool.family_instances] at hparse
    have hpool : r'.pool (Pool.instances f).name = { r.pool (Pool.instances f).name with
        free := (r.pool (Pool.instances f).name).free ++ [bytes] } := by
      rw [hothers _ fun e he => (hname e he).symm, hr₁, pool_pushFree]
    refine ⟨r', .cons hrelease hback, (OnlyPools.ofSameBut hbut).trans honly,
      List.forall_mem_cons.2 ⟨⟨bytes, hparse, hpool⟩, fun e he => ?_⟩, fun name hne => ?_⟩
    · obtain ⟨more, hparse, hpool⟩ := hfree e he
      exact ⟨more, hparse, by rw [hpool, hbut.pool _ (hname e he)]⟩
    · obtain ⟨hfirst, hne⟩ := List.forall_mem_cons.1 hne
      exact (hothers name hne).trans (hbut.pool name hfirst)

/-! ## Removing an instance -/

/-- An instance that a root can undeploy: the selector finds its job, and the pools take its
addresses back. -/
structure Undeployable (r : Registry) (selector : Selector) (number : UInt32) (job : Job)
    (i : Instance) : Prop where
  selected : r.select selector = some job
  found : job.instance? number = some i
  returnable : ∀ f text, i.addresses.get f = some text →
    ∃ bytes, (Pool.instances f).releasable r text = .ok bytes

/-- What undeploying an instance of a job makes of the registry of a root. -/
structure Undeployed (r : Registry) (job : Job) (i : Instance) (r' : Registry) : Prop where
  /-- The job is without the instance, and otherwise the same. -/
  removed : ∃ before after, job.instances = before ++ i :: after ∧
    (∀ j ∈ before, j.number ≠ i.number) ∧
    r'.jobs = r.jobs.insert job.name { job with instances := before ++ after }
  /-- Each address of the instance is the last one on the free list of its pool. -/
  returned : ∀ f text, i.addresses.get f = some text → ∃ bytes, Codec.parse text f = .ok bytes ∧
    r'.pool (Pool.instances f).name = { r.pool (Pool.instances f).name with
      free := (r.pool (Pool.instances f).name).free ++ [bytes] }
  /-- No pool has refused an address after the job was changed. -/
  accepted : GivenBack i.addresses.present { r with jobs := r'.jobs } r'
  pools : ∀ name, (∀ f, name = (Pool.instances f).name → i.addresses.get f = none) →
    r'.pool name = r.pool name
  clusters : r'.clusters = r.clusters
  nodes : r'.nodes = r.nodes
  gateways : r'.gateways = r.gateways

theorem nodup_present (addresses : Addresses) : (addresses.present.map (·.1)).Nodup := by
  obtain ⟨v4, v6⟩ := addresses
  cases v4 <;> cases v6 <;> simp [Dual.present]

/-- The instance of a number is taken out of the job where it stands. -/
theorem split_of_instance? {job : Job} {i : Instance} {number : UInt32}
    (h : job.instance? number = some i) : ∃ before after, job.instances = before ++ i :: after ∧
      (∀ j ∈ before, j.number ≠ i.number) ∧
      job.remove number = { job with instances := before ++ after } := by
  obtain ⟨hi, before, after, hsplit, hbefore⟩ := List.find?_eq_some_iff_append.1 h
  rw [beq_iff_eq] at hi
  subst hi
  have hne : ∀ j ∈ before, ¬(j.number == i.number) = true := by simpa using hbefore
  refine ⟨before, after, hsplit, by simpa using hne, ?_⟩
  rw [Job.remove, hsplit, List.eraseP_append_right _ hne]
  simp

/-- Once the instance is removed, its addresses come back. -/
theorem Undeployable.exists_undeployed {selector : Selector} {number : UInt32} {job : Job}
    {i : Instance} (h : r.Undeployable selector number job i) :
    ∃ r', GivenBack i.addresses.present
        { r with jobs := r.jobs.insert job.name (job.remove number) } r' ∧
      r.Undeployed job i r' := by
  have hreturnable : ∀ e ∈ i.addresses.present, ∃ bytes, (Pool.instances e.1).releasable
      { r with jobs := r.jobs.insert job.name (job.remove number) } e.2 = .ok bytes := by
    intro e he
    obtain ⟨bytes, hbytes⟩ := h.returnable e.1 e.2 (Dual.mem_present.1 he)
    exact ⟨bytes, (Pool.releasable_congr rfl e.2).trans hbytes⟩
  obtain ⟨r', hback, honly, hfree, hothers⟩ :=
    exists_givenBack (nodup_present i.addresses) hreturnable
  obtain ⟨before, after, hsplit, hbefore, hremove⟩ := split_of_instance? h.found
  refine ⟨r', hback, ⟨before, after, hsplit, hbefore, hremove ▸ honly.jobs⟩,
    fun f text hf => hfree (f, text) (Dual.mem_present.2 hf), ?_, fun name hname => ?_,
    honly.clusters, honly.nodes, honly.gateways⟩
  · rw [honly.jobs]
    exact hback
  · refine hothers name fun e he heq => ?_
    have hnone := hname e.1 heq
    rw [Dual.mem_present.1 he] at hnone
    cases hnone

end Registry

namespace Tier

variable {σ : Type} {t : Tier σ} {s : σ}

/-- An instance that can be undeployed is undeployed. -/
theorem undeploy_of_undeployable {r' : Registry} {selector : Selector} {number : UInt32} {job : Job}
    {i : Instance} (hrole : t.role = .root) (hnamed : (t.site.get s).Named)
    (h : (t.site.get s).Undeployable selector number job i)
    (hback : Registry.GivenBack i.addresses.present { t.site.get s with
      jobs := (t.site.get s).jobs.insert job.name (job.remove number) } r') :
    ∃ told, t.undeploy selector number s = (.ok ⟨job.name, i, false, told⟩,
      t.tell (farewells (t.site.get s) job.name number) (t.site.set r' s)) := by
  obtain ⟨told, s', htold, rfl⟩ := (notifyAll_spec (.update ⟨job.name, number, .undeployment⟩)
    ((t.site.get s).parties job.name) (t.site.set r' s)).exists_ok rfl
  refine ⟨told, ?_⟩
  have hlook : ∀ {α : Type} (f : Registry → α),
      (t.look f : Action σ TierError α) s = (.ok (f (t.site.get s)), s) := fun _ => rfl
  have hcheck : (Registry.checkReturn i.addresses.present).zoom t.site s = (.ok (), s) := by
    rcases Registry.checkReturn_cases i.addresses.present (t.site.get s) with
      ⟨hok, -⟩ | ⟨fault, -, e, he, why, hwhy⟩
    · rw [Action.zoom_apply, hok, t.site.set_get]
    · obtain ⟨bytes, hbytes⟩ := h.returnable e.1 e.2 (Dual.mem_present.1 he)
      rw [hbytes] at hwhy
      cases hwhy
  have hremove : (Registry.removeInstance job.name number).zoom t.site s =
      (.ok (i, (job.remove number).instances.length), t.site.set { t.site.get s with
        jobs := (t.site.get s).jobs.insert job.name (job.remove number) } s) := by
    simp [Registry.removeInstance, Registry.updateJob, Action.bind_apply,
      job?_of_select hnamed h.selected, h.found]
  have hreturn : (Registry.returnInstanceAddresses i.addresses.present : Action Registry TierError
      Unit).zoom t.site (t.site.set { t.site.get s with
        jobs := (t.site.get s).jobs.insert job.name (job.remove number) } s) =
      (.ok (), t.site.set r' s) := by
    rw [Action.zoom_apply, t.site.get_set, hback.returnInstanceAddresses, t.site.set_set]
  rw [undeploy, Action.bind_of_ok (hlook _), h.selected]
  simp only [h.found, isRoot_of_role hrole, if_true, Bool.not_true, Bool.and_false,
    Bool.false_eq_true, if_false]
  rw [Action.bind_of_ok hcheck, Action.bind_of_ok (hlook _), Action.bind_of_ok hremove]
  dsimp only
  rw [Action.bind_of_ok hreturn, Action.bind_of_ok htold]
  rfl

/-- An undeployment that is refused changes nothing. -/
theorem undeploy_of_not_undeployable {selector : Selector} {number : UInt32}
    (hrole : t.role = .root)
    (h : ¬∃ job i, (t.site.get s).Undeployable selector number job i) :
    ∃ e, t.undeploy selector number s = (.error e, s) := by
  have hlook : (t.look fun r => r.select selector : Action σ TierError (Option Job)) s =
      (.ok ((t.site.get s).select selector), s) := rfl
  rw [undeploy, Action.bind_of_ok hlook]
  cases hselect : (t.site.get s).select selector with
  | none => exact ⟨_, rfl⟩
  | some job =>
  dsimp only
  cases hi : job.instance? number with
  | none => exact ⟨_, rfl⟩
  | some i =>
  simp only [isRoot_of_role hrole, if_true]
  rcases Registry.checkReturn_cases i.addresses.present (t.site.get s) with
    ⟨-, hall⟩ | ⟨fault, herror, -⟩
  · exact absurd ⟨job, i, hselect, hi, fun f text hf => hall (f, text) (Dual.mem_present.2 hf)⟩ h
  · have hcheck : (Registry.checkReturn i.addresses.present).zoom t.site s = (.error fault, s) := by
      rw [Action.zoom_apply, herror, t.site.set_get]
    exact ⟨fault, Action.bind_of_error hcheck _⟩

end Tier

namespace RootTier

variable {σ : Type} (R : RootTier σ)

/-- **Undeployment.** Whatever the registry and its pools hold, an instance that can be undeployed
is removed, its addresses are back on the free lists, and the interested parties are told; and
otherwise an error is all that comes of it. -/
theorem undeploys_iff {s : σ} (hnamed : (R.site.get s).Named) (selector : Selector)
    (number : UInt32) :
    (∃ job i r' told, (R.site.get s).Undeployable selector number job i ∧
      (R.site.get s).Undeployed job i r' ∧
      R.tier.undeploy selector number s = (.ok ⟨job.name, i, false, told⟩,
        R.tier.tell (Tier.farewells (R.site.get s) job.name number) (R.site.set r' s))) ∨
    (¬∃ job i, (R.site.get s).Undeployable selector number job i) ∧
      ∃ e, R.tier.undeploy selector number s = (.error e, s) := by
  by_cases h : ∃ job i, (R.site.get s).Undeployable selector number job i
  · obtain ⟨job, i, h⟩ := h
    obtain ⟨r', hback, hafter⟩ := h.exists_undeployed
    obtain ⟨told, hrun⟩ := Tier.undeploy_of_undeployable (t := R.tier) rfl hnamed h hback
    exact .inl ⟨job, i, r', told, h, hafter, hrun⟩
  · exact .inr ⟨h, Tier.undeploy_of_not_undeployable (t := R.tier) rfl h⟩

/-- A root with a service that has one instance. -/
def serving : Standalone :=
  Standalone.delivering.reached oneInstance (.start ⟨[], [], []⟩ [])

theorem serving_named : (Standalone.delivering.site.get serving).Named := by
  obtain ⟨lost, hbooks⟩ := Standalone.delivering.state_books oneInstance (.start ⟨[], [], []⟩ [])
  exact hbooks.named

/-- The only instance of a service goes, its address is free again, and the job stays. -/
theorem undeploys_only : (Standalone.delivering.site.get serving).Named ∧
    ∃ job i r' s', (Standalone.delivering.site.get serving).Undeployed job i r' ∧
      Standalone.delivering.tier.undeploy (.name "a.n.s.n") 0 serving =
        (.ok ⟨job.name, i, false, 0⟩, s') := by
  have htold : (Standalone.delivering.tier.undeploy (.name "a.n.s.n") 0 serving).1.toOption.map
      (·.notified) = some 0 := by
    decide +kernel
  refine ⟨serving_named, ?_⟩
  rcases Standalone.delivering.undeploys_iff serving_named (.name "a.n.s.n") 0 with
    ⟨job, i, r', told, -, hafter, hrun⟩ | ⟨-, e, hrun⟩
  · rw [hrun] at htold
    obtain rfl : told = 0 := Option.some.inj htold
    exact ⟨job, i, r', _, hafter, hrun⟩
  · rw [hrun] at htold
    cases htold

end RootTier

end Overlay
