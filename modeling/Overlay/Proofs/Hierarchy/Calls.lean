import Overlay.Proofs.Hierarchy.Coherence

/-!
# Calls between tiers

No call of a cluster to the root makes a location stale that was not, and neither does a call of the
root that only adds to its jobs (`Hierarchy.perform_coherent`, `Hierarchy.connection_coherent`).
What a cluster fetches is backed by the root at the moment it arrives (`Hierarchy.fetch_backed`),
because the root counts the cluster among the interested parties before it answers.

All this is said of a root that has some way to tell its clusters of deployments that makes nothing
stale itself (`Hierarchy.KeepsCoherent`). Calling the clusters back is one
(`Hierarchy.callBack_coherent`), since they look the job up at a root that tells nobody.
-/

namespace Overlay.Hierarchy

open Overlay.Action (Triple)

variable {n : Nat} {ids : Fin n ↪ String} {i : Fin n} {w : World n} {notify : Notifier (World n)}
  {stale : Fin n → String → UInt32 × Addresses → Prop}

/-- Telling clusters of deployments makes nothing stale that was not. -/
def KeepsCoherent (ids : Fin n ↪ String) (stale : Fin n → String → UInt32 × Addresses → Prop)
    (notify : Notifier (World n)) : Prop :=
  ∀ recipient update w, update.change = .deployment → Coherent ids stale w →
    Coherent ids stale (notify recipient (.update update) w).2

/-! ## The root -/

/-- Messages that speak of deployments make nothing stale. -/
theorem tell_coherent {t : Tier (World n)} (hnotify : KeepsCoherent ids stale t.notify)
    {messages : List (String × ChildMessage)} (hall : Tier.AllDeployments messages)
    (h : Coherent ids stale w) : Coherent ids stale (t.tell messages w) := by
  refine Tier.tell_keeps h fun m hm s hs => ?_
  obtain ⟨update, hupdate, hchange⟩ := hall m hm
  rw [hupdate]
  exact hnotify m.1 update s hchange hs

/-- A call that only adds to the jobs of the root makes nothing stale. -/
theorem perform_coherent (hnotify : KeepsCoherent ids stale notify) (call : RootCall)
    (honly : call.onlyAdds = true) : Triple (Coherent ids stale) ((rootTelling notify).perform call)
      (fun _ => Coherent ids stale) (fun _ => Coherent ids stale) := by
  refine .of_after fun w h => ?_
  obtain ⟨lost, hb⟩ := h.sound.books
  obtain ⟨r', messages, hstep, hw'⟩ := Tier.perform_spec (t := rootTelling notify) rfl hb call
  obtain ⟨hgrows, hall⟩ := hstep.grows hb honly
  obtain ⟨hsound, hclusters⟩ := h.sound.step hb hstep fun _ => Tier.perform_identifies rfl
  rw [hw']
  exact tell_coherent hnotify hall (h.grow hsound hgrows hclusters)

/-- Only registered clusters are served. -/
theorem requireCluster_spec (id : String) : Triple (· = w) ((rootTelling notify).requireCluster id)
    (fun _ w' => w' = w ∧ (w.root.cluster? id).isSome = true)
    (fun _ w' => w' = w ∧ w.root.cluster? id = none) := by
  refine Tier.look_bind (f := (·.cluster? id)) ?_
  rw [rootTelling_get]
  cases w.root.cluster? id with
  | none => exact .throw fun _ hw => ⟨hw, rfl⟩
  | some cluster => exact .pure fun _ hw => ⟨hw, rfl⟩

/-! ## Calls to the root -/

/-- **Fetching.** The root looks the job up for a registered cluster, and refuses another one. -/
theorem fetch_spec (h : Sound ids w.root) (selector : Selector) :
    Triple (· = w) ((rootTelling notify).connection (ids i) (.fetchJob selector))
      (fun found w' => (w.root.cluster? (ids i)).isSome = true ∧
        ∃ root, w' = { w with root } ∧ Tier.LookedUp w.root (ids i) selector found root)
      (fun _ w' => w' = w ∧ w.root.cluster? (ids i) = none) := by
  refine .mapError (.bind (requireCluster_spec (ids i)) fun _ => .of_forall fun w' hw => ?_)
  obtain ⟨hw', hregistered⟩ := hw
  obtain rfl : w = w' := hw'.symm
  obtain ⟨lost, hb⟩ := h.books
  refine (Tier.childLookup_root (t := rootTelling notify) rfl hb.named (ids i) selector).mono ?_ ?_
  · intro found w' hw
    exact ⟨hregistered, hw⟩
  · -- a registered cluster has a name
    intro _ w' hw
    obtain ⟨c, hc⟩ := Option.isSome_iff_exists.1 hregistered
    have hempty := hw.2
    rw [(h.active i c hc).2] at hempty
    cases hempty

/-- What a cluster fetches is backed by the root. -/
theorem fetch_backed (h : Coherent ids stale w) (selector : Selector) :
    Triple (· = w) ((rootTelling notify).connection (ids i) (.fetchJob selector))
      (fun found w' => Coherent ids stale w' ∧
        ∀ job, found = some job → Backed w'.root (ids i) (fun _ => False) job.name job)
      (fun _ w' => w' = w ∧ w.root.cluster? (ids i) = none) := by
  refine (fetch_spec h.sound selector).mono ?_ fun _ _ hw => hw
  intro found w' hw
  obtain ⟨hregistered, root, rfl, hl⟩ := hw
  obtain ⟨lost, hb⟩ := h.sound.books
  have hstep : RootStep w.root lost (.childLookup (ids i) selector) (.ok found) [] root :=
    .lookedUp hl
  obtain ⟨hsound, hclusters⟩ := h.sound.step hb hstep fun _ _ => trivial
  refine ⟨h.grow hsound hl.grows.1 hclusters, ?_⟩
  rintro job rfl
  cases hl with
  | @found known _ hjob =>
    refine ⟨rfl, h.sound.distinct _ known hjob, hclusters i hregistered,
      { known with parties := known.parties.insert (ids i) }, ?_, ?_, fun l hl => .inl hl⟩
    · exact Table.get?_insert_self ..
    · exact NameSet.mem_insert.2 (.inl rfl)

/-- A registered cluster that the root counts among the interested parties already gets the job, and
the root stays as it is. -/
theorem fetch_known {known : Job} {name : String} (h : Sound ids w.root)
    (hregistered : (w.root.cluster? (ids i)).isSome = true)
    (hknown : w.root.job? name = some known) (hparty : ids i ∈ known.parties) :
    Triple (· = w) ((rootTelling notify).connection (ids i) (.fetchJob (.name name)))
      (fun found w' => w' = w ∧ found = some known.withoutParties) (fun _ _ => False) := by
  obtain ⟨lost, hb⟩ := h.books
  obtain rfl : known.name = name := hb.named name known hknown
  refine (fetch_spec h (.name known.name)).mono ?_ ?_
  · intro found w' hw
    obtain ⟨-, root, rfl, hl⟩ := hw
    cases hl with
    | unknown hnone =>
      have hempty := hnone known hknown
      rw [(h.identified known.name known hknown).1] at hempty
      cases hempty
    | found hselect _ =>
      obtain rfl := Option.some.inj (hknown.symm.trans hselect)
      refine ⟨?_, rfl⟩
      have hsame : w.root.putJob { known with parties := known.parties.insert (ids i) } =
          w.root := by
        rw [NameSet.insert_of_mem hparty, Registry.putJob, Table.insert_of_get? hknown]
      rw [hsame]
  · intro _ w' hw
    rw [hw.2] at hregistered
    cases hregistered

/-- Calls of a cluster make nothing stale, but for the withdrawal of its interest. -/
theorem connection_coherent (hnotify : KeepsCoherent ids stale notify) {call : ParentCall}
    (hcall : ∀ name, call ≠ .removeInterest name) :
    Triple (Coherent ids stale) ((rootTelling notify).connection (ids i) call)
      (fun _ => Coherent ids stale) (fun _ => Coherent ids stale) := by
  have hrequire : Triple (Coherent ids stale) ((rootTelling notify).requireCluster (ids i))
      (fun _ => Coherent ids stale) (fun _ => Coherent ids stale) := by
    refine .of_forall fun w h => (requireCluster_spec (ids i)).mono ?_ ?_
    · exact fun _ _ hw => hw.1 ▸ h
    · exact fun _ _ hw => hw.1 ▸ h
  refine .mapError ?_
  cases call with
  | fetchJob selector =>
    exact .bind hrequire fun _ => perform_coherent hnotify (.childLookup (ids i) selector) rfl
  | reportDeployment report =>
    exact .bind (perform_coherent hnotify (.applyDeployReport report) rfl) fun _ =>
      .pure fun _ h => h
  | requestSubnets =>
    exact .bind hrequire fun _ => perform_coherent hnotify .requestSubnets rfl
  | releaseSubnets subnets =>
    exact .bind hrequire fun _ => perform_coherent hnotify (.releaseSubnets subnets) rfl
  | removeInterest name => exact absurd rfl (hcall name)
  | register registration =>
    exact .bind (perform_coherent hnotify (.registerCluster registration) rfl) fun _ =>
      .pure fun _ h => h

/-- A cluster that has dropped a job may withdraw its interest. -/
theorem withdraw_coherent (name : String) :
    Triple (fun w => Coherent ids stale w ∧ w.clusters[i].job? name = none)
      ((rootTelling notify).connection (ids i) (.removeInterest name))
      (fun _ => Coherent ids stale) (fun _ => Coherent ids stale) := by
  refine .mapError (.of_forall fun w ⟨h, hdropped⟩ => ?_)
  have hleft : ∀ r', Tier.Left w.root name (ids i) r' → Coherent ids stale { w with root := r' } := by
    intro r' hl
    obtain ⟨lost, hb⟩ := h.sound.books
    have hstep : RootStep w.root lost (.removeInterest name (ids i)) (.error (.jobNotFound name)) []
        r' := .left hl
    obtain ⟨hsound, hclusters⟩ := h.sound.step hb hstep fun _ _ => trivial
    cases hl with
    | same => exact h
    | erased hknown =>
      refine h.replaceJob hsound hclusters hknown rfl (fun _ _ _ hl => hl)
        fun k job hjob hparty => ?_
      have hk : k ≠ i := by
        rintro rfl
        rw [hdropped] at hjob
        cases hjob
      refine ⟨?_, fun l _ hmem => .inl hmem⟩
      exact NameSet.mem_erase.2 ⟨fun heq => hk (ids.injective heq), hparty⟩
  refine .bind ((requireCluster_spec (ids i)).mono (fun _ _ hw => hw.1) ?_) ?_
  · exact fun _ _ hw => hw.1 ▸ h
  refine fun _ => .bind (R := fun _ => Coherent ids stale) ?_ fun _ => .pure fun _ hw => hw
  refine (Tier.removeInterest_root (t := rootTelling notify) rfl w name (ids i)).mono ?_ ?_
  · rintro _ _ ⟨r', rfl, hl⟩
    exact hleft r' hl
  · rintro _ _ ⟨r', rfl, hl⟩
    exact hleft r' hl

end Overlay.Hierarchy
