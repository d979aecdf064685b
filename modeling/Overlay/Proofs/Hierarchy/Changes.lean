import Overlay.Proofs.Registry.Merging
import Overlay.Proofs.Root.Runs

/-!
# How registries change

A registry grows (`Registry.Grows`) if jobs, parties and instances are only added to it, and it
shrinks (`Registry.Shrinks`) if they are only dropped. Most calls of a root make its registry grow
(`RootStep.grows`), and unless a party withdraws its interest, they retain the parties of each job
(`RootStep.retains`). Numbers of instances stay distinct in every call (`RootStep.distinct`).
-/

namespace Overlay

/-! ## Changes of a registry -/

namespace Registry

variable {r r' s : Registry}

/-- Jobs may be added, and parties and instances may join them. -/
def Grows (r r' : Registry) : Prop :=
  ∀ name job, r.job? name = some job → ∃ job', r'.job? name = some job' ∧
    (∀ party ∈ job.parties, party ∈ job'.parties) ∧ ∀ l ∈ job.locations, l ∈ job'.locations

/-- Jobs may be dropped, and instances and parties may leave them. -/
def Shrinks (r r' : Registry) : Prop :=
  ∀ name job', r'.job? name = some job' → ∃ job, r.job? name = some job ∧ job'.name = job.name ∧
    (job.Distinct → job'.Distinct) ∧ ∀ l ∈ job'.locations, l ∈ job.locations

/-- Jobs may be added, and parties may join them. -/
def Retains (r r' : Registry) : Prop :=
  ∀ name job, r.job? name = some job →
    ∃ job', r'.job? name = some job' ∧ ∀ party ∈ job.parties, party ∈ job'.parties

namespace Grows

theorem ofJobs (h : r'.jobs = r.jobs) : Grows r r' :=
  fun name job hjob => ⟨job, job?_congr h name ▸ hjob, fun _ hp => hp, fun _ hl => hl⟩

theorem trans (h : Grows r r') (h' : Grows r' s) : Grows r s := by
  intro name job hjob
  obtain ⟨job', hjob', hparties, hlocations⟩ := h name job hjob
  obtain ⟨job'', hjob'', hparties', hlocations'⟩ := h' name job' hjob'
  exact ⟨job'', hjob'', fun p hp => hparties' p (hparties p hp),
    fun l hl => hlocations' l (hlocations l hl)⟩

/-- A job is stored that has what the job had whose place it takes. -/
theorem insert {name : String} {new : Job} (hj : r'.jobs = r.jobs.insert name new)
    (h : ∀ job, r.job? name = some job → (∀ party ∈ job.parties, party ∈ new.parties) ∧
      ∀ l ∈ job.locations, l ∈ new.locations) : Grows r r' := by
  intro key job hjob
  rw [job?, hj, Table.get?_insert]
  split
  · next heq =>
    subst heq
    exact ⟨new, rfl, h job hjob⟩
  · exact ⟨job, hjob, fun _ hp => hp, fun _ hl => hl⟩

theorem retains (h : Grows r r') : Retains r r' := by
  intro name job hjob
  obtain ⟨job', hjob', hparties, -⟩ := h name job hjob
  exact ⟨job', hjob', hparties⟩

end Grows

/-- A job takes the place of one with the same parties. -/
theorem Retains.replace {name : String} {job new : Job} (hjob : r.job? name = some job)
    (hj : r'.jobs = r.jobs.insert name new) (hparties : new.parties = job.parties) :
    Retains r r' := by
  intro key old hold
  rw [job?, hj, Table.get?_insert]
  split
  · next heq =>
    subst heq
    obtain rfl := Option.some.inj (hjob.symm.trans hold)
    exact ⟨new, rfl, fun _ hp => hparties ▸ hp⟩
  · exact ⟨old, hold, fun _ hp => hp⟩

namespace Shrinks

theorem refl (r : Registry) : Shrinks r r :=
  fun _ job hjob => ⟨job, hjob, rfl, fun hd => hd, fun _ hl => hl⟩

theorem ofJobs (h : r'.jobs = r.jobs) : Shrinks r r' :=
  fun name job hjob => ⟨job, job?_congr h name ▸ hjob, rfl, fun hd => hd, fun _ hl => hl⟩

/-- A job is stored that has no more than the job whose place it takes. -/
theorem insert {name : String} {job new : Job} (hjob : r.job? name = some job)
    (hj : r'.jobs = r.jobs.insert name new) (hname : new.name = job.name)
    (hdistinct : job.Distinct → new.Distinct)
    (hlocations : ∀ l ∈ new.locations, l ∈ job.locations) : Shrinks r r' := by
  intro key job' hjob'
  rw [job?, hj, Table.get?_insert] at hjob'
  split at hjob'
  · next heq =>
    subst heq
    obtain rfl := Option.some.inj hjob'
    exact ⟨job, hjob, hname, hdistinct, hlocations⟩
  · exact ⟨job', hjob', rfl, fun hd => hd, fun _ hl => hl⟩

theorem deleteJob (r : Registry) (name : String) : Shrinks r (r.deleteJob name) := by
  intro key job hjob
  rw [job?, Registry.deleteJob, Table.get?_erase] at hjob
  split at hjob
  · cases hjob
  · exact ⟨job, hjob, rfl, fun hd => hd, fun _ hl => hl⟩

theorem removed {name : String} {number : UInt32} {job : Job} (hjob : r.job? name = some job) :
    Shrinks r { r with jobs := r.jobs.insert name (job.remove number) } :=
  .insert hjob rfl rfl (fun hd => hd.remove number) fun _ hl =>
    List.map_subset _ List.eraseP_subset hl

end Shrinks

end Registry

/-! ## Steps of a root -/

namespace Registry

variable {hand : List (Family × String)}

/-- A registration keeps the instances and the parties of the job. -/
theorem Registered.grows {d : ServiceDescriptor} {systemId : String} {job : Job} (h : r.Books hand)
    (hr : Registered r hand d systemId job r') : r.Grows r' ∧ (r.Distinct → r'.Distinct) := by
  obtain ⟨⟨texts, hnew⟩, hj, -⟩ := hr.stored h
  have hstarted : ∀ old, r.job? job.name = some old → job = withShared old systemId texts := by
    intro old hold
    rwa [startingJob, hold, Option.getD_some] at hnew
  refine ⟨.insert hj fun old hold => ?_, fun hd => hd.insert hj ?_⟩
  · rw [hstarted old hold]
    exact ⟨fun _ hp => hp, fun _ hl => hl⟩
  · cases hold : r.job? job.name with
    | none =>
      rw [startingJob, hold] at hnew
      rw [hnew]
      exact List.nodup_nil
    | some old =>
      have hdistinct := hd job.name old hold
      rw [hstarted old hold]
      exact hdistinct

/-- A gateway is a new job with one instance. -/
theorem GatewayUp.grows {d : GatewayDeployment} {job : Job} (hg : GatewayUp r hand d job r') :
    r.Grows r' ∧ (r.Distinct → r'.Distinct) := by
  cases hg with
  | existing => exact ⟨.ofJobs rfl, fun hd => hd⟩
  | @new g taken _ hnone hunder =>
    obtain ⟨hj, -⟩ := hunder.entered g
    refine ⟨.insert hj fun old hold => ?_, fun hd => hd.insert hj ?_⟩
    · rw [hnone] at hold
      cases hold
    · exact List.pairwise_singleton ..

theorem Restored.grows (h : Restored r r') : r.Grows r' ∧ (r.Distinct → r'.Distinct) := by
  obtain ⟨hjob, hsame, hl⟩ := h
  refine ⟨.insert rfl fun old hold => ?_, fun hd => hd.insert rfl ?_⟩
  · obtain rfl := Option.some.inj (hjob.symm.trans hold)
    exact ⟨fun _ hp => hsame.parties ▸ hp, fun _ hm => hl ▸ hm⟩
  · exact (hd _ _ hjob).of_locations hl

/-- Every number that a job had still belongs to some instance once instances were added. -/
theorem mem_numbers_addEach (cluster : String) (pairs : List Addresses) {job : Job} {n : UInt32}
    (h : n ∈ job.instances.map (·.number)) :
    n ∈ (addEach cluster pairs job).2.instances.map (·.number) := by
  induction pairs generalizing job with
  | nil => exact h
  | cons addresses rest ih =>
    let i := Instance.fresh job.firstNumber addresses (some cluster)
    have hnext : n ∈ (job.takeNumber.2.upsert i).instances.map (·.number) := by
      cases hi : job.takeNumber.2.instance? job.firstNumber with
      | none =>
        rw [Job.upsert_of_none hi, List.map_append]
        exact List.mem_append_left _ h
      | some j =>
        rw [Job.map_upsert (i := i) hi (Job.mem_of_instance? hi).2.symm]
        exact h
    exact ih hnext

/-- Adding instances changes one job. It keeps its parties. While numbers fit it keeps its locations
too; otherwise each of its numbers has some location at least. -/
theorem Added.job {systemId cluster : String} {count : Nat} {added : List Instance}
    (h : r.Books hand) (ha : Added r hand systemId count cluster added r') :
    ∃ job job', r.jobBySystemId? systemId = some job ∧ r.job? job.name = some job ∧
      r'.jobs = r.jobs.insert job.name job' ∧ job'.parties = job.parties ∧
      (job.Distinct → job'.Distinct) ∧
      (job.Fits count → ∀ l ∈ job.locations, l ∈ job'.locations) ∧
      ∀ l ∈ job.locations, ∃ addresses, (l.1, addresses) ∈ job'.locations := by
  obtain ⟨hjob, rfl, -, -⟩ := ha
  rename_i job pairs taken
  obtain ⟨-, hsame, hperm, hfits⟩ := addEach_spec cluster pairs job
  refine ⟨job, _, hjob, h.named.job?_of_mem (mem_of_jobBySystemId? hjob), rfl, hsame.parties,
    addEach_distinct cluster pairs, fun hfit l hl => ?_, fun l hl => ?_⟩
  · rw [hfits hfit, List.nil_append] at hperm
    obtain ⟨i, hi, rfl⟩ := List.mem_map.1 hl
    exact List.mem_map_of_mem (hperm.symm.subset (List.mem_append_right _ hi))
  · obtain ⟨i, hi, rfl⟩ := List.mem_map.1 hl
    have hn := mem_numbers_addEach cluster pairs (List.mem_map_of_mem (f := (·.number)) hi)
    obtain ⟨j, hj, hnumber⟩ := List.mem_map.1 hn
    refine ⟨j.addresses, List.mem_map.2 ⟨j, hj, ?_⟩⟩
    exact Prod.ext hnumber rfl

end Registry

namespace Tier

variable {r r' : Registry} {hand : List (Family × String)}

theorem LookedUp.grows {child : String} {selector : Selector} {found : Option Job}
    (h : LookedUp r child selector found r') : r.Grows r' ∧ (r.Distinct → r'.Distinct) := by
  cases h with
  | unknown _ => exact ⟨.ofJobs rfl, fun hd => hd⟩
  | found _ hjob =>
    refine ⟨.insert rfl fun old hold => ?_, fun hd => hd.insert rfl ?_⟩
    · obtain rfl := Option.some.inj (hjob.symm.trans hold)
      exact ⟨fun _ hp => NameSet.mem_insert.2 (.inr hp), fun _ hl => hl⟩
    · have hdistinct := hd _ _ hjob
      exact hdistinct

theorem Left.distinct {jobName party : String} (h : Left r jobName party r') (hd : r.Distinct) :
    r'.Distinct := by
  cases h with
  | same => exact hd
  | erased hjob =>
    have hdistinct := hd _ _ hjob
    exact hd.insert rfl hdistinct

/-- Undeployment changes one job: the parties stay, and the number is free. -/
theorem Withdrawn.job {selector : Selector} {number : UInt32} {job : Job} {i : Instance}
    (h : Withdrawn r hand selector number job i r') : r.job? job.name = some job ∧
      r'.jobs = r.jobs.insert job.name (job.remove number) := by
  obtain ⟨-, hjob, -, hframe, -⟩ := h
  exact ⟨hjob, hframe.jobs⟩

end Tier

/-- Whether a call does no more than add something to the jobs of a root. -/
def RootCall.onlyAdds : RootCall → Bool
  | .addInstances _ _ _ | .undeployInstance _ _ | .removeInterest _ _ => false
  | _ => true

namespace RootStep

variable {r r' : Registry} {hand : List (Family × String)} {call : RootCall}
  {result : Except TierError call.Answer} {messages : List (String × ChildMessage)}

/-- **Growth.** Most calls add to the jobs of the root, and speak of nothing but deployments. -/
theorem grows (h : r.Books hand) (hstep : RootStep r hand call result messages r')
    (honly : call.onlyAdds = true) : r.Grows r' ∧ Tier.AllDeployments messages := by
  cases hstep with
  | failed hunder => exact ⟨.ofJobs hunder.1.jobs, nofun⟩
  | registered hr => exact ⟨(hr.grows h).1, nofun⟩
  | added _ => cases honly
  | withdrawn _ _ => cases honly
  | gatewayUp hg => exact ⟨hg.grows.1, nofun⟩
  | namespaces _ hr => exact ⟨(Registry.Grows.ofJobs rfl).trans hr.grows.1, nofun⟩
  | services _ => exact ⟨.ofJobs rfl, nofun⟩
  | reported hr hall => exact ⟨hr.grows.1, hall⟩
  | lookedUp hl => exact ⟨hl.grows.1, nofun⟩
  | left _ => cases honly
  | subnetsTaken hs => exact ⟨.ofJobs hs.jobs, nofun⟩
  | subnetsBack hs => exact ⟨.ofJobs hs.jobs, nofun⟩
  | joined _ _ => exact ⟨.ofJobs rfl, nofun⟩

/-- Calls speak of nothing but changes of jobs. -/
theorem updates (hstep : RootStep r hand call result messages r') :
    ∀ m ∈ messages, ∃ update, m.2 = .update update := by
  cases hstep with
  | @withdrawn _ number job _ _ _ _ _ =>
    intro m hm
    obtain ⟨party, -, rfl⟩ := List.mem_map.1 hm
    exact ⟨⟨job.name, number, .undeployment⟩, rfl⟩
  | reported _ hall =>
    intro m hm
    obtain ⟨update, hupdate, -⟩ := hall m hm
    exact ⟨update, hupdate⟩
  | _ => nofun

/-- **Interest.** No call but the withdrawal of a party takes parties away. -/
theorem retains (h : r.Books hand) (hstep : RootStep r hand call result messages r')
    (hcall : ∀ name party, call ≠ .removeInterest name party) : r.Retains r' := by
  cases honly : call.onlyAdds with
  | true => exact (hstep.grows h honly).1.retains
  | false =>
    cases hstep with
    | failed hunder => exact (Registry.Grows.ofJobs hunder.1.jobs).retains
    | added ha =>
      obtain ⟨job, job', -, hjob, hj, hparties, -⟩ := ha.job h
      exact .replace hjob hj hparties
    | withdrawn _ hw =>
      obtain ⟨hjob, hj⟩ := hw.job
      exact .replace hjob hj rfl
    | left _ => exact absurd rfl (hcall _ _)
    | _ => cases honly

/-- Instances have numbers of their own after every call. -/
theorem distinct (h : r.Books hand) (hd : r.Distinct)
    (hstep : RootStep r hand call result messages r') : r'.Distinct := by
  cases hstep with
  | failed hunder => exact hd.ofJobs hunder.1.jobs
  | registered hr => exact (hr.grows h).2 hd
  | added ha =>
    obtain ⟨job, job', -, hjob, hj, -, hdistinct, -, -⟩ := ha.job h
    exact hd.insert hj (hdistinct (hd _ _ hjob))
  | withdrawn _ hw =>
    obtain ⟨hjob, hj⟩ := hw.job
    exact hd.insert hj ((hd _ _ hjob).remove _)
  | gatewayUp hg => exact hg.grows.2 hd
  | namespaces _ hr => exact hr.grows.2 (hd.ofJobs rfl)
  | services _ => exact hd.ofJobs rfl
  | reported hr _ => exact hr.grows.2 hd
  | lookedUp hl => exact hl.grows.2 hd
  | left hl => exact hl.distinct hd
  | subnetsTaken hs => exact hd.ofJobs hs.jobs
  | subnetsBack hs => exact hd.ofJobs hs.jobs
  | joined _ _ => exact hd.ofJobs rfl

/-- A call changes no cluster but one that joins. -/
theorem clusters (hstep : RootStep r hand call result messages r') :
    r'.clusters = r.clusters ∨ ∃ c : Cluster, c.status = .active ∧ c.id.isEmpty = false ∧
      r'.clusters = r.clusters.insert c.id c := by
  cases hstep with
  | failed hunder => exact .inl hunder.1.clusters
  | registered hr =>
    obtain ⟨-, -, -, hframe, -⟩ := hr
    exact .inl hframe.clusters
  | added ha =>
    obtain ⟨-, -, -, hframe, -⟩ := ha
    exact .inl hframe.clusters
  | withdrawn _ hw =>
    obtain ⟨-, -, -, hframe, -⟩ := hw
    exact .inl hframe.clusters
  | gatewayUp hg =>
    cases hg with
    | existing => exact .inl rfl
    | new _ _ hunder => exact .inl hunder.1.clusters
  | namespaces _ hr =>
    obtain ⟨-, -, -⟩ := hr
    exact .inl rfl
  | services _ => exact .inl rfl
  | reported hr _ =>
    obtain ⟨-, -, -⟩ := hr
    exact .inl rfl
  | lookedUp hl =>
    cases hl with
    | unknown _ => exact .inl rfl
    | found _ _ => exact .inl rfl
  | left hl =>
    cases hl with
    | same => exact .inl rfl
    | erased _ => exact .inl rfl
  | subnetsTaken hs => exact .inl hs.clusters
  | subnetsBack hs => exact .inl hs.clusters
  | joined hactive hid => exact .inr ⟨_, hactive, hid, rfl⟩

end RootStep

end Overlay
