import Overlay.Proofs.Action
import Overlay.Proofs.Job.Reports
import Overlay.Proofs.Root.Ledger

/-!
# Scheduling instances and gateways

What the operations of the root on its registry do that take instance addresses or return them. In
each of them an address that was taken is stored with an instance, or goes back:

* `Registry.takeInstancePairs_spec`: a list of address pairs is taken as a whole or not at all;
* `Registry.addInstances_spec`: instances with these addresses join a job;
* `Registry.deployGateway_spec`: a gateway and its job are stored with the addresses taken for them.

While addresses are in hand only pools have changed (`Registry.Underway`).
-/

namespace Overlay.Registry

open Overlay.Action (Triple)

variable {r : Registry} {hand list : List (Family × String)}

/-- A registry on the way: since `r` only pools have changed, and some addresses are in hand. -/
def Underway (r : Registry) (hand : List (Family × String)) (s : Registry) : Prop :=
  OnlyPools r s ∧ s.Books hand

theorem Books.underway (h : r.Books hand) : Underway r hand r :=
  ⟨.refl r, h⟩

/-- Addresses that were taken and not stored, in whatever order. -/
theorem Underway.perm {hand' : List (Family × String)} {s : Registry} (h : Underway r hand s)
    (hp : hand'.Perm hand) : Underway r hand' s :=
  ⟨h.1, h.2.perm hp⟩

/-! ## Taking and returning -/

/-- An instance pool gives one address or none. -/
theorem allocate_spec (f : Family) : Triple (Underway r hand) (Pool.instances f).allocate
    (fun text => Underway r ((f, text) :: hand)) (fun _ => Underway r hand) := by
  have hsame : ∀ s, OnlyPools s ((Pool.instances f).allocate s).2 := fun s =>
    .ofSameBut ((Pool.instances f).allocate_sameBut s)
  constructor
  · intro s s' text h hx
    have hafter := (h.2.allocate f).1 text
    have hframe := hsame s
    rw [hx] at hafter hframe
    exact ⟨h.1.trans hframe, hafter rfl⟩
  · intro s s' e h hx
    have hafter := (h.2.allocate f).2 e
    have hframe := hsame s
    rw [hx] at hafter hframe
    exact ⟨h.1.trans hframe, hafter rfl⟩

/-- An address in hand goes back to its pool. -/
theorem release_spec (f : Family) (text : String) :
    Triple (Underway r ((f, text) :: hand)) ((Pool.instances f).release text)
      (fun _ => Underway r hand) (fun _ _ => False) := by
  constructor
  · intro s s' u h hx
    have hafter := h.2.release.2
    have hsame := (Pool.instances f).release_sameBut text s
    rw [hx] at hafter hsame
    exact ⟨h.1.trans (.ofSameBut hsame), hafter⟩
  · intro s s' e h hx
    have hok := h.2.release.1
    rw [hx] at hok
    cases hok

/-- **Returning.** All addresses of a list go back. -/
theorem returnInstanceAddresses_spec {ε : Type} (list : List (Family × String)) :
    Triple (Underway r (list ++ hand)) (returnInstanceAddresses list)
      (fun _ => Underway r hand) (fun (_ : ε) _ => False) := by
  induction list with
  | nil => exact .pure fun _ h => h
  | cons e rest ih =>
    exact .attempt_bind (release_spec e.1 e.2) (fun _ => ih) fun _ => .of_false

/-- **Rolling back.** All addresses of a list go back, and the action fails. -/
theorem rollback_spec {α : Type} {Q : α → Registry → Prop} (list : List (Family × String))
    (e : TierError) :
    Triple (Underway r (list ++ hand))
      (do returnInstanceAddresses list; throw e : Action Registry TierError α)
      Q (fun _ => Underway r hand) :=
  .bind ((returnInstanceAddresses_spec list).mono (fun _ _ h => h) nofun)
    fun _ => .throw fun _ h => h

/-- An address of each family is taken, or none. -/
theorem takeInstancePair_spec : Triple (Underway r hand) takeInstancePair
    (fun pair s => (∀ f, (pair.get f).isSome = true) ∧ Underway r (pair.present ++ hand) s)
    (fun _ => Underway r hand) := by
  refine .bind (.mapError (allocate_spec .v4)) fun v4 => ?_
  refine .attempt_bind (allocate_spec .v6) (fun v6 => ?_) fun e => ?_
  · refine .pure fun s h => ⟨fun f => ?_, h.perm (.swap ..)⟩
    cases f <;> rfl
  · exact rollback_spec [(.v4, v4)] (.pool e)

/-- **Taking.** As many pairs are taken as asked for, or those taken so far go back. -/
theorem takeInstancePairs_spec (count : Nat) (taken : List Addresses) :
    Triple (Underway r (taken.flatMap Dual.present ++ hand)) (takeInstancePairs count taken)
      (fun pairs s => pairs.length = taken.length + count ∧
        (∀ pair ∈ pairs, pair ∈ taken ∨ ∀ f, (pair.get f).isSome = true) ∧
        Underway r (pairs.flatMap Dual.present ++ hand) s)
      (fun _ => Underway r hand) := by
  induction count generalizing taken with
  | zero => exact .pure fun s h => ⟨rfl, fun _ hpair => .inl hpair, h⟩
  | succ count ih =>
    refine .attempt_bind takeInstancePair_spec (fun pair => .of_forall fun s h => ?_) fun e => ?_
    · obtain ⟨hpair, hunder⟩ := h
      refine (ih (taken ++ [pair])).conseq (fun t ht => ht ▸ hunder.perm ?_) (fun pairs t ht => ?_)
        fun _ _ ht => ht
      · simp only [List.flatMap_append, List.flatMap_singleton, List.append_assoc]
        exact List.perm_append_comm_assoc ..
      · obtain ⟨hlength, hall, hunder'⟩ := ht
        rw [List.length_append, List.length_singleton] at hlength
        refine ⟨by omega, fun other hother => ?_, hunder'⟩
        rcases hall other hother with hold | hwhole
        · rcases List.mem_append.1 hold with hold | hnew
          · exact .inl hold
          · exact .inr (List.mem_singleton.1 hnew ▸ hpair)
        · exact .inr hwhole
    · exact rollback_spec (taken.flatMap Dual.present) e

/-! ## Instances -/

/-- Instances were added: a job was found, pairs of addresses were taken, one of each family, and the
job was stored with one instance for each of them. -/
inductive Added (r : Registry) (hand : List (Family × String)) (systemId : String) (count : Nat)
    (cluster : String) : List Instance → Registry → Prop
  | intro {job : Job} {pairs : List Addresses} {taken : Registry} :
      r.jobBySystemId? systemId = some job → pairs.length = count →
      (∀ pair ∈ pairs, ∀ f, (pair.get f).isSome = true) →
      Underway r (pairs.flatMap Dual.present ++ hand) taken →
      Added r hand systemId count cluster (addEach cluster pairs job).1
        { taken with jobs := r.jobs.insert job.name (addEach cluster pairs job).2 }

/-- **Adding instances.** A failure leaves the registry as it was but for its pools. -/
theorem addInstances_spec (h : r.Books hand) (systemId : String) (replicas : UInt32)
    (cluster : String) : Triple (· = r) (addInstances systemId replicas cluster)
      (Added r hand systemId replicas.toNat cluster) (fun _ => Underway r hand) := by
  simp only [addInstances, Action.throw_bind]
  split
  · exact .throw fun s hs => hs ▸ h.underway
  refine .bind (R := fun found s => s = r ∧ found = r.jobBySystemId? systemId)
    (.inspect fun s hs => ⟨hs, hs ▸ rfl⟩) ?_
  rintro (_ | job)
  · exact .throw fun s hs => hs.1 ▸ h.underway
  · have htake := @takeInstancePairs_spec r hand replicas.toNat []
    refine .bind (R := fun pairs s => r.jobBySystemId? systemId = some job ∧
      pairs.length = replicas.toNat ∧ (∀ pair ∈ pairs, ∀ f, (pair.get f).isSome = true) ∧
      Underway r (pairs.flatMap Dual.present ++ hand) s) ?_ ?_
    · refine .of_forall fun s hs => ?_
      obtain ⟨rfl, hjob⟩ := hs
      refine htake.conseq (fun t ht => ht ▸ h.underway) (fun pairs t ht => ?_) fun _ _ ht => ht
      obtain ⟨hlength, hall, hunder⟩ := ht
      exact ⟨hjob.symm, by simpa using hlength,
        fun pair hpair => (hall pair hpair).resolve_left List.not_mem_nil, hunder⟩
    · intro pairs
      refine .bind (R := fun added s => added.elim
        (Underway r (pairs.flatMap Dual.present ++ hand) s)
        (Added r hand systemId replicas.toNat cluster · s)) ?_ ?_
      · refine updateJob_spec ?_ ?_ ?_
        · exact fun s hs _ => hs.2.2.2
        · -- the job is still the one that was found, since only pools have changed
          rintro s found added job' ⟨hjob, hcount, hwhole, hframe, hbooks⟩ hfound heq
          have hmem := (h.named.job?_of_mem (mem_of_jobBySystemId? hjob))
          rw [job?_congr hframe.jobs, hmem] at hfound
          obtain rfl := Option.some.inj hfound
          obtain ⟨rfl, rfl⟩ := Prod.mk.inj (Except.ok.inj heq)
          simp only [hframe.jobs]
          exact .intro hjob hcount hwhole ⟨hframe, hbooks⟩
        · rintro _ _ _ _ _ ⟨⟩
      · rintro (_ | added)
        · exact rollback_spec (pairs.flatMap Dual.present) (.jobNotFound systemId)
        · exact .pure fun _ hs => hs

/-- Added instances hold the addresses that were taken for them. What instances held that were
displaced is lost, and a number is given again only where the next one is too large for 32 bits. -/
theorem Added.books {systemId cluster : String} {count : Nat} {added : List Instance}
    {s : Registry} (h : r.Books hand) (ha : Added r hand systemId count cluster added s) :
    ∃ job, r.jobBySystemId? systemId = some job ∧
      s.Books ((job.displacedBy added).flatMap (fun i => i.addresses.present) ++ hand) ∧
      (job.Fits count → job.displacedBy added = []) := by
  obtain ⟨hjob, hcount, -, hframe, hbooks⟩ := ha
  rename_i job pairs taken
  have hold := h.named.job?_of_mem (mem_of_jobBySystemId? hjob)
  obtain ⟨haddresses, hsame, hperm, hfits⟩ := addEach_spec cluster pairs job
  refine ⟨job, hjob, ?_, fun hf => hfits (hcount ▸ hf)⟩
  have hinsert : taken.jobs.insert job.name (addEach cluster pairs job).2 =
      r.jobs.insert job.name (addEach cluster pairs job).2 := by rw [hframe.jobs]
  refine hbooks.store hinsert.symm rfl rfl hsame.name ?_ ?_
  · rw [Job.shared_congr hsame]
    exact h.shared job (mem_of_jobBySystemId? hjob)
  · have hnew : (addEach cluster pairs job).1.flatMap (fun i => i.addresses.present) =
        pairs.flatMap Dual.present := by
      rw [← List.flatMap_map (fun i : Instance => i.addresses), haddresses]
    have hstored := held_insert_of_some (s := { taken with
      jobs := r.jobs.insert job.name (addEach cluster pairs job).2 }) rfl hold
    have hheld := hperm.flatMap_right fun i => i.addresses.present
    rw [List.flatMap_append, List.flatMap_append, hnew] at hheld
    have htaken : taken.held = r.held := by rw [held, held, hframe.jobs]
    -- what the job held before cancels out
    rw [List.perm_iff_count] at hstored hheld ⊢
    intro e
    have hs := hstored e
    have hh := hheld e
    simp only [List.count_append, htaken, Job.held] at hs hh ⊢
    omega

/-- A gateway was set up: it was there already, or addresses were taken for it and its job, whose
name was free, was stored with it. -/
inductive GatewayUp (r : Registry) (hand : List (Family × String)) (d : GatewayDeployment) :
    Job → Registry → Prop
  | existing {g : Gateway} : r.gateway? d.id = some g → GatewayUp r hand d g.job r
  | new {g : Gateway} {taken : Registry} : g.id = d.id → r.job? g.jobName = none →
      Underway r (g.addresses.present ++ hand) taken →
      GatewayUp r hand d g.job ((taken.putJob g.job).putGateway g)

/-- Nothing but the job and the record of a new gateway is entered. -/
theorem Underway.entered {taken : Registry} (h : Underway r hand taken) (g : Gateway) :
    ((taken.putJob g.job).putGateway g).jobs = r.jobs.insert g.jobName g.job ∧
      ((taken.putJob g.job).putGateway g).gateways = r.gateways.insert g.id g :=
  ⟨congrArg (Table.insert · g.jobName g.job) h.1.jobs,
    congrArg (Table.insert · g.id g) h.1.gateways⟩

/-- An address is taken if the host has a public one. -/
theorem gatewayAddress_spec (publicAddress : Option String) (f : Family) :
    Triple (Underway r hand) (gatewayAddress publicAddress f)
      (fun address => Underway r (address.toList.map (f, ·) ++ hand))
      (fun _ => Underway r hand) := by
  cases publicAddress with
  | none => exact .pure fun _ h => h
  | some a => exact .bind (.mapError (allocate_spec f)) fun text => .pure fun _ h => h

/-- **Setting a gateway up.** A failure leaves the registry as it was but for its pools. -/
theorem deployGateway_spec (h : r.Books hand) (d : GatewayDeployment) :
    Triple (· = r) (deployGateway d) (GatewayUp r hand d) (fun _ => Underway r hand) := by
  simp only [deployGateway, Action.throw_bind]
  split
  · exact .throw fun s hs => hs ▸ h.underway
  split
  · exact .throw fun s hs => hs ▸ h.underway
  refine .bind (R := fun found s => s = r ∧ found = r.gateway? d.id)
    (.inspect fun s hs => ⟨hs, hs ▸ rfl⟩) ?_
  rintro (_ | existing)
  · refine .bind (R := fun found s => s = r ∧ found = r.job? d.gateway.jobName)
      (.inspect fun s hs => ⟨hs.1, hs.1 ▸ rfl⟩) ?_
    rintro (_ | taken)
    · refine .of_forall fun s hs => ?_
      obtain ⟨rfl, hname⟩ := hs
      refine .bind ((gatewayAddress_spec d.publicAddresses.v4 .v4).conseq
        (fun t ht => ht ▸ h.underway) (fun _ _ ht => ht) fun _ _ ht => ht) fun v4 => ?_
      refine .attempt_bind (gatewayAddress_spec d.publicAddresses.v6 .v6) (fun v6 => ?_) fun e => ?_
      · refine .bind (.modify (Q := fun _ => GatewayUp s hand d
          { d.gateway with addresses := ⟨v4, v6⟩ }.job) fun t ht => ?_) fun _ => .pure fun _ ht => ht
        refine .new rfl hname.symm (ht.perm ?_)
        rw [Dual.present, ← List.append_assoc]
        exact List.perm_append_comm.append_right hand
      · refine (rollback_spec (Dual.present ⟨v4, none⟩) e).pre fun t ht => ht.perm ?_
        simp [Dual.present]
    · exact .throw fun s hs => hs.1 ▸ h.underway
  · refine .pure fun s hs => ?_
    obtain ⟨rfl, hfound⟩ := hs
    exact .existing hfound.symm

/-- A gateway is entered once its job is there. -/
theorem Books.putGateway (h : r.Books hand) (id : String) {g : Gateway}
    (hjob : (r.job? g.jobName).isSome) :
    Books { r with gateways := r.gateways.insert id g } hand where
  named := h.named
  ledger f := (h.ledger f).congr rfl (.refl _)
  shared := h.shared
  roundRobin f := by
    obtain ⟨next, free, hshows⟩ := h.roundRobin f
    exact ⟨next, free, hshows.congr rfl⟩
  gateways other g' hg := by
    rw [gateway?, Table.get?_insert] at hg
    split at hg
    · obtain rfl := Option.some.inj hg
      exact hjob
    · exact h.gateways other g' hg

/-- A gateway job holds the addresses of the gateway, and shares none. -/
theorem held_gateway (g : Gateway) : g.job.held = g.addresses.present ∧ g.job.shared = [] := by
  simp [Gateway.job, Gateway.theInstance, Job.held, Job.shared, Job.new]

/-- A new gateway holds the addresses that were taken for it. -/
theorem GatewayUp.books {d : GatewayDeployment} {job : Job} {s : Registry} (h : r.Books hand)
    (hg : GatewayUp r hand d job s) : s.Books hand := by
  cases hg with
  | existing => exact h
  | @new g taken hid hname hunder =>
    obtain ⟨hframe, hbooks⟩ := hunder
    have hnone : taken.job? g.jobName = none := by rw [job?_congr hframe.jobs, hname]
    obtain ⟨hheld, hshared⟩ := held_gateway g
    have hstored : (taken.putJob g.job).Books hand := by
      refine hbooks.store rfl rfl rfl rfl ?_ ?_
      · rw [hshared]
        nofun
      · have hperm := held_insert_of_none (s := taken.putJob g.job) rfl hnone
        rw [hheld, List.perm_iff_count] at hperm
        rw [List.perm_iff_count]
        intro e
        have := hperm e
        simp only [List.count_append] at this ⊢
        omega
    refine hstored.putGateway g.id ?_
    have hfound : (taken.putJob g.job).job? g.jobName = some g.job :=
      Table.get?_insert_self taken.jobs g.jobName g.job
    rw [hfound]
    rfl

/-- A gateway is edited, or there is none. -/
theorem editGateway_spec (id : String) (edit : Gateway → Gateway) :
    Triple (· = r) (editGateway id edit)
      (fun g' s => ∃ g, r.gateway? id = some g ∧ g' = edit g ∧
        s = { r with gateways := r.gateways.insert id (edit g) })
      (fun _ s => s = r) := by
  refine .bind (R := fun found s => found.elim (s = r) fun g' =>
    ∃ g, r.gateway? id = some g ∧ g' = edit g ∧
      s = { r with gateways := r.gateways.insert id (edit g) }) (updateGateway_spec ?_ ?_ ?_) ?_
  · exact fun s hs _ => hs
  · rintro s g a g' rfl hg hedit
    obtain ⟨rfl, rfl⟩ := Prod.mk.inj (Except.ok.inj hedit)
    exact ⟨g, hg, rfl, rfl⟩
  · rintro _ _ _ _ _ ⟨⟩
  · rintro (_ | g)
    · exact .throw fun _ hs => hs
    · exact .pure fun _ hs => hs

/-! ## Changes in place -/

/-- One job was stored again, with the same locations and other networks at most. -/
inductive Restored (r : Registry) : Registry → Prop
  | intro {name : String} {job job' : Job} : r.job? name = some job → job.SameService job' →
      job'.locations = job.locations → Restored r { r with jobs := r.jobs.insert name job' }

theorem Restored.books {s : Registry} (h : r.Books hand) (hr : Restored r s) : s.Books hand := by
  obtain ⟨hjob, hsame, hl⟩ := hr
  exact h.restore rfl rfl rfl hjob hsame (Job.held_congr hl)

/-- The namespace addresses of a gateway are recorded with the gateway and in its job, which is
always there. -/
theorem setGatewayNamespaces_spec (h : r.Books hand) (id : String) (namespaces : Addresses) :
    Triple (· = r) (setGatewayNamespaces id namespaces)
      (fun _ s => ∃ (g : Gateway) (job : Job), r.gateway? id = some g ∧
        r.job? g.jobName = some job ∧ s = { r with
          jobs := r.jobs.insert g.jobName (withNamespaces namespaces job)
          gateways := r.gateways.insert id { g with namespaces } })
      (fun _ s => s = r) := by
  refine .bind (editGateway_spec id _) fun g' => ?_
  refine .of_forall fun s hs => ?_
  obtain ⟨g, hg, rfl, rfl⟩ := hs
  obtain ⟨job, hjob⟩ := Option.isSome_iff_exists.1 (h.gateways id g hg)
  refine .bind (R := fun found s => found.isSome ∧ s = { r with
      jobs := r.jobs.insert g.jobName (withNamespaces namespaces job)
      gateways := r.gateways.insert id { g with namespaces } })
    (updateJob_spec ?_ ?_ fun _ _ _ _ _ he => nomatch he) ?_
  · rintro s rfl hnone
    exact absurd (hjob.symm.trans hnone) nofun
  · rintro s old u job' rfl hold hedit
    obtain ⟨-, rfl⟩ := Prod.mk.inj (Except.ok.inj hedit)
    obtain rfl := Option.some.inj (hjob.symm.trans hold)
    exact ⟨rfl, rfl⟩
  · rintro (_ | u)
    · exact Triple.of_false.pre fun s hs => nomatch hs.1
    · exact .pure fun s hs => ⟨g, job, hg, hjob, hs.2⟩

/-- The services of a gateway are replaced. -/
theorem setGatewayServices_spec (id : String) (services : List ExposedService) :
    Triple (· = r) (setGatewayServices id services)
      (fun _ s => ∃ g : Gateway, r.gateway? id = some g ∧
        s = { r with gateways := r.gateways.insert id { g with services } })
      (fun _ s => s = r) :=
  (editGateway_spec id _).mono (fun _ _ ⟨g, hg, _, hs⟩ => ⟨g, hg, hs⟩) fun _ _ hs => hs

/-- Reports were applied to a job, all of them, and each says something. -/
inductive Recorded (r : Registry) (jobName : String) (reports : List InstanceReport)
    (reporter : Option String) : List (UInt32 × ReportOutcome) → Registry → Prop
  | intro {job job' : Job} {outcomes : List (UInt32 × ReportOutcome)} :
      r.job? jobName = some job → (∀ report ∈ reports, report.network.isEmpty = false) →
      Job.applyReports jobName reporter reports job = .ok (outcomes, job') →
      Recorded r jobName reports reporter outcomes
        { r with jobs := r.jobs.insert jobName job' }

theorem Recorded.restored {jobName : String} {reports : List InstanceReport}
    {reporter : Option String} {outcomes : List (UInt32 × ReportOutcome)} {s : Registry}
    (h : Recorded r jobName reports reporter outcomes s) : Restored r s := by
  obtain ⟨hjob, -, happlied⟩ := h
  obtain ⟨hsame, hl⟩ := Job.applyReports_spec happlied
  exact .intro hjob hsame hl

/-- **Reports.** They are applied to a job, or nothing changes because they cannot be. -/
theorem applyReports_recorded (jobName : String) (reports : List InstanceReport)
    (reporter : Option String) :
    Triple (· = r) (applyReports jobName reports reporter) (Recorded r jobName reports reporter)
      (fun _ s => s = r ∧ ∀ outcomes s, ¬Recorded r jobName reports reporter outcomes s) := by
  have hrefused : ∀ s, s = r → (∀ job outcomes job', r.job? jobName = some job →
      Job.applyReports jobName reporter reports job ≠ .ok (outcomes, job')) →
      s = r ∧ ∀ outcomes s, ¬Recorded r jobName reports reporter outcomes s := by
    refine fun s hs hnot => ⟨hs, fun outcomes s hrecorded => ?_⟩
    obtain ⟨hjob, -, happlied⟩ := hrecorded
    exact hnot _ _ _ hjob happlied
  simp only [applyReports, Action.throw_bind]
  split
  · next empty hempty =>
    refine .throw fun s hs => ⟨hs, fun outcomes s hrecorded => ?_⟩
    obtain ⟨-, hnetworks, -⟩ := hrecorded
    have hnot := hnetworks empty (List.mem_of_find?_eq_some hempty)
    have hno := List.find?_some hempty
    rw [hnot] at hno
    cases hno
  next hnone =>
  have hnetworks : ∀ report ∈ reports, report.network.isEmpty = false := by
    intro report hreport
    have hfind := Option.eq_none_iff_forall_ne_some.2 fun empty hempty => hnone empty hempty
    simpa using List.find?_eq_none.1 hfind report hreport
  refine .bind (R := fun found s => found.elim (s = r ∧ r.job? jobName = none)
    (Recorded r jobName reports reporter · s)) (updateJob_spec ?_ ?_ ?_) ?_
  · exact fun s hs hjob => ⟨hs, hs ▸ hjob⟩
  · intro s job outcomes job' hs hjob hedit
    subst hs
    exact .intro hjob hnetworks hedit
  · intro s job e hs hjob hedit
    subst hs
    refine hrefused s rfl fun job' outcomes job'' hjob' happlied => ?_
    obtain rfl := Option.some.inj (hjob.symm.trans hjob')
    rw [hedit] at happlied
    cases happlied
  · intro found
    cases found with
    | none =>
      refine .throw fun s hs => hrefused s hs.1 fun job outcomes job' hjob _ => ?_
      rw [hs.2] at hjob
      cases hjob
    | some outcomes => exact .pure fun _ hs => hs

/-- A single report. -/
theorem applyReports_single {jobName : String} {job : Job} (hjob : r.job? jobName = some job)
    (report : InstanceReport) (hnetwork : report.network.isEmpty = false)
    (reporter : Option String) : Triple (· = r) (applyReports jobName [report] reporter)
      (fun outcomes s => ∃ outcome job',
        Job.applyReport jobName reporter job report = .ok (outcome, job') ∧
        outcomes = [(report.number, outcome)] ∧ s.job? jobName = some job')
      (fun _ _ => ∀ outcome job',
        Job.applyReport jobName reporter job report ≠ .ok (outcome, job')) := by
  refine (applyReports_recorded jobName [report] reporter).mono ?_ ?_
  · intro outcomes s hrecorded
    obtain ⟨hjob', -, happlied⟩ := hrecorded
    obtain rfl := Option.some.inj (hjob.symm.trans hjob')
    obtain ⟨outcome, next, others, hone, hrest, rfl⟩ := Job.applyReports_cons.1 happlied
    obtain ⟨rfl, rfl⟩ := Prod.mk.inj (Except.ok.inj hrest)
    exact ⟨outcome, next, hone, rfl, Table.get?_insert_self ..⟩
  · intro e s hs outcome job' happlied
    have hreports : Job.applyReports jobName reporter [report] job =
        .ok ([(report.number, outcome)], job') :=
      Job.applyReports_cons.2 ⟨outcome, job', [], happlied, rfl, rfl⟩
    exact hs.2 _ _ (.intro hjob (List.forall_mem_singleton.2 hnetwork) hreports)

/-- Reports are applied to a job, or nothing changes. -/
theorem applyReports_spec (jobName : String) (reports : List InstanceReport)
    (reporter : Option String) :
    Triple (· = r) (applyReports jobName reports reporter)
      (fun _ => Restored r) (fun _ s => s = r) :=
  (applyReports_recorded jobName reports reporter).mono (fun _ _ hs => hs.restored)
    fun _ _ hs => hs.1

/-! ## Removing an instance -/

/-- An instance was removed from a job. -/
inductive Removed (r : Registry) (name : String) (number : UInt32) : Instance × Nat → Registry → Prop
  | intro {job : Job} {i : Instance} : r.job? name = some job → job.instance? number = some i →
      Removed r name number (i, (job.remove number).instances.length)
        { r with jobs := r.jobs.insert name (job.remove number) }

/-- **Removing.** An instance is removed, or nothing changes. -/
theorem removeInstance_spec (name : String) (number : UInt32) :
    Triple (· = r) (removeInstance name number) (Removed r name number) (fun _ s => s = r) := by
  refine .bind (R := fun found s => found.elim (s = r) (Removed r name number · s))
    (updateJob_spec ?_ ?_ ?_) ?_
  · exact fun s hs _ => hs
  · rintro s job removed job' rfl hjob hedit
    cases hi : job.instance? number with
    | none =>
      rw [hi] at hedit
      cases hedit
    | some i =>
      rw [hi] at hedit
      obtain ⟨rfl, rfl⟩ := Prod.mk.inj (Except.ok.inj hedit)
      exact .intro hjob hi
  · exact fun s job e hs _ _ => hs
  · rintro (_ | removed)
    · exact .throw fun _ hs => hs
    · exact .pure fun _ hs => hs

/-- The addresses of a removed instance are in hand. -/
theorem Removed.books {name : String} {number : UInt32} {removed : Instance × Nat} {s : Registry}
    (h : r.Books hand) (hr : Removed r name number removed s) :
    s.Books (removed.1.addresses.present ++ hand) := by
  obtain ⟨hjob, hi⟩ := hr
  rename_i job i
  have hsame := Job.SameService.remove job number
  refine h.store rfl rfl rfl (hsame.name.trans (h.named name job hjob)) ?_ ?_
  · rw [Job.shared_congr hsame]
    exact h.shared job (mem_of_job? hjob)
  · have hstored := held_insert_of_some (s := { r with
      jobs := r.jobs.insert name (job.remove number) }) rfl hjob
    have hremoved := (Job.perm_remove job number).flatMap_right fun i => i.addresses.present
    rw [List.flatMap_append, hi, Option.toList_some, List.flatMap_singleton] at hremoved
    rw [List.perm_iff_count] at hstored hremoved ⊢
    intro e
    have hs := hstored e
    have hr := hremoved e
    simp only [List.count_append, Job.held] at hs hr ⊢
    omega

/-- Checking whether addresses can return changes nothing. -/
theorem checkReturn_spec (list : List (Family × String)) :
    Triple (· = r) (checkReturn list) (fun _ s => s = r) (fun _ s => s = r) := by
  induction list with
  | nil => exact .pure fun _ hs => hs
  | cons e rest ih =>
    refine .bind (R := fun _ s => s = r) (.mapError ?_) fun _ => ih
    refine .of_match ?_
    intro s hs
    rw [Pool.checkRelease]
    cases (Pool.instances e.1).releasable s e.2 with
    | ok bytes => exact hs
    | error fault => exact hs

end Overlay.Registry
