import Overlay.Proofs.Root.Tasks
import Overlay.Proofs.Root.Uniqueness

/-!
# Gateways and their jobs

A root remembers a gateway twice: in a record of its own, and as the only instance of its job, where
others find it. Operations on gateways write both. Operations on services see the job alone, and two
of them reach into what the record says too (`RootCall.Disturbs`): an undeployment that takes the
instance away and gives its addresses back, and a report that fills its network in.

`RootTier.gatewaysHold_iff`: records and jobs agree at every moment of a run, and setting a known
gateway up again gives addresses that its job alone binds, exactly if no call of the run disturbs a
gateway.
-/

namespace Overlay

/-! ## First instances -/

namespace Job

variable {job : Job} {i : Instance}

/-- While there is an instance of number zero, no instance that joins gets this number. -/
theorem zero_not_mem_addEach (cluster : String) (pairs : List Addresses)
    (h : job.instance? 0 = some i) : 0 ∉ (Registry.addEach cluster pairs job).1.map (·.number) := by
  induction pairs generalizing job with
  | nil => exact List.not_mem_nil
  | cons addresses rest ih =>
    have hfirst : job.firstNumber ≠ 0 := by
      obtain ⟨hi, hn⟩ := mem_of_instance? h
      have habove : (i.number + 1).toNat ≤ job.aboveLive.toNat :=
        (le_foldl_max job.instances 0).2 i hi
      have hmax : job.firstNumber.toNat = max job.nextNumber.toNat job.aboveLive.toNat :=
        toNat_max ..
      rw [hn] at habove
      intro hzero
      rw [hzero] at hmax
      have hone : (0 + 1 : UInt32).toNat = 1 := rfl
      have hnone : (0 : UInt32).toNat = 0 := rfl
      omega
    rw [Registry.addEach, List.map_cons, List.mem_cons, not_or]
    refine ⟨Ne.symm hfirst, ih ?_⟩
    rw [instance?_upsert]
    exact (if_neg (Ne.symm hfirst)).trans h

/-- The first instance has the namespace addresses that were recorded. -/
theorem instance?_withNamespaces (namespaces : Addresses) (h : job.instance? 0 = some i) :
    (Registry.withNamespaces namespaces job).instance? 0 =
      some { i with network := { i.network with namespaces } } := by
  rw [Registry.withNamespaces, h]
  exact (instance?_upsert ..).trans (if_pos (mem_of_instance? h).2.symm)

/-- A registration leaves the instances of a job alone. -/
theorem instance?_withShared (job : Job) (systemId : String) (texts : Dual String) (n : UInt32) :
    (Registry.withShared job systemId texts).instance? n = job.instance? n :=
  rfl

end Job

/-! ## Records and jobs -/

/-- A request names the gateway, its host and its cluster, and a public address of the host. -/
structure GatewayDeployment.Complete (d : GatewayDeployment) : Prop where
  named : [d.id, d.host, d.cluster].any isBlankText = false
  reachable : d.publicAddresses.isEmpty = false

namespace Registry

variable {r r' r'' : Registry} {hand : List (Family × String)} {name id : String} {g : Gateway}
  {job other : Job} {a : IpAddress}

/-- The instance of number zero of the job of a name. -/
def firstInstance? (r : Registry) (name : String) : Option Instance :=
  (r.job? name).bind (·.instance? 0)

/-- The job of a gateway has a first instance with the addresses of the gateway and with its
namespace addresses. -/
def Agrees (r : Registry) (g : Gateway) : Prop :=
  ∃ i, r.firstInstance? g.jobName = some i ∧ i.addresses = g.addresses ∧
    i.network.namespaces = g.namespaces

/-- All gateways agree with their jobs. -/
def GatewaysAgree (r : Registry) : Prop :=
  ∀ id g, r.gateway? id = some g → r.Agrees g

/-- Gateways have jobs of their own. -/
def GatewaysApart (r : Registry) : Prop :=
  ∀ id g id' g', r.gateway? id = some g → r.gateway? id' = some g' → g.jobName = g'.jobName →
    id = id'

theorem firstInstance?_of_job? (h : r.job? name = some job) :
    r.firstInstance? name = job.instance? 0 := by
  rw [firstInstance?, h, Option.bind_some]

theorem firstInstance?_congr (h : r'.job? name = r.job? name) :
    r'.firstInstance? name = r.firstInstance? name := by
  rw [firstInstance?, firstInstance?, h]

theorem firstInstance?_insert_self {new : Job} (hjobs : r'.jobs = r.jobs.insert name new) :
    r'.firstInstance? name = new.instance? 0 :=
  firstInstance?_of_job? (by rw [job?, hjobs, Table.get?_insert_self])

theorem firstInstance?_insert_of_ne {new : Job} {key : String}
    (hjobs : r'.jobs = r.jobs.insert name new) (hne : key ≠ name) :
    r'.firstInstance? key = r.firstInstance? key :=
  firstInstance?_congr (by rw [job?, job?, hjobs, Table.get?_insert_of_ne _ hne])

/-- A job has an instance zero if there is a first instance of its name. -/
theorem exists_of_firstInstance? {i : Instance} (h : r.firstInstance? name = some i) :
    ∃ job, r.job? name = some job ∧ job.instance? 0 = some i :=
  Option.bind_eq_some_iff.1 h

/-! ### Gateways of the same registry -/

/-- No two gateways have the same job if a record is replaced by one of the same host. -/
theorem GatewaysApart.replace (h : r.GatewaysApart) (hg : r.gateway? id = some g) (g' : Gateway)
    (hname : g'.jobName = g.jobName) (hgateways : r'.gateways = r.gateways.insert id g') :
    r'.GatewaysApart := by
  have hfind : ∀ key found, r'.gateway? key = some found →
      ∃ old, r.gateway? key = some old ∧ found.jobName = old.jobName := by
    intro key found hfound
    rw [gateway?, hgateways, Table.get?_insert] at hfound
    split at hfound
    · next heq =>
      obtain rfl := Option.some.inj hfound
      exact ⟨g, heq ▸ hg, hname⟩
    · exact ⟨found, hfound, rfl⟩
  intro key found key' found' hfound hfound' heq
  obtain ⟨old, hold, hn⟩ := hfind key found hfound
  obtain ⟨old', hold', hn'⟩ := hfind key' found' hfound'
  exact h key old key' old' hold hold' (hn.symm.trans (heq.trans hn'))

theorem GatewaysApart.congr (h : r.GatewaysApart) (hgateways : r'.gateways = r.gateways) :
    r'.GatewaysApart := by
  simpa only [GatewaysApart, gateway?, hgateways] using h

/-- A new gateway comes with a job whose name was free. -/
theorem GatewaysApart.insert (h : r.GatewaysApart) (hb : r.Books hand)
    (hnone : r.job? g.jobName = none) (hgateways : r'.gateways = r.gateways.insert g.id g) :
    r'.GatewaysApart := by
  have hfind : ∀ key found, r'.gateway? key = some found →
      key = g.id ∧ found = g ∨ r.gateway? key = some found ∧ found.jobName ≠ g.jobName := by
    intro key found hfound
    rw [gateway?, hgateways, Table.get?_insert] at hfound
    split at hfound
    · next heq => exact .inl ⟨heq, (Option.some.inj hfound).symm⟩
    · refine .inr ⟨hfound, fun heq => ?_⟩
      have hthere := hb.gateways key found hfound
      rw [heq, hnone] at hthere
      cases hthere
  intro key found key' found' hfound hfound' heq
  rcases hfind key found hfound with ⟨rfl, rfl⟩ | ⟨hold, hne⟩
  · rcases hfind key' found' hfound' with ⟨rfl, -⟩ | ⟨-, hne'⟩
    · rfl
    · exact absurd heq.symm hne'
  · rcases hfind key' found' hfound' with ⟨-, rfl⟩ | ⟨hold', -⟩
    · exact absurd heq hne
    · exact h key found key' found' hold hold' heq

/-! ### First instances of gateway jobs -/

/-- Registries with the same gateways, whose jobs have first instances that say the same of the
gateway. -/
structure SameGateways (r r' : Registry) : Prop where
  gateways : r'.gateways = r.gateways
  first : ∀ id g i, r.gateway? id = some g → r.firstInstance? g.jobName = some i →
    ∃ i', r'.firstInstance? g.jobName = some i' ∧ i'.addresses = i.addresses ∧
      i'.network.namespaces = i.network.namespaces

namespace SameGateways

theorem agree (h : SameGateways r r') (hagree : r.GatewaysAgree) : r'.GatewaysAgree := by
  intro id g hg
  rw [gateway?, h.gateways] at hg
  obtain ⟨i, hi, haddresses, hnamespaces⟩ := hagree id g hg
  obtain ⟨i', hi', hsame, hsame'⟩ := h.first id g i hg hi
  exact ⟨i', hi', hsame.trans haddresses, hsame'.trans hnamespaces⟩

theorem ofJobs (hjobs : r'.jobs = r.jobs) (hgateways : r'.gateways = r.gateways) :
    SameGateways r r' where
  gateways := hgateways
  first _ g i _ hi := ⟨i, (firstInstance?_congr (job?_congr hjobs g.jobName)).trans hi, rfl, rfl⟩

theorem ofSameBooks (h : r.SameBooks r') : SameGateways r r' where
  gateways := h.gateways
  first _ g i _ hi := by
    obtain ⟨job, hjob, hfirst⟩ := exists_of_firstInstance? hi
    have hparties := h.job? g.jobName
    rw [hjob, Option.map_some] at hparties
    obtain ⟨job', hjob', hsame⟩ := Option.map_eq_some_iff.1 hparties
    refine ⟨i, ?_, rfl, rfl⟩
    rw [firstInstance?_of_job? hjob', (Job.SameInstances.of_withoutParties hsame).instance?_eq]
    exact hfirst

/-- A job is stored whose first instance says the same, if it is the job of a gateway. -/
theorem insert {new : Job} (hjobs : r'.jobs = r.jobs.insert name new)
    (hgateways : r'.gateways = r.gateways)
    (h : ∀ id g job i, r.gateway? id = some g → g.jobName = name → r.job? name = some job →
      job.instance? 0 = some i → ∃ i', new.instance? 0 = some i' ∧ i'.addresses = i.addresses ∧
        i'.network.namespaces = i.network.namespaces) : SameGateways r r' where
  gateways := hgateways
  first id g i hg hi := by
    obtain ⟨job, hjob, hfirst⟩ := exists_of_firstInstance? hi
    by_cases hname : g.jobName = name
    · subst hname
      rw [firstInstance?_insert_self hjobs]
      exact h id g job i hg rfl hjob hfirst
    · exact ⟨i, (firstInstance?_insert_of_ne hjobs hname).trans hi, rfl, rfl⟩

end SameGateways

/-! ### What a call does to them -/

/-- What the books do not look at does not matter for gateways. -/
theorem GatewaysAgree.congr (h : r.SameBooks r') : r'.GatewaysAgree ↔ r.GatewaysAgree :=
  ⟨(SameGateways.ofSameBooks ⟨h.jobs.symm, h.gateways.symm, fun k hk => (h.pools k hk).symm⟩).agree,
    (SameGateways.ofSameBooks h).agree⟩

/-- A new gateway agrees with the job that is entered for it. -/
theorem GatewayUp.agree {d : GatewayDeployment} (hb : r.Books hand) (h : r.GatewaysAgree)
    (hg : GatewayUp r hand d job r') : r'.GatewaysAgree := by
  cases hg with
  | existing _ => exact h
  | @new g taken _ hnone hunder =>
    intro key found hfound
    obtain ⟨hjobs, hgateways⟩ := hunder.entered g
    rw [gateway?, hgateways, Table.get?_insert] at hfound
    split at hfound
    · obtain rfl := Option.some.inj hfound
      exact ⟨g.theInstance, firstInstance?_insert_self hjobs, rfl, rfl⟩
    · have hthere := hb.gateways key found hfound
      have hne : found.jobName ≠ g.jobName := by
        intro heq
        rw [heq, hnone] at hthere
        cases hthere
      obtain ⟨i, hi, haddresses, hnamespaces⟩ := h key found hfound
      exact ⟨i, (firstInstance?_insert_of_ne hjobs hne).trans hi, haddresses, hnamespaces⟩

/-- Other services of a gateway are not its job's concern. -/
theorem GatewaysAgree.setServices (h : r.GatewaysAgree) (hg : r.gateway? id = some g)
    (services : List ExposedService) :
    GatewaysAgree { r with gateways := r.gateways.insert id { g with services } } := by
  intro key found hfound
  rw [gateway?, Table.get?_insert] at hfound
  split at hfound
  · obtain rfl := Option.some.inj hfound
    have hagrees := h id g hg
    exact hagrees
  · have hagrees := h key found hfound
    exact hagrees

/-- The namespace addresses of a gateway are recorded in both places. -/
theorem GatewaysAgree.setNamespaces (h : r.GatewaysAgree) (hapart : r.GatewaysApart)
    (hg : r.gateway? id = some g) (hjob : r.job? g.jobName = some job) (namespaces : Addresses) :
    GatewaysAgree { r with
      jobs := r.jobs.insert g.jobName (withNamespaces namespaces job)
      gateways := r.gateways.insert id { g with namespaces } } := by
  intro key found hfound
  rw [gateway?, Table.get?_insert] at hfound
  split at hfound
  · obtain rfl := Option.some.inj hfound
    obtain ⟨i, hi, haddresses, -⟩ := h id g hg
    rw [firstInstance?_of_job? hjob] at hi
    refine ⟨{ i with network := { i.network with namespaces } }, ?_, haddresses, rfl⟩
    exact (firstInstance?_insert_self rfl).trans (Job.instance?_withNamespaces namespaces hi)
  · next hkey =>
    obtain ⟨i, hi, haddresses, hnamespaces⟩ := h key found hfound
    have hne : found.jobName ≠ g.jobName := fun heq => hkey (hapart key found id g hfound hg heq)
    exact ⟨i, (firstInstance?_insert_of_ne rfl hne).trans hi, haddresses, hnamespaces⟩

/-- A report gives the job of a gateway namespace addresses that the gateway does not have. -/
def Contradicted (r : Registry) (jobName : String) (reports : List InstanceReport)
    (changed : List UInt32) : Prop :=
  0 ∈ changed ∧ ∃ id g, r.gateway? id = some g ∧ g.jobName = jobName ∧
    ∃ report ∈ reports, report.number = 0 ∧ report.network.namespaces ≠ g.namespaces

/-- **Reports.** Gateways agree with their jobs after a report if it contradicts none of them. -/
theorem Recorded.agree_iff {reports : List InstanceReport} {reporter : Option String}
    {outcomes : List (UInt32 × ReportOutcome)} (h : r.GatewaysAgree)
    (hr : r.Recorded name reports reporter outcomes r') :
    r'.GatewaysAgree ↔ ¬r.Contradicted name reports (Job.changed outcomes) := by
  obtain ⟨hjob, hnetworks, happlied⟩ := hr
  rename_i job job'
  constructor
  · rintro hafter ⟨-, id, g, hg, rfl, report, hreport, hzero, hne⟩
    obtain ⟨i, hi, hnetwork⟩ := Job.network_applyReports happlied hnetworks report hreport
    obtain ⟨i', hi', -, hnamespaces⟩ := hafter id g hg
    rw [firstInstance?_insert_self rfl, ← hzero, hi] at hi'
    obtain rfl := Option.some.inj hi'
    exact hne (hnetwork ▸ hnamespaces)
  · intro hno
    refine SameGateways.agree (.insert rfl rfl fun id g old i hg hname hold hi => ?_) h
    obtain rfl := Option.some.inj (hjob.symm.trans hold)
    obtain ⟨i', hi', hmatures⟩ := Job.matures_applyReports happlied hi
    refine ⟨i', hi', hmatures.addresses, ?_⟩
    cases hconfigured : job.configured 0 with
    | true =>
      have hsame := Job.instance?_applyReports happlied hnetworks hconfigured
      rw [hi, hi'] at hsame
      rw [Option.some.inj hsame]
    | false =>
    by_cases hreported : ∃ report ∈ reports, report.number = 0
    · obtain ⟨report, hreport, hzero⟩ := hreported
      obtain ⟨j, hj, hnetwork⟩ := Job.network_applyReports happlied hnetworks report hreport
      rw [hzero, hi'] at hj
      obtain rfl := Option.some.inj hj
      have hchanged : 0 ∈ Job.changed outcomes := by
        refine ((Job.mem_changed_iff happlied hnetworks).2 0).2 ⟨hconfigured, ?_⟩
        rw [Job.configured, hi', Option.any_some, Instance.isConfigured, hnetwork,
          hnetworks report hreport]
        rfl
      obtain ⟨known, hknown, -, hnamespaces⟩ := h id g hg
      rw [hname, firstInstance?_of_job? hjob, hi] at hknown
      obtain rfl := Option.some.inj hknown
      rw [hnetwork, hnamespaces]
      refine Classical.byContradiction fun hne => hno ⟨hchanged, id, g, hg, hname, ?_⟩
      exact ⟨report, hreport, hzero, hne⟩
    · have hsame := Job.instance?_applyReports_of_forall_ne happlied
        fun report hreport heq => hreported ⟨report, hreport, heq⟩
      rw [hi, hi'] at hsame
      rw [Option.some.inj hsame]

/-- **Undeployments.** Gateways agree with their jobs after an undeployment if it did not take the
first instance of one of the jobs. -/
theorem withdrawn_agree_iff {selector : Selector} {number : UInt32} {i : Instance}
    (h : r.GatewaysAgree) (hd : r.Distinct)
    (hw : Tier.Withdrawn r hand selector number job i r') :
    r'.GatewaysAgree ↔ ¬(number = 0 ∧ r.Gated job.name) := by
  obtain ⟨-, hjob, -, hframe, -⟩ := hw
  have hjobs : r'.jobs = r.jobs.insert job.name (job.remove number) := hframe.jobs
  have hgateways : r'.gateways = r.gateways := hframe.gateways
  constructor
  · rintro hafter ⟨rfl, id, g, hg, hname⟩
    obtain ⟨i', hi', -⟩ := hafter id g (by rw [gateway?, hgateways]; exact hg)
    rw [hname, firstInstance?_insert_self hjobs, (hd _ _ hjob).instance?_remove] at hi'
    cases hi'
  · intro hno
    refine SameGateways.agree (.insert hjobs hgateways fun id g old i hg hname hold hi => ?_) h
    obtain rfl := Option.some.inj (hjob.symm.trans hold)
    have hn : 0 ≠ number := fun heq => hno ⟨heq.symm, id, g, hg, hname⟩
    exact ⟨i, (Job.instance?_remove_of_ne hn).trans hi, rfl, rfl⟩

/-! ### What agreement is good for -/

/-- The addresses of a gateway that agrees with its job are bound by this job and by no other. -/
theorem Agrees.owned (hagrees : r.Agrees g) (h : r.Books hand) {e : Family × String}
    (he : e ∈ g.job.held) : ∃ a, IpAddress.denoted? e.2 = some a ∧
      ∀ job ∈ r.jobs.values, job.Binds a ↔ job.name = g.jobName := by
  obtain ⟨f, text⟩ := e
  obtain ⟨i, hi, haddresses, -⟩ := hagrees
  obtain ⟨owner, howner, hfirst⟩ := exists_of_firstInstance? hi
  have hheld : (f, text) ∈ owner.held := by
    rw [(held_gateway g).1, ← haddresses] at he
    exact List.mem_flatMap.2 ⟨i, (Job.mem_of_instance? hfirst).1, he⟩
  obtain ⟨v, rfl, -⟩ := (h.bound (mem_of_job? howner)).2 f text hheld
  have hden := Codec.denoted?_render v f
  refine ⟨_, hden, fun job hjob => ⟨fun hbinds => ?_, fun hname => ?_⟩⟩
  · rw [h.eq_of_held (mem_of_job? howner) hjob hheld hden hbinds]
    exact h.named _ owner howner
  · have hknown := h.named.job?_of_mem hjob
    rw [hname, howner] at hknown
    obtain rfl := Option.some.inj hknown
    exact ⟨_, Job.mem_addressTexts.2 ⟨f, .inr hheld⟩, hden⟩

/-- **Setting a gateway up again** changes nothing, and gives its job if nothing is missing. -/
theorem deployGateway_again {d : GatewayDeployment} (hg : r.gateway? d.id = some g) :
    (deployGateway d r).2 = r ∧ (d.Complete → (deployGateway d r).1 = .ok g.job) := by
  simp only [deployGateway, Action.throw_bind]
  split
  · next hblank => exact ⟨rfl, fun hd => absurd (hd.named.symm.trans hblank) Bool.false_ne_true⟩
  split
  · next hnone =>
    exact ⟨rfl, fun hd => absurd (hd.reachable.symm.trans hnone) Bool.false_ne_true⟩
  have hfound : (Action.inspect fun r => r.gateway? d.id : Action Registry TierError _) r =
      (.ok (some g), r) := by
    rw [← hg]
    rfl
  rw [Action.bind_apply, hfound]
  exact ⟨rfl, fun _ => rfl⟩

end Registry

/-! ## Calls -/

/-- A call that was meant for a service takes the instance of a gateway away, or gives it other
namespace addresses than the gateway has. -/
def RootCall.Disturbs (r : Registry) : (call : RootCall) → Except TierError call.Answer → Prop
  | .undeployInstance systemId number, .ok _ =>
    ∃ job, r.jobBySystemId? systemId = some job ∧ number = 0 ∧ r.Gated job.name
  | .applyDeployReport report, .ok changed =>
    ∃ job, r.jobBySystemId? report.systemId = some job ∧
      r.Contradicted job.name report.instances changed
  | _, _ => False

/-- A call that fails disturbs nothing. -/
theorem RootCall.not_disturbs_error (r : Registry) (call : RootCall) (e : TierError) :
    ¬call.Disturbs r (.error e) := by
  cases call <;> exact id

namespace RootStep

variable {r r' : Registry} {hand : List (Family × String)} {call : RootCall}
  {result : Except TierError call.Answer} {messages : List (String × ChildMessage)}

/-- Gateways have jobs of their own after every call. -/
theorem gatewaysApart (h : r.Books hand) (hapart : r.GatewaysApart)
    (hstep : RootStep r hand call result messages r') : r'.GatewaysApart := by
  cases hstep with
  | failed hunder => exact hapart.congr hunder.1.gateways
  | registered hr =>
    obtain ⟨-, -, -, hframe, -⟩ := hr
    exact hapart.congr hframe.gateways
  | added ha =>
    obtain ⟨-, -, -, hframe, -⟩ := ha
    exact hapart.congr hframe.gateways
  | withdrawn _ hw =>
    obtain ⟨-, -, -, hframe, -⟩ := hw
    exact hapart.congr hframe.gateways
  | gatewayUp hg =>
    cases hg with
    | existing _ => exact hapart
    | @new g taken _ hnone hunder =>
      exact hapart.insert h hnone (hunder.entered g).2
  | @namespaces _ namespaces g _ _ hg hr =>
    obtain ⟨-, -, -⟩ := hr
    exact hapart.replace hg { g with namespaces } rfl rfl
  | @services _ services g _ hg => exact hapart.replace hg { g with services } rfl rfl
  | reported hr _ =>
    obtain ⟨-, -, -⟩ := hr
    exact hapart.congr rfl
  | lookedUp hl => exact hapart.congr hl.sameBooks.gateways
  | left hl => exact hapart.congr hl.sameBooks.gateways
  | subnetsTaken hs => exact hapart.congr hs.gateways
  | subnetsBack hs => exact hapart.congr hs.gateways
  | joined _ _ => exact hapart.congr rfl

/-- What a step of a call does to gateways and their jobs, but for the two calls whose steps leave
it open. -/
theorem agree_iff (h : r.Books hand) (hd : r.Distinct) (hagree : r.GatewaysAgree)
    (hstep : RootStep r hand call result messages r')
    (hnamespaces : ∀ id namespaces, call ≠ .setGatewayNamespaces id namespaces)
    (hreport : ∀ report, call ≠ .applyDeployReport report) :
    r'.GatewaysAgree ↔ ¬call.Disturbs r result := by
  have hsame : ∀ {r' : Registry}, r.SameGateways r' → (r'.GatewaysAgree ↔ ¬False) :=
    fun hg => iff_of_true (hg.agree hagree) not_false
  cases hstep with
  | failed hunder =>
    have hunchanged := Registry.SameGateways.ofJobs hunder.1.jobs hunder.1.gateways
    exact iff_of_true (hunchanged.agree hagree) (call.not_disturbs_error r _)
  | @registered _ systemId job _ hr =>
    obtain ⟨⟨texts, hnew⟩, hjobs, hgateways⟩ := hr.stored h
    refine hsame (.insert hjobs hgateways fun id g old i _ _ hold hi => ⟨i, ?_, rfl, rfl⟩)
    rw [Registry.startingJob, hold, Option.getD_some] at hnew
    rw [hnew, Job.instance?_withShared]
    exact hi
  | added ha =>
    obtain ⟨hfound, -, -, hframe, -⟩ := ha
    have hknown := h.named.job?_of_mem (Registry.mem_of_jobBySystemId? hfound)
    refine hsame (.insert rfl hframe.gateways fun id g job i _ _ hjob hi => ?_)
    obtain rfl := Option.some.inj (hknown.symm.trans hjob)
    exact ⟨i, (Job.instance?_addEach _ _ (Job.zero_not_mem_addEach _ _ hi)).trans hi, rfl, rfl⟩
  | withdrawn hfound hw =>
    rw [Registry.withdrawn_agree_iff hagree hd hw, RootCall.Disturbs, hfound]
    simp
  | gatewayUp hg => exact iff_of_true (hg.agree h hagree) not_false
  | namespaces _ _ => exact absurd rfl (hnamespaces _ _)
  | @services _ services g _ hg => exact iff_of_true (hagree.setServices hg services) not_false
  | reported _ _ => exact absurd rfl (hreport _)
  | lookedUp hl => exact hsame (.ofSameBooks hl.sameBooks)
  | left hl => exact hsame (.ofSameBooks hl.sameBooks)
  | subnetsTaken hs => exact hsame (.ofSameBooks hs.sameBooks)
  | subnetsBack hs => exact hsame (.ofSameBooks hs.sameBooks)
  | joined _ _ => exact hsame (.ofJobs rfl rfl)

end RootStep

namespace RootTier

variable {σ : Type} (R : RootTier σ)

/-- Messages that go out leave gateways and their jobs alone. -/
theorem agree_tell (r : Registry) (messages : List (String × ChildMessage)) (s : σ) :
    (R.site.get (R.tier.tell messages (R.site.set r s))).GatewaysAgree ↔ r.GatewaysAgree := by
  refine Registry.GatewaysAgree.congr ?_
  refine Tier.tell_keeps (I := fun s' => r.SameBooks (R.site.get s')) ?_ ?_
  · rw [R.site.get_set]
    exact .refl r
  · exact fun m _ s' hs => hs.trans (R.keeps m.1 m.2 s')

/-- **One call.** Gateways that agree with their jobs still do so after a call, unless the call
disturbs one of them. -/
theorem perform_agree_iff {s : σ} {hand : List (Family × String)} (h : (R.site.get s).Books hand)
    (hd : (R.site.get s).Distinct) (hapart : (R.site.get s).GatewaysApart)
    (hagree : (R.site.get s).GatewaysAgree) (call : RootCall) :
    (R.site.get (R.tier.perform call s).2).GatewaysAgree ↔
      ¬call.Disturbs (R.site.get s) (R.tier.perform call s).1 := by
  by_cases hnamespaces : ∃ key namespaces, call = .setGatewayNamespaces key namespaces
  · obtain ⟨key, namespaces, rfl⟩ := hnamespaces
    refine iff_of_true ?_ id
    have hset := Registry.setGatewayNamespaces_spec h key namespaces
    refine ((Action.Triple.zoom_at (p := R.site) hset).mono ?_ ?_).after
      (R := fun s' => (R.site.get s').GatewaysAgree) rfl
    · rintro _ _ ⟨_, rfl, g, job, hg, hjob, rfl⟩
      rw [R.site.get_set]
      exact hagree.setNamespaces hapart hg hjob namespaces
    · rintro _ _ ⟨_, rfl, rfl⟩
      rw [R.site.set_get]
      exact hagree
  by_cases hreport : ∃ report, call = .applyDeployReport report
  · obtain ⟨report, rfl⟩ := hreport
    have hspec := Tier.applyDeployReport_announces (t := R.tier) report s
    refine hspec.result (R := fun result s' => (R.site.get s').GatewaysAgree ↔
      ¬RootCall.Disturbs (R.site.get s) (.applyDeployReport report) result) rfl ?_ ?_
    · rintro changed _ ⟨job, outcomes, r', hfound, hrecorded, rfl, rfl⟩
      obtain ⟨messages, -, htell⟩ :=
        Tier.announceAll_eq_tell (t := R.tier) job.name (Job.changed outcomes) (R.site.set r' s)
      have hafter := R.agree_tell r' messages s
      rw [← htell] at hafter
      refine hafter.trans ((hrecorded.agree_iff hagree).trans (not_congr ?_))
      simp only [RootCall.Disturbs]
      have hfound' : (R.site.get s).jobBySystemId? report.systemId = some job := hfound
      simp [hfound']
    · rintro e _ ⟨rfl, -⟩
      exact iff_of_true hagree id
  · obtain ⟨r', messages, hstep, hs'⟩ := Tier.perform_spec (t := R.tier) rfl h call
    have hafter := R.agree_tell r' messages s
    have hiff := hstep.agree_iff h hd hagree
      (fun key namespaces heq => hnamespaces ⟨key, namespaces, heq⟩)
      fun report heq => hreport ⟨report, heq⟩
    rw [hs']
    exact hafter.trans hiff

/-! ## Runs -/

/-- Gateways have jobs of their own at every moment of a run. -/
theorem gatewaysApart (calls : List RootCall) (s : σ) : (R.registry calls s).GatewaysApart := by
  induction calls with
  | nil =>
    rw [registry, after, R.site.get_set]
    intro id g id' g' hg
    cases hg
  | cons call earlier ih =>
    obtain ⟨hbooks, -⟩ := R.books earlier s
    obtain ⟨r', messages, hstep, hsame⟩ := R.perform_spec hbooks call
    exact (hstep.gatewaysApart hbooks ih).congr hsame.gateways

/-- Numbers of instances are distinct at every moment of a run. -/
theorem distinct (calls : List RootCall) (s : σ) : (R.registry calls s).Distinct := by
  intro name job hjob
  rw [registry, ← R.reached_calls] at hjob
  exact R.state_distinct (calls.map .call) s name job hjob

/-- Gateways agree with their jobs in a run in which none of them is disturbed. -/
theorem agree {calls : List RootCall} {s : σ}
    (hno : ∀ call earlier, call :: earlier <:+ calls →
      ¬call.Disturbs (R.registry earlier s) (R.tier.perform call (R.after earlier s)).1) :
    (R.registry calls s).GatewaysAgree := by
  induction calls with
  | nil =>
    rw [registry, after, R.site.get_set]
    intro id g hg
    cases hg
  | cons call earlier ih =>
    obtain ⟨hbooks, -⟩ := R.books earlier s
    have hagree := ih fun c e he => hno c e (he.trans (List.suffix_cons call earlier))
    exact (R.perform_agree_iff hbooks (R.distinct earlier s) (R.gatewaysApart earlier s) hagree
      call).2 (hno call earlier (List.suffix_refl _))

/-- What holds of all gateways of a root: each agrees with its job, setting it up again gives the
job and changes nothing, and its addresses are bound by its job and by no other. -/
structure GatewaysHold (s : σ) : Prop where
  agree : (R.site.get s).GatewaysAgree
  again : ∀ d g, (R.site.get s).gateway? d.id = some g → (R.tier.deployGateway d s).2 = s ∧
    (d.Complete → (R.tier.deployGateway d s).1 = .ok g.job)
  owned : ∀ id g, (R.site.get s).gateway? id = some g → ∀ e ∈ g.job.held,
    ∃ a, IpAddress.denoted? e.2 = some a ∧
      ∀ job ∈ (R.site.get s).jobs.values, job.Binds a ↔ job.name = g.jobName

/-- Where gateways agree with their jobs, all of this holds of them. -/
theorem gatewaysHold {s : σ} {hand : List (Family × String)} (h : (R.site.get s).Books hand)
    (hagree : (R.site.get s).GatewaysAgree) : R.GatewaysHold s where
  agree := hagree
  again d g hg := by
    obtain ⟨hsame, hjob⟩ := Registry.deployGateway_again hg
    have happly : R.tier.deployGateway d s =
        ((Registry.deployGateway d (R.site.get s)).1,
          R.site.set (Registry.deployGateway d (R.site.get s)).2 s) := Action.zoom_apply ..
    rw [happly, hsame, R.site.set_get]
    exact ⟨rfl, hjob⟩
  owned id g hg _ he := (hagree id g hg).owned h he

/-- **Gateways.** Each gateway agrees with its job, and may be set up again, at every moment of a
run, exactly if no call of the run takes the instance of a gateway away or gives it other namespace
addresses than the gateway has. -/
theorem gatewaysHold_iff (calls : List RootCall) (s : σ) :
    (∀ earlier, earlier <:+ calls → R.GatewaysHold (R.after earlier s)) ↔
      ∀ call earlier, call :: earlier <:+ calls →
        ¬call.Disturbs (R.registry earlier s) (R.tier.perform call (R.after earlier s)).1 := by
  constructor
  · intro hall call earlier hsuffix
    obtain ⟨hbooks, -⟩ := R.books earlier s
    have hbefore := hall earlier ((List.suffix_cons call earlier).trans hsuffix)
    exact (R.perform_agree_iff hbooks (R.distinct earlier s) (R.gatewaysApart earlier s)
      hbefore.agree call).1 (hall (call :: earlier) hsuffix).agree
  · intro hno earlier hsuffix
    obtain ⟨hbooks, -⟩ := R.books earlier s
    exact R.gatewaysHold hbooks (R.agree fun c e he => hno c e (he.trans hsuffix))

/-- A gateway can be taken from its job. The scheduler undeploys instance 0 of the gateway under the
identifier of the gateway, and the record keeps the address that has gone back. -/
theorem gatewaysHold_undeployed : ¬ ∀ calls : List RootCall, Standalone.delivering.GatewaysHold
    (Standalone.delivering.after calls (.start ⟨[], [], []⟩ [])) := by
  intro hall
  have hagree := (hall [.undeployInstance "gw-1" 0,
    .deployGateway ⟨"gw-1", "edge1", "c1", ⟨some "203.0.113.7", none⟩, none⟩]).agree
  obtain ⟨i, hi, -⟩ := hagree "gw-1" ⟨"gw-1", "edge1", "c1", ⟨some "203.0.113.7", none⟩, none,
    ⟨some "172.30.0.0", none⟩, ⟨none, none⟩, []⟩ (by decide +kernel)
  exact Option.some_ne_none i (hi.symm.trans (by decide +kernel))

end RootTier

end Overlay
