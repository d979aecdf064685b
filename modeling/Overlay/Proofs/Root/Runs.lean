import Overlay.Proofs.Root.Operations
import Overlay.Standalone
import Overlay.Tier.Gateways

/-!
# Runs of a root tier

A root tier serves one call after the other; some of them fail. `RootStep` lists what one call can
do: a change of the registry, and messages that go out then. By `Tier.perform_spec` it is all that a
call does, so what every `RootStep` keeps holds after every run.

A run starts with an empty registry. It is a list of calls, the latest one first: the runs that led
to it are its suffixes.
-/

namespace Overlay

open Overlay.Action (Triple)

/-- What a root is called for. -/
inductive RootCall where
  | register (d : ServiceDescriptor) (systemId : String)
  | addInstances (systemId : String) (replicas : UInt32) (cluster : String)
  | undeployInstance (systemId : String) (number : UInt32)
  | deployGateway (d : GatewayDeployment)
  | setGatewayNamespaces (id : String) (namespaces : Addresses)
  | setGatewayServices (id : String) (services : List ExposedService)
  | applyDeployReport (report : DeployReport)
  | childLookup (child : String) (selector : Selector)
  | removeInterest (jobName party : String)
  | requestSubnets
  | releaseSubnets (subnets : Addresses)
  | registerCluster (registration : ClusterRegistration)

/-- What a root answers to a call. -/
abbrev RootCall.Answer : RootCall → Type
  | register _ _ => Job
  | addInstances _ _ _ => List Instance
  | undeployInstance _ _ => Undeployment
  | deployGateway _ => Job
  | setGatewayNamespaces _ _ => Gateway
  | setGatewayServices _ _ => Gateway
  | applyDeployReport _ => List UInt32
  | childLookup _ _ => Option Job
  | removeInterest _ _ => InterestChange
  | requestSubnets => Addresses
  | releaseSubnets _ => Unit
  | registerCluster _ => Cluster

/-- The operation of a tier that a call stands for. -/
def Tier.perform {σ : Type} (t : Tier σ) : (call : RootCall) → Action σ TierError call.Answer
  | .register d systemId => t.register d systemId
  | .addInstances systemId replicas cluster => t.addInstances systemId replicas cluster
  | .undeployInstance systemId number => t.undeployInstance systemId number
  | .deployGateway d => t.deployGateway d
  | .setGatewayNamespaces id namespaces => t.setGatewayNamespaces id namespaces
  | .setGatewayServices id services => t.setGatewayServices id services
  | .applyDeployReport report => t.applyDeployReport report
  | .childLookup child selector => t.childLookup child selector
  | .removeInterest jobName party => t.removeInterest jobName party
  | .requestSubnets => t.requestSubnets
  | .releaseSubnets subnets => t.releaseSubnets subnets
  | .registerCluster registration => t.registerCluster registration

/-- What a call does: the answer, the messages that go out, and the registry before they do. -/
inductive RootStep (r : Registry) (hand : List (Family × String)) : (call : RootCall) →
    Except TierError call.Answer → List (String × ChildMessage) → Registry → Prop
  | failed {call : RootCall} {e : TierError} {r' : Registry} : r.Underway hand r' →
      RootStep r hand call (.error e) [] r'
  | registered {d : ServiceDescriptor} {systemId : String} {job : Job} {r' : Registry} :
      r.Registered hand d systemId job r' → RootStep r hand (.register d systemId) (.ok job) [] r'
  | added {systemId cluster : String} {replicas : UInt32} {added : List Instance}
      {r' : Registry} : r.Added hand systemId replicas.toNat cluster added r' →
      RootStep r hand (.addInstances systemId replicas cluster) (.ok added) [] r'
  | withdrawn {systemId : String} {number : UInt32} {job : Job} {i : Instance}
      {u : Undeployment} {r' : Registry} : r.jobBySystemId? systemId = some job →
      Tier.Withdrawn r hand (.name job.name) number job i r' →
      RootStep r hand (.undeployInstance systemId number) (.ok u)
        (Tier.farewells r job.name number) r'
  | gatewayUp {d : GatewayDeployment} {job : Job} {r' : Registry} : r.GatewayUp hand d job r' →
      RootStep r hand (.deployGateway d) (.ok job) [] r'
  | namespaces {id : String} {namespaces : Addresses} {g g' : Gateway} {r' : Registry} :
      r.gateway? id = some g →
      Registry.Restored { r with gateways := r.gateways.insert id { g with namespaces } } r' →
      RootStep r hand (.setGatewayNamespaces id namespaces) (.ok g') [] r'
  | services {id : String} {services : List ExposedService} {g g' : Gateway} :
      r.gateway? id = some g → RootStep r hand (.setGatewayServices id services) (.ok g') []
        { r with gateways := r.gateways.insert id { g with services } }
  | reported {report : DeployReport} {changed : List UInt32}
      {messages : List (String × ChildMessage)} {r' : Registry} : r.Restored r' →
      Tier.AllDeployments messages →
      RootStep r hand (.applyDeployReport report) (.ok changed) messages r'
  | lookedUp {child : String} {selector : Selector} {found : Option Job} {r' : Registry} :
      Tier.LookedUp r child selector found r' →
      RootStep r hand (.childLookup child selector) (.ok found) [] r'
  | left {jobName party : String} {result : Except TierError InterestChange} {r' : Registry} :
      Tier.Left r jobName party r' → RootStep r hand (.removeInterest jobName party) result [] r'
  | subnetsTaken {result : Except TierError Addresses} {r' : Registry} : r.OnlySubnets r' →
      RootStep r hand .requestSubnets result [] r'
  | subnetsBack {subnets : Addresses} {result : Except TierError Unit} {r' : Registry} :
      r.OnlySubnets r' → RootStep r hand (.releaseSubnets subnets) result [] r'
  | joined {registration : ClusterRegistration} {c : Cluster} : c.status = .active →
      c.id.isEmpty = false →
      RootStep r hand (.registerCluster registration) (.ok c) [] (r.putCluster c)

namespace Tier

variable {σ : Type} {t : Tier σ} {s : σ} {hand : List (Family × String)}

/-! ## One call -/

/-- Where a call has led: a step on the registry was made, and its messages have gone out. -/
def Performed (t : Tier σ) (hand : List (Family × String)) (s : σ) (call : RootCall)
    (result : Except TierError call.Answer) (s' : σ) : Prop :=
  ∃ r' messages, RootStep (t.site.get s) hand call result messages r' ∧
    s' = t.tell messages (t.site.set r' s)

/-- An operation on the registry alone. -/
theorem performed_zoom {c : RootCall} {x : Action Registry TierError c.Answer}
    {Q : c.Answer → Registry → Prop} {E : TierError → Registry → Prop}
    (h : Triple (· = t.site.get s) x Q E)
    (hok : ∀ a r', Q a r' → RootStep (t.site.get s) hand c (.ok a) [] r')
    (herror : ∀ e r', E e r' → RootStep (t.site.get s) hand c (.error e) [] r') :
    Triple (· = s) (x.zoom t.site) (fun a => t.Performed hand s c (.ok a))
      (fun e => t.Performed hand s c (.error e)) := by
  refine (Triple.zoom_at h).mono ?_ ?_
  · rintro a _ ⟨r', rfl, ha⟩
    exact ⟨r', [], hok a r' ha, rfl⟩
  · rintro e _ ⟨r', rfl, he⟩
    exact ⟨r', [], herror e r' he, rfl⟩

/-- **One call.** Each call of a root makes one of the steps. -/
theorem perform_triple (hrole : t.role = .root) (h : (t.site.get s).Books hand) (call : RootCall) :
    Triple (· = s) (t.perform call) (fun a => t.Performed hand s call (.ok a))
      (fun e => t.Performed hand s call (.error e)) := by
  have hset : t.site.set (t.site.get s) s = s := t.site.set_get s
  have hsame : ∀ e s', s' = s → t.Performed hand s call (.error e) s' :=
    fun e s' hs => ⟨_, [], .failed h.underway, hs.trans hset.symm⟩
  cases call with
  | register d systemId =>
    rw [perform, register, atRoot_of_role hrole]
    exact performed_zoom (Registry.register_spec h d systemId) (fun _ _ hr => .registered hr)
      fun _ _ hr => .failed hr
  | addInstances systemId replicas cluster =>
    rw [perform, addInstances, atRoot_of_role hrole]
    exact performed_zoom (Registry.addInstances_spec h systemId replicas cluster)
      (fun _ _ hr => .added hr) fun _ _ hr => .failed hr
  | undeployInstance systemId number =>
    refine (undeployInstance_root hrole h systemId number).mono ?_ hsame
    rintro u s' ⟨job, i, r', hjob, hw, hs'⟩
    exact ⟨r', _, .withdrawn hjob hw, hs'⟩
  | deployGateway d =>
    rw [perform, deployGateway, atRoot_of_role hrole]
    exact performed_zoom (Registry.deployGateway_spec h d) (fun _ _ hr => .gatewayUp hr)
      fun _ _ hr => .failed hr
  | setGatewayNamespaces id namespaces =>
    rw [perform, setGatewayNamespaces, atRoot_of_role hrole]
    refine performed_zoom (c := .setGatewayNamespaces id namespaces)
      (Registry.setGatewayNamespaces_spec h id namespaces) ?_ ?_
    · rintro _ _ ⟨g, job, hg, hjob, rfl⟩
      obtain ⟨hsame, hl⟩ := Job.withNamespaces_spec namespaces job
      exact .namespaces hg (.intro hjob hsame hl)
    · exact fun _ _ hr => .failed (hr ▸ h.underway)
  | setGatewayServices id services =>
    rw [perform, setGatewayServices, atRoot_of_role hrole]
    refine performed_zoom (c := .setGatewayServices id services)
      (Registry.setGatewayServices_spec id services) ?_ ?_
    · rintro _ _ ⟨g, hg, rfl⟩
      exact .services hg
    · exact fun _ _ hr => .failed (hr ▸ h.underway)
  | applyDeployReport report =>
    refine (applyDeployReport_spec report s).mono ?_ hsame
    rintro changed s' ⟨r', messages, hr, hall, hs'⟩
    exact ⟨r', messages, .reported hr hall, hs'⟩
  | childLookup child selector =>
    refine (childLookup_root hrole h.named child selector).mono ?_
      fun e s' hs => hsame e s' hs.1
    rintro found s' ⟨r', hs', hl⟩
    exact ⟨r', [], .lookedUp hl, hs'⟩
  | removeInterest jobName party =>
    refine (removeInterest_root hrole s jobName party).mono ?_ ?_
    · rintro change s' ⟨r', hs', hl⟩
      exact ⟨r', [], .left hl, hs'⟩
    · rintro e s' ⟨r', hs', hl⟩
      exact ⟨r', [], .left hl, hs'⟩
  | requestSubnets =>
    simp only [perform, requestSubnets, parent?_of_role hrole]
    have htake := Registry.takeSubnets_spec (r := t.site.get s)
    exact performed_zoom (c := .requestSubnets) (htake.pre fun r hr => hr ▸ .refl r)
      (fun _ _ hr => .subnetsTaken hr) fun _ _ hr => .subnetsTaken hr
  | releaseSubnets subnets =>
    simp only [perform, releaseSubnets, parent?_of_role hrole]
    have hreturn := Registry.returnSubnets_spec (r := t.site.get s) subnets.present
    exact performed_zoom (c := .releaseSubnets subnets) (hreturn.pre fun r hr => hr ▸ .refl r)
      (fun _ _ hr => .subnetsBack hr) fun _ _ hr => .subnetsBack hr
  | registerCluster registration =>
    simp only [perform, registerCluster, isRoot_of_role hrole, Bool.not_true, Bool.false_eq_true,
      if_false]
    split
    · exact .throw fun s' hs => hsame _ s' hs
    next hcomplete =>
    rw [Bool.or_eq_true, not_or, Bool.not_eq_true] at hcomplete
    refine .bind (R := fun _ s' => s' = t.site.set ((t.site.get s).putCluster
      ⟨registration.id, registration.address, registration.port, .active⟩) s) ?_ fun _ => .pure ?_
    · exact change_spec fun s' hs => hs ▸ rfl
    · exact fun s' hs => ⟨_, [], .joined rfl hcomplete.1, hs⟩

/-- **One call.** What a call gives and leaves behind. -/
theorem perform_spec (hrole : t.role = .root) (h : (t.site.get s).Books hand) (call : RootCall) :
    t.Performed hand s call (t.perform call s).1 (t.perform call s).2 :=
  (perform_triple hrole h call).result rfl (fun _ _ hs => hs) fun _ _ hs => hs

end Tier

/-! ## What a call keeps -/

/-- The instances that a call has displaced: those whose numbers it has given to others. -/
def RootCall.displaced (r : Registry) : (call : RootCall) → Except TierError call.Answer →
    List Instance
  | .addInstances systemId _ _, .ok added =>
    (r.jobBySystemId? systemId).elim [] (·.displacedBy added)
  | _, _ => []

/-- A call that fails displaces nothing. -/
theorem RootCall.displaced_error (r : Registry) (call : RootCall) (e : TierError) :
    call.displaced r (.error e) = [] := by
  cases call <;> rfl

/-- If a call adds instances, their numbers have 32 bits. -/
def RootCall.Fits (r : Registry) : (call : RootCall) → Except TierError call.Answer → Prop
  | .addInstances systemId replicas _, .ok _ =>
    ∀ job, r.jobBySystemId? systemId = some job → job.Fits replicas.toNat
  | _, _ => True

/-- **The books are kept by every call.** What displaced instances held is lost, and none is displaced
while numbers fit. -/
theorem RootStep.books {r r' : Registry} {hand : List (Family × String)} {call : RootCall}
    {result : Except TierError call.Answer} {messages : List (String × ChildMessage)}
    (h : r.Books hand) (hstep : RootStep r hand call result messages r') :
    r'.Books ((call.displaced r result).flatMap (fun i => i.addresses.present) ++ hand) ∧
      (call.Fits r result → call.displaced r result = []) := by
  cases hstep with
  | failed hunder =>
    rw [RootCall.displaced_error]
    exact ⟨hunder.2, fun _ => rfl⟩
  | registered hr => exact ⟨hr.books h, fun _ => rfl⟩
  | added ha =>
    obtain ⟨job, hjob, hbooks, hfits⟩ := ha.books h
    simp only [RootCall.displaced, hjob, Option.elim_some]
    exact ⟨hbooks, fun hcall => hfits (hcall job hjob)⟩
  | withdrawn _ hw =>
    obtain ⟨-, -, -, -, hbooks⟩ := hw
    exact ⟨hbooks, fun _ => rfl⟩
  | gatewayUp hg => exact ⟨hg.books h, fun _ => rfl⟩
  | namespaces hg hr =>
    have hjob := h.gateways _ _ hg
    refine ⟨Registry.Restored.books ?_ hr, fun _ => rfl⟩
    exact h.putGateway _ hjob
  | services hg =>
    have hjob := h.gateways _ _ hg
    exact ⟨h.putGateway _ hjob, fun _ => rfl⟩
  | reported hr => exact ⟨hr.books h, fun _ => rfl⟩
  | lookedUp hl => exact ⟨hl.sameBooks.books h, fun _ => rfl⟩
  | left hl => exact ⟨hl.sameBooks.books h, fun _ => rfl⟩
  | subnetsTaken hs => exact ⟨hs.sameBooks.books h, fun _ => rfl⟩
  | subnetsBack hs => exact ⟨hs.sameBooks.books h, fun _ => rfl⟩
  | @joined registration c _ _ =>
    have hsame : r.SameBooks (r.putCluster c) := ⟨rfl, rfl, fun _ _ => rfl⟩
    exact ⟨hsame.books h, fun _ => rfl⟩

/-! ## Runs -/

/-- A root tier. Telling others may have effects on the root itself, but only such that its books do
not look at: a child that is told looks the job up again, or is marked as failed. -/
structure RootTier (σ : Type) where
  site : Part σ Registry
  notify : Notifier σ
  keeps : ∀ recipient message s, (site.get s).SameBooks (site.get (notify recipient message s).2)

namespace RootTier

variable {σ : Type} (R : RootTier σ)

/-- The tier itself. -/
def tier : Tier σ :=
  ⟨.root, R.site, R.notify⟩

/-- The state after a run. -/
def after : List RootCall → σ → σ
  | [], s => R.site.set ∅ s
  | call :: earlier, s => (R.tier.perform call (after earlier s)).2

/-- The registry after a run. -/
def registry (calls : List RootCall) (s : σ) : Registry :=
  R.site.get (R.after calls s)

/-- Each call of a run makes one of the steps, and the messages that go out keep the books. -/
theorem perform_spec {s : σ} {hand : List (Family × String)} (h : (R.site.get s).Books hand)
    (call : RootCall) : ∃ r' messages,
      RootStep (R.site.get s) hand call (R.tier.perform call s).1 messages r' ∧
      r'.SameBooks (R.site.get (R.tier.perform call s).2) := by
  obtain ⟨r', messages, hstep, hs'⟩ := Tier.perform_spec (t := R.tier) rfl h call
  refine ⟨r', messages, hstep, ?_⟩
  rw [hs']
  refine Tier.tell_keeps (I := fun s' => r'.SameBooks (R.site.get s')) ?_ ?_
  · have hget : R.site.get (R.tier.site.set r' s) = r' := R.site.get_set r' s
    rw [hget]
    exact .refl r'
  · exact fun m _ s' hs => hs.trans (R.keeps m.1 m.2 s')

/-- All instances that a run adds get numbers of 32 bits. -/
def Fits (calls : List RootCall) (s : σ) : Prop :=
  ∀ call earlier, call :: earlier <:+ calls →
    call.Fits (R.registry earlier s) (R.tier.perform call (R.after earlier s)).1

/-- The instances that a run has displaced, at any of its calls. -/
def displaced : List RootCall → σ → List Instance
  | [], _ => []
  | call :: earlier, s =>
    call.displaced (R.registry earlier s) (R.tier.perform call (R.after earlier s)).1 ++
      displaced earlier s

/-- What a run has lost: the addresses of the instances that it has displaced. -/
def lost (calls : List RootCall) (s : σ) : List (Family × String) :=
  (R.displaced calls s).flatMap fun i => i.addresses.present

/-- **The books of a run.** They are kept at every moment of a run, and nothing is displaced while
numbers fit. -/
theorem books (calls : List RootCall) (s : σ) :
    (R.registry calls s).Books (R.lost calls s) ∧ (R.Fits calls s → R.displaced calls s = []) := by
  induction calls with
  | nil =>
    refine ⟨?_, fun _ => rfl⟩
    rw [registry, after, R.site.get_set]
    exact .empty
  | cons call earlier ih =>
    obtain ⟨hbooks, hdisplaced⟩ := ih
    obtain ⟨r', messages, hstep, hsame⟩ := R.perform_spec hbooks call
    obtain ⟨hafter, hmore⟩ := hstep.books hbooks
    refine ⟨?_, fun hfits => ?_⟩
    · rw [lost, displaced, List.flatMap_append]
      exact hsame.books hafter
    · have hearlier : R.Fits earlier s := fun c e he =>
        hfits c e (he.trans (List.suffix_cons call earlier))
      rw [displaced, hdisplaced hearlier, List.append_nil]
      exact hmore (hfits call earlier (List.suffix_refl _))

end RootTier

/-! ## Root tiers on their own -/

namespace Standalone

/-- A root whose messages reach some parties and not others. -/
def delivering : RootTier Standalone where
  site := site
  notify := deliver
  keeps recipient message s := by
    rw [deliver]
    split
    · exact .refl _
    · exact .refl _

/-- A root whose messages reach everybody. -/
def broadcasting : RootTier Standalone where
  site := site
  notify := broadcast
  keeps _ _ _ := .refl _

end Standalone

end Overlay
