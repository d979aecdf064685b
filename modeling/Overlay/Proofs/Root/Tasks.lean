import Overlay.Proofs.Job.Turns
import Overlay.Proofs.Tier.Operations

/-!
# Everything that a root does

A root is called over its interface (`RootCall`), and a root that hosts workers of its own takes
their reports and requests as every tier does. `RootTask` lists all of it. What a task does to the
jobs of the root is one turn of each job (`Job.Turn`), and the books of the root are kept
(`Tier.carryOut_turned`). So what turns keep holds after every run of tasks.

A run starts with an empty registry and is a list of tasks, the latest one first.
-/

namespace Overlay

open Overlay.Action (Triple)

/-- What a root may be told to do. -/
inductive RootTask where
  | call (call : RootCall)
  /-- A job is looked up. -/
  | resolve (selector : Selector)
  /-- A worker reports the network of an instance. -/
  | report (selector : Selector) (number : UInt32) (network : Network) (reporter : String)
  /-- An instance is removed, whoever has scheduled it. -/
  | undeploy (selector : Selector) (number : UInt32)
  /-- A party below sends a request. -/
  | request (client : String) (wanted : ChildRequest)

/-- The state after a task. -/
def Tier.carryOut {σ : Type} (t : Tier σ) : RootTask → σ → σ
  | .call call => (t.perform call).after
  | .resolve selector => (t.resolve selector).after
  | .report selector number network reporter =>
    (t.reportNetwork selector number network reporter).after
  | .undeploy selector number => (t.undeploy selector number).after
  | .request client wanted => (t.handle client wanted).after

/-- The numbers of the instances that a call has created for the job of a name: those that it
answers with, unless they were there before. -/
def RootCall.made (r : Registry) (name : String) :
    (call : RootCall) → Except TierError call.Answer → List UInt32
  | .addInstances systemId _ _, .ok added =>
    if (r.jobBySystemId? systemId).any fun job => job.name == name then added.map (·.number) else []
  | .deployGateway _, .ok job =>
    if job.name = name ∧ r.job? name = none then job.instances.map (·.number) else []
  | _, _ => []

/-- A call that fails creates nothing. -/
theorem RootCall.made_error (r : Registry) (name : String) (call : RootCall) (e : TierError) :
    call.made r name (.error e) = [] := by
  cases call <;> rfl

/-- The numbers of the instances that a task creates. -/
def Tier.made {σ : Type} (t : Tier σ) (s : σ) (name : String) : RootTask → List UInt32
  | .call call => call.made (t.site.get s) name (t.perform call s).1
  | _ => []

/-! ## Turns of a registry -/

namespace Registry

variable {r r' r'' : Registry} {name : String} {job job' : Job} {made : String → List UInt32}

/-- Whether there is a gateway that is found through the job of a name. -/
def Gated (r : Registry) (name : String) : Prop :=
  ∃ id g, r.gateway? id = some g ∧ g.jobName = name

instance (r : Registry) (name : String) : Decidable (r.Gated name) :=
  decidable_of_iff (∃ g ∈ r.gateways.values, g.jobName = name) <| by
    simp only [Gated, gateway?, Table.mem_values_iff]
    exact ⟨fun ⟨g, ⟨id, hg⟩, hn⟩ => ⟨id, g, hg, hn⟩, fun ⟨id, g, hg, hn⟩ => ⟨g, ⟨id, hg⟩, hn⟩⟩

theorem Gated.congr (h : r'.gateways = r.gateways) : r'.Gated name ↔ r.Gated name := by
  simp only [Gated, gateway?, h]

/-- Each job takes a turn, and a new gateway comes with a new job. -/
structure Turn (made : String → List UInt32) (r r' : Registry) : Prop where
  jobs : ∀ name, Job.Turn (r.Gated name) (r.job? name) (made name) (r'.job? name)
  gated : ∀ name, r'.Gated name → r.Gated name ∨ r.job? name = none

/-- A job that nothing happens to. -/
theorem turn_rest (r : Registry) (name : String) :
    Job.Turn (r.Gated name) (r.job? name) [] (r.job? name) := by
  cases r.job? name with
  | none => exact .absent
  | some job => exact .kept (.refl job)

namespace Turn

/-- Nothing happens to the jobs. -/
theorem ofJobs (hjobs : r'.jobs = r.jobs)
    (hgated : ∀ name, r'.Gated name → r.Gated name ∨ r.job? name = none) :
    Turn (fun _ => []) r r' where
  jobs name := by
    rw [job?_congr hjobs]
    exact r.turn_rest name
  gated := hgated

/-- One job takes a turn. -/
theorem insert {more : List UInt32} {before : Option Job}
    (hjobs : r'.jobs = r.jobs.insert name job)
    (hgated : ∀ name, r'.Gated name → r.Gated name ∨ r.job? name = none)
    (hbefore : r.job? name = before) (hturn : Job.Turn (r.Gated name) before more (some job))
    (hmade : ∀ other, made other = if other = name then more else []) : Turn made r r' where
  jobs other := by
    rw [hmade, job?, job?, hjobs, Table.get?_insert]
    split
    · next heq =>
      subst heq hbefore
      exact hturn
    · exact r.turn_rest other
  gated := hgated

/-- One job takes a turn in which no instance is created. -/
theorem edit {before : Option Job} (hjobs : r'.jobs = r.jobs.insert name job)
    (hgateways : r'.gateways = r.gateways) (hbefore : r.job? name = before)
    (hturn : Job.Turn (r.Gated name) before [] (some job)) : Turn (fun _ => []) r r' :=
  insert hjobs (fun _ hg => .inl ((Gated.congr hgateways).1 hg)) hbefore hturn
    fun _ => (ite_self _).symm

theorem refl (r : Registry) : Turn (fun _ => []) r r :=
  ofJobs rfl fun _ hg => .inl hg

/-- A turn may be followed by a change that the books do not look at. -/
theorem sameBooks (h : Turn made r r') (hsame : r'.SameBooks r'') : Turn made r r'' where
  jobs name := (h.jobs name).congr (hsame.job? name)
  gated name hg := h.gated name ((Gated.congr hsame.gateways).1 hg)

theorem ofSameBooks (h : r.SameBooks r') : Turn (fun _ => []) r r' :=
  (refl r).sameBooks h

theorem underway {hand : List (Family × String)} (h : r.Underway hand r') :
    Turn (fun _ => []) r r' :=
  ofJobs h.1.jobs fun _ hg => .inl ((Gated.congr h.1.gateways).1 hg)

/-! ### The operations -/

variable {hand : List (Family × String)}

theorem registered {d : ServiceDescriptor} {systemId : String} (h : r.Books hand)
    (hr : r.Registered hand d systemId job r') : Turn (fun _ => []) r r' := by
  obtain ⟨⟨texts, hnew⟩, hjobs, hgateways⟩ := hr.stored h
  cases hold : r.job? job.name with
  | none =>
    rw [startingJob, hold] at hnew
    have hempty : (Job.new job.name systemId).SameInstances job := by
      rw [hnew]
      exact ⟨rfl, rfl⟩
    exact edit hjobs hgateways hold (.entered hempty)
  | some old =>
    rw [startingJob, hold] at hnew
    have hsame : old.SameInstances job := by
      rw [hnew]
      exact ⟨rfl, rfl⟩
    exact edit hjobs hgateways hold (.kept hsame)

theorem added {systemId cluster : String} {count : Nat} {instances : List Instance}
    (h : r.Books hand) (ha : r.Added hand systemId count cluster instances r') :
    Turn (fun name => if (r.jobBySystemId? systemId).any fun job => job.name == name then
      instances.map (·.number) else []) r r' := by
  obtain ⟨hjob, -, -, hframe, -⟩ := ha
  rename_i job pairs taken
  have hknown := h.named.job?_of_mem (mem_of_jobBySystemId? hjob)
  have hgateways : ({ taken with
      jobs := r.jobs.insert job.name (addEach cluster pairs job).2 } : Registry).gateways =
        r.gateways := hframe.gateways
  refine insert rfl (fun _ hg => .inl ((Gated.congr hgateways).1 hg)) hknown
    (.added (.refl _)) fun other => ?_
  rw [hjob, Option.any_some]
  by_cases heq : job.name = other
  · rw [if_pos (beq_iff_eq.2 heq), if_pos heq.symm]
  · rw [if_neg (fun hb => heq (beq_iff_eq.1 hb)), if_neg (Ne.symm heq)]

theorem withdrawn {selector : Selector} {number : UInt32} {i : Instance}
    (hw : Tier.Withdrawn r hand selector number job i r') : Turn (fun _ => []) r r' := by
  obtain ⟨-, hjob, -, hframe, -⟩ := hw
  exact edit hframe.jobs hframe.gateways hjob (.removed (.refl _))

theorem gatewayUp {d : GatewayDeployment} (h : r.Books hand)
    (hg : r.GatewayUp hand d job r') :
    Turn (fun name => if job.name = name ∧ r.job? name = none then
      job.instances.map (·.number) else []) r r' := by
  cases hg with
  | @existing g hg =>
    have hthere := h.gateways d.id g hg
    have hmade : (fun name => if g.job.name = name ∧ r.job? name = none then
        g.job.instances.map (·.number) else []) = fun _ => [] := by
      funext name
      refine if_neg fun hnone => ?_
      have hn : g.jobName = name := hnone.1
      rw [hn, hnone.2] at hthere
      cases hthere
    rw [hmade]
    exact .refl r
  | @new g taken _ hnone hunder =>
    obtain ⟨hjobs, hgateways⟩ := hunder.entered g
    refine insert hjobs (fun name hgated => ?_) hnone (.gateway (.refl _)) fun other => ?_
    · obtain ⟨id, g', hg', hname⟩ := hgated
      rw [gateway?, hgateways, Table.get?_insert] at hg'
      split at hg'
      · obtain rfl := Option.some.inj hg'
        exact .inr (hname ▸ hnone)
      · exact .inl ⟨id, g', hg', hname⟩
    · by_cases heq : other = g.jobName
      · subst heq
        rw [if_pos ⟨rfl, hnone⟩, if_pos rfl]
        rfl
      · rw [if_neg heq, if_neg]
        exact fun hnew => heq hnew.1.symm

/-- A gateway record is replaced by one of the same host. -/
theorem gated_replace {id : String} {g : Gateway} (g' : Gateway) (hg : r.gateway? id = some g)
    (hname : g'.jobName = g.jobName) (hgateways : r'.gateways = r.gateways.insert id g') :
    r'.Gated name → r.Gated name := by
  rintro ⟨key, found, hfound, hn⟩
  rw [gateway?, hgateways, Table.get?_insert] at hfound
  split at hfound
  · obtain rfl := Option.some.inj hfound
    exact ⟨id, g, hg, hname.symm.trans hn⟩
  · exact ⟨key, found, hfound, hn⟩

theorem recorded {reports : List InstanceReport} {reporter : Option String}
    {outcomes : List (UInt32 × ReportOutcome)}
    (hr : r.Recorded name reports reporter outcomes r') : Turn (fun _ => []) r r' := by
  obtain ⟨hjob, hnetworks, happlied⟩ := hr
  exact edit rfl rfl hjob (.reported hnetworks happlied (.refl _))

end Turn

end Registry

namespace Tier

variable {σ : Type} {t : Tier σ} {s : σ} {hand : List (Family × String)}

/-! ## What the parties below ask of a root -/

/-- Nothing has changed but what the books do not look at. -/
def Noted (t : Tier σ) (s s' : σ) : Prop :=
  ∃ r', s' = t.site.set r' s ∧ (t.site.get s).SameBooks r'

theorem Noted.refl (t : Tier σ) (s : σ) : t.Noted s s :=
  ⟨t.site.get s, (t.site.set_get s).symm, .refl _⟩

theorem Noted.trans {s' s'' : σ} (h : t.Noted s s') (h' : t.Noted s' s'') : t.Noted s s'' := by
  obtain ⟨r', rfl, hsame⟩ := h
  obtain ⟨r'', rfl, hsame'⟩ := h'
  rw [t.site.get_set] at hsame'
  exact ⟨r'', t.site.set_set .., hsame.trans hsame'⟩

/-- A root knows a job or does not. -/
theorem resolve_root (hrole : t.role = .root) (selector : Selector) (s : σ) :
    Triple (· = s) (t.resolve selector) (fun _ s' => s' = s) (fun _ s' => s' = s) := by
  simp only [resolve, parent?_of_role hrole]
  refine look_bind ?_
  cases (t.site.get s).select selector with
  | none => exact .pure fun _ hs => hs
  | some job => exact .pure fun _ hs => hs

theorem addInterest_noted (name party : String) (s : σ) :
    Triple (· = s) (t.addInterest name party) (fun _ => t.Noted s) (fun _ => t.Noted s) := by
  simp only [addInterest]
  split
  · exact .pure fun _ hs => hs ▸ .refl t _
  split
  · exact .throw fun _ hs => hs ▸ .refl t _
  refine .bind (R := fun _ => t.Noted s) (record_spec fun s' hs => ?_) fun _ => .pure fun _ hs => hs
  subst hs
  refine ⟨_, rfl, ?_⟩
  rw [Registry.addParty]
  split
  · exact .refl _
  · next job hjob => exact .putParties hjob _

theorem tableQuery_root (hrole : t.role = .root) (requester : String) (query : TableQuery) (s : σ) :
    Triple (· = s) (t.tableQuery requester query) (fun _ => t.Noted s) (fun _ => t.Noted s) := by
  simp only [tableQuery]
  split
  · exact .pure fun _ hs => hs ▸ .refl t _
  refine .attempt_bind (resolve_root hrole _ s) (fun found => ?_) fun _ =>
    .pure fun _ hs => hs ▸ .refl t _
  refine .attempt_bind (addInterest_noted found.job.name requester s) (fun _ => ?_) fun _ => ?_
  · exact .pure fun _ hs => hs
  · exact .pure fun _ hs => hs

/-- An action on the subnet pools of a root. -/
theorem noted_subnets {α : Type} {x : Action Registry TierError α}
    (h : ∀ r, Triple (Registry.OnlySubnets r) x (fun _ => r.OnlySubnets)
      (fun _ => r.OnlySubnets)) :
    Triple (· = s) (x.zoom t.site) (fun _ => t.Noted s) (fun _ => t.Noted s) := by
  refine (Triple.zoom_at ((h (t.site.get s)).pre fun r hr => hr ▸ .refl r)).mono ?_ ?_
  · rintro _ _ ⟨r', rfl, hr⟩
    exact ⟨r', rfl, hr.sameBooks⟩
  · rintro _ _ ⟨r', rfl, hr⟩
    exact ⟨r', rfl, hr.sameBooks⟩

/-- The worker nodes are not in the books. -/
theorem noted_change {E : TierError → σ → Prop} {f : Registry → Registry}
    (h : ∀ r : Registry, r.SameBooks (f r)) :
    Triple (t.Noted s) (t.change f) (fun _ => t.Noted s) E :=
  change_spec fun s' hs => hs.trans ⟨_, rfl, h (t.site.get s')⟩

theorem nodeSubnets_root (hrole : t.role = .root) (id : String) (s : σ) :
    Triple (· = s) (t.nodeSubnets id) (fun _ => t.Noted s) (fun _ => t.Noted s) := by
  simp only [nodeSubnets, requestSubnets, parent?_of_role hrole]
  refine look_bind ?_
  cases (t.site.get s).node? id with
  | some node => exact .pure fun _ hs => hs ▸ .refl t _
  | none =>
    refine .bind (noted_subnets fun r => Registry.takeSubnets_spec) fun subnets => ?_
    exact .bind (noted_change fun r => ⟨rfl, rfl, fun _ _ => rfl⟩) fun _ => .pure fun _ hs => hs

theorem releaseNodeSubnets_root (hrole : t.role = .root) (id : String) (s : σ) :
    Triple (· = s) (t.releaseNodeSubnets id) (fun _ => t.Noted s) (fun _ => t.Noted s) := by
  simp only [releaseNodeSubnets, releaseSubnets, parent?_of_role hrole]
  refine look_bind ?_
  cases (t.site.get s).node? id with
  | none => exact .pure fun _ hs => hs ▸ .refl t _
  | some node =>
    refine .bind (noted_subnets fun r => Registry.returnSubnets_spec _) fun _ => ?_
    exact noted_change fun r => ⟨rfl, rfl, fun _ _ => rfl⟩

/-- **Reports of workers at a root.** The network is recorded and the interested parties may be told;
or nothing has changed, because the job is unknown or does not take the report. -/
theorem reportNetwork_root (hrole : t.role = .root) (selector : Selector) (number : UInt32)
    (network : Network) (reporter : String) (s : σ) :
    Triple (· = s) (t.reportNetwork selector number network reporter)
      (fun _ s' => ∃ job outcomes r' messages, (t.site.get s).select selector = some job ∧
        (t.site.get s).Recorded job.name [⟨number, network⟩] (some reporter) outcomes r' ∧
        s' = t.tell messages (t.site.set r' s))
      (fun _ s' => s' = s) := by
  simp only [reportNetwork, locate, parent?_of_role hrole]
  cases hselect : (t.site.get s).select selector with
  | none =>
    refine .bind (R := fun _ _ => False) (look_bind ?_) fun _ => .of_false
    rw [hselect]
    exact .throw fun _ hs => hs
  | some job =>
  refine .bind (R := fun found s' => found = job ∧ s' = s) (look_bind ?_) fun found => ?_
  · rw [hselect]
    exact .pure fun _ hs => ⟨rfl, hs⟩
  refine .of_forall fun s₀ hs => ?_
  obtain ⟨rfl, rfl⟩ := hs
  have happly := Triple.zoom_at (p := t.site) (s := s₀)
    (Registry.applyReports_recorded (r := t.site.get s₀) found.name [⟨number, network⟩]
      (some reporter))
  refine .bind (happly.mono (fun _ _ hs => hs) ?_) fun outcomes => ?_
  · rintro _ _ ⟨_, rfl, rfl, -⟩
    exact t.site.set_get s₀
  refine .of_forall fun s₁ hs => ?_
  obtain ⟨r', rfl, hrecorded⟩ := hs
  have hend : ∀ messages, ∃ job outcomes r'' messages', some found = some job ∧
      (t.site.get s₀).Recorded job.name [⟨number, network⟩] (some reporter) outcomes r'' ∧
      t.tell messages (t.site.set r' s₀) = t.tell messages' (t.site.set r'' s₀) :=
    fun messages => ⟨found, outcomes, r', messages, rfl, hrecorded, rfl⟩
  split
  · refine .bind ((fanOut_spec _ _).mono (fun _ _ hs => hs) fun _ _ hs => hs) fun _ => ?_
    exact .pure fun _ hs => hs ▸ hend _
  · exact .pure fun _ hs => hs ▸ hend []

/-! ## One task -/

/-- Where a task has led: each job has taken a turn, and messages have gone out. -/
def Turned (t : Tier σ) (hand : List (Family × String)) (s : σ) (made : String → List UInt32)
    (s' : σ) : Prop :=
  ∃ r' messages lost, (t.site.get s).Turn made r' ∧ r'.Books (lost ++ hand) ∧
    s' = t.tell messages (t.site.set r' s)

theorem Noted.turned {s' : σ} (h : (t.site.get s).Books hand) (hn : t.Noted s s') :
    t.Turned hand s (fun _ => []) s' := by
  obtain ⟨r', rfl, hsame⟩ := hn
  exact ⟨r', [], [], .ofSameBooks hsame, hsame.books h, rfl⟩

theorem Turned.refl (h : (t.site.get s).Books hand) : t.Turned hand s (fun _ => []) s :=
  (Noted.refl t s).turned h

/-- One more message goes out. -/
theorem Turned.notify {made : String → List UInt32} {s' : σ} (h : t.Turned hand s made s')
    (recipient : String) (message : ChildMessage) :
    t.Turned hand s made (t.notify recipient message s').2 := by
  obtain ⟨r', messages, lost, hturn, hbooks, rfl⟩ := h
  exact ⟨r', messages ++ [(recipient, message)], lost, hturn, hbooks,
    (t.tell_append messages [(recipient, message)] _).symm⟩

theorem undeploy_turned (hrole : t.role = .root) (h : (t.site.get s).Books hand)
    (selector : Selector) (number : UInt32) : Triple (· = s) (t.undeploy selector number)
      (fun _ => t.Turned hand s fun _ => []) (fun _ => t.Turned hand s fun _ => []) := by
  refine (undeploy_root hrole h selector number).mono ?_ ?_
  · rintro _ _ ⟨job, i, r', hw, rfl⟩
    exact ⟨r', _, [], .withdrawn hw, hw.books, rfl⟩
  · rintro _ _ rfl
    exact .refl h

/-- A registry in which reports were recorded. -/
theorem turned_recorded {name : String} {reports : List InstanceReport} {reporter : Option String}
    {outcomes : List (UInt32 × ReportOutcome)} {r' : Registry} (h : (t.site.get s).Books hand)
    (hr : (t.site.get s).Recorded name reports reporter outcomes r')
    (messages : List (String × ChildMessage)) :
    t.Turned hand s (fun _ => []) (t.tell messages (t.site.set r' s)) :=
  ⟨r', messages, [], .recorded hr, hr.restored.books h, rfl⟩

theorem reportNetwork_turned (hrole : t.role = .root) (h : (t.site.get s).Books hand)
    (selector : Selector) (number : UInt32) (network : Network) (reporter : String) :
    Triple (· = s) (t.reportNetwork selector number network reporter)
      (fun _ => t.Turned hand s fun _ => []) (fun _ => t.Turned hand s fun _ => []) := by
  refine (reportNetwork_root hrole selector number network reporter s).mono ?_ ?_
  · rintro _ _ ⟨job, outcomes, r', messages, -, hrecorded, rfl⟩
    exact turned_recorded h hrecorded messages
  · rintro _ _ rfl
    exact .refl h

/-- **Requests at a root.** -/
theorem handle_turned (hrole : t.role = .root) (h : (t.site.get s).Books hand) (client : String)
    (wanted : ChildRequest) : Triple (· = s) (t.handle client wanted)
      (fun _ => t.Turned hand s fun _ => []) (fun _ => t.Turned hand s fun _ => []) := by
  refine handle_of_answer ?_ (fun _ => ?_) fun message _ hs => hs.notify client message
  · rintro _ rfl
    exact .refl h
  have hnoted : ∀ {α : Type} {x : Action σ TierError α},
      Triple (· = s) x (fun _ => t.Noted s) (fun _ => t.Noted s) →
      Triple (· = s) x (fun _ => t.Turned hand s fun _ => []) fun _ => t.Turned hand s fun _ => [] :=
    fun hx => hx.mono (fun _ _ hs => hs.turned h) fun _ _ hs => hs.turned h
  cases wanted with
  | deployed report =>
    exact .bind (reportNetwork_turned hrole h ..) fun _ => .pure fun _ hs => hs
  | undeployed report => exact .bind (undeploy_turned hrole h ..) fun _ => .pure fun _ hs => hs
  | tableQuery query =>
    exact .bind (hnoted (tableQuery_root hrole client query s)) fun _ => .pure fun _ hs => hs
  | subnet method =>
    cases method with
    | get => exact .bind (hnoted (nodeSubnets_root hrole client s)) fun _ => .pure fun _ hs => hs
    | delete =>
      exact .bind (hnoted (releaseNodeSubnets_root hrole client s)) fun _ => .pure fun _ hs => hs
  | removeInterest name =>
    refine answer_removeInterest (hnoted ((removeInterest_root hrole s name client).mono ?_ ?_))
    · exact fun _ _ ⟨r', hs, hleft⟩ => ⟨r', hs, hleft.sameBooks⟩
    · exact fun _ _ ⟨r', hs, hleft⟩ => ⟨r', hs, hleft.sameBooks⟩

/-- What a step of a call does to the jobs, but for the two calls whose steps leave it open. -/
theorem turn_of_step {r r' : Registry} {call : RootCall}
    {result : Except TierError call.Answer} {messages : List (String × ChildMessage)}
    (h : r.Books hand) (hstep : RootStep r hand call result messages r')
    (hnamespaces : ∀ id namespaces, call ≠ .setGatewayNamespaces id namespaces)
    (hreport : ∀ report, call ≠ .applyDeployReport report) :
    r.Turn (fun name => call.made r name result) r' := by
  cases hstep with
  | failed hunder =>
    simp only [RootCall.made_error]
    exact .underway hunder
  | registered hr => exact .registered h hr
  | added ha => exact .added h ha
  | withdrawn _ hw => exact .withdrawn hw
  | gatewayUp hg => exact .gatewayUp h hg
  | namespaces _ _ => exact absurd rfl (hnamespaces _ _)
  | @services _ services g _ hg =>
    refine .ofJobs rfl fun _ hgated => .inl ?_
    exact Registry.Turn.gated_replace { g with services } hg rfl rfl hgated
  | reported _ _ => exact absurd rfl (hreport _)
  | lookedUp hl => exact .ofSameBooks hl.sameBooks
  | left hl => exact .ofSameBooks hl.sameBooks
  | subnetsTaken hs => exact .ofSameBooks hs.sameBooks
  | subnetsBack hs => exact .ofSameBooks hs.sameBooks
  | joined _ _ => exact .ofJobs rfl fun _ hgated => .inl hgated

/-- **Calls.** What a call does to the jobs. -/
theorem perform_turned (hrole : t.role = .root) (h : (t.site.get s).Books hand) (call : RootCall) :
    t.Turned hand s (fun name => t.made s name (.call call)) (t.perform call s).2 := by
  by_cases hnamespaces : ∃ id namespaces, call = .setGatewayNamespaces id namespaces
  · obtain ⟨id, namespaces, rfl⟩ := hnamespaces
    have hset := Registry.setGatewayNamespaces_spec h id namespaces
    simp only [made, RootCall.made, perform, setGatewayNamespaces, atRoot_of_role hrole]
    refine ((Triple.zoom_at hset).mono ?_ ?_).after (R := t.Turned hand s fun _ => []) rfl
    · rintro _ _ ⟨_, rfl, g, job, hg, hjob, rfl⟩
      obtain ⟨hsame, hl⟩ := Job.withNamespaces_spec namespaces job
      have hbooks := Registry.Restored.books (h.putGateway id (g := { g with namespaces })
        (hjob ▸ rfl)) (.intro hjob hsame hl)
      refine ⟨_, [], [], .insert rfl (fun name hgated => .inl ?_) hjob
        (.namespaces ⟨id, g, hg, rfl⟩ (.refl _)) fun _ => (ite_self _).symm, hbooks, rfl⟩
      exact Registry.Turn.gated_replace { g with namespaces } hg rfl rfl hgated
    · rintro _ _ ⟨_, rfl, rfl⟩
      rw [t.site.set_get]
      exact .refl h
  by_cases hreport : ∃ report, call = .applyDeployReport report
  · obtain ⟨report, rfl⟩ := hreport
    simp only [made, RootCall.made, perform]
    refine ((applyDeployReport_announces report s).mono ?_ ?_).after
      (R := t.Turned hand s fun _ => []) rfl
    · rintro _ _ ⟨job, outcomes, r', -, hrecorded, -, rfl⟩
      obtain ⟨messages, -, htell⟩ := announceAll_eq_tell job.name _ (t.site.set r' s)
      rw [htell]
      exact turned_recorded h hrecorded messages
    · rintro _ _ ⟨rfl, -⟩
      exact .refl h
  · obtain ⟨r', messages, hstep, hs'⟩ := perform_spec hrole h call
    obtain ⟨hbooks, -⟩ := hstep.books h
    refine ⟨r', messages, _, turn_of_step h hstep ?_ ?_, hbooks, hs'⟩
    · exact fun id namespaces heq => hnamespaces ⟨id, namespaces, heq⟩
    · exact fun report heq => hreport ⟨report, heq⟩

/-- **Tasks.** What a task does to the jobs. -/
theorem carryOut_turned (hrole : t.role = .root) (h : (t.site.get s).Books hand)
    (task : RootTask) : t.Turned hand s (fun name => t.made s name task) (t.carryOut task s) := by
  cases task with
  | call call => exact perform_turned hrole h call
  | resolve selector =>
    refine ((resolve_root hrole selector s).mono ?_ ?_).after
      (R := t.Turned hand s fun _ => []) rfl
    · rintro _ _ rfl
      exact .refl h
    · rintro _ _ rfl
      exact .refl h
  | report selector number network reporter =>
    exact (reportNetwork_turned hrole h selector number network reporter).after rfl
  | undeploy selector number => exact (undeploy_turned hrole h selector number).after rfl
  | request client wanted => exact (handle_turned hrole h client wanted).after rfl

end Tier

/-! ## Runs -/

namespace RootTier

variable {σ : Type} (R : RootTier σ)

/-- The state after a run of tasks. -/
def reached : List RootTask → σ → σ
  | [], s => R.site.set ∅ s
  | task :: earlier, s => R.tier.carryOut task (reached earlier s)

/-- A run of calls is a run of tasks. -/
theorem reached_calls (calls : List RootCall) (s : σ) :
    R.reached (calls.map .call) s = R.after calls s := by
  induction calls with
  | nil => rfl
  | cons call earlier ih =>
    rw [List.map_cons, reached, ih]
    rfl

/-- The registry after a run of tasks. -/
def state (tasks : List RootTask) (s : σ) : Registry :=
  R.site.get (R.reached tasks s)

/-- **One task.** Each job takes a turn, and the books are kept. -/
theorem carryOut_turn {s : σ} {hand : List (Family × String)} (h : (R.site.get s).Books hand)
    (task : RootTask) :
    (R.site.get s).Turn (fun name => R.tier.made s name task)
      (R.site.get (R.tier.carryOut task s)) ∧
    ∃ lost, (R.site.get (R.tier.carryOut task s)).Books (lost ++ hand) := by
  obtain ⟨r', messages, lost, hturn, hbooks, hs'⟩ :=
    Tier.carryOut_turned (t := R.tier) rfl h task
  have hsame : r'.SameBooks (R.site.get (R.tier.carryOut task s)) := by
    rw [hs']
    refine Tier.tell_keeps (I := fun s' => r'.SameBooks (R.site.get s')) ?_ ?_
    · have hget : R.site.get (R.tier.site.set r' s) = r' := R.site.get_set r' s
      rw [hget]
      exact .refl r'
    · exact fun m _ s' hs => hs.trans (R.keeps m.1 m.2 s')
  exact ⟨hturn.sameBooks hsame, lost, hsame.books hbooks⟩

/-- The books are kept at every moment of a run. -/
theorem state_books (tasks : List RootTask) (s : σ) : ∃ lost, (R.state tasks s).Books lost := by
  induction tasks with
  | nil =>
    refine ⟨[], ?_⟩
    rw [state, reached, R.site.get_set]
    exact .empty
  | cons task earlier ih =>
    obtain ⟨hand, hbooks⟩ := ih
    obtain ⟨-, lost, hafter⟩ := R.carryOut_turn hbooks task
    exact ⟨lost ++ hand, hafter⟩

/-- **Runs.** Each task of a run is a turn of each job. -/
theorem state_turn (task : RootTask) (earlier : List RootTask) (s : σ) :
    (R.state earlier s).Turn (fun name => R.tier.made (R.reached earlier s) name task)
      (R.state (task :: earlier) s) := by
  obtain ⟨hand, hbooks⟩ := R.state_books earlier s
  exact (R.carryOut_turn hbooks task).1

/-- Before the first task there is no job. -/
theorem state_nil_job? (s : σ) (name : String) : (R.state [] s).job? name = none := by
  rw [state, reached, R.site.get_set]
  rfl

/-- Numbers are distinct at every moment of a run. -/
theorem state_distinct (tasks : List RootTask) (s : σ) (name : String) (job : Job)
    (hjob : (R.state tasks s).job? name = some job) : job.Distinct := by
  induction tasks generalizing job with
  | nil =>
    rw [R.state_nil_job?] at hjob
    cases hjob
  | cons task earlier ih =>
    exact ((R.state_turn task earlier s).jobs name).distinct ih job hjob

end RootTier

end Overlay
