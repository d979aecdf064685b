import Overlay.Proofs.Root.Runs

/-!
# Identifiers of jobs

Every job of a root has a name and an identifier of the scheduler (`Registry.Identified`): a
registration without one of them is refused, and so is a gateway without an identifier
(`Tier.perform_identifies`). Other calls neither add jobs nor rename them.
-/

namespace Overlay

namespace Registry

variable {r r' : Registry} {name : String}

/-- Every job has a name and an identifier of the scheduler. -/
def Identified (r : Registry) : Prop :=
  ∀ name job, r.job? name = some job → name.isEmpty = false ∧ job.systemId.isEmpty = false

namespace Identified

theorem empty : Identified ∅ :=
  nofun

theorem ofJobs (h : r.Identified) (hj : r'.jobs = r.jobs) : r'.Identified :=
  fun name job hjob => h name job (job?_congr hj name ▸ hjob)

theorem insert (h : r.Identified) {job : Job} (hj : r'.jobs = r.jobs.insert name job)
    (hname : name.isEmpty = false) (hid : job.systemId.isEmpty = false) : r'.Identified := by
  intro key found hfound
  rw [job?, hj, Table.get?_insert] at hfound
  split at hfound
  · next heq =>
    obtain rfl := Option.some.inj hfound
    exact ⟨heq ▸ hname, hid⟩
  · exact h key found hfound

/-- A job takes the place of one with the same identifier. -/
theorem replace (h : r.Identified) {job job' : Job} (hjob : r.job? name = some job)
    (hj : r'.jobs = r.jobs.insert name job') (hid : job'.systemId = job.systemId) :
    r'.Identified := by
  obtain ⟨hname, hold⟩ := h name job hjob
  exact h.insert hj hname (hid ▸ hold)

theorem restored (h : r.Identified) (hr : r.Restored r') : r'.Identified := by
  obtain ⟨hjob, hsame, -⟩ := hr
  exact h.replace hjob rfl hsame.systemId

end Identified

end Registry

/-! ## What identifiers are refused -/

/-- A text with something in it that is not blank is not empty. -/
theorem isEmpty_of_isBlankText {s : String} (h : isBlankText s = false) : s.isEmpty = false := by
  rw [Bool.eq_false_iff] at h ⊢
  intro hempty
  rw [String.isEmpty_iff] at hempty
  subst hempty
  exact h rfl

/-- The name of a service's job has dots in it. -/
theorem ServiceDescriptor.isEmpty_jobName {d : ServiceDescriptor} {name : String}
    (h : d.jobName = .ok name) : name.isEmpty = false := by
  rw [jobName] at h
  split at h
  · cases h
  · obtain rfl := Except.ok.inj h
    simp [parts, String.intercalate_cons_cons]

/-- What a call has to say about the identifiers of a new job. -/
def RootCall.Identifies : RootCall → Prop
  | .register _ systemId => isBlankText systemId = false
  | .deployGateway d => isBlankText d.id = false
  | _ => True

namespace Registry

variable {τ ε α : Type} {x : Action τ ε α} {P : τ → Prop} {p : Prop}

/-- Once an identifier was looked at, the rest of an operation does not matter for it. -/
theorem triple_of_checked (h : p) : Action.Triple P x (fun _ _ => p) (fun _ _ => True) :=
  (Action.Triple.of_after fun _ _ => trivial).mono (fun _ _ _ => h) fun _ _ ht => ht

theorem register_identifies (d : ServiceDescriptor) (systemId : String) :
    Action.Triple (fun _ => True) (register d systemId) (fun _ _ => isBlankText systemId = false)
      (fun _ _ => True) := by
  simp only [register, Action.throw_bind]
  refine .bind (R := fun _ _ => True) (.of_after fun _ _ => trivial) fun name => ?_
  split
  · exact .throw fun _ _ => trivial
  · next hid => exact triple_of_checked (Bool.eq_false_iff.2 hid)

theorem deployGateway_identifies (d : GatewayDeployment) :
    Action.Triple (fun _ => True) (deployGateway d) (fun _ _ => isBlankText d.id = false)
      (fun _ _ => True) := by
  simp only [deployGateway, Action.throw_bind]
  by_cases hid : [d.id, d.host, d.cluster].any isBlankText = true
  · rw [if_pos hid]
    exact .throw fun _ _ => trivial
  · rw [List.any_cons, Bool.or_eq_true, not_or, Bool.not_eq_true] at hid
    exact triple_of_checked hid.1

end Registry

/-- A call that succeeds gives its job an identifier. -/
theorem Tier.perform_identifies {σ : Type} {t : Tier σ} (hrole : t.role = .root) {s : σ}
    {call : RootCall} {a : call.Answer} (h : (t.perform call s).1 = .ok a) : call.Identifies := by
  cases call with
  | register d systemId =>
    rw [perform, register, atRoot_of_role hrole] at h
    exact (Registry.register_identifies d systemId).of_ok trivial (Prod.ext h rfl)
  | deployGateway d =>
    rw [perform, deployGateway, atRoot_of_role hrole] at h
    exact (Registry.deployGateway_identifies d).of_ok trivial (Prod.ext h rfl)
  | _ => trivial

/-! ## Every call -/

/-- **Every call keeps the identifiers.** -/
theorem RootStep.identified {r r' : Registry} {hand : List (Family × String)} {call : RootCall}
    {result : Except TierError call.Answer} {messages : List (String × ChildMessage)}
    (h : r.Books hand) (hr : r.Identified) (hstep : RootStep r hand call result messages r')
    (hcall : ∀ a, result = .ok a → call.Identifies) : r'.Identified := by
  cases hstep with
  | failed hunder => exact hr.ofJobs hunder.1.jobs
  | registered hregistered =>
    have hid := isEmpty_of_isBlankText (hcall _ rfl)
    obtain ⟨hname, -, -, hframe, -⟩ := hregistered
    refine (hr.ofJobs hframe.jobs).insert rfl ?_ hid
    rw [Registry.withShared, (Registry.startingJob_spec h _ _).1]
    exact ServiceDescriptor.isEmpty_jobName hname
  | added ha =>
    obtain ⟨hjob, -, -, -⟩ := ha
    rename_i job pairs taken
    have hknown := h.named.job?_of_mem (Registry.mem_of_jobBySystemId? hjob)
    exact hr.replace hknown rfl (Registry.addEach_spec _ pairs job).2.1.systemId
  | withdrawn _ hw =>
    obtain ⟨-, hjob, -, hframe, -⟩ := hw
    exact hr.replace hjob hframe.jobs rfl
  | gatewayUp hg =>
    have hid := isEmpty_of_isBlankText (hcall _ rfl)
    cases hg with
    | existing => exact hr
    | @new g taken hgid _ hunder =>
      have hjob : g.job.systemId.isEmpty = false := (congrArg String.isEmpty hgid).trans hid
      have htaken : taken.Identified := hr.ofJobs hunder.1.jobs
      refine @Registry.Identified.insert taken _ g.jobName htaken g.job rfl ?_ hjob
      simp [Gateway.jobName]
  | @namespaces id namespaces g _ _ _ hrestored =>
    have hsame : Registry.Identified
        { r with gateways := r.gateways.insert id { g with namespaces } } := hr.ofJobs rfl
    exact hsame.restored hrestored
  | services _ => exact hr.ofJobs rfl
  | reported hrestored _ => exact hr.restored hrestored
  | lookedUp hl =>
    cases hl with
    | unknown _ => exact hr
    | found _ hjob => exact hr.replace hjob rfl rfl
  | left hl =>
    cases hl with
    | same => exact hr
    | erased hjob => exact hr.replace hjob rfl rfl
  | subnetsTaken hs => exact hr.ofJobs hs.jobs
  | subnetsBack hs => exact hr.ofJobs hs.jobs
  | joined _ _ => exact hr.ofJobs rfl

end Overlay
