import Overlay.Proofs.Hierarchy.Changes

/-!
# Operations of every tier

Many operations of a tier are the same at the root and at a cluster: they look jobs up, take records
over that the parent has sent, note interests, record networks and tell the parties below. They
leave every record of a job in place and take something out of records at most
(`Registry.Trims`), and they touch nothing but the jobs.

So whoever wants to keep an invariant over these operations has to say what becomes of it in a few
kinds of steps (`Tier.Steady`). An invariant that does not look at jobs is kept by all operations
but those on subnets (`Tier.Unconcerned`).
-/

namespace Overlay

open Overlay.Action (Triple)

/-! ## Records that stay in place -/

namespace Registry

variable {r r' : Registry} {name : String}

/-- Instances and parties may leave jobs and parties may join them, but the jobs stay. -/
structure Trims (r r' : Registry) : Prop where
  shrinks : r.Shrinks r'
  kept : ∀ name, (r'.job? name).isSome = (r.job? name).isSome

namespace Trims

theorem ofJobs (h : r'.jobs = r.jobs) : r.Trims r' :=
  ⟨.ofJobs h, fun name => congrArg Option.isSome (job?_congr h name)⟩

/-- A job is stored that has no more than the job whose place it takes. -/
theorem insert {job new : Job} (hjob : r.job? name = some job)
    (hj : r'.jobs = r.jobs.insert name new) (hname : new.name = job.name)
    (hdistinct : job.Distinct → new.Distinct)
    (hlocations : ∀ l ∈ new.locations, l ∈ job.locations) : r.Trims r' := by
  refine ⟨.insert hjob hj hname hdistinct hlocations, fun key => ?_⟩
  rw [job?, hj, Table.get?_insert]
  split
  · next heq =>
    subst heq
    rw [hjob]
    rfl
  · rfl

theorem addParty (r : Registry) (name party : String) : r.Trims (r.addParty name party).2 := by
  rw [Registry.addParty]
  split
  · exact .ofJobs rfl
  · next job hjob => exact .insert hjob rfl rfl (fun hd => hd) fun _ hl => hl

theorem restored (h : r.Restored r') : r.Trims r' := by
  obtain ⟨hjob, hsame, hl⟩ := h
  exact .insert hjob rfl hsame.name (fun hd => hd.of_locations hl) fun l hm => hl ▸ hm

theorem removed {number : UInt32} {job : Job} (hjob : r.job? name = some job) :
    r.Trims { r with jobs := r.jobs.insert name (job.remove number) } :=
  .insert hjob rfl rfl (fun hd => hd.remove number) fun _ hl =>
    List.map_subset _ List.eraseP_subset hl

theorem named (h : r.Trims r') (hn : r.Named) : r'.Named := by
  intro name job' hjob'
  obtain ⟨job, hjob, hname, -, -⟩ := h.shrinks name job' hjob'
  exact hname.trans (hn name job hjob)

end Trims

theorem OnlyJobs.restored (h : r.Restored r') : r.OnlyJobs r' := by
  obtain ⟨-, -, -⟩ := h
  exact .setJobs r _

end Registry

/-- Whether a call to the parent is about a job. -/
def ParentCall.aboutJob : ParentCall → Bool
  | .fetchJob _ | .reportDeployment _ | .removeInterest _ => true
  | _ => false

namespace Tier

variable {σ α ε : Type} {t : Tier σ} {s : σ}

/-! ## Requests -/

/-- What holds once a request of a named client was answered holds when the answer was published, if
there is one. -/
theorem handle_of_client {P R : σ → Prop} {client : String} {request : ChildRequest}
    (hclient : client.isEmpty = false)
    (hanswer : Triple P (t.answer? client request) (fun _ => R) (fun _ => R))
    (hnotify : ∀ message s, R s → R (t.notify client message s).2) :
    Triple P (t.handle client request) (fun _ => R) (fun _ => R) := by
  simp only [Tier.handle, hclient, Bool.false_eq_true, if_false]
  refine .bind hanswer fun reply => ?_
  cases reply with
  | none => exact .pure fun _ hs => hs
  | some message =>
    have hsent : Triple R (t.notify client message) (fun _ => R) (fun _ => R) :=
      .of_after fun _ hs => hnotify message _ hs
    refine .attempt_bind hsent (fun _ => ?_) fun _ => ?_
    · exact .pure fun _ hs => hs
    · exact .pure fun _ hs => hs

/-- So does what holds before the request, too. -/
theorem handle_of_answer {P R : σ → Prop} {client : String} {request : ChildRequest}
    (hstart : ∀ s, P s → R s)
    (hanswer : client.isEmpty = false →
      Triple P (t.answer? client request) (fun _ => R) (fun _ => R))
    (hnotify : ∀ message s, R s → R (t.notify client message s).2) :
    Triple P (t.handle client request) (fun _ => R) (fun _ => R) := by
  cases hclient : client.isEmpty with
  | false => exact handle_of_client hclient (hanswer hclient) hnotify
  | true =>
    simp only [Tier.handle, hclient, if_true, Action.throw_bind]
    exact .throw hstart

theorem answer_removeInterest {P R : σ → Prop} {client name : String}
    (h : Triple P (t.removeInterest name client) (fun _ => R) (fun _ => R)) :
    Triple P (t.answer? client (.removeInterest name)) (fun _ => R) (fun _ => R) := by
  refine .attempt_bind h (fun _ => .pure fun _ hs => hs) fun e => ?_
  split
  · exact .pure fun _ hs => hs
  · exact .pure fun _ hs => hs
  · exact .throw fun _ hs => hs

/-- A report of an undeployment has no answer. -/
theorem handle_undeployed {client : String} (hclient : client.isEmpty = false)
    (report : UndeployedReport) (s : σ) : (t.handle client (.undeployed report) s).2 =
      (t.undeploy (.name report.jobName) report.number s).2 := by
  simp only [handle, answer?, hclient, Bool.false_eq_true, if_false, Action.bind_apply]
  cases t.undeploy (.name report.jobName) report.number s with
  | mk result s' => cases result <;> rfl

/-- A report of a network has no answer. -/
theorem handle_deployed {client : String} (hclient : client.isEmpty = false)
    (report : DeployedReport) (s : σ) : (t.handle client (.deployed report) s).2 =
      (t.reportNetwork (.name report.jobName) report.number report.network client s).2 := by
  simp only [handle, answer?, hclient, Bool.false_eq_true, if_false, Action.bind_apply]
  cases t.reportNetwork (.name report.jobName) report.number report.network client s with
  | mk result s' => cases result <;> rfl

/-- A worker that has subnets is answered with them, and nothing else happens. -/
theorem handle_getSubnets {client : String} {node : WorkerNode} (hclient : client.isEmpty = false)
    (hnode : (t.site.get s).node? client = some node) :
    t.handle client (.subnet .get) s =
      (.ok (some (.subnets node.subnets)), (t.notify client (.subnets node.subnets) s).2) := by
  simp only [handle, answer?, nodeSubnets, look, hclient, Bool.false_eq_true, if_false,
    Action.bind_apply, Action.inspect_apply, hnode, Action.pure_apply, Action.attempt_apply]

/-- A job of the registry is located there. -/
theorem locate_of_select {selector : Selector} {job : Job}
    (h : (t.site.get s).select selector = some job) : t.locate selector s = (.ok job, s) := by
  simp only [locate, look, Action.bind_apply, Action.inspect_apply, h, Action.pure_apply]

/-! ## Messages that stay outside -/

/-- What messages cause at the tier itself leaves its books alone. -/
def Discreet (t : Tier σ) : Prop :=
  ∀ recipient message s, (t.site.get s).SameBooks (t.site.get (t.notify recipient message s).2)

theorem Discreet.tell (h : t.Discreet) (messages : List (String × ChildMessage)) (s : σ) :
    (t.site.get s).SameBooks (t.site.get (t.tell messages s)) :=
  tell_keeps (I := fun s' => (t.site.get s).SameBooks (t.site.get s')) (.refl _)
    fun m _ s' hs => hs.trans (h m.1 m.2 s')

theorem Discreet.announce (h : t.Discreet) (update : JobUpdate) (s : σ) :
    (t.site.get s).SameBooks (t.site.get (t.announce update s)) :=
  h.tell ..

/-! ## Operations that keep records -/

/-- What a cluster does about a report of a worker before its parent hears of it. Gives the outcome,
and what the parent is told. -/
def takeReport (t : Tier σ) (selector : Selector) (number : UInt32) (network : Network)
    (reporter : String) : Action σ TierError (ReportOutcome × DeployReport) := do
  let job ← t.locate selector
  let outcomes ← (Registry.applyReports job.name [⟨number, network⟩] (some reporter)).zoom t.site
  let outcome := (outcomes.head?.map (·.2)).getD .unchanged
  if outcome = .applied then
    let _ ← t.fanOut ⟨job.name, number, .deployment⟩
  match ← t.look fun r => r.job? job.name with
  | none => throw (.jobNotFound job.name)
  | some job => return (outcome, job.reportOf reporter)

/-- What follows a report that is recorded: a tier with a parent passes on the job as it is then. -/
def passReport (t : Tier σ) (reporter : String) (job : Job) (outcome : ReportOutcome) :
    Action σ TierError ReportOutcome := do
  if let some parent := t.parent? then
    match ← t.look fun r => r.job? job.name with
    | none => throw (.jobNotFound job.name)
    | some job =>
      let _ ← (parent (.reportDeployment (job.reportOf reporter))).attempt
  return outcome

/-- What a cluster passes on of a job that it has. -/
theorem passOn_spec {name reporter : String} {job : Job} {outcome : ReportOutcome}
    {Q : ReportOutcome × DeployReport → σ → Prop} {E : TierError → σ → Prop}
    (hjob : (t.site.get s).job? name = some job) (h : Q (outcome, job.reportOf reporter) s) :
    Triple (· = s) (do
      match ← t.look fun r => r.job? name with
      | none => throw (TierError.jobNotFound name)
      | some job => return (outcome, job.reportOf reporter) :
        Action σ TierError (ReportOutcome × DeployReport)) Q E := by
  refine look_bind ?_
  rw [hjob]
  exact .pure fun _ hs => hs ▸ h

/-- What becomes of an invariant in the steps of a tier that drop no record. A job that the parent
sends is good enough to be taken over. -/
structure Steady (t : Tier σ) (I : σ → Prop) (Good : Job → σ → Prop) : Prop where
  trim : ∀ {s r}, I s → (t.site.get s).Trims r → (t.site.get s).OnlyJobs r → I (t.site.set r s)
  merge : ∀ {s job}, I s → Good job s → I (t.site.set ((t.site.get s).mergeJob job).2 s)
  fetch : ∀ {parent}, t.parent? = some parent → ∀ selector, Triple I (parent (.fetchJob selector))
    (fun found s => I s ∧ ∀ job, found = some job → Good job s) (fun _ => I)
  notify : ∀ recipient message {s}, I s → I (t.notify recipient message s).2

namespace Steady

variable {I : σ → Prop} {Good : Job → σ → Prop} (h : t.Steady I Good)

include h

/-- A record that the parent has sent is taken over. -/
theorem mergeRecord {job : Job} {E : ε → σ → Prop} :
    Triple (fun s => I s ∧ Good job s) (t.record fun r => r.mergeJob job) (fun _ => I) E :=
  record_spec fun _ hs => h.merge hs.1 hs.2

theorem tell (messages : List (String × ChildMessage)) (hs : I s) : I (t.tell messages s) :=
  tell_keeps hs fun m _ _ hs => h.notify m.1 m.2 hs

theorem fanOut (update : JobUpdate) {E : ε → σ → Prop} :
    Triple I (t.fanOut update) (fun _ => I) E := by
  refine .of_forall fun s hs => (fanOut_spec update s).mono ?_ fun _ _ hs => hs
  rintro _ _ rfl
  exact h.tell _ hs

/-- A job was stored again with the same locations, or nothing has changed. -/
theorem restored {x : Action Registry ε α} (hx : ∀ r, Triple (· = r) x (fun _ => r.Restored)
    (fun _ s => s = r)) : Triple I (x.zoom t.site) (fun _ => I) (fun _ => I) := by
  refine .zoom fun s hs => (hx (t.site.get s)).mono (fun _ r hr => ?_) fun _ r hr => ?_
  · exact h.trim hs (.restored hr) (.restored hr)
  · subst hr
    rw [t.site.set_get]
    exact hs

/-! ### Looking jobs up -/

theorem resolve (selector : Selector) :
    Triple I (t.resolve selector) (fun _ => I) (fun _ => I) := by
  simp only [Tier.resolve]
  refine .bind (R := fun _ => I) (look_spec fun _ hs => hs) ?_
  rintro (_ | job)
  · cases hparent : t.parent? with
    | none => exact .pure fun _ hs => hs
    | some parent =>
      refine .bind (.mapError (h.fetch hparent selector)) ?_
      rintro (_ | job)
      · exact .pure fun _ hs => hs.1
      · dsimp only
        split
        · exact .pure fun _ hs => hs.1
        · refine .bind (h.mergeRecord.pre fun _ hs => ⟨hs.1, hs.2 job rfl⟩) fun _ => ?_
          exact .pure fun _ hs => hs
  · exact .pure fun _ hs => hs

theorem locate (selector : Selector) :
    Triple I (t.locate selector) (fun _ => I) (fun _ => I) := by
  simp only [Tier.locate]
  refine .bind (R := fun _ => I) (look_spec fun _ hs => hs) ?_
  rintro (_ | job)
  · cases hparent : t.parent? with
    | none => exact .throw fun _ hs => hs
    | some parent =>
      refine .bind (.mapError (h.fetch hparent selector)) ?_
      rintro (_ | job)
      · exact .throw fun _ hs => hs.1
      · exact h.mergeRecord.pre fun _ hs => ⟨hs.1, hs.2 job rfl⟩
  · exact .pure fun _ hs => hs

theorem addInterest (name party : String) :
    Triple I (t.addInterest name party) (fun _ => I) (fun _ => I) := by
  simp only [Tier.addInterest]
  split
  · exact .pure fun _ hs => hs
  split
  · exact .throw fun _ hs => hs
  · refine .bind (R := fun _ => I) (record_spec fun s hs => ?_) fun _ => .pure fun _ hs => hs
    exact h.trim hs (.addParty ..) (.addParty ..)

theorem tableQuery (requester : String) (query : TableQuery) :
    Triple I (t.tableQuery requester query) (fun _ => I) (fun _ => I) := by
  simp only [Tier.tableQuery]
  split
  · exact .pure fun _ hs => hs
  · refine .attempt_bind (h.resolve _) (fun found => ?_) fun _ => .pure fun _ hs => hs
    refine .attempt_bind (h.addInterest _ _) (fun _ => ?_) fun _ => ?_
    · exact .pure fun _ hs => hs
    · exact .pure fun _ hs => hs

/-! ### Reports and updates -/

/-- A report is recorded and told of, and then something else is done. -/
theorem recording (selector : Selector) (number : UInt32) (network : Network) (reporter : String)
    {k : Job → ReportOutcome → Action σ TierError α}
    (hk : ∀ job outcome, Triple I (k job outcome) (fun _ => I) (fun _ => I)) :
    Triple I (do
      let job ← t.locate selector
      let outcomes ← (Registry.applyReports job.name [⟨number, network⟩] (some reporter)).zoom t.site
      let outcome := (outcomes.head?.map (·.2)).getD .unchanged
      if outcome = .applied then
        let _ ← t.fanOut ⟨job.name, number, .deployment⟩
      k job outcome) (fun _ => I) (fun _ => I) := by
  refine .bind (h.locate selector) fun job => ?_
  refine .bind (h.restored fun r => Registry.applyReports_spec job.name _ (some reporter))
    fun outcomes => ?_
  dsimp only
  split
  · exact .bind (h.fanOut _) fun _ => hk job _
  · exact hk job _

theorem takeReport (selector : Selector) (number : UInt32) (network : Network)
    (reporter : String) : Triple I (t.takeReport selector number network reporter)
      (fun _ => I) (fun _ => I) := by
  refine h.recording (k := fun job outcome => do
    match ← t.look fun r => r.job? job.name with
    | none => throw (.jobNotFound job.name)
    | some job => return (outcome, job.reportOf reporter)) selector number network reporter
    fun job outcome => ?_
  refine .bind (R := fun _ => I) (look_spec fun _ hs => hs) fun found => ?_
  cases found with
  | none => exact .throw fun _ hs => hs
  | some job => exact .pure fun _ hs => hs

theorem reportNetwork (hreport : ∀ {parent}, t.parent? = some parent → ∀ report,
      Triple I (parent (.reportDeployment report)) (fun _ => I) (fun _ => I))
    (selector : Selector) (number : UInt32) (network : Network) (reporter : String) :
    Triple I (t.reportNetwork selector number network reporter) (fun _ => I) (fun _ => I) := by
  refine h.recording (k := t.passReport reporter) selector number network reporter
    fun job outcome => ?_
  rw [passReport]
  cases hparent : t.parent? with
  | none => exact .pure fun _ hs => hs
  | some parent =>
    refine .bind (R := fun _ => I) (look_spec fun _ hs => hs) fun found => ?_
    cases found with
    | none => exact .throw fun _ hs => hs
    | some job =>
      refine .attempt_bind (hreport hparent _) (fun _ => ?_) fun _ => ?_
      · exact .pure fun _ hs => hs
      · exact .pure fun _ hs => hs

theorem applyUpdate (update : JobUpdate) :
    Triple I (t.applyUpdate update) (fun _ => I) (fun _ => I) := by
  have hpass : Triple I (do
      let _ ← t.fanOut update
      return true : Action σ TierError Bool) (fun _ => I) (fun _ => I) :=
    .bind (h.fanOut update) fun _ => .pure fun _ hs => hs
  simp only [Tier.applyUpdate]
  refine .bind (R := fun _ => I) (look_spec fun _ hs => hs) fun parties => ?_
  split
  · exact .pure fun _ hs => hs
  split
  · cases hparent : t.parent? with
    | none => exact hpass
    | some parent =>
      refine .bind (.mapError (h.fetch hparent _)) ?_
      rintro (_ | job)
      · exact hpass.pre fun _ hs => hs.1
      · exact .bind (h.mergeRecord.pre fun _ hs => ⟨hs.1, hs.2 job rfl⟩) fun _ => hpass
  · refine .bind (R := fun _ => I) (.zoom fun s hs => ?_) fun _ => hpass
    refine Registry.updateJob_spec ?_ ?_ nofun
    · rintro _ rfl _
      rw [t.site.set_get]
      exact hs
    · rintro _ old _ _ rfl hold ⟨⟩
      exact h.trim hs (.removed hold) (.setJobs ..)

end Steady

/-! ## Operations that an invariant does not look at -/

/-- An invariant that does not look at the jobs of the tier. What the parent does for a job keeps it,
and so do addresses that return at a root. -/
structure Unconcerned (t : Tier σ) (I : σ → Prop) : Prop where
  jobs : ∀ {s r}, I s → (t.site.get s).OnlyJobs r → I (t.site.set r s)
  call : ∀ {parent}, t.parent? = some parent → ∀ {call : ParentCall}, call.aboutJob = true →
    Triple I (parent call) (fun _ => I) (fun _ => I)
  back : t.isRoot = true → ∀ addresses, Triple I
    ((Registry.returnInstanceAddresses addresses).zoom t.site : Action σ TierError Unit)
    (fun _ => I) (fun _ => I)
  notify : ∀ recipient message {s}, I s → I (t.notify recipient message s).2

namespace Unconcerned

variable {I : σ → Prop} (h : t.Unconcerned I)

include h

theorem steady : t.Steady I fun _ _ => True where
  trim hs _ hr := h.jobs hs hr
  merge hs _ := h.jobs hs (.setJobs ..)
  fetch hparent _ := (h.call hparent rfl).mono (fun _ _ hs => ⟨hs, fun _ _ => trivial⟩) fun _ _ hs => hs
  notify := h.notify

/-- An action on the registry that touches nothing but jobs. -/
theorem zoom {x : Action Registry ε α}
    (hx : ∀ r, Triple (· = r) x (fun _ => r.OnlyJobs) (fun _ => r.OnlyJobs)) :
    Triple I (x.zoom t.site) (fun _ => I) (fun _ => I) :=
  .zoom fun s hs => (hx (t.site.get s)).mono (fun _ _ hr => h.jobs hs hr) fun _ _ hr => h.jobs hs hr

theorem notifyAll (message : ChildMessage) (parties : List String) {E : ε → σ → Prop} :
    Triple I (t.notifyAll message parties) (fun _ => I) E := by
  refine .of_forall fun s hs => (notifyAll_spec message parties s).mono ?_ fun _ _ hs => hs
  rintro _ _ rfl
  exact h.steady.tell _ hs

theorem undeploy (selector : Selector) (number : UInt32) :
    Triple I (t.undeploy selector number) (fun _ => I) (fun _ => I) := by
  have hremove : ∀ name, Triple I ((Registry.removeInstance name number).zoom t.site)
      (fun _ => I) (fun _ => I) := by
    refine fun name => h.zoom fun r => (Registry.removeInstance_spec name number).mono ?_ ?_
    · rintro _ _ ⟨-, -⟩
      exact .setJobs r _
    · rintro _ _ rfl
      exact .refl _
  have hcheck : ∀ addresses, Triple I ((Registry.checkReturn addresses).zoom t.site)
      (fun _ => I) (fun _ => I) := by
    refine fun addresses => h.zoom fun r => (Registry.checkReturn_spec addresses).mono ?_ ?_
    · rintro _ _ rfl
      exact .refl _
    · rintro _ _ rfl
      exact .refl _
  simp only [Tier.undeploy]
  refine .bind (R := fun _ => I) (look_spec fun _ hs => hs) fun found => ?_
  cases found with
  | none => exact .throw fun _ hs => hs
  | some job =>
  dsimp only
  split
  · exact .throw fun _ hs => hs
  cases hroot : t.isRoot with
  | true =>
    simp only [if_true, Bool.not_true, Bool.and_false, Bool.false_eq_true, if_false]
    refine .bind (hcheck _) fun _ => .bind (R := fun _ => I) (look_spec fun _ hs => hs) fun _ => ?_
    refine .bind (hremove job.name) fun removed => .bind (h.back hroot _) fun _ => ?_
    exact .bind (h.notifyAll ..) fun _ => .pure fun _ hs => hs
  | false =>
    simp only [Bool.false_eq_true, if_false]
    refine .bind (R := fun _ => I) (look_spec fun _ hs => hs) fun parties => ?_
    refine .bind (hremove job.name) fun removed => ?_
    split
    · refine .bind (R := fun _ => I) (change_spec fun s hs => h.jobs hs (.setJobs ..)) fun _ => ?_
      exact .bind (h.notifyAll ..) fun _ => .pure fun _ hs => hs
    · exact .bind (h.notifyAll ..) fun _ => .pure fun _ hs => hs

theorem removeInterest (name party : String) :
    Triple I (t.removeInterest name party) (fun _ => I) (fun _ => I) := by
  simp only [Tier.removeInterest]
  refine .bind (R := fun _ => I) (record_spec fun s hs => h.jobs hs (.removeParty ..)) fun found => ?_
  cases found with
  | none => exact .throw fun _ hs => hs
  | some change =>
  dsimp only
  split
  · cases hparent : t.parent? with
    | none => exact .pure fun _ hs => hs
    | some parent =>
      refine .attempt_bind (h.call hparent rfl) (fun _ => ?_) fun _ => ?_
      · exact .pure fun _ hs => hs
      · exact .pure fun _ hs => hs
  · exact .pure fun _ hs => hs

/-- **Requests.** Whatever a party asks for, the invariant is kept if requests for subnets keep it. -/
theorem handle (client : String) (request : ChildRequest)
    (hget : client.isEmpty = false → request = .subnet .get →
      Triple I (t.nodeSubnets client) (fun _ => I) (fun _ => I))
    (hdelete : request = .subnet .delete →
      Triple I (t.releaseNodeSubnets client) (fun _ => I) (fun _ => I)) :
    Triple I (t.handle client request) (fun _ => I) (fun _ => I) := by
  refine handle_of_answer (fun _ hs => hs) (fun hclient => ?_)
    fun message s hs => h.notify client message hs
  cases request with
  | deployed report =>
    refine .bind (h.steady.reportNetwork (fun hparent _ => ?_) ..) fun _ => .pure fun _ hs => hs
    exact h.call hparent rfl
  | undeployed report => exact .bind (h.undeploy ..) fun _ => .pure fun _ hs => hs
  | tableQuery query => exact .bind (h.steady.tableQuery ..) fun _ => .pure fun _ hs => hs
  | subnet method =>
    cases method with
    | get => exact .bind (hget hclient rfl) fun _ => .pure fun _ hs => hs
    | delete => exact .bind (hdelete rfl) fun _ => .pure fun _ hs => hs
  | removeInterest name => exact answer_removeInterest (h.removeInterest name client)

end Unconcerned

end Tier

end Overlay
