import Overlay.Proofs.Job.Reports
import Overlay.Proofs.Root.Registration
import Overlay.Tier.Membership
import Overlay.Tier.Reports
import Overlay.Tier.Requests

/-!
# Operations of a root tier

What an operation of a root tier does to its registry, and whom it tells. The operations that tell
others change the registry first and send messages then (`Tier.undeploy_root`,
`Tier.applyDeployReport_announces`); what the messages cause is left open (`Tier.tell`). A look-up of a
child makes the child an interested party (`Tier.childLookup_root`), and subnets come from pools of
their own (`Registry.takeSubnets_spec`).
-/

namespace Overlay

open Overlay.Action (Triple)

/-! ## Subnets -/

namespace Registry

variable {r : Registry}

/-- Subnets are taken from their own pools. -/
theorem takeSubnets_spec : Triple (OnlySubnets r) takeSubnets (fun _ => OnlySubnets r)
    (fun _ => OnlySubnets r) := by
  have hallocate : ∀ f, Triple (OnlySubnets r) (Pool.subnets f).allocate (fun _ => OnlySubnets r)
      (fun _ => OnlySubnets r) := by
    intro f
    refine .of_after fun s hs => ?_
    exact hs.trans (.ofSameBut ((Pool.subnets f).allocate_sameBut s))
  have hrelease : ∀ f text, Triple (OnlySubnets r) ((Pool.subnets f).release text)
      (fun _ => OnlySubnets r) (fun _ => OnlySubnets r) := by
    intro f text
    refine .of_after fun s hs => ?_
    exact hs.trans (.ofSameBut ((Pool.subnets f).release_sameBut text s))
  refine .bind (.mapError (hallocate .v4)) fun v4 => ?_
  refine .attempt_bind (hallocate .v6) (fun v6 => .pure fun _ hs => hs) fun e => ?_
  exact .attempt_bind (hrelease .v4 v4) (fun _ => .throw fun _ hs => hs) fun _ =>
    .throw fun _ hs => hs

/-- Subnets go back to their own pools. -/
theorem returnSubnets_spec (list : List (Family × String)) : Triple (OnlySubnets r)
    (returnSubnets list) (fun _ => OnlySubnets r) (fun _ => OnlySubnets r) := by
  induction list with
  | nil => exact .pure fun _ hs => hs
  | cons e rest ih =>
    refine .bind (R := fun _ => OnlySubnets r) (.mapError (.of_after fun s hs => ?_)) fun _ => ih
    exact hs.trans (.ofSameBut ((Pool.subnets e.1).release_sameBut e.2 s))

end Registry

namespace Tier

variable {σ ε α : Type} {t : Tier σ} {P : σ → Prop} {E : ε → σ → Prop}

/-! ## The registry of a tier -/

theorem look_spec {f : Registry → α} {Q : α → σ → Prop} (h : ∀ s, P s → Q (f (t.site.get s)) s) :
    Triple P (t.look f : Action σ ε α) Q E :=
  .inspect h

/-- What follows a look at a known state goes on with what is there. -/
theorem look_bind {β : Type} {f : Registry → α} {g : α → Action σ ε β} {Q : β → σ → Prop} {s : σ}
    (h : Triple (· = s) (g (f (t.site.get s))) Q E) : Triple (· = s) (t.look f >>= g) Q E :=
  .inspect_bind h

theorem change_spec {f : Registry → Registry} {Q : Unit → σ → Prop}
    (h : ∀ s, P s → Q () (t.site.set (f (t.site.get s)) s)) :
    Triple P (t.change f : Action σ ε Unit) Q E :=
  .modify h

theorem record_spec {f : Registry → α × Registry} {Q : α → σ → Prop}
    (h : ∀ s, P s → Q (f (t.site.get s)).1 (t.site.set (f (t.site.get s)).2 s)) :
    Triple P (t.record f : Action σ ε α) Q E := by
  refine .zoom fun s hs => .step ?_
  rintro _ rfl
  exact h s hs

theorem isRoot_of_role (h : t.role = .root) : t.isRoot = true := by
  rw [isRoot, h]

theorem parent?_of_role (h : t.role = .root) : t.parent? = none := by
  rw [parent?, h]

theorem atRoot_of_role (h : t.role = .root) (fault : BadArgument)
    (x : Action Registry TierError α) : t.atRoot fault x = x.zoom t.site := by
  rw [atRoot, if_pos (isRoot_of_role h)]

/-! ## Notifications -/

/-- The state after messages went out one after the other, whether they arrived or not. -/
def tell (t : Tier σ) (messages : List (String × ChildMessage)) (s : σ) : σ :=
  messages.foldl (fun s m => (t.notify m.1 m.2 s).2) s

theorem tell_append (t : Tier σ) (messages messages' : List (String × ChildMessage)) (s : σ) :
    t.tell (messages ++ messages') s = t.tell messages' (t.tell messages s) :=
  List.foldl_append ..

/-- What each message keeps is kept by all of them. -/
theorem tell_keeps {I : σ → Prop} {messages : List (String × ChildMessage)} {s : σ} (hs : I s)
    (h : ∀ m ∈ messages, ∀ s, I s → I (t.notify m.1 m.2 s).2) : I (t.tell messages s) := by
  induction messages generalizing s with
  | nil => exact hs
  | cons m rest ih =>
    exact ih (h m List.mem_cons_self s hs) fun m' hm' => h m' (List.mem_cons_of_mem _ hm')

/-- Telling parties sends the message to each of them in turn, and never fails. -/
theorem notifyAll_spec (message : ChildMessage) (parties : List String) (s : σ) :
    Triple (· = s) (t.notifyAll message parties)
      (fun _ s' => s' = t.tell (parties.map (·, message)) s) E := by
  induction parties generalizing s with
  | nil => exact .pure fun _ hs => hs
  | cons party rest ih =>
    have hnotify : Triple (· = s) (t.notify party message)
        (fun _ s' => s' = (t.notify party message s).2)
        (fun _ s' => s' = (t.notify party message s).2) :=
      .of_after fun _ hs => hs ▸ rfl
    have hrest := ih (t.notify party message s).2
    refine .attempt_bind hnotify (fun _ => ?_) fun _ => ?_
    · exact .bind hrest fun _ => .pure fun _ hs => hs
    · exact .bind hrest fun _ => .pure fun _ hs => hs

/-- What the interested parties are told of a change. -/
def announcements (r : Registry) (update : JobUpdate) : List (String × ChildMessage) :=
  (r.parties update.jobName).map (·, .update update)

/-- Telling the interested parties. -/
theorem fanOut_spec (update : JobUpdate) (s : σ) : Triple (· = s) (t.fanOut update)
    (fun _ s' => s' = t.tell (announcements (t.site.get s) update) s) E :=
  look_bind (notifyAll_spec ..)

/-- Messages that speak of instances that were deployed. -/
def AllDeployments (messages : List (String × ChildMessage)) : Prop :=
  ∀ m ∈ messages, ∃ update : JobUpdate, m.2 = .update update ∧ update.change = .deployment

/-! ## Removing an instance -/

/-- An instance of a root was removed, and its addresses were returned. -/
inductive Withdrawn (r : Registry) (hand : List (Family × String)) (selector : Selector)
    (number : UInt32) : Job → Instance → Registry → Prop
  | intro {job : Job} {i : Instance} {r' : Registry} : r.select selector = some job →
      r.job? job.name = some job → job.instance? number = some i →
      Registry.OnlyPools { r with jobs := r.jobs.insert job.name (job.remove number) } r' →
      r'.Books hand → Withdrawn r hand selector number job i r'

theorem Withdrawn.books {r r' : Registry} {hand : List (Family × String)} {selector : Selector}
    {number : UInt32} {job : Job} {i : Instance}
    (h : Withdrawn r hand selector number job i r') : r'.Books hand := by
  obtain ⟨-, -, -, -, hbooks⟩ := h
  exact hbooks

/-- A job that a selector finds is the job of its name. -/
theorem job?_of_select {r : Registry} {selector : Selector} {job : Job} (h : r.Named)
    (hs : r.select selector = some job) : r.job? job.name = some job := by
  cases selector with
  | name name => exact (h name job hs).symm ▸ hs
  | address text => exact h.job?_of_mem (Registry.mem_of_jobByAddress? hs).1

/-- What a root says of an instance that it has undeployed, and to whom. -/
def farewells (r : Registry) (jobName : String) (number : UInt32) :
    List (String × ChildMessage) :=
  (r.parties jobName).map (·, .update ⟨jobName, number, .undeployment⟩)

/-- **Undeployment at a root.** Nothing has changed, or the instance is gone, its addresses are back
in their pools, and the parties that were interested are told. -/
theorem undeploy_root (hrole : t.role = .root) {s : σ} {hand : List (Family × String)}
    (h : (t.site.get s).Books hand) (selector : Selector) (number : UInt32) :
    Triple (· = s) (t.undeploy selector number)
      (fun _ s' => ∃ job i r', Withdrawn (t.site.get s) hand selector number job i r' ∧
        s' = t.tell (farewells (t.site.get s) job.name number) (t.site.set r' s))
      (fun _ s' => s' = s) := by
  have hset : t.site.set (t.site.get s) s = s := t.site.set_get s
  simp only [undeploy, isRoot_of_role hrole, if_true]
  refine look_bind ?_
  cases hselect : (t.site.get s).select selector with
  | none => exact .throw fun s' hs => hs
  | some job =>
  dsimp only
  split
  · exact .throw fun s' hs => hs
  next i hi =>
  have hjob := job?_of_select h.named hselect
  have hcheck := Triple.zoom_at (p := t.site) (s := s)
    (Registry.checkReturn_spec (r := t.site.get s) i.addresses.present)
  refine .bind (R := fun _ s' => s' = s) (hcheck.mono ?_ ?_) fun _ => ?_
  · rintro _ _ ⟨_, rfl, rfl⟩
    exact hset
  · rintro e _ ⟨_, rfl, rfl⟩
    exact hset
  refine look_bind ?_
  have hremove := Triple.zoom_at (p := t.site) (s := s)
    (Registry.removeInstance_spec (r := t.site.get s) job.name number)
  refine .bind (hremove.mono (fun _ _ hs => hs) ?_) ?_
  · rintro e _ ⟨_, rfl, rfl⟩
    exact hset
  rintro ⟨removed, left⟩
  refine .of_forall fun s₁ hs => ?_
  obtain ⟨r₁, rfl, hremoved⟩ := hs
  have hget : t.site.get (t.site.set r₁ s) = r₁ := t.site.get_set r₁ s
  have hreturn := Triple.zoom_at (p := t.site) (s := t.site.set r₁ s)
    (R := fun _ => Registry.Underway r₁ hand) (F := fun (_ : TierError) _ => False)
    ((Registry.returnInstanceAddresses_spec removed.addresses.present).conseq
      (fun r hr => hr.trans hget ▸ (hremoved.books h).underway) (fun _ _ hr => hr) fun _ _ hr => hr)
  refine .bind (hreturn.mono (fun _ _ hs => hs) ?_) fun _ => ?_
  · rintro e _ ⟨_, _, hfalse⟩
    exact hfalse.elim
  refine .of_forall fun s₂ hs => ?_
  obtain ⟨r₂, rfl, hframe, hafter⟩ := hs
  rw [t.site.set_set]
  obtain ⟨hjob', hi'⟩ := hremoved
  obtain rfl := Option.some.inj (hjob.symm.trans hjob')
  obtain rfl := Option.some.inj (hi.symm.trans hi')
  simp only [Bool.not_true, Bool.and_false, Bool.false_eq_true, if_false]
  refine .bind (notifyAll_spec ..) fun _ => .pure fun s' hs => ⟨job, i, r₂, ?_, hs⟩
  exact .intro hselect hjob hi hframe hafter

/-- Undeployment under the identifier of the scheduler. -/
theorem undeployInstance_root (hrole : t.role = .root) {s : σ} {hand : List (Family × String)}
    (h : (t.site.get s).Books hand) (systemId : String) (number : UInt32) :
    Triple (· = s) (t.undeployInstance systemId number)
      (fun _ s' => ∃ job i r', (t.site.get s).jobBySystemId? systemId = some job ∧
        Withdrawn (t.site.get s) hand (.name job.name) number job i r' ∧
        s' = t.tell (farewells (t.site.get s) job.name number) (t.site.set r' s))
      (fun _ s' => s' = s) := by
  simp only [undeployInstance, isRoot_of_role hrole, Bool.not_true, Bool.false_eq_true, if_false]
  refine look_bind ?_
  cases hfound : (t.site.get s).jobBySystemId? systemId with
  | none => exact .throw fun s' hs => hs
  | some job =>
  refine (undeploy_root hrole h (.name job.name) number).mono ?_ fun _ _ hs => hs
  rintro _ s' ⟨job', i, r', hw, hs'⟩
  have hname : job' = job := by
    obtain ⟨hselect, -, -, -, -⟩ := hw
    have hjob := h.named.job?_of_mem (Registry.mem_of_jobBySystemId? hfound)
    exact Option.some.inj (hselect.symm.trans hjob)
  subst hname
  exact ⟨job', i, r', rfl, hw, hs'⟩

/-! ## Reports -/

/-- The state after the interested parties were told of a change. -/
def announce (t : Tier σ) (update : JobUpdate) (s : σ) : σ :=
  t.tell (announcements (t.site.get s) update) s

/-- The state after the interested parties were told of several deployments, one after the other. -/
def announceAll (t : Tier σ) (jobName : String) (numbers : List UInt32) (s : σ) : σ :=
  numbers.foldl (fun s number => t.announce ⟨jobName, number, .deployment⟩ s) s

/-- Announcements are messages that speak of deployments. -/
theorem announceAll_eq_tell (jobName : String) (numbers : List UInt32) (s : σ) :
    ∃ messages, AllDeployments messages ∧ t.announceAll jobName numbers s = t.tell messages s := by
  induction numbers generalizing s with
  | nil => exact ⟨[], nofun, rfl⟩
  | cons number rest ih =>
    let update : JobUpdate := ⟨jobName, number, .deployment⟩
    obtain ⟨messages, hall, htell⟩ := ih (t.announce update s)
    refine ⟨announcements (t.site.get s) update ++ messages, fun m hm => ?_, ?_⟩
    · rcases List.mem_append.1 hm with hm | hm
      · obtain ⟨party, -, rfl⟩ := List.mem_map.1 hm
        exact ⟨update, rfl, rfl⟩
      · exact hall m hm
    · rw [tell_append]
      exact htell

/-- One announcement after the other. -/
theorem forIn_fanOut_spec (jobName : String) (numbers : List UInt32) (s : σ) : Triple (· = s)
    (forIn numbers PUnit.unit fun number _ => do
      let _ ← t.fanOut ⟨jobName, number, .deployment⟩
      pure (.yield PUnit.unit) : Action σ TierError PUnit)
    (fun _ s' => s' = t.announceAll jobName numbers s) (fun _ _ => False) := by
  induction numbers generalizing s with
  | nil => exact .pure fun _ hs => hs
  | cons number rest ih =>
    rw [List.forIn_cons]
    refine .bind (R := fun next s' => next = .yield PUnit.unit ∧
      s' = t.announce ⟨jobName, number, .deployment⟩ s)
      (.bind (fanOut_spec ..) fun _ => .pure fun _ hs => ⟨rfl, hs⟩) fun next => ?_
    refine .of_forall fun s₁ hs => ?_
    obtain ⟨rfl, rfl⟩ := hs
    exact ih _

/-- **Reports.** Networks of a job are recorded, and the interested parties are told of each
instance that was not configured before; or nothing has changed, because the report says nothing or
cannot be applied. -/
theorem applyDeployReport_announces (report : DeployReport) (s : σ) :
    Triple (· = s) (t.applyDeployReport report)
      (fun changed s' => ∃ job outcomes r',
        (t.site.get s).jobBySystemId? report.systemId = some job ∧
        (t.site.get s).Recorded job.name report.instances none outcomes r' ∧
        changed = Job.changed outcomes ∧ s' = t.announceAll job.name changed (t.site.set r' s))
      (fun _ s' => s' = s ∧ (report.systemId.isEmpty = false → report.instances ≠ [] →
        ∀ job outcomes r', (t.site.get s).jobBySystemId? report.systemId = some job →
          ¬(t.site.get s).Recorded job.name report.instances none outcomes r')) := by
  simp only [applyDeployReport, Action.throw_bind]
  split
  · next hempty =>
    refine .throw fun _ hs => ⟨hs, fun hid hinstances => ?_⟩
    simp [hid, hinstances] at hempty
  refine look_bind ?_
  cases (t.site.get s).jobBySystemId? report.systemId with
  | none => exact .throw fun _ hs => ⟨hs, nofun⟩
  | some job =>
  have happly := Triple.zoom_at (p := t.site) (s := s)
    (Registry.applyReports_recorded (r := t.site.get s) job.name report.instances none)
  refine .bind (happly.mono (fun _ _ hs => hs) ?_) fun outcomes => ?_
  · intro e s' hs
    obtain ⟨_, rfl, rfl, hnot⟩ := hs
    refine ⟨t.site.set_get s, fun _ _ job' outcomes r' hjob' => ?_⟩
    obtain rfl := Option.some.inj hjob'
    exact hnot outcomes r'
  refine .of_forall fun s₁ hs => ?_
  obtain ⟨r', rfl, hrecorded⟩ := hs
  refine Triple.conseq (E := fun _ _ => False) ?_ (fun _ hs => hs) (fun _ _ hs => hs) nofun
  refine .bind (forIn_fanOut_spec ..) fun _ => .pure fun s' hs => ?_
  exact ⟨job, outcomes, r', rfl, hrecorded, rfl, hs⟩

/-- Nothing has changed, or networks of a job are recorded and the interested parties are told. -/
theorem applyDeployReport_spec (report : DeployReport) (s : σ) :
    Triple (· = s) (t.applyDeployReport report)
      (fun _ s' => ∃ r' messages, (t.site.get s).Restored r' ∧ AllDeployments messages ∧
        s' = t.tell messages (t.site.set r' s))
      (fun _ s' => s' = s) := by
  refine (applyDeployReport_announces report s).mono ?_ fun _ _ hs => hs.1
  intro changed s' hs
  obtain ⟨job, outcomes, r', -, hrecorded, rfl, rfl⟩ := hs
  obtain ⟨messages, hall, htell⟩ :=
    announceAll_eq_tell job.name (Job.changed outcomes) (t.site.set r' s)
  exact ⟨r', messages, hrecorded.restored, hall, htell⟩

/-! ## Interest -/

/-- A child looked a job up: there is none with a name, or the child is an interested party from then
on. -/
inductive LookedUp (r : Registry) (child : String) (selector : Selector) :
    Option Job → Registry → Prop
  | unknown : (∀ job, r.select selector = some job → job.name.isEmpty = true) →
      LookedUp r child selector none r
  | found {job : Job} : r.select selector = some job → r.job? job.name = some job →
      LookedUp r child selector (some job.withoutParties)
        (r.putJob { job with parties := job.parties.insert child })

/-- Who is interested in a job is not in the books. -/
theorem LookedUp.sameBooks {r r' : Registry} {child : String} {selector : Selector}
    {found : Option Job} (h : LookedUp r child selector found r') : r.SameBooks r' := by
  cases h with
  | unknown _ => exact .refl r
  | found _ hjob => exact .putParties hjob _

/-- **Look-ups at a root.** Only a child without a name is refused. -/
theorem childLookup_root (hrole : t.role = .root) {s : σ} (h : (t.site.get s).Named)
    (child : String) (selector : Selector) : Triple (· = s) (t.childLookup child selector)
      (fun found s' => ∃ r', s' = t.site.set r' s ∧ LookedUp (t.site.get s) child selector found r')
      (fun _ s' => s' = s ∧ child.isEmpty = true) := by
  have hset : t.site.set (t.site.get s) s = s := t.site.set_get s
  refine .bind (R := fun found s' => s' = s ∧
    found.job = ((t.site.get s).select selector).elim .unknown .ofJob) ?_ fun found => ?_
  · simp only [resolve, parent?_of_role hrole]
    refine look_bind ?_
    cases (t.site.get s).select selector with
    | none => exact .pure fun s' hs => ⟨hs, rfl⟩
    | some job => exact .pure fun s' hs => ⟨hs, rfl⟩
  cases hunknown : found.job.isUnknown with
  | true =>
    refine .pure fun s' hs => ⟨t.site.get s, hs.1.trans hset.symm, .unknown fun job hselect => ?_⟩
    rwa [hs.2, hselect] at hunknown
  | false =>
    refine .of_forall fun s' hs => ?_
    obtain ⟨hs', hfound⟩ := hs
    obtain rfl : s = s' := hs'.symm
    obtain ⟨job, hselect⟩ : ∃ job, (t.site.get s).select selector = some job := by
      refine Option.ne_none_iff_exists'.1 fun hnone => ?_
      rw [hfound, hnone] at hunknown
      cases hunknown
    rw [hselect, Option.elim_some] at hfound
    have hjob := job?_of_select h hselect
    have hname : job.name.isEmpty = false := by
      rwa [hfound] at hunknown
    rw [hfound]
    simp only [addInterest, ResolvedJob.ofJob, hname, Bool.false_eq_true, if_false]
    refine .bind (R := fun _ s' => s' = t.site.set ((t.site.get s).putJob
      { job with parties := job.parties.insert child }) s) ?_ fun _ => ?_
    · split
      · next hempty => exact .throw fun _ hs => ⟨hs, hempty⟩
      refine .bind (record_spec (Q := fun _ s' => s' = _) fun s' hs => ?_)
        fun _ => .pure fun _ hs => hs
      subst hs
      simp only [Registry.addParty, hjob]
      rfl
    · refine look_spec fun s' hs => ?_
      refine ⟨_, hs, ?_⟩
      subst hs
      rw [t.site.get_set, Registry.putJob, Registry.job?, Table.get?_insert_self]
      exact .found hselect hjob

/-- A party is no longer interested, or it was not. -/
inductive Left (r : Registry) (jobName party : String) : Registry → Prop
  | same : Left r jobName party r
  | erased {job : Job} : r.job? jobName = some job → Left r jobName party
      { r with jobs := r.jobs.insert jobName { job with parties := job.parties.erase party } }

theorem Left.sameBooks {r r' : Registry} {jobName party : String} (h : Left r jobName party r') :
    r.SameBooks r' := by
  cases h with
  | same => exact .refl r
  | erased hjob => exact .putParties hjob _

theorem removeParty_left (r : Registry) (jobName party : String) :
    Left r jobName party (r.removeParty jobName party false).2 := by
  simp only [Registry.removeParty, Bool.and_false, Bool.false_and, Bool.false_eq_true, if_false]
  cases hjob : r.job? jobName with
  | none => exact .same
  | some job =>
    dsimp only
    split
    · exact .erased hjob
    · exact .same

/-- **Withdrawals at a root.** A job stays when nobody is interested in it any more. -/
theorem removeInterest_root (hrole : t.role = .root) (s : σ) (jobName party : String) :
    Triple (· = s) (t.removeInterest jobName party)
      (fun _ s' => ∃ r', s' = t.site.set r' s ∧ Left (t.site.get s) jobName party r')
      (fun _ s' => ∃ r', s' = t.site.set r' s ∧ Left (t.site.get s) jobName party r') := by
  simp only [removeInterest, parent?_of_role hrole]
  refine .bind (R := fun _ s' => ∃ r', s' = t.site.set r' s ∧ Left (t.site.get s) jobName party r')
    (record_spec fun s' hs => ?_) ?_
  · subst hs
    exact ⟨_, rfl, removeParty_left (t.site.get s') jobName party⟩
  · rintro (_ | change)
    · exact .throw fun _ hs => hs
    · dsimp only
      split
      · exact .pure fun _ hs => hs
      · exact .pure fun _ hs => hs

end Tier

end Overlay
