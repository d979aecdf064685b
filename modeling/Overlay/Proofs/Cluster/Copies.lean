import Overlay.Proofs.Cluster.Withdrawal
import Overlay.Proofs.Hierarchy.Networks
import Overlay.Proofs.Tier.Reports

/-!
# Copies of the parent

What an operation of a cluster does to its records. It takes a copy of a job over first, if its
parent sends one (`ClusterTier.taken?`). Then it does what it is for, and that is one of five
changes (`ClusterTier.Ran`, `ClusterTier.run_spec`).
-/

namespace Overlay

open Overlay.Action (Triple)

/-- What is known of the result of an action that starts in a known state. -/
theorem Action.Triple.answered {σ ε α : Type} {x : Action σ ε α} {s : σ} {Q : α → σ → Prop}
    {E : ε → σ → Prop} (h : Triple (· = s) x Q E) :
    Triple (· = s) x (fun a s' => (x s).1 = .ok a ∧ Q a s')
      (fun e s' => (x s).1 = .error e ∧ E e s') where
  of_ok := by
    rintro _ s' a rfl hx
    exact ⟨congrArg Prod.fst hx, h.of_ok rfl hx⟩
  of_error := by
    rintro _ s' e rfl hx
    exact ⟨congrArg Prod.fst hx, h.of_error rfl hx⟩

namespace Registry

variable {r : Registry} {name : String} {n : UInt32} {job : Job}

/-- The networks of a job that is still there after an undeployment are the same, but for that of
the instance that is gone. -/
theorem network?_withdraw {number : UInt32} (hjob : r.job? job.name = some job)
    (hne : name ≠ job.name ∨ n ≠ number)
    (hthere : ((r.withdraw job number).job? name).isSome = true) :
    (r.withdraw job number).network? name n = r.network? name n := by
  have hwithout : r.without job.name number =
      { r with jobs := r.jobs.insert job.name (job.remove number) } := by
    rw [without, hjob]
  rw [withdraw] at hthere ⊢
  split
  · next hlast =>
    rw [if_pos hlast] at hthere
    exact network?_deleteJob hthere
  · rw [← hwithout]
    exact network?_without hne

end Registry

/-! ## What the parent sends -/

namespace Surroundings

variable {ε : Type} (S : Surroundings ε)

/-- The copy of a job that the parent sends, if it is asked now. -/
def copy? (selector : Selector) (outside : ε) : Option Job :=
  match (S.answer (.fetchJob selector) outside).1 with
  | .ok found => found
  | .error _ => none

/-- The copy that a cluster gets of a job that its registry does not have. -/
def missing? (s : Observed ε) (selector : Selector) : Option Job :=
  match s.registry.select selector with
  | some _ => none
  | none => S.copy? selector s.outside

/-- A cluster after it has asked its parent for a job, and kept the copy if there is one. -/
def asking (selector : Selector) (s : Observed ε) : Observed ε where
  registry := s.registry.withCopy (S.copy? selector s.outside)
  asked := s.asked ++ [.fetchJob selector]
  outside := (S.answer (.fetchJob selector) s.outside).2

end Surroundings

namespace ClusterTier

variable {ε : Type}

/-- The copy of a job that an operation takes over from the parent. A worker's request makes the
cluster ask for a job that it does not have, and a deployment makes it ask again for a job that
somebody is interested in. -/
def taken? (S : Surroundings ε) (s : Observed ε) : Step → Option Job
  | .request client (.deployed report) =>
    if client.isEmpty then none else S.missing? s (.name report.jobName)
  | .request client (.tableQuery query) =>
    if client.isEmpty then none
    else (query.selector?.bind (S.missing? s)).filter fun copy => !copy.name.isEmpty
  | .update ⟨jobName, _, .deployment⟩ =>
    if (s.registry.parties jobName).isEmpty then none else S.copy? (.name jobName) s.outside
  | _ => none

variable {S : Surroundings ε} {id : String} {s : Observed ε}

/-- What is announced to the workers changes nothing here. -/
theorem fanOut_spec (news : JobUpdate) (r : Registry) {E : TierError → Observed ε → Prop} :
    Triple (fun s' => s'.registry = r) ((S.tier id).fanOut news)
      (fun _ s' => s'.registry = r) E := by
  refine .of_forall fun s hs => (Tier.fanOut_spec news s).mono (fun _ s' hs' => ?_) fun _ _ he => he
  rw [hs', (tell_observed S id _ _).1]
  exact hs

/-- The parent is asked for a job. -/
theorem fetch_spec (selector : Selector) (s : Observed ε) :
    Triple (· = s) (S.parent (.fetchJob selector))
      (fun found s' => s'.registry = s.registry ∧ S.copy? selector s.outside = found)
      (fun _ s' => s'.registry = s.registry ∧ S.copy? selector s.outside = none) := by
  refine .bind (R := fun _ s' => s'.registry = s.registry ∧ s'.outside = s.outside)
    (.modify fun s' hs => hs ▸ ⟨rfl, rfl⟩) fun _ => .of_match fun s' hs => ?_
  obtain ⟨hregistry, houtside⟩ := hs
  have hget : Observed.surroundings.get s' = s.outside := houtside
  rw [Action.zoom_apply, hget]
  simp only [Surroundings.copy?]
  rcases hanswer : S.answer (.fetchJob selector) s.outside with ⟨e | found, outside⟩
  · exact ⟨hregistry, rfl⟩
  · exact ⟨hregistry, rfl⟩

/-- A job that a cluster does not have makes it ask. -/
theorem locate_of_missing {selector : Selector} {s : Observed ε}
    (h : s.registry.select selector = none) (id : String) :
    ((S.tier id).locate selector s).2 = S.asking selector s := by
  have hlook : ((S.tier id).look fun r => r.select selector :
      Action (Observed ε) TierError (Option Job)) s = (.ok none, s) :=
    Prod.ext (congrArg Except.ok h) rfl
  have hparent : (S.tier id).parent? = some S.parent := rfl
  simp only [Tier.locate, hparent]
  rw [Action.bind_of_ok hlook]
  dsimp only
  have hask : Tier.escalate S.parent (.fetchJob selector) s =
      ((S.answer (.fetchJob selector) s.outside).1.mapError .escalationFailed,
        { s with
          asked := s.asked ++ [.fetchJob selector]
          outside := (S.answer (.fetchJob selector) s.outside).2 }) := rfl
  rw [Surroundings.asking, Surroundings.copy?]
  rcases hanswer : S.answer (.fetchJob selector) s.outside with ⟨e | found, outside⟩
  · rw [hanswer] at hask
    rw [Action.bind_of_error hask]
    rfl
  · rw [hanswer] at hask
    rw [Action.bind_of_ok hask]
    cases found with
    | none => rfl
    | some copy => rfl

/-- A job that is not there is taken over from the parent. -/
theorem locate_spec (selector : Selector) (s : Observed ε) :
    Triple (· = s) ((S.tier id).locate selector)
      (fun _ s' => s'.registry = s.registry.withCopy (S.missing? s selector))
      (fun _ s' => s'.registry = s.registry.withCopy (S.missing? s selector)) := by
  refine .of_after fun s' hs => ?_
  subst hs
  rw [Surroundings.missing?]
  cases hselect : s'.registry.select selector with
  | some job =>
    rw [Tier.locate_of_select (t := S.tier id) hselect]
    rfl
  | none =>
    rw [locate_of_missing hselect]
    rfl

/-- A look-up takes the copy over, unless it is a copy of no job. -/
theorem resolve_spec (selector : Selector) (s : Observed ε) :
    Triple (· = s) ((S.tier id).resolve selector)
      (fun _ s' => s'.registry = s.registry.withCopy
        ((S.missing? s selector).filter fun copy => !copy.name.isEmpty))
      (fun _ s' => s'.registry = s.registry.withCopy
        ((S.missing? s selector).filter fun copy => !copy.name.isEmpty)) := by
  refine Tier.look_bind ?_
  have hsite : (S.tier id).site.get s = s.registry := rfl
  rw [hsite, Surroundings.missing?]
  cases hselect : s.registry.select selector with
  | some job => exact .pure fun _ hs => hs ▸ rfl
  | none =>
    refine .bind (.mapError ((fetch_spec selector s).mono (fun _ _ hs => hs) ?_)) ?_
    · rintro _ s' ⟨hregistry, hnone⟩
      rw [hnone]
      exact hregistry
    rintro (_ | copy)
    · refine .pure fun s' hs => ?_
      rw [hs.2]
      exact hs.1
    dsimp only
    split
    · next hempty =>
      refine .pure fun s' hs => ?_
      rw [hs.2, Option.filter_some, hempty]
      exact hs.1
    · next hnamed =>
      rw [Bool.not_eq_true] at hnamed
      refine .bind (R := fun _ s' => s'.registry = (s.registry.mergeJob copy).2 ∧
        S.copy? selector s.outside = some copy) (Tier.record_spec fun s' hs => ⟨?_, hs.2⟩)
        fun _ => ?_
      · exact congrArg (fun r => (Registry.mergeJob r copy).2) hs.1
      · refine .pure fun s' hs => ?_
        rw [hs.2, Option.filter_some, hnamed]
        exact hs.1

/-! ## What operations note -/

/-- The registry is the same, but for what the books of a tier do not look at. -/
def Noted (r : Registry) (s : Observed ε) : Prop :=
  r.SameBooks s.registry

namespace Noted

variable {r : Registry} {E : TierError → Observed ε → Prop}

theorem of_eq (h : s.registry = r) : Noted r s :=
  h ▸ .refl _

theorem call (call : ParentCall) :
    Triple (Noted r) (S.parent call) (fun _ => Noted r) (fun _ => Noted r) := by
  refine .of_forall fun s hs => (parent_spec call s).mono ?_ ?_
  · exact fun _ s' hs' => (congrArg r.SameBooks hs'.1).mpr hs
  · exact fun _ s' hs' => (congrArg r.SameBooks hs'.1).mpr hs

theorem change {f : Registry → Registry} (hf : ∀ r : Registry, r.SameBooks (f r)) :
    Triple (Noted r) ((S.tier id).change f) (fun _ => Noted r) E :=
  Tier.change_spec fun s hs => hs.trans (hf s.registry)

theorem addInterest (name party : String) :
    Triple (Noted r) ((S.tier id).addInterest name party) (fun _ => Noted r)
      (fun _ => Noted r) := by
  simp only [Tier.addInterest]
  split
  · exact .pure fun _ hs => hs
  split
  · exact .throw fun _ hs => hs
  refine .bind (R := fun _ => Noted r) (Tier.record_spec fun s hs => hs.trans ?_)
    fun _ => .pure fun _ hs => hs
  rw [Registry.addParty]
  split
  · exact .refl _
  · next job hjob => exact .putParties hjob _

theorem nodeSubnets (node : String) :
    Triple (Noted r) ((S.tier id).nodeSubnets node) (fun _ => Noted r) (fun _ => Noted r) := by
  refine .bind (R := fun _ => Noted r) (Tier.look_spec fun _ hs => hs) ?_
  rintro (_ | known)
  · refine .bind (.mapError (call .requestSubnets)) fun subnets => ?_
    exact .bind (change fun r => ⟨rfl, rfl, fun _ _ => rfl⟩) fun _ => .pure fun _ hs => hs
  · exact .pure fun _ hs => hs

theorem releaseNodeSubnets (node : String) : Triple (Noted r)
    ((S.tier id).releaseNodeSubnets node) (fun _ => Noted r) (fun _ => Noted r) := by
  refine .bind (R := fun _ => Noted r) (Tier.look_spec fun _ hs => hs) ?_
  rintro (_ | known)
  · exact .pure fun _ hs => hs
  · refine .bind (.mapError (call (.releaseSubnets _))) fun _ => ?_
    exact change fun r => ⟨rfl, rfl, fun _ _ => rfl⟩

end Noted

/-- A table query notes an interest, after a copy was taken over. -/
theorem tableQuery_spec (requester : String) (query : TableQuery) (s : Observed ε) :
    Triple (· = s) ((S.tier id).tableQuery requester query)
      (fun _ => Noted (s.registry.withCopy
        ((query.selector?.bind (S.missing? s)).filter fun copy => !copy.name.isEmpty)))
      (fun _ => Noted (s.registry.withCopy
        ((query.selector?.bind (S.missing? s)).filter fun copy => !copy.name.isEmpty))) := by
  simp only [Tier.tableQuery]
  cases hselector : query.selector? with
  | none => exact .pure fun _ hs => hs ▸ .of_eq rfl
  | some selector =>
    rw [Option.bind_some]
    refine .attempt_bind (resolve_spec selector s) (fun found => ?_) fun _ =>
      .pure fun _ hs => .of_eq hs
    refine .attempt_bind ((Noted.addInterest found.job.name requester).pre fun _ hs => .of_eq hs)
      (fun _ => ?_) fun _ => ?_
    · exact .pure fun _ hs => hs
    · exact .pure fun _ hs => hs

/-! ## Reports and updates -/

/-- What is announced to the workers stays outside. -/
theorem tier_discreet (S : Surroundings ε) (id : String) : (S.tier id).Discreet :=
  fun _ _ _ => .refl _

/-- The registry after a look-up. -/
theorem site_locate (S : Surroundings ε) (id : String) (selector : Selector) (s : Observed ε) :
    (S.tier id).site.get ((S.tier id).locate selector s).2 =
      s.registry.withCopy (S.missing? s selector) :=
  ((locate_spec selector s).mono (fun _ _ hs => hs) fun _ _ hs => hs).after rfl

/-- A record was stored, and the announcements are heard neither here nor by the parent. -/
theorem entered_observed (S : Surroundings ε) (id : String) (new : Job) (name : String)
    (number : UInt32) (outcome : ReportOutcome) (s : Observed ε) :
    ((S.tier id).entered new name number outcome s).registry =
        { s.registry with jobs := s.registry.jobs.insert name new } ∧
      ((S.tier id).entered new name number outcome s).asked = s.asked := by
  rw [Tier.entered]
  split
  · exact tell_observed S id _ _
  · exact ⟨rfl, rfl⟩

/-- **Reports.** The report is recorded in the job that was located, or it is refused and nothing
but a copy was taken over. What becomes of it at the parent does not matter. -/
theorem reportNetwork_spec (selector : Selector) (number : UInt32) (network : Network)
    (reporter : String) (s : Observed ε) :
    Triple (· = s) ((S.tier id).reportNetwork selector number network reporter)
      (fun outcome s' => ∃ job outcomes, ((S.tier id).locate selector s).1 = .ok job ∧
        (s.registry.withCopy (S.missing? s selector)).Recorded job.name [⟨number, network⟩]
          (some reporter) outcomes s'.registry ∧
        outcome = (outcomes.head?.map (·.2)).getD .unchanged)
      (fun _ s' => s'.registry = s.registry.withCopy (S.missing? s selector)) := by
  refine .of_match fun s' hs => ?_
  subst hs
  by_cases h : ∃ job known new outcome,
      (S.tier id).Enters s' selector reporter ⟨number, network⟩ job known new outcome
  · obtain ⟨job, known, new, outcome, henters⟩ := h
    have hrun := Tier.reportNetwork_of_enters (tier_discreet S id) henters
    dsimp only at hrun
    rw [hrun]
    have hpassed : ∀ s : Observed ε,
        ((S.tier id).passed (new.reportOf reporter) s).registry = s.registry := fun _ => rfl
    refine ⟨job, [(number, outcome)], henters.located, ?_, rfl⟩
    rw [hpassed, (entered_observed S id ..).1, ← site_locate S id]
    exact henters.recorded
  · obtain ⟨e, hrun⟩ := Tier.reportNetwork_of_not_enters h
    dsimp only at hrun
    rw [hrun]
    exact site_locate S id selector s'

/-- **Updates.** A deployment takes a copy over, and an undeployment removes an instance, if
somebody is interested. -/
theorem applyUpdate_spec (news : JobUpdate) (s : Observed ε) :
    Triple (· = s) ((S.tier id).applyUpdate news)
      (fun _ s' => s'.registry = s.registry.withCopy (taken? S s (.update news)) ∨
        (s.registry.parties news.jobName).isEmpty = false ∧ news.change = .undeployment ∧
          s'.registry = s.registry.without news.jobName news.number)
      (fun _ s' => s'.registry = s.registry.withCopy (taken? S s (.update news))) := by
  obtain ⟨jobName, number, change⟩ := news
  have hparent : (S.tier id).parent? = some S.parent := rfl
  have hpass : ∀ {r : Registry} {E : TierError → Observed ε → Prop},
      Triple (fun s' => s'.registry = r) (do
        let _ ← (S.tier id).fanOut ⟨jobName, number, change⟩
        return true : Action (Observed ε) TierError Bool) (fun _ s' => s'.registry = r) E :=
    .bind (fanOut_spec _ _) fun _ => .pure fun _ hs => hs
  simp only [Tier.applyUpdate, hparent]
  refine Tier.look_bind ?_
  have hsite : (S.tier id).site.get s = s.registry := rfl
  rw [hsite]
  cases hparties : (s.registry.parties jobName).isEmpty with
  | true =>
    have hnone : taken? S s (.update ⟨jobName, number, change⟩) = none := by
      cases change with
      | deployment => exact if_pos hparties
      | undeployment => rfl
    rw [hnone]
    exact .pure fun _ hs => .inl (hs ▸ rfl)
  | false =>
  cases change with
  | deployment =>
    have htaken : taken? S s (.update ⟨jobName, number, .deployment⟩) =
        S.copy? (.name jobName) s.outside := if_neg (Bool.eq_false_iff.1 hparties)
    rw [htaken]
    simp only [Bool.false_eq_true, if_false]
    refine .bind (.mapError ((fetch_spec (.name jobName) s).mono (fun _ _ hs => hs) ?_)) ?_
    · rintro _ s' ⟨hregistry, hnone⟩
      rw [hnone]
      exact hregistry
    rintro (_ | copy)
    · refine (hpass.pre fun s' hs => ?_).mono (fun _ _ hs => .inl hs) fun _ _ hs => hs
      rw [hs.2]
      exact hs.1
    · refine .bind (Tier.record_spec fun s' hs => ?_) fun _ =>
        hpass.mono (fun _ _ hs => .inl hs) fun _ _ hs => hs
      rw [hs.2]
      exact congrArg (fun r => (Registry.mergeJob r copy).2) hs.1
  | undeployment =>
    simp only [Bool.false_eq_true, if_false]
    refine .bind (.zoom fun s' hs => ?_) fun _ =>
      hpass.mono (fun _ _ hs => .inr ⟨trivial, trivial, hs⟩) fun _ _ hs => hs
    subst hs
    refine Registry.updateJob_spec ?_ ?_ ?_
    · rintro _ rfl hnone
      rw [hsite] at hnone
      rw [Registry.without, hnone]
      rfl
    · rintro _ old _ _ rfl hold ⟨⟩
      rw [hsite] at hold
      rw [Registry.without, hold]
      rfl
    · rintro _ _ _ _ _ ⟨⟩

/-- **A party leaves.** Its name goes, and the record with the last one. -/
theorem removeInterest_spec (name party : String) (s : Observed ε) :
    Triple (· = s) ((S.tier id).removeInterest name party)
      (fun _ s' => s'.registry = (s.registry.removeParty name party true).2)
      (fun _ s' => s'.registry = (s.registry.removeParty name party true).2) := by
  have hparent : (S.tier id).parent? = some S.parent := rfl
  simp only [Tier.removeInterest, hparent, Option.isSome_some]
  refine .bind (R := fun _ s' => s'.registry = (s.registry.removeParty name party true).2)
    (Tier.record_spec fun s' hs => hs ▸ rfl) ?_
  rintro (_ | change)
  · exact .throw fun _ hs => hs
  dsimp only
  split
  · have hcall : Triple
        (fun s' : Observed ε => s'.registry = (s.registry.removeParty name party true).2)
        (S.parent (.removeInterest name))
        (fun _ s' => s'.registry = (s.registry.removeParty name party true).2)
        (fun _ s' => s'.registry = (s.registry.removeParty name party true).2) :=
      .of_forall fun s₁ hs => (parent_spec (.removeInterest name) s₁).mono
        (fun _ _ hs' => hs'.1.trans hs) fun _ _ hs' => hs'.1.trans hs
    refine .attempt_bind hcall (fun _ => ?_) fun _ => ?_
    · exact .pure fun _ hs => hs
    · exact .pure fun _ hs => hs
  · exact .pure fun _ hs => hs

/-! ## What an operation does -/

/-- What an operation does to the records of a cluster, after a copy was taken over. -/
inductive Ran (S : Surroundings ε) (id : String) (s : Observed ε) : Step → Registry → Prop
  /-- Nothing is done to the instances. -/
  | noted {step : Step} {r : Registry} :
      (s.registry.withCopy (taken? S s step)).SameBooks r → Ran S id s step r
  /-- The report of a worker is answered. -/
  | recorded {client : String} {report : DeployedReport} {job : Job}
      {outcomes : List (UInt32 × ReportOutcome)} {r : Registry} :
      client.isEmpty = false →
      ((S.tier id).locate (.name report.jobName) { s with asked := [] }).1 = .ok job →
      ((S.tier id).reportNetwork (.name report.jobName) report.number report.network client
        { s with asked := [] }).1 = .ok ((outcomes.head?.map (·.2)).getD .unchanged) →
      (s.registry.withCopy (taken? S s (.request client (.deployed report)))).Recorded job.name
        [⟨report.number, report.network⟩] (some client) outcomes r →
      Ran S id s (.request client (.deployed report)) r
  /-- An instance is gone, as the parent has announced. -/
  | removed {news : JobUpdate} : (s.registry.parties news.jobName).isEmpty = false →
      news.change = .undeployment →
      Ran S id s (.update news) (s.registry.without news.jobName news.number)
  /-- An instance is gone, as a worker has reported. -/
  | withdrawn {client : String} {report : UndeployedReport} {job : Job} :
      client.isEmpty = false → s.registry.job? report.jobName = some job →
      Ran S id s (.request client (.undeployed report)) (s.registry.withdraw job report.number)
  /-- A worker has left a job. -/
  | left {client name : String} :
      Ran S id s (.request client (.removeInterest name))
        (s.registry.removeParty name client true).2

/-- An operation that takes nothing over and does nothing to the instances. -/
theorem Ran.same {step : Step} {r : Registry} (htaken : taken? S s step = none)
    (h : s.registry.SameBooks r) : Ran S id s step r := by
  refine .noted ?_
  rw [htaken]
  exact h

/-- A worker's report makes the cluster ask for the job that it does not have. -/
theorem taken?_deployed {client : String} (hclient : client.isEmpty = false)
    (report : DeployedReport) : taken? S s (.request client (.deployed report)) =
      S.missing? { s with asked := [] } (.name report.jobName) :=
  if_neg (Bool.eq_false_iff.1 hclient)

/-- A worker reports the network of an instance. -/
theorem deployed_spec {client : String} (hclient : client.isEmpty = false)
    (report : DeployedReport) : Ran S id s (.request client (.deployed report))
      ((Step.request client (.deployed report)).run S id s).registry := by
  have hspec : Triple (· = { s with asked := [] }) ((S.tier id).reportNetwork
      (.name report.jobName) report.number report.network client) _ _ :=
    (reportNetwork_spec ..).answered
  simp only [Step.run, Tier.handle_deployed hclient]
  refine hspec.result (R := fun _ s' => Ran S id s _ s'.registry) rfl ?_ ?_
  · rintro _ s' ⟨hanswer, job, outcomes, hlocated, hrecorded, rfl⟩
    exact .recorded hclient hlocated hanswer (taken?_deployed hclient report ▸ hrecorded)
  · rintro _ s' ⟨-, hs⟩
    refine .noted ?_
    rw [taken?_deployed hclient, hs]
    exact .refl _

/-- A worker reports an instance as gone. -/
theorem undeployed_spec {client : String} (hclient : client.isEmpty = false)
    (h : s.registry.Named) (report : UndeployedReport) :
    Ran S id s (.request client (.undeployed report))
      ((Step.request client (.undeployed report)).run S id s).registry := by
  have hspec := Tier.undeploy_cluster (t := S.tier id) (s := { s with asked := [] }) rfl h
    (.name report.jobName) report.number
  simp only [Step.run, Tier.handle_undeployed hclient]
  refine hspec.result (R := fun _ s' => Ran S id s _ s'.registry) rfl ?_ ?_
  · rintro _ _ ⟨job, i, hjob, -, rfl⟩
    rw [(tell_observed S id _ _).1]
    exact .withdrawn hclient hjob
  · rintro _ _ ⟨rfl, -⟩
    exact .same rfl (.refl _)

/-- **Requests.** -/
theorem request_spec {client : String} (hclient : client.isEmpty = false) (h : s.registry.Named)
    (wanted : ChildRequest) : Ran S id s (.request client wanted)
      ((Step.request client wanted).run S id s).registry := by
  have hhandle : Triple (· = { s with asked := [] }) ((S.tier id).answer? client wanted)
        (fun _ s' => Ran S id s (.request client wanted) s'.registry)
        (fun _ s' => Ran S id s (.request client wanted) s'.registry) →
      Ran S id s (.request client wanted) ((Step.request client wanted).run S id s).registry :=
    fun hanswer => (Tier.handle_of_client hclient hanswer fun _ _ hs => hs).after rfl
  cases wanted with
  | deployed report => exact deployed_spec hclient report
  | undeployed report => exact undeployed_spec hclient h report
  | tableQuery query =>
    have htaken : taken? S s (.request client (.tableQuery query)) =
        (query.selector?.bind (S.missing? { s with asked := [] })).filter
          fun copy => !copy.name.isEmpty := if_neg (Bool.eq_false_iff.1 hclient)
    refine hhandle (.bind ((tableQuery_spec client query { s with asked := [] }).mono
      (fun _ _ hs => ?_) fun _ _ hs => ?_) fun _ => .pure fun _ hs => hs)
    · exact .noted (htaken ▸ hs)
    · exact .noted (htaken ▸ hs)
  | subnet method =>
    have hnoted : ∀ {s' : Observed ε}, Noted s.registry s' →
        Ran S id s (.request client (.subnet method)) s'.registry := fun hs => .same rfl hs
    cases method with
    | get =>
      refine hhandle (.bind (((Noted.nodeSubnets client).pre fun _ hs => hs ▸ .of_eq rfl).mono
        (fun _ _ hs => hnoted hs) fun _ _ hs => hnoted hs) fun _ => .pure fun _ hs => hs)
    | delete =>
      refine hhandle (.bind (((Noted.releaseNodeSubnets client).pre
        fun _ hs => hs ▸ .of_eq rfl).mono (fun _ _ hs => hnoted hs) fun _ _ hs => hnoted hs)
        fun _ => .pure fun _ hs => hs)
  | removeInterest name =>
    have hleft : ∀ {s' : Observed ε}, s'.registry = (s.registry.removeParty name client true).2 →
        Ran S id s (.request client (.removeInterest name)) s'.registry := fun hs => hs ▸ .left
    refine hhandle (Tier.answer_removeInterest ((removeInterest_spec name client _).mono ?_ ?_))
    · exact fun _ _ hs => hleft hs
    · exact fun _ _ hs => hleft hs

/-- **One operation.** -/
theorem run_spec (h : s.registry.Named) (step : Step) :
    Ran S id s step (step.run S id s).registry := by
  cases step with
  | request client wanted =>
    cases hclient : client.isEmpty with
    | true =>
      have hnone : taken? S s (.request client wanted) = none := by
        cases wanted <;> simp [taken?, hclient]
      exact run_refused hclient wanted ▸ .same hnone (.refl _)
    | false => exact request_spec hclient h wanted
  | update news =>
    have hspec : Triple (· = { s with asked := [] }) ((S.tier id).applyUpdate news) _ _ :=
      applyUpdate_spec ..
    refine hspec.result (R := fun _ s' => Ran S id s (.update news) s'.registry) rfl ?_ ?_
    · rintro _ s' (hs | ⟨hparties, hchange, hs⟩)
      · exact .noted (hs ▸ .refl _)
      · exact hs ▸ .removed hparties hchange
    · exact fun _ s' hs => .noted (hs ▸ .refl _)
  | join address port =>
    have hcall : Triple (· = { s with asked := [] }) ((S.tier id).registerWithParent address port)
        (fun _ => Noted s.registry) (fun _ => Noted s.registry) :=
      .mapError ((Noted.call _).pre fun _ hs => hs ▸ .of_eq rfl)
    exact .same rfl (hcall.after (R := Noted s.registry) rfl)

end ClusterTier

end Overlay
