import Overlay.Proofs.Cluster.Reports
import Overlay.Proofs.Tier.Changes

/-!
# Who is told of a change

Reports of workers and of child tiers, undeployments and updates of the parent change the record of
a job and tell the parties that are interested in it. They come to that in different ways: some look
the parties up after the change, some before, and an undeployment may drop the record in between.
But each of them changes the registry in a part that nobody hears of (as `Registry.recordBatch`,
`Registry.withdrawInstance` and `Tier.refresh` do), and the messages are about what that part has
changed. A part after which the parties are looked up leaves them as they are. So exactly those are
told that were interested when the operation began (`Announcing.tells_exactly`).

Some parties cannot be reached (`Surroundings.reaching`). They miss the messages, and otherwise
everything is as if they could.
-/

namespace Overlay

open Overlay.Action (Triple)

/-! ## Parties that cannot be reached -/

/-- What is outside of a tier: its parent, and the messages that have arrived below. -/
structure Mail (ε : Type) where
  parent : ε
  arrived : List (String × ChildMessage)

namespace Surroundings

variable {ε : Type}

/-- The same parent, and parties of which some cannot be reached. What the others are told is
recorded. -/
def reaching (S : Surroundings ε) (fails : String → Bool) : Surroundings (Mail ε) where
  answer call mail := ((S.answer call mail.parent).1,
    { mail with parent := (S.answer call mail.parent).2 })
  deliver recipient message mail :=
    if fails recipient then (.error (.unreachable recipient), mail)
    else (.ok (), { mail with arrived := mail.arrived ++ [(recipient, message)] })

end Surroundings

/-- The state after more messages have arrived. -/
def Observed.hearing {ε : Type} (s : Observed (Mail ε)) (news : List (String × ChildMessage)) :
    Observed (Mail ε) :=
  { s with outside := { s.outside with arrived := s.outside.arrived ++ news } }

namespace Observed

variable {ε : Type}

@[simp] theorem hearing_registry (s : Observed (Mail ε)) (news : List (String × ChildMessage)) :
    (s.hearing news).registry = s.registry := rfl

@[simp] theorem hearing_nil (s : Observed (Mail ε)) : s.hearing [] = s := by
  simp [hearing]

@[simp] theorem hearing_hearing (s : Observed (Mail ε)) (news more : List (String × ChildMessage)) :
    (s.hearing news).hearing more = s.hearing (news ++ more) := by
  simp [hearing]

end Observed

/-- The messages of some changes that arrive: one for each change and each party that was interested
and can be reached, change by change. -/
def delivered (fails : String → Bool) (r : Registry) (changes : List JobUpdate) :
    List (String × ChildMessage) :=
  changes.flatMap fun change =>
    ((r.parties change.jobName).filter fun party => !fails party).map (·, .update change)

theorem delivered_singleton (fails : String → Bool) (r : Registry) (change : JobUpdate) :
    delivered fails r [change] =
      ((r.parties change.jobName).filter fun party => !fails party).map (·, .update change) :=
  List.flatMap_singleton ..

theorem delivered_congr {r r' : Registry} (changes : List JobUpdate)
    (h : ∀ name, r'.parties name = r.parties name) (fails : String → Bool) :
    delivered fails r' changes = delivered fails r changes := by
  simp only [delivered, h]

/-- No party gets the same message twice. -/
theorem nodup_delivered {changes : List JobUpdate} (h : changes.Nodup) (fails : String → Bool)
    (r : Registry) : (delivered fails r changes).Nodup := by
  refine List.nodup_flatMap.2 ⟨fun change _ => ?_, h.imp fun hne => ?_⟩
  · refine ((r.nodup_parties change.jobName).filter _).map ?_
    exact fun _ _ heq => congrArg Prod.fst heq
  · intro message hmessage hother
    obtain ⟨_, -, rfl⟩ := List.mem_map.1 hmessage
    obtain ⟨_, -, heq⟩ := List.mem_map.1 hother
    exact hne (ChildMessage.update.inj (Prod.mk.inj heq).2).symm

section

variable {ε : Type} (S : Surroundings ε) (cluster : Option String) (fails : String → Bool)

/-- One message. -/
theorem notify_reaching (party : String) (message : ChildMessage) (s : Observed (Mail ε)) :
    ((S.reaching fails).tierAt cluster).notify party message s =
      if fails party then (.error (.unreachable party), s)
      else (.ok (), s.hearing [(party, message)]) := by
  have hnotify : ((S.reaching fails).tierAt cluster).notify party message s =
      (((S.reaching fails).deliver party message s.outside).1,
        { s with outside := ((S.reaching fails).deliver party message s.outside).2 }) := rfl
  rw [hnotify, Surroundings.reaching]
  dsimp only
  split <;> rfl

/-- A message to several parties. Those that can be reached are counted. -/
theorem notifyAll_reaching {ε' : Type} (message : ChildMessage) (parties : List String)
    (s : Observed (Mail ε)) :
    (((S.reaching fails).tierAt cluster).notifyAll message parties :
        Action (Observed (Mail ε)) ε' Nat) s =
      (.ok (parties.filter fun party => !fails party).length,
        s.hearing ((parties.filter fun party => !fails party).map (·, message))) := by
  induction parties generalizing s with
  | nil => simp [Tier.notifyAll]
  | cons party rest ih =>
    rw [Tier.notifyAll, Action.bind_apply, Action.attempt_apply, notify_reaching]
    by_cases hparty : fails party = true
    · simp [hparty, Action.bind_apply, ih, Except.isOk, Except.toBool]
    · simp [hparty, Action.bind_apply, ih, Except.isOk, Except.toBool]

/-- One change. -/
theorem fanOut_reaching {ε' : Type} (change : JobUpdate) (s : Observed (Mail ε)) :
    (((S.reaching fails).tierAt cluster).fanOut change : Action (Observed (Mail ε)) ε' Nat) s =
      (.ok (delivered fails s.registry [change]).length,
        s.hearing (delivered fails s.registry [change])) := by
  have hlook : (((S.reaching fails).tierAt cluster).look fun r => r.parties change.jobName :
      Action (Observed (Mail ε)) ε' (List String)) s =
      (.ok (s.registry.parties change.jobName), s) := rfl
  rw [Tier.fanOut, Action.bind_of_ok hlook, notifyAll_reaching]
  simp [delivered]

theorem announce_reaching (change : JobUpdate) (s : Observed (Mail ε)) :
    ((S.reaching fails).tierAt cluster).announce change s =
      s.hearing (delivered fails s.registry [change]) :=
  ((Tier.fanOut_spec (ε := TierError) (E := fun _ _ => True) change s).of_ok rfl
    (fanOut_reaching S cluster fails change s)).symm

/-- Several deployments. -/
theorem announceAll_reaching (name : String) (numbers : List UInt32) (s : Observed (Mail ε)) :
    ((S.reaching fails).tierAt cluster).announceAll name numbers s =
      s.hearing (delivered fails s.registry (numbers.map (⟨name, ·, .deployment⟩))) := by
  induction numbers generalizing s with
  | nil => simp [Tier.announceAll, delivered]
  | cons number rest ih =>
    have hrest := ih (s.hearing (delivered fails s.registry [⟨name, number, .deployment⟩]))
    rw [← announce_reaching] at hrest
    refine hrest.trans ?_
    rw [announce_reaching, Observed.hearing_hearing]
    simp [delivered]

end

/-! ## What nobody hears of -/

section

variable {ε : Type} (S : Surroundings ε) (cluster : Option String) (fails : String → Bool)

/-- What the parent answers, and when it is asked, does not depend on who can be reached. -/
theorem refresh_reaching (fails' : String → Bool) (news : JobUpdate) :
    ((S.reaching fails).tierAt cluster).refresh news =
      ((S.reaching fails').tierAt cluster).refresh news := by
  cases cluster <;> rfl

theorem locate_reaching (fails' : String → Bool) (selector : Selector) :
    ((S.reaching fails).tierAt cluster).locate selector =
      ((S.reaching fails').tierAt cluster).locate selector := by
  cases cluster <;> rfl

theorem passed_reaching (fails' : String → Bool) (report : DeployReport) (s : Observed (Mail ε))
    (news : List (String × ChildMessage)) :
    ((S.reaching fails).tierAt cluster).passed report (s.hearing news) =
      (((S.reaching fails').tierAt cluster).passed report s).hearing news := by
  cases cluster <;> rfl

/-- The parent hears of nothing that happens below, and no message arrives while it is asked. -/
theorem reaching_parent_spec (call : ParentCall) (s : Observed (Mail ε)) :
    Triple (· = s) ((S.reaching fails).parent call)
      (fun _ s' => s'.registry = s.registry ∧ s'.outside.arrived = s.outside.arrived)
      (fun _ s' => s'.registry = s.registry ∧ s'.outside.arrived = s.outside.arrived) := by
  refine .bind (R := fun _ s' => s'.registry = s.registry ∧
    s'.outside.arrived = s.outside.arrived) (.modify fun _ hs => hs ▸ ⟨rfl, rfl⟩) fun _ => ?_
  exact .of_after fun _ hs => hs

/-- No message has arrived, and the parties of the jobs are the same. -/
structure Unheard (s s' : Observed (Mail ε)) : Prop where
  arrived : s'.outside.arrived = s.outside.arrived
  parties : ∀ name, s'.registry.parties name = s.registry.parties name

theorem refresh_spec (news : JobUpdate) (s : Observed (Mail ε)) :
    Triple (· = s) (((S.reaching fails).tierAt cluster).refresh news) (fun _ => Unheard s)
      (fun _ s' => s'.registry = s.registry ∧ s'.outside.arrived = s.outside.arrived) := by
  obtain ⟨jobName, number, change⟩ := news
  cases change with
  | deployment =>
    cases cluster with
    | none => exact .pure fun _ hs => hs ▸ ⟨rfl, fun _ => rfl⟩
    | some id =>
      refine .bind (.mapError (reaching_parent_spec S fails _ s)) fun found => ?_
      cases found with
      | none => exact .pure fun s' hs => ⟨hs.2, fun name => by rw [hs.1]⟩
      | some copy =>
        refine .bind (R := fun _ => Unheard s) (Tier.record_spec fun s' hs => ⟨hs.2, fun name => ?_⟩)
          fun _ => .pure fun _ hs => hs
        have hparties := s'.registry.parties_withCopy (some copy) name
        exact hparties.trans (congrArg (Registry.parties · name) hs.1)
  | undeployment =>
    refine .bind (R := fun _ => Unheard s) (.zoom ?_) fun _ => .pure fun _ hs => hs
    rintro _ rfl
    refine Registry.updateJob_spec ?_ ?_ nofun
    · rintro _ rfl _
      exact ⟨rfl, fun _ => rfl⟩
    · rintro _ old _ _ rfl hold ⟨⟩
      exact ⟨rfl, Registry.parties_insert hold rfl rfl⟩

end

/-! ## Operations that announce their changes -/

/-- An operation that tells the parties of a job what it has changed. -/
inductive Announcing where
  /-- A worker reports the network of an instance. -/
  | deployed (selector : Selector) (number : UInt32) (network : Network) (reporter : String)
  /-- A child tier reports the networks of instances. -/
  | reported (report : DeployReport)
  /-- An instance is gone. -/
  | undeployed (selector : Selector) (number : UInt32)
  /-- The parent announces a change. -/
  | update (news : JobUpdate)

namespace Announcing

variable {ε σ : Type}

/-- What an operation answers. -/
abbrev Answer : Announcing → Type
  | deployed .. => ReportOutcome
  | reported _ => List UInt32
  | undeployed .. => Undeployment
  | update _ => Bool

/-- The operation at a tier. -/
def run (t : Tier σ) : (op : Announcing) → Action σ TierError op.Answer
  | deployed selector number network reporter => t.reportNetwork selector number network reporter
  | reported report => t.applyDeployReport report
  | undeployed selector number => t.undeploy selector number
  | update news => t.applyUpdate news

/-- The answer with a number of messages. Only that of an undeployment contains one. -/
def counting (count : Nat) : (op : Announcing) → op.Answer → op.Answer
  | deployed .., outcome => outcome
  | reported _, numbers => numbers
  | undeployed .., outcome => { outcome with notified := count }
  | update _, relevant => relevant

/-- The copy of a job that a cluster gets for the report of a worker, if it does not have the
job. -/
def copy? (S : Surroundings ε) (cluster : Option String) (s : Observed (Mail ε)) :
    Announcing → Option Job
  | deployed selector .. =>
    if cluster.isSome ∧ s.registry.select selector = none then S.copy? selector s.outside.parent
    else none
  | _ => none

/-- What an operation has changed in a registry, as it is announced: the instances that were
configured, the instance that was removed, or what the parent has announced. Nothing is announced
where nothing has changed, or nobody is interested. -/
inductive Changed (r r' : Registry) :
    (op : Announcing) → Except TierError op.Answer → List JobUpdate → Prop
  | deployed {selector : Selector} {number : UInt32} {network : Network} {reporter name : String}
      {outcome : ReportOutcome} {changes : List JobUpdate} :
      changes = (if outcome = .applied then [⟨name, number, .deployment⟩] else []) →
      r.Deployed r' changes →
      Changed r r' (.deployed selector number network reporter) (.ok outcome) changes
  | reported {report : DeployReport} {name : String} {numbers : List UInt32} :
      r.Deployed r' (numbers.map (⟨name, ·, .deployment⟩)) →
      Changed r r' (.reported report) (.ok numbers) (numbers.map (⟨name, ·, .deployment⟩))
  | undeployed {selector : Selector} {number : UInt32} {job known : Job} {outcome : Undeployment} :
      r.select selector = some job → r.job? job.name = some known → outcome.jobName = job.name →
      known.instance? number = some outcome.removed →
      (r'.job? job.name = if outcome.jobDeleted then none else some (known.remove number)) →
      Changed r r' (.undeployed selector number) (.ok outcome) [⟨job.name, number, .undeployment⟩]
  | relevant {news : JobUpdate} : r.parties news.jobName ≠ [] →
      Changed r r' (.update news) (.ok true) [news]
  | irrelevant {news : JobUpdate} : r.parties news.jobName = [] → r' = r →
      Changed r r' (.update news) (.ok false) []
  | refused {op : Announcing} {e : TierError} : r' = r → Changed r r' op (.error e) []

theorem Changed.nodup {r r' : Registry} {op : Announcing} {answer : Except TierError op.Answer}
    {changes : List JobUpdate} (h : Changed r r' op answer changes) : changes.Nodup := by
  cases h with
  | deployed _ hdeployed => exact hdeployed.nodup
  | reported hdeployed => exact hdeployed.nodup
  | undeployed => exact List.nodup_singleton _
  | relevant => exact List.nodup_singleton _
  | irrelevant => exact List.nodup_nil
  | refused => exact List.nodup_nil

/-- What an operation does whoever can be reached: it answers, leaves a state behind and has made
some changes. What a run adds to this are the messages: the changes have arrived at the parties that
were interested when the operation began, and the messages are counted. -/
structure FansOut (S : Surroundings ε) (cluster : Option String) (op : Announcing)
    (s : Observed (Mail ε)) (answer : Except TierError op.Answer) (s' : Observed (Mail ε))
    (changes : List JobUpdate) : Prop where
  changed : Changed (s.registry.withCopy (op.copy? S cluster s)) s'.registry op answer changes
  /-- The state is one in which nothing has arrived yet. -/
  silent : s'.outside.arrived = s.outside.arrived
  run : ∀ fails, op.run ((S.reaching fails).tierAt cluster) s =
    (answer.map (op.counting (delivered fails s.registry changes).length),
      s'.hearing (delivered fails s.registry changes))

variable {S : Surroundings ε} {cluster : Option String} {s : Observed (Mail ε)}

/-- Nobody hears of an operation that fails. -/
theorem fansOut_of_refused {op : Announcing} {e : TierError} {s' : Observed (Mail ε)}
    (hregistry : s'.registry = s.registry.withCopy (op.copy? S cluster s))
    (harrived : s'.outside.arrived = s.outside.arrived)
    (hrun : ∀ fails, op.run ((S.reaching fails).tierAt cluster) s = (.error e, s')) :
    FansOut S cluster op s (.error e) s' [] where
  changed := .refused hregistry
  silent := harrived
  run fails := (hrun fails).trans (congrArg _ (Observed.hearing_nil s').symm)

/-- A look-up takes the copy over that the parent sends, and nobody hears of it. -/
theorem locate_spec (S : Surroundings ε) (cluster : Option String) (fails : String → Bool)
    (selector : Selector) (number : UInt32) (network : Network) (reporter : String)
    (s : Observed (Mail ε)) :
    (((S.reaching fails).tierAt cluster).locate selector s).2.registry =
        s.registry.withCopy ((deployed selector number network reporter).copy? S cluster s) ∧
      (((S.reaching fails).tierAt cluster).locate selector s).2.outside.arrived =
        s.outside.arrived := by
  cases hselect : s.registry.select selector with
  | some job =>
    rw [Tier.locate_of_select (t := (S.reaching fails).tierAt cluster) hselect, copy?, hselect]
    exact ⟨by simp [Registry.withCopy], rfl⟩
  | none =>
    cases cluster with
    | none =>
      have hlook : (((S.reaching fails).tierAt none).look fun r => r.select selector :
          Action (Observed (Mail ε)) TierError (Option Job)) s = (.ok none, s) :=
        Prod.ext (congrArg Except.ok hselect) rfl
      rw [Tier.locate, Action.bind_of_ok hlook]
      exact ⟨rfl, rfl⟩
    | some id =>
      have hasked := ClusterTier.locate_of_missing (S := S.reaching fails) hselect id
      rw [copy?, if_pos ⟨rfl, hselect⟩]
      exact ⟨congrArg Observed.registry hasked, congrArg (·.outside.arrived) hasked⟩

/-- What is announced once the record of a job was stored again. -/
theorem entered_reaching (fails : String → Bool) (new : Job) (name : String) (number : UInt32)
    (outcome : ReportOutcome) {s stored : Observed (Mail ε)} (hstored : stored =
      { s with registry := { s.registry with jobs := s.registry.jobs.insert name new } }) :
    ((S.reaching fails).tierAt cluster).entered new name number outcome s =
      stored.hearing (delivered fails stored.registry
        (if outcome = .applied then [⟨name, number, .deployment⟩] else [])) := by
  subst hstored
  rw [Tier.entered]
  split
  · exact announce_reaching S cluster fails _ _
  · exact (Observed.hearing_nil _).symm

/-- A report that can be applied is one whoever can be reached. -/
theorem enters_reaching {fails : String → Bool} (fails' : String → Bool) {selector : Selector}
    {reporter : String} {report : InstanceReport} {job known new : Job} {outcome : ReportOutcome}
    (h : ((S.reaching fails).tierAt cluster).Enters s selector reporter report job known new
      outcome) : ((S.reaching fails').tierAt cluster).Enters s selector reporter report job known new
      outcome := by
  have hlocate := locate_reaching S cluster fails fails' selector
  exact ⟨hlocate ▸ h.located, hlocate ▸ h.found, h.network, h.applied⟩

/-- The report of a worker is taken. -/
theorem fansOut_of_enters {selector : Selector} {number : UInt32} {network : Network}
    {reporter : String} {job known new : Job} {outcome : ReportOutcome}
    (h : ((S.reaching fun _ => false).tierAt cluster).Enters s selector reporter ⟨number, network⟩
      job known new outcome) : ∃ answer s' changes,
      FansOut S cluster (.deployed selector number network reporter) s answer s' changes := by
  obtain ⟨hregistry, harrived⟩ := locate_spec S cluster (fun _ => false) selector number network
    reporter s
  have hlocated : ∀ fails, (((S.reaching fails).tierAt cluster).locate selector s).2 =
      (((S.reaching fun _ => false).tierAt cluster).locate selector s).2 := fun fails => by
    rw [locate_reaching S cluster fails (fun _ => false)]
  have hrecord := h.recorded
  generalize (((S.reaching fun _ => false).tierAt cluster).locate selector s).2 = s₁
    at hregistry harrived hlocated hrecord
  obtain ⟨stored, hstored⟩ : ∃ stored : Observed (Mail ε), stored =
      { s₁ with registry := { s₁.registry with jobs := s₁.registry.jobs.insert job.name new } } :=
    ⟨_, rfl⟩
  have hrecorded : s₁.registry.Recorded job.name [⟨number, network⟩] (some reporter)
      [(number, outcome)] stored.registry := hstored ▸ hrecord
  have hparties : ∀ name, stored.registry.parties name = s.registry.parties name := fun name => by
    rw [hrecorded.parties, hregistry, Registry.parties_withCopy]
  obtain ⟨hpassed, hsilent⟩ : (((S.reaching fun _ => false).tierAt cluster).passed
        (new.reportOf reporter) stored).registry = stored.registry ∧
      (((S.reaching fun _ => false).tierAt cluster).passed
        (new.reportOf reporter) stored).outside.arrived = stored.outside.arrived := by
    cases cluster <;> exact ⟨rfl, rfl⟩
  refine ⟨.ok outcome, _, if outcome = .applied then [⟨job.name, number, .deployment⟩] else [],
    .deployed rfl ?_, hsilent.trans ?_, fun fails => ?_⟩
  · rw [hpassed, ← hregistry]
    have hdeployed := hrecorded.deployed
    cases outcome <;> exact hdeployed
  · rw [hstored, ← harrived]
  · have hrun := Tier.reportNetwork_of_enters ((S.reaching fails).tierAt_discreet cluster)
      (enters_reaching fails h)
    rw [hlocated, entered_reaching fails _ _ _ _ hstored, passed_reaching _ _ _ fun _ => false,
      delivered_congr _ hparties] at hrun
    exact hrun

/-- **A worker reports a network.** -/
theorem fansOut_deployed (selector : Selector) (number : UInt32) (network : Network)
    (reporter : String) (s : Observed (Mail ε)) : ∃ answer s' changes,
    FansOut S cluster (.deployed selector number network reporter) s answer s' changes := by
  by_cases h : ∃ job known new outcome, ((S.reaching fun _ => false).tierAt cluster).Enters s
      selector reporter ⟨number, network⟩ job known new outcome
  · obtain ⟨job, known, new, outcome, henters⟩ := h
    exact fansOut_of_enters henters
  · obtain ⟨hregistry, harrived⟩ := locate_spec S cluster (fun _ => false) selector number network
      reporter s
    obtain ⟨e, hrun⟩ := Tier.exists_refusal h
    exact ⟨_, _, _, fansOut_of_refused hregistry harrived fun fails =>
      hrun ((S.reaching fails).tierAt cluster) rfl (locate_reaching S cluster fails _ selector)⟩

/-- **A child tier reports networks.** -/
theorem fansOut_reported (report : DeployReport) (s : Observed (Mail ε)) : ∃ answer s' changes,
    FansOut S cluster (.reported report) s answer s' changes := by
  have hspec := Registry.recordBatch_spec (r := s.registry) report
  rcases hrecord : Registry.recordBatch report s.registry with ⟨e | ⟨name, numbers⟩, r'⟩
  · obtain rfl := hspec.of_error rfl hrecord
    refine ⟨_, _, _, fansOut_of_refused (e := e) rfl rfl fun fails => ?_⟩
    rw [run, Tier.applyDeployReport_eq]
    exact Action.bind_of_error (Action.zoom_of_eq hrecord) _
  · obtain ⟨hdeployed, hparties⟩ := hspec.of_ok rfl hrecord
    refine ⟨.ok numbers, { s with registry := r' }, _, .reported hdeployed, rfl, fun fails => ?_⟩
    rw [run, Tier.applyDeployReport_eq]
    refine (Action.bind_of_ok (Action.zoom_of_eq hrecord) _).trans ?_
    dsimp only
    obtain ⟨u, _, hloop, rfl⟩ := (Tier.forIn_fanOut_spec
      (t := (S.reaching fails).tierAt cluster) name numbers { s with registry := r' }).exists_ok rfl
    refine (Action.bind_of_ok hloop _).trans ?_
    rw [announceAll_reaching, delivered_congr _ hparties]
    rfl

/-- **An instance is gone.** -/
theorem fansOut_undeployed (selector : Selector) (number : UInt32) (s : Observed (Mail ε)) :
    ∃ answer s' changes, FansOut S cluster (.undeployed selector number) s answer s' changes := by
  have hroot : ∀ fails, ((S.reaching fails).tierAt cluster).isRoot = cluster.isNone := fun _ => by
    cases cluster <;> rfl
  have hspec := Registry.withdrawInstance_spec (r := s.registry) cluster.isNone selector number
  rcases hwithdraw : Registry.withdrawInstance cluster.isNone selector number s.registry with
    ⟨e | ⟨outcome, parties⟩, r'⟩
  · obtain rfl := hspec.of_error rfl hwithdraw
    refine ⟨_, _, _, fansOut_of_refused (e := e) rfl rfl fun fails => ?_⟩
    rw [run, Tier.undeploy_eq, hroot]
    exact Action.bind_of_error (Action.zoom_of_eq hwithdraw) _
  · obtain ⟨job, known, hselect, hknown, hi, hname, rfl, hleft, -⟩ := hspec.of_ok rfl hwithdraw
    refine ⟨.ok outcome, { s with registry := r' }, _,
      .undeployed hselect hknown hname hi hleft, rfl, fun fails => ?_⟩
    rw [run, Tier.undeploy_eq, hroot]
    refine (Action.bind_of_ok (Action.zoom_of_eq hwithdraw) _).trans ?_
    dsimp only
    rw [Action.bind_of_ok (notifyAll_reaching ..), delivered_singleton, List.length_map, ← hname]
    rfl

/-- **The parent announces a change.** -/
theorem fansOut_update (news : JobUpdate) (s : Observed (Mail ε)) :
    ∃ answer s' changes, FansOut S cluster (.update news) s answer s' changes := by
  have hspec := fun fails => refresh_spec S cluster fails news s
  have hlook : ∀ fails, (((S.reaching fails).tierAt cluster).look fun r => r.parties news.jobName :
      Action (Observed (Mail ε)) TierError (List String)) s =
      (.ok (s.registry.parties news.jobName), s) := fun _ => rfl
  by_cases hnobody : s.registry.parties news.jobName = []
  · refine ⟨.ok false, s, [], .irrelevant hnobody rfl, rfl, fun fails => ?_⟩
    rw [run, Tier.applyUpdate_eq, Action.bind_of_ok (hlook fails), hnobody]
    exact congrArg _ (Observed.hearing_nil s).symm
  have hsome : ¬(s.registry.parties news.jobName).isEmpty = true := by
    rwa [List.isEmpty_iff]
  have hrefresh := fun fails => refresh_reaching S cluster fails (fun _ => false) news
  rcases hrun : ((S.reaching fun _ => false).tierAt cluster).refresh news s with ⟨e | u, s'⟩
  · obtain ⟨hregistry, harrived⟩ := (hspec _).of_error rfl hrun
    refine ⟨_, _, _, fansOut_of_refused (e := e) hregistry harrived fun fails => ?_⟩
    rw [run, Tier.applyUpdate_eq, Action.bind_of_ok (hlook fails), if_neg hsome, hrefresh]
    exact Action.bind_of_error hrun _
  · have hunheard := (hspec _).of_ok rfl hrun
    refine ⟨.ok true, s', [news], .relevant hnobody, hunheard.arrived, fun fails => ?_⟩
    rw [run, Tier.applyUpdate_eq, Action.bind_of_ok (hlook fails), if_neg hsome, hrefresh]
    refine (Action.bind_of_ok hrun _).trans ?_
    rw [Action.bind_of_ok (fanOut_reaching ..), delivered_congr _ hunheard.parties]
    rfl

/-- Runs of an operation that differ at most in the messages that have arrived, and in the number of
them that the answer contains. -/
structure Alike (op : Announcing) (x y : Except TierError op.Answer × Observed (Mail ε)) : Prop where
  answer : x.1.map (op.counting 0) = y.1.map (op.counting 0)
  registry : x.2.registry = y.2.registry
  asked : x.2.asked = y.2.asked
  parent : x.2.outside.parent = y.2.outside.parent

theorem FansOut.alike {op : Announcing} {answer : Except TierError op.Answer}
    {s' : Observed (Mail ε)} {changes : List JobUpdate}
    (h : FansOut S cluster op s answer s' changes) (fails fails' : String → Bool) :
    op.Alike (op.run ((S.reaching fails).tierAt cluster) s)
      (op.run ((S.reaching fails').tierAt cluster) s) := by
  have hcount : ∀ count, (answer.map (op.counting count)).map (op.counting 0) =
      answer.map (op.counting 0) := fun count => by
    cases answer with
    | error e => rfl
    | ok a => cases op <;> rfl
  rw [h.run fails, h.run fails']
  exact ⟨(hcount _).trans (hcount _).symm, rfl, rfl, rfl⟩

/-- **Fan-out.** At the root and at a cluster, whatever the parent does: an operation tells each
party that was interested when it began of each change that it has made, change by change and in the
order of the parties, once, and it tells nobody anything else. Those parties that cannot be reached
do not hear of it, and that is all the difference they make. -/
theorem tells_exactly (S : Surroundings ε) (cluster : Option String) (op : Announcing)
    (s : Observed (Mail ε)) :
    (∀ name, (s.registry.parties name).Pairwise (· < ·)) ∧
      (∃ answer s' changes, FansOut S cluster op s answer s' changes ∧
        ∀ fails, (delivered fails s.registry changes).Nodup) ∧
      ∀ fails fails', op.Alike (op.run ((S.reaching fails).tierAt cluster) s)
        (op.run ((S.reaching fails').tierAt cluster) s) := by
  obtain ⟨answer, s', changes, h⟩ : ∃ answer s' changes,
      FansOut S cluster op s answer s' changes := by
    cases op with
    | deployed selector number network reporter =>
      exact fansOut_deployed selector number network reporter s
    | reported report => exact fansOut_reported report s
    | undeployed selector number => exact fansOut_undeployed selector number s
    | update news => exact fansOut_update news s
  have honce := fun fails => nodup_delivered h.changed.nodup fails s.registry
  exact ⟨s.registry.parties_sorted, ⟨answer, s', changes, h, honce⟩, h.alike⟩

end Announcing

end Overlay
