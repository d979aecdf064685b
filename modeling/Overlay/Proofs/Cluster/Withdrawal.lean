import Overlay.Proofs.Cluster.Operations

/-!
# Withdrawing interest

A cluster that caches a job is an interested party of its parent. So the parent should hear from it
when the record goes, once and at no other time (`ClusterTier.Settles`). It does when the last worker
leaves the job. It does not when the record goes with the last instance of the job: undeployment
deletes the record and calls nobody (`ClusterTier.Forgets`). By `ClusterTier.settles_iff` there is no other
exception, whatever the parent answers and whether messages reach the workers or not.
-/

namespace Overlay

open Overlay.Action (Triple)

/-! ## A cluster in its surroundings -/

/-- What surrounds a cluster tier: a parent and the workers, with a state of their own. -/
structure Surroundings (ε : Type) where
  answer : (call : ParentCall) → Action ε EscalationFault call.Answer
  deliver : Notifier ε

/-- A cluster tier under observation. -/
structure Observed (ε : Type) where
  registry : Registry
  /-- The calls to the parent since the operation began. -/
  asked : List ParentCall
  outside : ε

namespace Observed

variable {ε : Type}

/-- The registry of the tier. -/
def site : Part (Observed ε) Registry where
  get := Observed.registry
  set r s := { s with registry := r }

/-- What is outside of the tier. -/
def surroundings : Part (Observed ε) ε where
  get := Observed.outside
  set outside s := { s with outside }

end Observed

namespace Surroundings

variable {ε : Type} (S : Surroundings ε)

/-- The parent, whose calls are recorded. -/
def parent : Parent (Observed ε) := fun call => do
  .modify fun s => { s with asked := s.asked ++ [call] }
  (S.answer call).zoom Observed.surroundings

/-- A cluster tier in the surroundings. -/
def tier (id : String) : Tier (Observed ε) :=
  ⟨.cluster id S.parent, Observed.site,
    fun recipient message => (S.deliver recipient message).zoom Observed.surroundings⟩

end Surroundings

namespace ClusterTier

/-- An operation of a cluster tier. -/
inductive Step where
  /-- A worker sends a request. -/
  | request (client : String) (wanted : ChildRequest)
  /-- The parent announces a change. -/
  | update (news : JobUpdate)
  /-- The cluster registers with its parent. -/
  | join (address : String) (port : UInt16)

variable {ε : Type} (S : Surroundings ε) (id : String)

/-- The cluster after an operation. -/
def Step.run (step : Step) (s : Observed ε) : Observed ε :=
  let s := { s with asked := [] }
  match step with
  | .request client wanted => ((S.tier id).handle client wanted s).2
  | .update news => ((S.tier id).applyUpdate news s).2
  | .join address port => ((S.tier id).registerWithParent address port s).2

/-- The cluster after a run, which begins with an empty registry. -/
def after (outside : ε) : List Step → Observed ε
  | [] => ⟨∅, [], outside⟩
  | step :: earlier => step.run S id (after outside earlier)

/-- Interest is withdrawn with the record: an operation calls the parent once for each job whose
record it drops, and for no other job. -/
def Settles (before after : Observed ε) : Prop :=
  ∀ name, after.asked.count (.removeInterest name) =
    if (before.registry.job? name).isSome ∧ after.registry.job? name = none then 1 else 0

/-- A worker reports that the last instance of a job is gone. -/
inductive Forgets (s : Observed ε) : Step → Prop
  | intro {client : String} {report : UndeployedReport} {job : Job} {i : Instance} :
      client.isEmpty = false → s.registry.job? report.jobName = some job →
      job.instance? report.number = some i → (job.remove report.number).instances = [] →
      Forgets s (.request client (.undeployed report))

/-! ## What is kept -/

variable {S id} {before : Registry} {s s' : Observed ε}

/-- No record was dropped, and nothing withdrawn. -/
structure Kept (before : Registry) (s : Observed ε) : Prop where
  named : s.registry.Named
  records : ∀ name, (before.job? name).isSome = true → (s.registry.job? name).isSome = true
  silent : ∀ name, .removeInterest name ∉ s.asked

theorem Kept.start (h : s.registry.Named) : Kept s.registry { s with asked := [] } :=
  ⟨h, fun _ hsome => hsome, fun _ => List.not_mem_nil⟩

/-- A call to the parent is recorded and leaves the registry alone. -/
theorem parent_spec (call : ParentCall) (s : Observed ε) : Triple (· = s) (S.parent call)
    (fun _ s' => s'.registry = s.registry ∧ s'.asked = s.asked ++ [call])
    (fun _ s' => s'.registry = s.registry ∧ s'.asked = s.asked ++ [call]) := by
  refine .bind (R := fun _ s' => s'.registry = s.registry ∧ s'.asked = s.asked ++ [call])
    (.modify fun s' hs => hs ▸ ⟨rfl, rfl⟩) fun _ => .of_after fun s' hs => ?_
  exact hs

/-- A call that withdraws nothing keeps everything. -/
theorem Kept.parent {call : ParentCall} (hcall : ∀ name, call ≠ .removeInterest name) :
    Triple (Kept before) (S.parent call) (fun _ => Kept before) (fun _ => Kept before) := by
  have hkept : ∀ s s' : Observed ε, Kept before s → s'.registry = s.registry ∧
      s'.asked = s.asked ++ [call] → Kept before s' := by
    intro s s' h hs'
    obtain ⟨hregistry, hasked⟩ := hs'
    refine ⟨hregistry ▸ h.named, fun name hsome => hregistry ▸ h.records name hsome, fun name => ?_⟩
    rw [hasked, List.mem_append, List.mem_singleton, not_or]
    exact ⟨h.silent name, fun heq => hcall name heq.symm⟩
  refine .of_forall fun s h => (parent_spec call s).mono ?_ ?_
  · exact fun _ s' hs' => hkept s s' h hs'
  · exact fun _ s' hs' => hkept s s' h hs'

/-- **What is kept.** Operations that drop no record withdraw nothing. -/
theorem upholds_kept (S : Surroundings ε) (id : String) (before : Registry) :
    (S.tier id).Upholds id S.parent (Kept before) fun _ _ => True where
  role := rfl
  trim h hr := ⟨hr.named h.named, fun name hsome => (hr.kept name).trans (h.records name hsome),
    h.silent⟩
  merge {s job} h _ := by
    refine ⟨?_, fun name hsome => ?_, h.silent⟩
    · exact h.named.insert rfl (Registry.name_merged fun old hold => h.named _ old hold)
    · change ((s.registry.jobs.insert job.name _).get? name).isSome = true
      rw [Table.get?_insert]
      split
      · rfl
      · exact h.records name hsome
  fetch selector := by
    have hcall : ∀ name, ParentCall.fetchJob selector ≠ .removeInterest name := nofun
    exact (Kept.parent hcall).mono (fun _ _ hs => ⟨hs, fun _ _ => trivial⟩) fun _ _ hs => hs
  call hcall := Kept.parent hcall
  notify _ _ _ h := ⟨h.named, h.records, h.silent⟩

/-! ## What an operation does -/

/-- The outcome of an operation. -/
inductive Outcome (before : Registry) (s : Observed ε) : Prop
  | kept : Kept before s → Outcome before s
  /-- A record is gone, and the parent has heard of it. -/
  | withdrawn {name : String} : (before.job? name).isSome = true →
      s.registry = before.deleteJob name → s.asked = [.removeInterest name] → Outcome before s

/-- A record is gone, and the parent has not heard of it. -/
structure Forgotten (before : Registry) (name : String) (s : Observed ε) : Prop where
  present : (before.job? name).isSome = true
  registry : s.registry = before.deleteJob name
  asked : s.asked = []

/-- An operation that keeps all records or withdraws with the record settles. -/
theorem Outcome.settles (h : Outcome s.registry s') : Settles s s' := by
  intro name
  cases h with
  | kept h =>
    rw [List.count_eq_zero_of_not_mem (h.silent name), if_neg]
    intro hgone
    have hsome := h.records name hgone.1
    rw [hgone.2] at hsome
    cases hsome
  | @withdrawn dropped hsome hregistry hasked =>
    rw [hasked, hregistry]
    by_cases hname : name = dropped
    · subst hname
      rw [List.count_singleton_self, if_pos ⟨hsome, Table.get?_erase_self ..⟩]
    · have hne : ParentCall.removeInterest dropped ≠ .removeInterest name := by
        intro heq
        cases heq
        exact hname rfl
      rw [List.count_singleton, if_neg (by simpa using hne), if_neg]
      intro hgone
      have hsame : (s.registry.deleteJob dropped).job? name = s.registry.job? name :=
        Table.get?_erase_of_ne _ hname
      rw [hsame] at hgone
      rw [hgone.2] at hgone
      cases hgone.1

/-- An operation that forgets does not. -/
theorem Forgotten.not_settles {name : String} (h : Forgotten s.registry name s') :
    ¬Settles s s' := by
  intro hsettles
  have hcount := hsettles name
  have hgone : s'.registry.job? name = none := by
    rw [h.registry]
    exact Table.get?_erase_self ..
  rw [h.asked, if_pos ⟨h.present, hgone⟩] at hcount
  cases hcount

theorem named_deleteJob {r : Registry} (h : r.Named) (name : String) : (r.deleteJob name).Named := by
  intro key job hjob
  obtain ⟨old, hold, hname, -, -⟩ := Registry.Shrinks.deleteJob r name key job hjob
  exact hname.trans (h key old hold)

theorem Outcome.named (h : Outcome before s) (hn : before.Named) : s.registry.Named := by
  cases h with
  | kept h => exact h.named
  | withdrawn _ hregistry _ => exact hregistry ▸ named_deleteJob hn _

/-- Messages to workers concern neither the registry nor the parent. -/
theorem tell_observed (S : Surroundings ε) (id : String) (messages : List (String × ChildMessage))
    (s : Observed ε) : ((S.tier id).tell messages s).registry = s.registry ∧
      ((S.tier id).tell messages s).asked = s.asked :=
  Tier.tell_keeps (I := fun s' : Observed ε => s'.registry = s.registry ∧ s'.asked = s.asked) ⟨rfl, rfl⟩
    fun _ _ _ hs => hs

/-- A removal of interest drops a record and withdraws the interest, or keeps all records. -/
theorem removeInterest_outcome (h : s.registry.Named) (name party : String) :
    Triple (· = { s with asked := [] }) ((S.tier id).removeInterest name party)
      (fun _ => Outcome s.registry) (fun _ => Outcome s.registry) := by
  refine Tier.removeInterest_cluster rfl (fun r' hr => ?_) fun hsome => ?_
  · exact .kept ((upholds_kept S id s.registry).trim (.start h) hr)
  · refine (parent_spec (.removeInterest name) _).mono ?_ ?_
    · exact fun _ _ hs => .withdrawn hsome hs.1 hs.2
    · exact fun _ _ hs => .withdrawn hsome hs.1 hs.2

/-- An undeployment forgets the job with its last instance, or keeps all records. -/
theorem undeploy_outcome (h : s.registry.Named) {client : String} (hclient : client.isEmpty = false)
    (report : UndeployedReport) :
    let s' := (Step.request client (.undeployed report)).run S id s
    (Forgets s (.request client (.undeployed report)) → Forgotten s.registry report.jobName s') ∧
      (¬Forgets s (.request client (.undeployed report)) → Kept s.registry s') := by
  have hupholds := upholds_kept S id s.registry
  have hstart : Kept s.registry { s with asked := [] } := .start h
  simp only [Step.run, Tier.handle_undeployed hclient]
  have hundeploy := Tier.undeploy_cluster (t := S.tier id) (s := { s with asked := [] }) rfl h
    (.name report.jobName) report.number
  refine hundeploy.result
    (R := fun _ s' => (Forgets s (.request client (.undeployed report)) →
        Forgotten s.registry report.jobName s') ∧
      (¬Forgets s (.request client (.undeployed report)) → Kept s.registry s')) rfl ?_ ?_
  · intro _ s' hundeployed
    obtain ⟨job, i, hjob, hi, hs'⟩ := hundeployed
    have hname : job.name = report.jobName := h _ _ hjob
    obtain ⟨hregistry, hasked⟩ := tell_observed S id
      (Tier.farewells s.registry job.name report.number)
      { s with asked := [], registry := s.registry.withdraw job report.number }
    constructor
    · intro hforgets
      obtain ⟨-, hjob', -, hlast⟩ := hforgets
      obtain rfl := Option.some.inj (hjob.symm.trans hjob')
      have hempty : (job.remove report.number).instances.isEmpty = true := by rw [hlast]; rfl
      refine ⟨hjob' ▸ rfl, ?_, ?_⟩
      · rw [hs']
        refine hregistry.trans ?_
        rw [Registry.withdraw, if_pos hempty, hname]
      · rw [hs']
        exact hasked
    · intro hnot
      have hmore : ¬(job.remove report.number).instances.isEmpty = true := by
        intro hempty
        exact hnot (.intro hclient hjob hi (List.isEmpty_iff.1 hempty))
      rw [hs', Registry.withdraw, if_neg hmore]
      refine hupholds.steady.tell _ (hupholds.trim hstart (.removed ?_))
      rw [hname]
      exact hjob
  · intro _ s' hs'
    obtain ⟨rfl, hnone⟩ := hs'
    refine ⟨fun hforgets => ?_, fun _ => hstart⟩
    obtain ⟨-, hjob, hi, -⟩ := hforgets
    rw [hnone _ hjob] at hi
    cases hi

/-- A request without a sender is refused. -/
theorem run_refused {client : String} (hclient : client.isEmpty = true) (wanted : ChildRequest) :
    (Step.request client wanted).run S id s = { s with asked := [] } := by
  simp only [Step.run, Tier.handle, hclient, if_true, Action.throw_bind]
  rfl

/-- **One operation.** An operation that does not forget a job settles. -/
theorem run_outcome (h : s.registry.Named) (step : Step) (hnot : ¬Forgets s step) :
    Outcome s.registry (step.run S id s) := by
  have hupholds := upholds_kept S id s.registry
  have hstart : Kept s.registry { s with asked := [] } := .start h
  cases step with
  | request client wanted =>
    cases hclient : client.isEmpty with
    | true =>
      exact run_refused hclient wanted ▸ .kept hstart
    | false =>
      cases wanted with
      | undeployed report => exact .kept ((undeploy_outcome h hclient report).2 hnot)
      | removeInterest name =>
        refine (Tier.handle_of_answer (fun _ hs => hs ▸ .kept hstart)
          (fun _ => Tier.answer_removeInterest (removeInterest_outcome h name client))
          fun message s' hs => ?_).after rfl
        cases hs with
        | kept hkept => exact .kept (hupholds.notify client message hkept)
        | withdrawn hsome hregistry hasked => exact .withdrawn hsome hregistry hasked
      | deployed report =>
        exact .kept ((hupholds.handle client (.deployed report) nofun nofun).after hstart)
      | tableQuery query =>
        exact .kept ((hupholds.handle client (.tableQuery query) nofun nofun).after hstart)
      | subnet method =>
        exact .kept ((hupholds.handle client (.subnet method) nofun nofun).after hstart)
  | update news => exact .kept ((hupholds.steady.applyUpdate news).after hstart)
  | join address port =>
    have hjoin : Triple (Kept s.registry) ((S.tier id).registerWithParent address port)
        (fun _ => Kept s.registry) (fun _ => Kept s.registry) := .mapError (hupholds.call nofun)
    exact .kept (hjoin.after hstart)

/-- A step that forgets a job drops its record in silence. -/
theorem Forgets.forgotten {step : Step} (hforgets : Forgets s step) (h : s.registry.Named)
    (S : Surroundings ε) (id : String) :
    ∃ name, Forgotten s.registry name (step.run S id s) := by
  cases hforgets with
  | @intro client report job i hclient hjob hi hlast =>
    exact ⟨_, (undeploy_outcome h hclient report).1 (.intro hclient hjob hi hlast)⟩

/-! ## Runs -/

/-- Records are stored under their names at every moment of a run. -/
theorem named_after (outside : ε) (steps : List Step) :
    (after S id outside steps).registry.Named := by
  induction steps with
  | nil => exact nofun
  | cons step earlier ih =>
    by_cases hforgets : Forgets (after S id outside earlier) step
    · obtain ⟨name, hforgotten⟩ := hforgets.forgotten ih S id
      rw [after, hforgotten.registry]
      exact named_deleteJob ih name
    · exact (run_outcome ih step hforgets).named ih

/-- **Withdrawals.** In a run of a cluster, interest is withdrawn exactly with the records that go,
if and only if no operation of the run forgets a job: no worker reports the last instance of a
cached job as gone. -/
theorem settles_iff (S : Surroundings ε) (id : String) (outside : ε) (steps : List Step) :
    (∀ step earlier, step :: earlier <:+ steps →
      Settles (after S id outside earlier) (after S id outside (step :: earlier))) ↔
    ∀ step earlier, step :: earlier <:+ steps → ¬Forgets (after S id outside earlier) step := by
  constructor
  · intro hsettles step earlier he hforgets
    obtain ⟨name, hforgotten⟩ := hforgets.forgotten (named_after outside earlier) S id
    exact hforgotten.not_settles (hsettles step earlier he)
  · intro hnot step earlier he
    exact (run_outcome (named_after outside earlier) step (hnot step earlier he)).settles

/-! ## A job that is forgotten -/

/-- A parent that knows one job. -/
def knowing (job : Job) : Surroundings Unit where
  answer
    | .fetchJob _ => pure (some job)
    | .requestSubnets => pure Addresses.none
    | .reportDeployment _ | .releaseSubnets _ | .removeInterest _ | .register _ => pure ()
  deliver _ _ := pure ()

/-- A job with one instance. -/
def single : Job :=
  { Job.new "a.n.s.n" "J" with
    instances := [.fresh 0 ⟨some "172.30.0.0", none⟩ (some "c1")], nextNumber := 1 }

/-- A worker asks for the job, and reports later that its instance is gone. -/
def queriedThenGone : List Step :=
  [.request "w1" (.undeployed ⟨"a.n.s.n", 0⟩), .request "w1" (.tableQuery ⟨some "a.n.s.n", none⟩)]

/-- The cluster drops the record and does not call the parent. -/
theorem interest_forgotten : ¬∀ step earlier, step :: earlier <:+ queriedThenGone →
    Settles (after (knowing single) "c1" () earlier)
      (after (knowing single) "c1" () (step :: earlier)) := by
  intro hsettles
  have hcount := hsettles _ _ (List.suffix_refl queriedThenGone) "a.n.s.n"
  have hgone : (after (knowing single) "c1" () queriedThenGone).asked = [] ∧
      ((after (knowing single) "c1" () queriedThenGone).registry.job? "a.n.s.n").isNone ∧
      ((after (knowing single) "c1" () queriedThenGone.tail).registry.job? "a.n.s.n").isSome := by
    decide +kernel
  obtain ⟨hasked, hnone, hsome⟩ := hgone
  rw [if_pos ⟨hsome, Option.isNone_iff_eq_none.1 hnone⟩] at hcount
  change (after (knowing single) "c1" () queriedThenGone).asked.count _ = 1 at hcount
  rw [hasked] at hcount
  cases hcount

/-- When the worker leaves the job instead, the parent is told. -/
example : (after (knowing single) "c1" () [.request "w1" (.removeInterest "a.n.s.n"),
    .request "w1" (.tableQuery ⟨some "a.n.s.n", none⟩)]).asked = [.removeInterest "a.n.s.n"] := by
  decide +kernel

end ClusterTier

end Overlay
