import Overlay.Proofs.Cluster.Copies

/-!
# Reported networks and refreshes

A worker reports the network of an instance to its cluster, and the cluster keeps it: a later report
that says something else is refused. But when the cluster takes a copy of the job over, the copy
replaces what the cluster knows of the instance. The copy of a parent that has not got the report
has no network, and then the network is gone and the next report is taken, whatever it says
(`ClusterTier.Overwrites`).

`ClusterTier.survives_iff`: a reported network survives everything that spares the instance
(`ClusterTier.Spared`) at every moment of a run, exactly if no operation of the run overwrites one
that had survived until then.
-/

namespace Overlay

namespace ClusterTier

variable {ε : Type}

/-! ## What happens to an instance -/

/-- A worker is told that its report is in. The job is the one that the cluster finds under the name
that the worker gives. -/
inductive Applied (S : Surroundings ε) (id : String) (s : Observed ε) :
    Step → String → UInt32 → Network → Prop
  | intro {client : String} {report : DeployedReport} {job : Job} : client.isEmpty = false →
      ((S.tier id).locate (.name report.jobName) { s with asked := [] }).1 = .ok job →
      ((S.tier id).reportNetwork (.name report.jobName) report.number report.network client
        { s with asked := [] }).1 = .ok .applied →
      Applied S id s (.request client (.deployed report)) job.name report.number report.network

/-- The instance is undeployed: its worker says so, or the parent, if somebody is interested. -/
inductive Undeploys (s : Observed ε) (name : String) (n : UInt32) : Step → Prop
  | reported {client : String} : client.isEmpty = false →
      Undeploys s name n (.request client (.undeployed ⟨name, n⟩))
  | announced : (s.registry.parties name).isEmpty = false →
      Undeploys s name n (.update ⟨name, n, .undeployment⟩)

/-- An operation spares an instance: the instance is not undeployed, the record of the job is not
dropped, and no copy that is taken over has a network for the instance. -/
structure Spared (S : Surroundings ε) (id : String) (s : Observed ε) (step : Step) (name : String)
    (n : UInt32) : Prop where
  deployed : ¬Undeploys s name n step
  recorded : ((step.run S id s).registry.job? name).isSome = true
  empty : ∀ copy, taken? S s step = some copy → copy.name = name →
    ∀ i ∈ copy.instances, i.number = n → i.network.isEmpty = true

/-- An operation refreshes an instance: it takes a copy of the job over that lists the instance. -/
def Refreshes (S : Surroundings ε) (s : Observed ε) (step : Step) (name : String) (n : UInt32) :
    Prop :=
  ∃ copy, taken? S s step = some copy ∧ copy.name = name ∧ n ∈ copy.instances.map (·.number)

/-- An operation overwrites a network: it refreshes the instance, and does not put the network in
again. -/
def Overwrites (S : Surroundings ε) (id : String) (s : Observed ε) (step : Step) (name : String)
    (n : UInt32) (network : Network) : Prop :=
  Refreshes S s step name n ∧ ¬Applied S id s step name n network

variable {S : Surroundings ε} {id : String} {s : Observed ε} {step : Step} {name : String}
  {n : UInt32} {network : Network} {r : Registry}

/-! ## Copies -/

/-- An instance that is not refreshed stays as it is. -/
theorem network?_withCopy (h : s.registry.network? name n = some network)
    (hnot : ¬Refreshes S s step name n) :
    (s.registry.withCopy (taken? S s step)).network? name n = some network := by
  cases htaken : taken? S s step with
  | none => exact h
  | some copy =>
    rw [Registry.withCopy]
    by_cases hname : copy.name = name
    · subst hname
      obtain ⟨job, -, hjob, -⟩ := Registry.network?_eq_some.1 h
      rw [Registry.network?_mergeJob_of_not_mem hjob fun hn => hnot ⟨copy, htaken, rfl, hn⟩]
      exact h
    · rw [Registry.network?_mergeJob_of_ne (Ne.symm hname)]
      exact h

/-- An instance that is refreshed and spared has no network when the copy was taken over. -/
theorem Refreshes.isEmpty (hcopy : Refreshes S s step name n)
    (h : s.registry.network? name n = some network) (hspared : Spared S id s step name n) :
    ∃ blank, (s.registry.withCopy (taken? S s step)).network? name n = some blank ∧
      blank.isEmpty = true := by
  obtain ⟨copy, htaken, rfl, hn⟩ := hcopy
  obtain ⟨job, -, hjob, -⟩ := Registry.network?_eq_some.1 h
  have hempty := hspared.empty copy htaken rfl
  rw [htaken]
  exact Registry.network?_mergeJob_of_mem hjob hn hempty

/-! ## One operation -/

/-- A report that is answered as applied fills in a network that was empty. -/
theorem Applied.network? (h : Applied S id s step name n network) : network.isEmpty = false ∧
    (∃ before, (s.registry.withCopy (taken? S s step)).network? name n = some before ∧
      before.isEmpty = true) ∧
    (step.run S id s).registry.network? name n = some network := by
  obtain ⟨hclient, hlocated, hanswer⟩ := h
  rename_i client report job
  rw [taken?_deployed hclient, Step.run, Tier.handle_deployed hclient]
  rcases hx : (S.tier id).reportNetwork (.name report.jobName) report.number report.network client
    { s with asked := [] } with ⟨e | outcome, s'⟩
  · rw [hx] at hanswer
    cases hanswer
  rw [hx] at hanswer
  obtain rfl := Except.ok.inj hanswer
  obtain ⟨found, outcomes, hfound, hrecorded, houtcome⟩ := (reportNetwork_spec ..).of_ok rfl hx
  obtain rfl := Except.ok.inj (hlocated.symm.trans hfound)
  rcases hrecorded.network?_cases with ⟨-, hnetwork, hbefore, hafter, -⟩ | ⟨hunchanged, -⟩
  · exact ⟨hnetwork, hbefore, hafter⟩
  · rw [hunchanged] at houtcome
    cases houtcome

/-- Nothing but such a report changes the network of an instance that stays, once a copy was taken
over. -/
theorem Ran.network? (h : Ran S id s step r) (hnamed : s.registry.Named)
    (hdeployed : ¬Undeploys s name n step) (hrecorded : (r.job? name).isSome = true)
    (hnot : ∀ network, ¬Applied S id s step name n network) :
    r.network? name n = (s.registry.withCopy (taken? S s step)).network? name n := by
  cases h with
  | noted hsame => exact hsame.network? name n
  | recorded hclient hlocated hanswer hrecord =>
    rcases hrecord.network?_cases with ⟨happlied, -, -, -, hothers⟩ | ⟨-, rfl⟩
    · refine hothers name n (not_and_or.1 ?_)
      rintro ⟨rfl, rfl⟩
      rw [happlied] at hanswer
      exact hnot _ (.intro hclient hlocated hanswer)
    · rfl
  | @removed news hparties hchange =>
    obtain ⟨jobName, number, change⟩ := news
    obtain rfl : change = .undeployment := hchange
    refine Registry.network?_without (not_and_or.1 ?_)
    rintro ⟨rfl, rfl⟩
    exact hdeployed (.announced hparties)
  | @withdrawn client report job hclient hjob =>
    obtain ⟨jobName, number⟩ := report
    obtain rfl : job.name = jobName := hnamed _ _ hjob
    refine Registry.network?_withdraw hjob (not_and_or.1 ?_) hrecorded
    rintro ⟨rfl, rfl⟩
    exact hdeployed (.reported hclient)
  | left => exact Registry.network?_removeParty hrecorded

/-- **One operation.** A network is there after an operation that spares its instance, exactly if
the operation does not overwrite it. -/
theorem network?_run_iff (hnamed : s.registry.Named)
    (h : s.registry.network? name n = some network) (hnetwork : network.isEmpty = false)
    (hspared : Spared S id s step name n) :
    (step.run S id s).registry.network? name n = some network ↔
      ¬Overwrites S id s step name n network := by
  by_cases happlied : Applied S id s step name n network
  · exact iff_of_true happlied.network?.2.2 fun hoverwrites => hoverwrites.2 happlied
  by_cases hcopy : Refreshes S s step name n
  · refine iff_of_false (fun hthere => ?_) fun hnot => hnot ⟨hcopy, happlied⟩
    by_cases hother : ∃ other, Applied S id s step name n other
    · obtain ⟨other, hother⟩ := hother
      obtain rfl := Option.some.inj (hthere.symm.trans hother.network?.2.2)
      exact happlied hother
    · rw [not_exists] at hother
      obtain ⟨blank, hblank, hempty⟩ := hcopy.isEmpty h hspared
      have hsame := (run_spec hnamed step).network? hnamed hspared.deployed hspared.recorded hother
      rw [hthere, hblank] at hsame
      rw [Option.some.inj hsame, hempty] at hnetwork
      cases hnetwork
  · refine iff_of_true ?_ fun hoverwrites => hcopy hoverwrites.1
    have hcopied := network?_withCopy h hcopy
    refine ((run_spec hnamed step).network? hnamed hspared.deployed hspared.recorded
      fun other hother => ?_).trans hcopied
    -- a report is applied to an empty network, and this one is still there
    obtain ⟨-, ⟨before, hbefore, hempty⟩, -⟩ := hother.network?
    obtain rfl := Option.some.inj (hcopied.symm.trans hbefore)
    rw [hempty] at hnetwork
    cases hnetwork

/-! ## Runs -/

/-- The network of an instance was reported in a run, and everything after that has spared the
instance. -/
inductive Reported (S : Surroundings ε) (id : String) (outside : ε) (name : String) (n : UInt32)
    (network : Network) : List Step → Prop
  | applied {step : Step} {earlier : List Step} :
      Applied S id (after S id outside earlier) step name n network →
      Reported S id outside name n network (step :: earlier)
  | spared {step : Step} {earlier : List Step} : Reported S id outside name n network earlier →
      Spared S id (after S id outside earlier) step name n →
      Reported S id outside name n network (step :: earlier)

/-- A cluster holds on to the network of an instance: it has the network, and refuses each report
that says something else. -/
structure Holds (S : Surroundings ε) (id : String) (s : Observed ε) (name : String) (n : UInt32)
    (network : Network) : Prop where
  stored : s.registry.network? name n = some network
  guarded : ∀ other client, other.isEmpty = false → other ≠ network →
    (S.tier id).reportNetwork (.name name) n other client s =
      (.error (.conflictingReport name n), s)

/-- What was reported and spared in a run is held at its end. -/
def Survives (S : Surroundings ε) (id : String) (outside : ε) (run : List Step) : Prop :=
  ∀ name n network, Reported S id outside name n network run →
    Holds S id (after S id outside run) name n network

variable {outside : ε} {run : List Step}

theorem Reported.isEmpty (h : Reported S id outside name n network run) :
    network.isEmpty = false := by
  induction h with
  | applied happlied => exact happlied.network?.1
  | spared _ _ ih => exact ih

/-- A network that is there is guarded. -/
theorem Holds.of_stored (hnamed : s.registry.Named)
    (h : s.registry.network? name n = some network) (hnetwork : network.isEmpty = false) :
    Holds S id s name n network where
  stored := h
  guarded other client hother hne := by
    obtain ⟨job, -, hjob, -⟩ := Registry.network?_eq_some.1 h
    obtain rfl : job.name = name := hnamed _ _ hjob
    have hlocate : (S.tier id).locate (.name job.name) s = (.ok job, s) :=
      Tier.locate_of_select hjob
    rw [Tier.reportNetwork, Action.bind_of_ok hlocate]
    refine Action.bind_of_error ?_ _
    rw [Action.zoom_apply]
    have happly : Registry.applyReports job.name [⟨n, other⟩] (some client) s.registry = _ :=
      Registry.applyReports_conflict h hnetwork hother hne
    exact congrArg (fun result => (result.1, (S.tier id).site.set result.2 s)) happly

/-- **Refreshes.** A network that was reported, and whose instance was spared, is held at every
moment of a run, exactly if no operation of the run overwrites such a network with a copy of the
parent. -/
theorem survives_iff (S : Surroundings ε) (id : String) (outside : ε) (run : List Step) :
    (∀ moment, moment <:+ run → Survives S id outside moment) ↔
      ∀ next moment, next :: moment <:+ run → ∀ name n network,
        Reported S id outside name n network moment →
        Spared S id (after S id outside moment) next name n →
        ¬Overwrites S id (after S id outside moment) next name n network := by
  constructor
  · intro hsurvives next moment hsuffix name n network hreported hspared
    have hnow := hsurvives moment ((List.suffix_cons next moment).trans hsuffix) _ _ _ hreported
    have hthen := hsurvives (next :: moment) hsuffix _ _ _ (.spared hreported hspared)
    exact (network?_run_iff (named_after outside moment) hnow.stored hreported.isEmpty hspared).1
      hthen.stored
  · intro hnot moment hsuffix name n network hreported
    refine .of_stored (named_after outside moment) ?_ hreported.isEmpty
    induction hreported with
    | applied happlied => exact happlied.network?.2.2
    | @spared step earlier hreported hspared ih =>
      have hstored := ih ((List.suffix_cons step earlier).trans hsuffix)
      exact (network?_run_iff (named_after outside earlier) hstored hreported.isEmpty hspared).2
        (hnot step earlier hsuffix _ _ _ hreported hspared)

/-! ## A network that is lost -/

/-- The network that a worker has set up. -/
def setUp : Network :=
  ⟨⟨some "10.18.0.2", none⟩, some "192.0.2.7", some 50103⟩

/-- A worker asks for a job and reports the network of its instance. Then the parent announces the
instance, and its copy of the job is older than the report. -/
def reportedThenAnnounced : List Step :=
  [.update ⟨"a.n.s.n", 0, .deployment⟩, .request "w1" (.deployed ⟨"a.n.s.n", 0, setUp⟩),
    .request "w1" (.tableQuery ⟨some "a.n.s.n", none⟩)]

/-- The network is gone when the cluster has taken the copy over. -/
theorem network_lost : ¬∀ moment, moment <:+ reportedThenAnnounced →
    Survives (knowing single) "c1" () moment := by
  intro hsurvives
  obtain ⟨job, hjob⟩ := Option.isSome_iff_exists.1 (show ((after (knowing single) "c1" ()
    (reportedThenAnnounced.drop 2)).registry.job? single.name).isSome = true by decide +kernel)
  obtain hname : job.name = single.name := named_after _ _ _ _ hjob
  have happlied : Applied (knowing single) "c1"
      (after (knowing single) "c1" () (reportedThenAnnounced.drop 2))
      (.request "w1" (.deployed ⟨"a.n.s.n", 0, setUp⟩)) single.name 0 setUp := by
    rw [← hname]
    have hlocated : ((knowing single).tier "c1").locate (.name single.name) _ = (.ok job, _) :=
      Tier.locate_of_select hjob
    exact .intro rfl (congrArg Prod.fst hlocated) (by decide +kernel)
  have hspared : Spared (knowing single) "c1"
      (after (knowing single) "c1" () reportedThenAnnounced.tail)
      (.update ⟨"a.n.s.n", 0, .deployment⟩) single.name 0 := by
    refine ⟨nofun, by decide +kernel, fun copy hcopy _ => ?_⟩
    have hinterest : ¬((after (knowing single) "c1" () reportedThenAnnounced.tail).registry.parties
        "a.n.s.n").isEmpty = true := by
      decide +kernel
    rw [taken?, if_neg hinterest] at hcopy
    obtain rfl : single = copy := Option.some.inj hcopy
    decide
  have hheld := hsurvives _ (List.suffix_refl _) _ _ _ (.spared (.applied happlied) hspared)
  have hlost : (after (knowing single) "c1" () reportedThenAnnounced).registry.network?
      single.name 0 = some .none := by
    decide +kernel
  exact absurd (hheld.stored.symm.trans hlost) (by decide)

end ClusterTier

end Overlay
