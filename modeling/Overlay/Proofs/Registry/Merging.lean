import Overlay.Proofs.Job.Reports
import Overlay.Proofs.Registry.Jobs
import Overlay.Proofs.Registry.Pools

/-!
# Taking jobs over

A tier takes the job of another tier over into its own record. The other side knows what the job is:
its identifier, its addresses and its instances replace those of the record. The record knows what
nobody else knows: who is interested, who hosts an instance, and instances that the other side does
not mention. `Registry.mergeJob_merges` says what becomes of the record, instance by instance, and
that taking the same job over again changes nothing.
-/

namespace Overlay

namespace Job

variable {job : Job} {i : Instance}

/-- Storing an instance that is there changes nothing. -/
theorem upsert_of_instance? (h : job.instance? i.number = some i) : job.upsert i = job := by
  have hinstances := map_upsert (g := id) h rfl
  rw [List.map_id, List.map_id] at hinstances
  rw [upsert] at hinstances ⊢
  exact congrArg (fun instances => { job with instances }) hinstances

end Job

namespace Registry

variable {r : Registry} {current : Option Job} {job incoming : Job} {is : List Instance}
  {i : Instance} {n : UInt32}

/-! ## Instances -/

/-- An instance as a record takes it over: the hosting worker is the one that the record knows, where
the other side knows none. -/
def adopted (current : Option Job) (i : Instance) : Instance :=
  { i with worker := i.worker.or ((current.bind (·.instance? i.number)).bind (·.worker)) }

/-- Taking an instance over depends on the instance that had its number. -/
theorem adopted_congr {current' : Option Job}
    (h : current'.bind (·.instance? i.number) = current.bind (·.instance? i.number)) :
    adopted current' i = adopted current i := by
  rw [adopted, adopted, h]

/-- An instance that was taken over is taken over as it is. -/
theorem adopted_of_adopted (h : job.instance? i.number = some (adopted current i)) :
    adopted (some job) i = adopted current i := by
  have hworker : (i.worker.or (adopted current i).worker) = (adopted current i).worker := by
    rw [adopted, ← Option.or_assoc, Option.or_self]
  rw [adopted, Option.bind_some, h, Option.bind_some, hworker]
  rfl

theorem mergeInstance_eq (job : Job) (i : Instance) :
    mergeInstance job i = job.upsert (adopted (some job) i) := rfl

/-- Taking instances over adds their locations. -/
theorem foldl_mergeInstance (is : List Instance) (job : Job) :
    job.SameService (is.foldl mergeInstance job) ∧
      (job.Distinct → (is.foldl mergeInstance job).Distinct) ∧
      ∀ l ∈ (is.foldl mergeInstance job).locations,
        l ∈ job.locations ∨ l ∈ is.map (·.location) := by
  induction is generalizing job with
  | nil => exact ⟨.refl job, fun hd => hd, fun _ hl => .inl hl⟩
  | cons i is ih =>
    obtain ⟨hsame, hdistinct, hlocations⟩ := ih (mergeInstance job i)
    refine ⟨(Job.SameService.upsert job _).trans hsame, fun hd => hdistinct (hd.upsert _),
      fun l hl => ?_⟩
    rcases hlocations l hl with hl | hl
    · obtain ⟨j, hj, rfl⟩ := List.mem_map.1 hl
      have hperm := Job.perm_upsert job (adopted (some job) i)
      rcases List.mem_cons.1 (hperm.subset (List.mem_append_right _ hj)) with rfl | hj
      · exact .inr (List.mem_cons_self ..)
      · exact .inl (List.mem_map_of_mem hj)
    · exact .inr (List.mem_cons_of_mem _ hl)

/-- An instance whose number nobody brings is left alone. -/
theorem instance?_foldl_mergeInstance_of_not_mem (job : Job)
    (hn : n ∉ is.map (·.number)) : (is.foldl mergeInstance job).instance? n = job.instance? n := by
  induction is generalizing job with
  | nil => rfl
  | cons i rest ih =>
    rw [List.map_cons, List.mem_cons, not_or] at hn
    rw [List.foldl_cons, ih _ hn.2, mergeInstance, Job.instance?_upsert, if_neg hn.1]

/-- **Instances that are taken over.** Where numbers are distinct, the job has each instance as the
other side has it, except that it remembers a worker that the other side does not know. -/
theorem instance?_foldl_mergeInstance (hd : (is.map (·.number)).Nodup) (hi : i ∈ is) (job : Job) :
    (is.foldl mergeInstance job).instance? i.number = some (adopted (some job) i) := by
  induction is generalizing job with
  | nil => cases hi
  | cons first rest ih =>
    rw [List.map_cons, List.nodup_cons] at hd
    rcases List.mem_cons.1 hi with rfl | hrest
    · rw [List.foldl_cons, instance?_foldl_mergeInstance_of_not_mem _ hd.1, mergeInstance_eq,
        Job.instance?_upsert]
      exact if_pos rfl
    · have hne : i.number ≠ first.number := fun heq => hd.1 (heq ▸ List.mem_map_of_mem hrest)
      rw [List.foldl_cons, ih hd.2 hrest]
      refine congrArg some (adopted_congr ?_)
      rw [Option.bind_some, Option.bind_some, mergeInstance_eq, Job.instance?_upsert]
      exact if_neg hne

/-- Instances that are all there as they would be taken over change nothing. -/
theorem foldl_mergeInstance_of_adopted
    (h : ∀ i ∈ is, job.instance? i.number = some (adopted (some job) i)) :
    is.foldl mergeInstance job = job := by
  induction is with
  | nil => rfl
  | cons i rest ih =>
    obtain ⟨hi, hrest⟩ := List.forall_mem_cons.1 h
    rw [List.foldl_cons, mergeInstance_eq, Job.upsert_of_instance? hi, ih hrest]

/-! ## Jobs -/

/-- A job that is taken over keeps its name. -/
theorem name_merged (h : ∀ old, current = some old → old.name = incoming.name) :
    (merged current incoming).name = incoming.name := by
  cases current with
  | none => rfl
  | some old =>
    have hname := (foldl_mergeInstance incoming.instances
      { old with systemId := incoming.systemId, serviceAddresses := incoming.serviceAddresses }).1.name
    exact hname.trans (h old rfl)

/-- A record that is taken over keeps its interested parties. -/
theorem parties_merged (old incoming : Job) :
    (merged (some old) incoming).parties = old.parties :=
  (foldl_mergeInstance incoming.instances _).1.parties

/-- The identifier and the addresses are those of the other side. -/
theorem service_merged (current : Option Job) (incoming : Job) :
    (merged current incoming).systemId = incoming.systemId ∧
      (merged current incoming).serviceAddresses = incoming.serviceAddresses := by
  cases current with
  | none => exact ⟨rfl, rfl⟩
  | some old =>
    obtain ⟨hsame, -, -⟩ := foldl_mergeInstance incoming.instances
      { old with systemId := incoming.systemId, serviceAddresses := incoming.serviceAddresses }
    exact ⟨hsame.systemId, hsame.serviceAddresses⟩

/-- **Taking a job over.** The record has no locations but those that it had and those of the other
tier. -/
theorem merged_spec (hd : incoming.Distinct)
    (hcurrent : ∀ old, current = some old → old.name = incoming.name ∧ old.Distinct) :
    (merged current incoming).name = incoming.name ∧ (merged current incoming).Distinct ∧
      ∀ l ∈ (merged current incoming).locations, l ∈ incoming.locations ∨
        ∃ old, current = some old ∧ l ∈ old.locations := by
  cases current with
  | none => exact ⟨rfl, hd, fun l hl => .inl hl⟩
  | some old =>
    obtain ⟨hname, hdold⟩ := hcurrent old rfl
    obtain ⟨hsame, hdistinct, hlocations⟩ := foldl_mergeInstance incoming.instances
      { old with systemId := incoming.systemId, serviceAddresses := incoming.serviceAddresses }
    refine ⟨hsame.name.trans hname, hdistinct hdold, fun l hl => ?_⟩
    rcases hlocations l hl with hl | hl
    · exact .inr ⟨old, rfl, hl⟩
    · exact .inl hl

/-- The record has each instance of the other side. -/
theorem instance?_merged (hd : incoming.Distinct) (hi : i ∈ incoming.instances) :
    (merged current incoming).instance? i.number = some (adopted current i) := by
  cases current with
  | none =>
    have hfound : incoming.instance? i.number = some i := hd.instance?_eq_some.2 ⟨hi, rfl⟩
    rw [adopted, Option.bind_none, Option.bind_none, Option.or_none]
    exact hfound
  | some old => exact instance?_foldl_mergeInstance hd hi _

/-- An instance that the other side does not mention is left alone. -/
theorem instance?_merged_of_none (hn : incoming.instance? n = none) :
    (merged current incoming).instance? n = current.bind (·.instance? n) := by
  cases current with
  | none => exact hn
  | some old =>
    refine instance?_foldl_mergeInstance_of_not_mem _ fun hmem => ?_
    obtain ⟨i, hi, heq⟩ := List.mem_map.1 hmem
    exact Job.instance?_eq_none.1 hn i hi heq

/-- Taking a job over twice is taking it over once. -/
theorem merged_merged (hd : incoming.Distinct) :
    merged (some (merged current incoming)) incoming = merged current incoming := by
  obtain ⟨hid, haddresses⟩ := service_merged current incoming
  have hsame : { merged current incoming with
      systemId := incoming.systemId, serviceAddresses := incoming.serviceAddresses } =
      merged current incoming := by
    rw [← hid, ← haddresses]
  rw [merged, hsame]
  refine foldl_mergeInstance_of_adopted fun i hi => ?_
  have hi' : (merged current incoming).instance? i.number = some (adopted current i) :=
    instance?_merged hd hi
  rw [hi', adopted_of_adopted hi']

/-- Every address of the other side is an address of the record. -/
theorem hasAddress_merged (hd : incoming.Distinct) {text : String}
    (h : incoming.hasAddress text = true) :
    (merged current incoming).hasAddress text = true := by
  obtain ⟨t, ht, hsame⟩ := List.any_eq_true.1 h
  refine List.any_eq_true.2 ⟨t, ?_, hsame⟩
  obtain ⟨f, hshared | hheld⟩ := Job.mem_addressTexts.1 ht
  · have haddresses := (service_merged current incoming).2
    refine Job.mem_addressTexts.2 ⟨f, .inl ?_⟩
    rwa [Job.shared, haddresses]
  · obtain ⟨i, hi, hpresent⟩ := List.mem_flatMap.1 hheld
    have hadopted : adopted current i ∈ (merged current incoming).instances :=
      (Job.mem_of_instance? (instance?_merged hd hi)).1
    exact Job.mem_addressTexts.2 ⟨f, .inr (List.mem_flatMap.2 ⟨_, hadopted, hpresent⟩)⟩

/-! ## Records -/

/-- What becomes of a registry that takes a job over, and of its record of the job. -/
structure Merges (r : Registry) (incoming stored : Job) (r' : Registry) : Prop where
  found : r'.job? incoming.name = some stored
  /-- Nothing else is touched. -/
  others : ∀ name, name ≠ incoming.name → r'.job? name = r.job? name
  onlyJobs : r.OnlyJobs r'
  name : stored.name = incoming.name
  systemId : stored.systemId = incoming.systemId
  serviceAddresses : stored.serviceAddresses = incoming.serviceAddresses
  /-- Parties of the other side do not count here. -/
  parties : stored.parties = ((r.job? incoming.name).map (·.parties)).getD ∅
  nextNumber : stored.nextNumber = ((r.job? incoming.name).getD incoming).nextNumber
  distinct : stored.Distinct
  /-- Instances are as the other side has them, but for a worker that it does not know. -/
  adopts : ∀ i ∈ incoming.instances,
    stored.instance? i.number = some (adopted (r.job? incoming.name) i)
  /-- What the other side does not mention is left alone. -/
  keeps : ∀ n, incoming.instance? n = none →
    stored.instance? n = (r.job? incoming.name).bind (·.instance? n)
  /-- The second time nothing changes. -/
  again : r'.mergeJob incoming = (stored, r')

/-- The number for the next instance is that of the record. -/
theorem nextNumber_foldl_mergeInstance (is : List Instance) (job : Job) :
    (is.foldl mergeInstance job).nextNumber = job.nextNumber := by
  induction is generalizing job with
  | nil => rfl
  | cons i rest ih => exact ih (mergeInstance job i)

/-- **Taking a job over.** The record takes over what the other side knows, keeps what only this tier
knows, and is the same when the job comes again. -/
theorem mergeJob_merges (hnamed : r.Named) (hdistinct : r.Distinct) (hd : incoming.Distinct) :
    r.Merges incoming (r.mergeJob incoming).1 (r.mergeJob incoming).2 := by
  have hrecord : ∀ old, r.job? incoming.name = some old →
      old.name = incoming.name ∧ old.Distinct :=
    fun old hold => ⟨hnamed _ old hold, hdistinct _ old hold⟩
  obtain ⟨hname, hnumbers, -⟩ := merged_spec hd hrecord
  obtain ⟨hid, haddresses⟩ := service_merged (r.job? incoming.name) incoming
  have hstored : (r.mergeJob incoming).2.job? incoming.name = some (r.mergeJob incoming).1 :=
    Table.get?_insert_self ..
  refine ⟨hstored, fun name hne => Table.get?_insert_of_ne _ hne _, .setJobs r _, hname, hid,
    haddresses, ?_, ?_, hnumbers, fun i hi => instance?_merged hd hi,
    fun n hn => instance?_merged_of_none hn, ?_⟩
  · rw [mergeJob]
    cases r.job? incoming.name with
    | none => rfl
    | some old => exact parties_merged old incoming
  · rw [mergeJob]
    cases r.job? incoming.name with
    | none => rfl
    | some old => exact nextNumber_foldl_mergeInstance incoming.instances _
  · have hagain : merged (some (r.mergeJob incoming).1) incoming = (r.mergeJob incoming).1 :=
      merged_merged hd
    rw [mergeJob, hstored, hagain]
    refine Prod.ext rfl ?_
    rw [Table.insert_of_get? hstored]

/-! ## A record that knows more -/

/-- A record of a job, one of whose instances is hosted by a worker here. -/
def hosting : Job :=
  { Job.new "a.n.s.n" "J" with
    instances := [{ Instance.fresh 0 ⟨some "172.30.0.0", none⟩ (some "c1") with worker := some "w1" },
      .fresh 1 ⟨some "172.30.0.1", none⟩ (some "c1")]
    parties := .ofList ["w1"] }

/-- The same job as another tier has it. -/
def elsewhere : Job :=
  { Job.new "a.n.s.n" "K" with
    instances := [.fresh 2 ⟨some "172.30.0.2", none⟩ (some "c1"),
      .fresh 0 ⟨some "172.30.0.9", none⟩ (some "c1")]
    parties := .ofList ["c1"] }

/-- The record takes the job over: one instance is new, one moves and one stays. -/
theorem mergeJob_merges_hosting : ((∅ : Registry).putJob hosting).Named ∧
    ((∅ : Registry).putJob hosting).Distinct ∧ elsewhere.Distinct ∧
    Merges ((∅ : Registry).putJob hosting) elsewhere
      (((∅ : Registry).putJob hosting).mergeJob elsewhere).1
      (((∅ : Registry).putJob hosting).mergeJob elsewhere).2 := by
  have hempty : (∅ : Registry).Named ∧ (∅ : Registry).Distinct := ⟨nofun, nofun⟩
  have hnamed : ((∅ : Registry).putJob hosting).Named := hempty.1.insert rfl rfl
  have hnumbers : hosting.Distinct ∧ elsewhere.Distinct := by
    simp only [Job.Distinct]
    decide
  have hdistinct : ((∅ : Registry).putJob hosting).Distinct := hempty.2.insert rfl hnumbers.1
  exact ⟨hnamed, hdistinct, hnumbers.2, mergeJob_merges hnamed hdistinct hnumbers.2⟩

example : (merged (some hosting) elsewhere).instances.map (fun i => (i.number, i.worker)) =
    [(0, some "w1"), (1, none), (2, none)] := by
  decide

end Registry

end Overlay
