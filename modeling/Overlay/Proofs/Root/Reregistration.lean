import Overlay.Proofs.Registry.Merging
import Overlay.Proofs.Root.Registration

/-!
# Registering again

A service that is registered once more is left as it is. Each of its shared addresses was given in
one of three ways (`Registry.Given`): the job had it, it was asked for, or the pool has handed it
out. The second time the job has it, so the pool is not touched; and if it is asked for again, the
first job that has it is the job itself, whoever came first before (`Registry.Given.again`).
`Registry.register_again` draws the conclusion. It says as well what a registration leaves alone, and
that a job with both addresses keeps them.
-/

namespace Overlay

namespace Registry

variable {r r' s : Registry} {f : Family} {name text systemId : String} {taken : Bool}
  {requested current : Option String} {d : ServiceDescriptor} {job : Job}

/-! ## Shared addresses -/

/-- How a shared address is given. -/
inductive Given (r : Registry) (name : String) (requested current : Option String) (f : Family) :
    String → Bool → Registry → Prop
  /-- The job has it. -/
  | kept {text : String} : requested.bind nonblank? = none → current = some text →
      Given r name requested current f text false r
  /-- It is asked for, and the first job that has it, if any, is the job itself. -/
  | asked {wanted text : String} : requested.bind nonblank? = some wanted →
      name.isEmpty = false → Pool.sharable wanted f = .ok text →
      (∀ owner, r.jobByAddress? text = some owner → owner.name = name) →
      Given r name requested current f text false r
  /-- The pool hands it out. -/
  | drawn {text : String} {s : Registry} : requested.bind nonblank? = none → current = none →
      name.isEmpty = false → (Pool.roundRobin f).allocate r = (.ok text, s) →
      Given r name requested current f text true s

/-- An address that the job does not keep is assigned. -/
theorem sharedAddress_of_assigned (hnew : requested.bind nonblank? = none → current = none) :
    sharedAddress name requested current f r = (.ok (text, taken), s) ↔
      Pool.assignShared name (requested.bind nonblank?) f r = (.ok text, s) ∧
        taken = (requested.bind nonblank?).isNone := by
  have hassign : sharedAddress name requested current f = do
      let address ← (Pool.assignShared name (requested.bind nonblank?) f).mapError .pool
      return (address, (requested.bind nonblank?).isNone) := by
    unfold sharedAddress
    split
    · next address hreq => cases hnew hreq
    · rfl
  rw [hassign, Action.bind_eq_ok_iff]
  constructor
  · rintro ⟨address, s', haddress, hpure⟩
    cases hpure
    exact ⟨Action.mapError_eq_ok_iff.1 haddress, rfl⟩
  · rintro ⟨haddress, rfl⟩
    exact ⟨text, s, Action.mapError_eq_ok_iff.2 haddress, rfl⟩

/-- **Giving a shared address.** There is no other way. -/
theorem sharedAddress_eq_ok_iff : sharedAddress name requested current f r = (.ok (text, taken), s) ↔
    Given r name requested current f text taken s := by
  constructor
  · intro h
    -- A request comes first, then the address that the job has, and the pool last.
    cases hreq : requested.bind nonblank? with
    | some wanted =>
      rw [sharedAddress_of_assigned fun hnone => absurd hreq (hnone ▸ nofun), hreq] at h
      obtain ⟨hassign, rfl⟩ := h
      rw [← hreq, Pool.assignShared_eq_ok_iff ((nonblank?_nonblank? requested).trans hreq)] at hassign
      obtain ⟨rfl, hname, hshare, howner⟩ := hassign
      exact .asked hreq hname hshare howner
    | none =>
    cases current with
    | some address =>
      simp only [sharedAddress, hreq] at h
      cases h
      exact .kept hreq rfl
    | none =>
      rw [sharedAddress_of_assigned fun _ => rfl, hreq] at h
      obtain ⟨hassign, rfl⟩ := h
      cases hname : name.isEmpty with
      | true =>
        rw [Pool.assignShared, if_pos hname] at hassign
        cases hassign
      | false =>
        rw [Pool.assignShared_of_none hname rfl] at hassign
        exact .drawn hreq rfl hname hassign
  · rintro (⟨hreq, rfl⟩ | ⟨hreq, hname, hshare, howner⟩ | ⟨hreq, rfl, hname, hdrawn⟩)
    · simp only [sharedAddress, hreq]
      rfl
    · rw [sharedAddress_of_assigned fun hnone => absurd hreq (hnone ▸ nofun),
        Pool.assignShared_eq_ok_iff ((nonblank?_nonblank? requested).trans hreq), hreq]
      exact ⟨⟨rfl, hname, hshare, howner⟩, rfl⟩
    · rw [sharedAddress_of_assigned fun _ => rfl, hreq, Pool.assignShared_of_none hname rfl]
      exact ⟨hdrawn, rfl⟩

/-- Only pools have changed. -/
theorem Given.onlyPools (h : Given r name requested current f text taken s) : r.OnlyPools s := by
  cases h with
  | kept | asked => exact .refl r
  | drawn _ _ _ hdrawn =>
    have hsame := (Pool.roundRobin f).allocate_sameBut r
    rw [hdrawn] at hsame
    exact .ofSameBut hsame

/-- The first job that has an address, if any, is the job itself: then it still is once the job was
stored with the address. -/
theorem owner_of_insert (hnamed : r.Named)
    (howner : ∀ owner, r.jobByAddress? text = some owner → owner.name = name)
    (hj : r'.jobs = r.jobs.insert name job) (hname : job.name = name)
    (hhas : job.hasAddress text = true) :
    ∀ owner, r'.jobByAddress? text = some owner → owner.name = name := by
  have hfound : r'.jobByAddress? text = some job := by
    refine jobByAddress?_insert hj hhas fun key owner hkey hfirst => ?_
    exact (hnamed key owner hkey).symm.trans (howner owner hfirst)
  intro owner hother
  obtain rfl := Option.some.inj (hfound.symm.trans hother)
  exact hname

/-- **Once more.** A job that was stored with the address that it was given is given the address
again, and nothing changes. -/
theorem Given.again (h : Given r name requested current f text taken s) (hnamed : r.Named)
    (hj : r'.jobs = r.jobs.insert name job) (hname : job.name = name)
    (hhas : job.hasAddress text = true) : Given r' name requested (some text) f text false r' := by
  cases h with
  | kept hreq _ => exact .kept hreq rfl
  -- What the pool has handed out, the job has from then on.
  | drawn hreq _ _ _ => exact .kept hreq rfl
  | asked hreq hnonempty hshare howner =>
    exact .asked hreq hnonempty hshare (owner_of_insert hnamed howner hj hname hhas)

/-! ## Registering -/

/-- A registration that was made: an address of each family was given, and the job was stored with
them. -/
inductive Enrols (r : Registry) (d : ServiceDescriptor) (systemId : String) : Job → Registry → Prop
  | intro {name v4 v6 : String} {taken4 taken6 : Bool} {r4 r6 : Registry} :
      d.jobName = .ok name → isBlankText systemId = false →
      Given r name d.requested.v4 (r.startingJob name systemId).sharedAddresses.v4 .v4 v4 taken4 r4 →
      Given r4 name d.requested.v6 (r.startingJob name systemId).sharedAddresses.v6 .v6 v6 taken6
        r6 →
      Enrols r d systemId (withShared (r.startingJob name systemId) systemId ⟨v4, v6⟩)
        (r6.putJob (withShared (r.startingJob name systemId) systemId ⟨v4, v6⟩))

/-- A registration asks for an address of each family. If the second one is not given, the first one
goes back to the pool that it was taken from. -/
theorem register_of_jobName (hname : d.jobName = .ok name) (hid : isBlankText systemId = false)
    (r : Registry) : register d systemId r = (do
      let given ← sharedAddress name d.requested.v4
        (r.startingJob name systemId).sharedAddresses.v4 .v4
      match ← (sharedAddress name d.requested.v6
        (r.startingJob name systemId).sharedAddresses.v6 .v6).attempt with
      | .error e =>
        if given.2 then
          let _ ← ((Pool.roundRobin .v4).release given.1).attempt
        throw e
      | .ok (v6, _) =>
        let job := withShared (r.startingJob name systemId) systemId ⟨given.1, v6⟩
        .modify fun r => r.putJob job
        return job : Action Registry TierError Job) r := by
  simp only [register, hname, hid]
  rfl

/-- Without a name or an identifier nothing is registered. -/
theorem register_of_blank (hid : isBlankText systemId = true) (hname : d.jobName = .ok name)
    (r : Registry) : register d systemId r = (.error (.badArgument .systemIdEmpty), r) := by
  simp only [register, hname, hid]
  rfl

/-- **Registering.** There is no other way to register a service. -/
theorem register_eq_ok_iff : register d systemId r = (.ok job, s) ↔ Enrols r d systemId job s := by
  constructor
  · intro h
    cases hname : d.jobName with
    | error fault =>
      rw [register, hname] at h
      cases h
    | ok name =>
    cases hid : isBlankText systemId with
    | true =>
      rw [register_of_blank hid hname] at h
      cases h
    | false =>
    rw [register_of_jobName hname hid] at h
    obtain ⟨⟨v4, taken4⟩, r4, h4, h⟩ := Action.bind_eq_ok_iff.1 h
    obtain ⟨outcome, r6, h6, h⟩ := Action.bind_eq_ok_iff.1 h
    rw [Action.attempt_eq_ok_iff] at h6
    cases outcome with
    | error e =>
      dsimp only at h
      split at h
      · obtain ⟨-, -, -, h⟩ := Action.bind_eq_ok_iff.1 h
        cases h
      · cases h
    | ok given6 =>
      obtain ⟨v6, taken6⟩ := given6
      cases h
      exact .intro hname hid (sharedAddress_eq_ok_iff.1 h4) (sharedAddress_eq_ok_iff.1 h6)
  · rintro ⟨hname, hid, h4, h6⟩
    rw [register_of_jobName hname hid, Action.bind_of_ok (sharedAddress_eq_ok_iff.2 h4),
      Action.bind_of_ok (Action.attempt_eq_ok_iff.2 (sharedAddress_eq_ok_iff.2 h6))]
    rfl

/-- A job that was registered shares the addresses that it was given. -/
theorem sharedAddresses_withShared (job : Job) (systemId : String) (texts : Dual String) :
    (withShared job systemId texts).sharedAddresses = ⟨some texts.v4, some texts.v6⟩ := rfl

/-- A job that was registered has the addresses that it was given. -/
theorem hasAddress_withShared (job : Job) (systemId : String) (texts : Dual String) (f : Family) :
    (withShared job systemId texts).hasAddress (texts.get f) = true := by
  refine List.any_eq_true.2 ⟨texts.get f, Job.mem_addressTexts.2 ⟨f, .inl ?_⟩, by simp⟩
  refine mem_shared_of_sharedAddresses ?_
  rw [sharedAddresses_withShared]
  cases f <;> rfl

/-- What a registration does to the jobs. -/
theorem Enrols.jobs (hnamed : r.Named) (h : Enrols r d systemId job s) :
    d.jobName = .ok job.name ∧ s.jobs = r.jobs.insert job.name job ∧
      ∃ texts, job = withShared (r.startingJob job.name systemId) systemId texts := by
  obtain ⟨hname, -, h4, h6⟩ := h
  rename_i name v4 v6 _ _ r4 r6
  have hkey : (withShared (r.startingJob name systemId) systemId ⟨v4, v6⟩).name = name :=
    hnamed.name_startingJob name systemId
  have hframe : r.OnlyPools r6 := h4.onlyPools.trans h6.onlyPools
  refine ⟨hname.trans (congrArg _ hkey.symm), ?_, ⟨v4, v6⟩, ?_⟩
  · rw [putJob, hframe.jobs]
  · rw [hkey]

/-- A job that is given the addresses that it has is stored with them, and no pool is touched. -/
theorem Enrols.of_shared {old : Job} {v4 v6 : String} (hname : d.jobName = .ok name)
    (hid : isBlankText systemId = false) (hold : r.job? name = some old)
    (hshared : old.sharedAddresses = ⟨some v4, some v6⟩)
    (h4 : Given r name d.requested.v4 (some v4) .v4 v4 false r)
    (h6 : Given r name d.requested.v6 (some v6) .v6 v6 false r) :
    Enrols r d systemId (withShared old systemId ⟨v4, v6⟩)
      (r.putJob (withShared old systemId ⟨v4, v6⟩)) := by
  have hstart : r.startingJob name systemId = old := by
    rw [startingJob, hold]
    rfl
  have hv4 : (r.startingJob name systemId).sharedAddresses.v4 = some v4 := by
    rw [hstart, hshared]
  have hv6 : (r.startingJob name systemId).sharedAddresses.v6 = some v6 := by
    rw [hstart, hshared]
  have henrols := Enrols.intro hname hid (hv4 ▸ h4) (hv6 ▸ h6)
  rwa [hstart] at henrols

/-- **Once more.** A registration that was made is made again, and changes nothing. -/
theorem Enrols.again (hnamed : r.Named) (h : Enrols r d systemId job s) :
    Enrols s d systemId job s := by
  obtain ⟨-, hstored, -⟩ := h.jobs hnamed
  obtain ⟨hname, hid, h4, h6⟩ := h
  rename_i name v4 v6 _ _ r4 r6
  generalize hjob : withShared (r.startingJob name systemId) systemId ⟨v4, v6⟩ = job at hstored ⊢
  have hkey : job.name = name := by
    rw [← hjob]
    exact hnamed.name_startingJob name systemId
  rw [hkey] at hstored
  have hget : (r6.putJob job).job? name = some job := by
    rw [job?, hstored]
    exact Table.get?_insert_self ..
  have hhas : ∀ f, job.hasAddress ((⟨v4, v6⟩ : Dual String).get f) = true := by
    rw [← hjob]
    exact hasAddress_withShared _ systemId ⟨v4, v6⟩
  have hshared : job.sharedAddresses = ⟨some v4, some v6⟩ := hjob ▸ rfl
  have hagain := Enrols.of_shared hname hid hget hshared
    (h4.again hnamed hstored hkey (hhas .v4))
    (h6.again (hnamed.congr h4.onlyPools.jobs) (h4.onlyPools.jobs ▸ hstored) hkey (hhas .v6))
  have hsame : withShared job systemId ⟨v4, v6⟩ = job := hjob ▸ rfl
  have hput : (r6.putJob job).putJob job = r6.putJob job := by
    rw [putJob, hkey, Table.insert_of_get? hget]
  rwa [hsame, hput] at hagain

/-! ## What stays -/

/-- What a registration leaves as it is, and what is left as it is when it is made again. -/
structure Reregisters (r : Registry) (d : ServiceDescriptor) (systemId : String) : Prop where
  /-- The second time the same job is given, and neither a job nor a pool changes. -/
  again : ∀ job s, register d systemId r = (.ok job, s) → register d systemId s = (.ok job, s)
  /-- A job that was there keeps its instances, its parties and the number of its next instance. -/
  kept : ∀ job s name old, register d systemId r = (.ok job, s) → d.jobName = .ok name →
    r.job? name = some old → s.job? name = some job ∧ job.instances = old.instances ∧
      job.parties = old.parties ∧ job.nextNumber = old.nextNumber
  /-- Nothing happens to other jobs. -/
  others : ∀ job s name, register d systemId r = (.ok job, s) → d.jobName ≠ .ok name →
    s.job? name = r.job? name
  /-- A job with both addresses keeps them if it asks for no others. Only its record is written,
  whatever the identifier; a blank one is refused. -/
  shared : ∀ name old v4 v6, d.jobName = .ok name → r.job? name = some old →
    old.sharedAddresses = ⟨some v4, some v6⟩ → (∀ f, (d.requested.get f).bind nonblank? = none) →
    ∃ job, job.sharedAddresses = ⟨some v4, some v6⟩ ∧ register d systemId r =
      if isBlankText systemId then (.error (.badArgument .systemIdEmpty), r)
      else (.ok job, r.putJob job)

/-- **Registering again.** Where records stand under their names, a service can be registered any
number of times. -/
theorem register_again (hnamed : r.Named) (d : ServiceDescriptor) (systemId : String) :
    r.Reregisters d systemId := by
  refine ⟨fun job s h => ?_, fun job s name old h hname hold => ?_, fun job s name h hne => ?_,
    fun name old v4 v6 hname hold hshared hfree => ?_⟩
  · exact register_eq_ok_iff.2 ((register_eq_ok_iff.1 h).again hnamed)
  · obtain ⟨hjob, hstored, texts, hwith⟩ := (register_eq_ok_iff.1 h).jobs hnamed
    obtain rfl : job.name = name := Except.ok.inj (hjob.symm.trans hname)
    have hstart : r.startingJob job.name systemId = old := by
      rw [startingJob, hold]
      rfl
    rw [hstart] at hwith
    have hget : s.job? job.name = some job := by
      rw [job?, hstored]
      exact Table.get?_insert_self ..
    refine ⟨hget, ?_, ?_, ?_⟩
    · rw [hwith, withShared]
    · rw [hwith, withShared]
    · rw [hwith, withShared]
  · obtain ⟨hjob, hstored, -⟩ := (register_eq_ok_iff.1 h).jobs hnamed
    have hother : name ≠ job.name := by
      rintro rfl
      exact hne hjob
    rw [job?, hstored]
    exact Table.get?_insert_of_ne _ hother _
  · refine ⟨withShared old systemId ⟨v4, v6⟩, sharedAddresses_withShared .., ?_⟩
    split
    · next hid => exact register_of_blank hid hname r
    · next hid =>
      rw [Bool.not_eq_true] at hid
      exact register_eq_ok_iff.2
        (.of_shared hname hid hold hshared (.kept (hfree .v4) rfl) (.kept (hfree .v6) rfl))

/-- A service that asks for one of its addresses and has the pool give the other. -/
def asking : ServiceDescriptor :=
  ⟨"a", "n", "s", "n", ⟨some " 10.30.0.7 ", none⟩⟩

/-- A job is there already, with instances and without shared addresses. -/
theorem register_again_hosting : (((∅ : Registry).putJob hosting).Named ∧
      (register asking "K" ((∅ : Registry).putJob hosting)).1.isOk = true) ∧
    ((∅ : Registry).putJob hosting).Reregisters asking "K" := by
  have hempty : (∅ : Registry).Named := nofun
  have hnamed : ((∅ : Registry).putJob hosting).Named := hempty.insert rfl rfl
  exact ⟨⟨hnamed, by decide +kernel⟩, register_again hnamed asking "K"⟩

end Registry

end Overlay
