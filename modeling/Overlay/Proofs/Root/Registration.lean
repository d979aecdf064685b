import Overlay.Proofs.Root.Scheduling

/-!
# Registering services

What the root does when it registers a service. Each shared address of the job comes from one of
four places (`Registry.Origin`): the job has it, it was asked for and no other job has it, it came
back to the pool before and goes out again, or it is the least number from the counter on that no
job has. Only the third is not looked up among the jobs.
-/

namespace Overlay.Registry

open Overlay.Action (Triple)

variable {r r' s : Registry} {hand : List (Family × String)} {f : Family} {name text : String}
  {requested current : Option String}

/-! ## Round-robin pools -/

theorem roundRobin_regular (f : Family) : (Pool.roundRobin f).Regular :=
  Pool.ofKind_regular _

/-- The text of a number of the round-robin space. -/
def InSharedSpace (f : Family) (text : String) : Prop :=
  ∃ v, text = Codec.render v f ∧ (Pool.roundRobin f).layout.covers v = true

/-- A change of one round-robin pool alone. -/
theorem Books.ofRoundRobin (h : r.Books hand) (hsame : SameBut (Pool.roundRobin f).name r r')
    (hshows : ∃ next free, (Pool.roundRobin f).Shows r' next free) : r'.Books hand where
  named := h.named.congr hsame.jobs
  ledger f' := by
    have hheld : r'.held = r.held := by rw [held, held, hsame.jobs]
    rw [hheld]
    refine (h.ledger f').congr (hsame.pool _ fun heq => ?_) (.refl _)
    cases congrArg PoolKind.purpose (PoolKind.name_inj.1 heq)
  shared := by
    rw [hsame.jobs]
    exact h.shared
  roundRobin f' := by
    by_cases hf : f' = f
    · exact hf ▸ hshows
    · obtain ⟨next, free, hs⟩ := h.roundRobin f'
      refine ⟨next, free, hs.congr (hsame.pool _ fun heq => hf ?_)⟩
      exact congrArg PoolKind.family (PoolKind.name_inj.1 heq)
  gateways id g hg := by
    rw [gateway?, hsame.gateways] at hg
    rw [job?_congr hsame.jobs]
    exact h.gateways id g hg

/-! ## Where a shared address comes from -/

/-- Where a shared address of a job comes from. -/
inductive Origin (r : Registry) (name : String) (requested current : Option String) (f : Family)
    (text : String) : Prop
  /-- The job has it. -/
  | kept : requested.bind nonblank? = none → current = some text →
      Origin r name requested current f text
  /-- It was asked for, and the first job that has it, if any, is the job itself. -/
  | asked : requested.bind nonblank? ≠ none →
      (∀ owner, r.jobByAddress? text = some owner → owner.name = name) →
      Origin r name requested current f text
  /-- It is the last free address of the pool. -/
  | reused {v : Nat} : requested.bind nonblank? = none → current = none →
      text = Codec.render v f →
      (r.pool (Pool.roundRobin f).name).free.getLast? = some (Codec.ofValue v f) →
      Origin r name requested current f text
  /-- The pool has nothing free, and the counter has found an address that no job has. -/
  | counted : requested.bind nonblank? = none → current = none →
      (r.pool (Pool.roundRobin f).name).free = [] → r.jobByAddress? text = none →
      Origin r name requested current f text

/-- The origin depends on the jobs and on the pool's state. -/
theorem Origin.congr (h : Origin r name requested current f text) (hj : r'.jobs = r.jobs)
    (hp : r'.pool (Pool.roundRobin f).name = r.pool (Pool.roundRobin f).name) :
    Origin r' name requested current f text := by
  have hby : r'.jobByAddress? text = r.jobByAddress? text := by
    rw [jobByAddress?, jobByAddress?, hj]
  cases h with
  | kept hreq hcur => exact .kept hreq hcur
  | asked hreq hown => exact .asked hreq (hby ▸ hown)
  | reused hreq hcur htext hlast => exact .reused hreq hcur htext (hp ▸ hlast)
  | counted hreq hcur hfree hnone => exact .counted hreq hcur (hp ▸ hfree) (hby ▸ hnone)

/-- A shared address was given: it lies in the round-robin space and comes from one of the four
places, and only the pool has changed. -/
structure SharedBy (r : Registry) (hand : List (Family × String)) (name : String)
    (requested current : Option String) (f : Family) (text : String) (s : Registry) : Prop where
  origin : Origin r name requested current f text
  inSpace : InSharedSpace f text
  same : SameBut (Pool.roundRobin f).name r s
  books : s.Books hand

/-- A round-robin pool hands an address out: the last free one, or one that no job has. -/
theorem allocateShared_spec (h : r.Books hand) (f : Family)
    (hreq : requested.bind nonblank? = none) (hcur : current = none) :
    Triple (· = r) (Pool.roundRobin f).allocate
      (fun text s => SharedBy r hand name requested current f text s)
      (fun _ s => SameBut (Pool.roundRobin f).name r s ∧ s.Books hand) := by
  obtain ⟨next, free, hshows⟩ := h.roundRobin f
  have hp := roundRobin_regular f
  have hcases := Pool.allocate_cases hp hshows
  have hsame := (Pool.roundRobin f).allocate_sameBut r
  constructor
  · rintro s s' text rfl hx
    rw [hx] at hcases hsame
    cases hcases with
    | @reused front v _ hfree hafter =>
      refine ⟨.reused hreq hcur rfl ?_, ⟨v, rfl, ?_⟩, hsame, h.ofRoundRobin hsame ⟨_, _, hafter⟩⟩
      · rw [hshows.free_eq, hfree]
        simp
        rfl
      · exact (hshows.free_ok v (by simp [hfree])).1.covers
    | @counted v _ hfree hv hle hfresh hskipped hafter =>
      refine ⟨.counted hreq hcur ?_ ?_, ⟨v, rfl, hv.covers⟩, hsame,
        h.ofRoundRobin hsame ⟨_, _, hafter⟩⟩
      · rw [hshows.free_eq, hfree]
        rfl
      · have hchecks : (Pool.roundRobin f).kind.checksJobs = true := rfl
        rw [Pool.taken, hchecks, Bool.true_and, Option.isSome_eq_false_iff] at hfresh
        exact Option.isNone_iff_eq_none.1 hfresh
  · rintro s s' e rfl hx
    rw [hx] at hcases hsame
    cases hcases with
    | exhausted hfree hskipped hafter => exact ⟨hsame, h.ofRoundRobin hsame ⟨_, _, hafter⟩⟩

/-- Trimming a requested text again changes nothing. -/
theorem nonblank?_nonblank? (requested : Option String) :
    (requested.bind nonblank?).bind nonblank? = requested.bind nonblank? := by
  cases requested with
  | none => rfl
  | some t =>
    simp only [Option.bind_some, nonblank?]
    split
    · rfl
    · next h => simp only [Option.bind_some, nonblank?, trimmed_trimmed, if_neg h]

/-- An address that jobs can share lies in the round-robin space. -/
theorem InSharedSpace.of_sharable {wanted : String} (h : Pool.sharable wanted f = .ok text) :
    InSharedSpace f text := by
  rw [Pool.sharable] at h
  cases hparse : Codec.parse wanted f with
  | error fault =>
    rw [hparse] at h
    cases h
  | ok bytes =>
    obtain ⟨v, hspells, rfl⟩ := Codec.Spells.of_parse hparse
    simp only [hparse, Except.mapError, bind, Except.bind, Codec.toValue_ofValue hspells.lt_size,
      Codec.stringify_ofValue] at h
    cases hcovers : (Pool.roundRobin f).layout.covers v with
    | false =>
      rw [hcovers] at h
      cases h
    | true =>
      rw [hcovers] at h
      obtain rfl := Except.ok.inj h
      exact ⟨v, rfl, hcovers⟩

/-- An address is given that was asked for, or one from the pool. -/
theorem assignShared_spec (h : r.Books hand) (name : String) (f : Family)
    (hcur : requested.bind nonblank? = none → current = none) :
    Triple (· = r) (Pool.assignShared name requested f)
      (SharedBy r hand name requested current f)
      (fun _ s => SameBut (Pool.roundRobin f).name r s ∧ s.Books hand) := by
  cases hname : name.isEmpty with
  | true =>
    refine .of_match ?_
    rintro s rfl
    rw [Pool.assignShared, if_pos hname]
    exact ⟨.refl _ s, h⟩
  | false =>
    cases hreq : requested.bind nonblank? with
    | none =>
      rw [Pool.assignShared_of_none hname hreq]
      exact allocateShared_spec h f hreq (hcur hreq)
    | some wanted =>
      constructor
      · rintro s s' text rfl hx
        obtain ⟨rfl, -, hshare, howner⟩ := (Pool.assignShared_eq_ok_iff hreq).1 hx
        exact ⟨.asked (by simp [hreq]) howner, .of_sharable hshare, .refl _ _, h⟩
      · rintro s s' e rfl hx
        obtain rfl : s' = s := (congrArg Prod.snd hx).symm.trans (Pool.assignShared_snd hreq s)
        exact ⟨.refl _ _, h⟩

/-- **One shared address.** The job keeps the one it has, or it is assigned one. -/
theorem sharedAddress_spec (h : r.Books hand) (name : String) (requested current : Option String)
    (f : Family) (hcur : ∀ text, current = some text → InSharedSpace f text) :
    Triple (· = r) (sharedAddress name requested current f)
      (fun given => SharedBy r hand name requested current f given.1)
      (fun _ s => SameBut (Pool.roundRobin f).name r s ∧ s.Books hand) := by
  have hassign : (requested.bind nonblank? = none → current = none) →
      Triple (· = r) (do
        let address ← (Pool.assignShared name (requested.bind nonblank?) f).mapError TierError.pool
        return (address, (requested.bind nonblank?).isNone))
      (fun given => SharedBy r hand name requested current f given.1)
      (fun _ s => SameBut (Pool.roundRobin f).name r s ∧ s.Books hand) := by
    intro hnone
    rw [← nonblank?_nonblank?] at hnone
    refine .bind (.mapError (assignShared_spec h name f hnone)) fun text => .pure fun s hs => ?_
    refine ⟨?_, hs.inSpace, hs.same, hs.books⟩
    have horigin := hs.origin
    cases horigin with
    | kept hreq hc => exact .kept (nonblank?_nonblank? requested ▸ hreq) hc
    | asked hreq ho => exact .asked (nonblank?_nonblank? requested ▸ hreq) ho
    | reused hreq hc ht hl => exact .reused (nonblank?_nonblank? requested ▸ hreq) hc ht hl
    | counted hreq hc hfree hn => exact .counted (nonblank?_nonblank? requested ▸ hreq) hc hfree hn
  unfold sharedAddress
  split
  · next address hreq =>
    refine .pure fun s hs => ?_
    subst hs
    exact ⟨.kept hreq rfl, hcur address rfl, .refl _ s, h⟩
  · next hnot =>
    exact hassign fun hreq => Option.eq_none_iff_forall_ne_some.2 fun a ha => hnot a hreq ha

/-! ## Registering -/

/-- The job that a registration starts from: the one of the name, or a new one. -/
def startingJob (r : Registry) (name systemId : String) : Job :=
  (r.job? name).getD (.new name systemId)

/-- A job once it was registered with an address of each family. -/
def withShared (job : Job) (systemId : String) (texts : Dual String) : Job :=
  { job with systemId, serviceAddresses := [.shared ⟨some texts.v4, some texts.v6⟩] }

/-- A service was registered: each shared address of its job has an origin, and the job was stored
while only pools had changed. -/
inductive Registered (r : Registry) (hand : List (Family × String)) (d : ServiceDescriptor)
    (systemId : String) : Job → Registry → Prop
  | intro {name : String} {texts : Dual String} {taken : Registry} : d.jobName = .ok name →
      (∀ f, Origin r name (d.requested.get f)
        ((r.startingJob name systemId).sharedAddresses.get f) f (texts.get f)) →
      (∀ f, InSharedSpace f (texts.get f)) → Underway r hand taken →
      Registered r hand d systemId (withShared (r.startingJob name systemId) systemId texts)
        (taken.putJob (withShared (r.startingJob name systemId) systemId texts))

/-- The addresses by which a job is shared are among its shared addresses. -/
theorem mem_shared_of_sharedAddresses {job : Job} (h : job.sharedAddresses.get f = some text) :
    (f, text) ∈ job.shared := by
  rw [Job.sharedAddresses] at h
  split at h
  · next a ha =>
    exact List.mem_flatMap.2 ⟨a, List.mem_of_find?_eq_some ha, Dual.mem_present.2 h⟩
  · cases f <;> cases h

/-- A registration starts from a job of its name. -/
theorem Named.name_startingJob (h : r.Named) (name systemId : String) :
    (r.startingJob name systemId).name = name := by
  rw [startingJob]
  cases hjob : r.job? name with
  | none => rfl
  | some old => exact h name old hjob

/-- A job that a registration starts from has its name, and shares addresses of the round-robin
space. -/
theorem startingJob_spec (h : r.Books hand) (name systemId : String) :
    (r.startingJob name systemId).name = name ∧
      ∀ f text, (f, text) ∈ (r.startingJob name systemId).shared → InSharedSpace f text := by
  refine ⟨h.named.name_startingJob name systemId, ?_⟩
  rw [startingJob]
  cases hjob : r.job? name with
  | none => exact nofun
  | some job => exact h.shared job (mem_of_job? hjob)

/-- A registration stores the job that it started from, with other shared addresses. -/
theorem Registered.stored {d : ServiceDescriptor} {systemId : String} {job : Job}
    (h : r.Books hand) (hr : Registered r hand d systemId job s) :
    (∃ texts, job = withShared (r.startingJob job.name systemId) systemId texts) ∧
      s.jobs = r.jobs.insert job.name job ∧ s.gateways = r.gateways := by
  obtain ⟨-, -, -, hframe, -⟩ := hr
  rename_i name texts taken
  have hname : (withShared (r.startingJob name systemId) systemId texts).name = name :=
    (startingJob_spec h name systemId).1
  refine ⟨⟨texts, ?_⟩, ?_, hframe.gateways⟩
  · rw [hname]
  · rw [putJob, hframe.jobs]

/-- Giving an address back to a round-robin pool. -/
theorem releaseShared_spec (h : r.Books hand) (f : Family) (text : String) :
    Triple (· = r) ((Pool.roundRobin f).release text) (fun _ => Underway r hand)
      (fun _ => Underway r hand) := by
  obtain ⟨next, free, hshows⟩ := h.roundRobin f
  have hsame := (Pool.roundRobin f).release_sameBut text r
  have hafter := hshows.after_release (roundRobin_regular f) text
  refine .of_after fun s hs => ?_
  rw [hs]
  exact ⟨.ofSameBut hsame, h.ofRoundRobin hsame hafter⟩

/-- **Registering.** A failure leaves the registry as it was but for its pools. -/
theorem register_spec (h : r.Books hand) (d : ServiceDescriptor) (systemId : String) :
    Triple (· = r) (register d systemId) (Registered r hand d systemId)
      (fun _ => Underway r hand) := by
  simp only [register, Action.throw_bind]
  refine .bind (R := fun name s => s = r ∧ d.jobName = .ok name) (.ofExcept ?_ ?_) fun name => ?_
  · intro name s hname hs
    cases hd : d.jobName with
    | ok name' =>
      rw [hd] at hname
      exact ⟨hs, congrArg _ (Except.ok.inj hname)⟩
    | error fault =>
      rw [hd] at hname
      cases hname
  · exact fun e s _ hs => hs ▸ h.underway
  split
  · exact .throw fun s hs => hs.1 ▸ h.underway
  refine .bind (R := fun found s => s = r ∧ d.jobName = .ok name ∧ found = r.job? name)
    (.inspect fun s hs => ⟨hs.1, hs.2, hs.1 ▸ rfl⟩) fun found => .of_forall fun s hs => ?_
  obtain ⟨rfl, hname, rfl⟩ := hs
  have hstart := startingJob_spec h name systemId
  have hspace : ∀ f text, (s.startingJob name systemId).sharedAddresses.get f = some text →
      InSharedSpace f text :=
    fun f text ht => hstart.2 f text (mem_shared_of_sharedAddresses ht)
  refine .bind ((sharedAddress_spec h name d.requested.v4
    (s.startingJob name systemId).sharedAddresses.v4 .v4 (hspace .v4)).mono (fun _ _ ht => ht)
    fun e t ht => ⟨.ofSameBut ht.1, ht.2⟩) fun given => ?_
  obtain ⟨v4, taken⟩ := given
  refine .of_forall fun r4 h4 => ?_
  refine .attempt_bind (sharedAddress_spec h4.books name d.requested.v6
    (s.startingJob name systemId).sharedAddresses.v6 .v6 (hspace .v6)) (fun given6 => ?_) fun e => ?_
  · obtain ⟨v6, taken6⟩ := given6
    refine .bind (.modify (Q := fun _ => Registered s hand d systemId
      (withShared (s.startingJob name systemId) systemId ⟨v4, v6⟩)) fun r6 h6 => ?_)
      fun _ => .pure fun _ ht => ht
    -- the second address was looked for after the first one had left its pool
    have hapart : (Pool.roundRobin .v6).name ≠ (Pool.roundRobin .v4).name := by decide
    have horigin6 := h6.origin.congr h4.same.jobs.symm (h4.same.pool _ hapart).symm
    refine @Registered.intro _ _ _ _ name ⟨v4, v6⟩ _ hname ?_ ?_
      ⟨(OnlyPools.ofSameBut h4.same).trans (.ofSameBut h6.same), h6.books⟩
    · rintro (_ | _)
      · exact h4.origin
      · exact horigin6
    · rintro (_ | _)
      · exact h4.inSpace
      · exact h6.inSpace
  · have hunder : ∀ t, SameBut (Pool.roundRobin .v6).name r4 t ∧ t.Books hand →
        Underway s hand t :=
      fun t ht => ⟨(OnlyPools.ofSameBut h4.same).trans (.ofSameBut ht.1), ht.2⟩
    dsimp only
    split
    · refine .of_forall fun t ht => ?_
      have hback := (releaseShared_spec ht.2 .v4 v4).mono
        (fun _ u hu => (⟨(hunder t ht).1.trans hu.1, hu.2⟩ : Underway s hand u))
        (fun _ u hu => (⟨(hunder t ht).1.trans hu.1, hu.2⟩ : Underway s hand u))
      refine .attempt_bind hback (fun _ => ?_) fun _ => ?_
      · exact .throw fun _ hu => hu
      · exact .throw fun _ hu => hu
    · exact .throw fun t ht => hunder t ht

/-- A registration stores a job that holds what it held before. -/
theorem Registered.books {d : ServiceDescriptor} {systemId : String} {job : Job}
    (h : r.Books hand) (hr : Registered r hand d systemId job s) : s.Books hand := by
  obtain ⟨hname, horigin, hspace, hframe, hbooks⟩ := hr
  rename_i name texts taken
  obtain ⟨hn, -⟩ := startingJob_spec h name systemId
  refine hbooks.store rfl rfl rfl rfl ?_ ?_
  · intro f text hm
    simp only [withShared, Job.shared, ServiceAddress.shared, List.flatMap_singleton,
      Dual.mem_present] at hm
    cases f with
    | v4 => exact Option.some.inj hm ▸ hspace .v4
    | v6 => exact Option.some.inj hm ▸ hspace .v6
  · refine List.Perm.append_right hand ?_
    have hjobs : ∀ key, taken.job? key = r.job? key := job?_congr hframe.jobs
    have hkey : (withShared (r.startingJob name systemId) systemId texts).name = name := hn
    cases hjob : r.job? name with
    | none =>
      have hperm := held_insert_of_none (s := taken.putJob
        (withShared (r.startingJob name systemId) systemId texts)) rfl
        (by rw [hkey, hjobs, hjob])
      simpa [withShared, startingJob, hjob, Job.held, Job.new] using hperm
    | some old =>
      refine held_insert_of_same rfl (by rw [hkey, hjobs, hjob]) ?_
      simp [withShared, startingJob, hjob, Job.held]

end Overlay.Registry
