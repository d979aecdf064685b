import Mathlib.Data.List.Nodup
import Mathlib.Data.List.Pairwise
import Overlay.Proofs.Root.Runs

/-!
# Whose address is it?

Two jobs of a root should never bind one IP address, and neither should two instances of one job
(`Registry.Unambiguous`). Instance addresses never clash: the ledger of their pools says so. The
shared addresses of jobs come from four places (`Registry.Origin`), and only one of them is not
looked up among the jobs: the free list of a round-robin pool. An address that a job asked for stays
on that list, so a later registration may take it from there (`Registry.Reissue`).

`RootTier.unambiguous_iff`: the addresses of a run are unambiguous at every moment exactly if no
registration of the run takes from the free list what another job binds.
-/

namespace Overlay

/-- An instance binds the IP addresses that its addresses spell. -/
def Instance.Binds (i : Instance) (a : IpAddress) : Prop :=
  ∃ e ∈ i.addresses.present, IpAddress.denoted? e.2 = some a

/-- A job binds its shared addresses and those of its instances. -/
def Job.Binds (job : Job) (a : IpAddress) : Prop :=
  ∃ text ∈ job.addressTexts, IpAddress.denoted? text = some a

namespace Registry

variable {r r' s : Registry} {hand : List (Family × String)} {f : Family} {text : String}
  {job other : Job} {a : IpAddress}

/-- No IP address is bound by two jobs, nor by two instances of a job. -/
structure Unambiguous (r : Registry) : Prop where
  jobs : ∀ job ∈ r.jobs.values, ∀ other ∈ r.jobs.values, ∀ a, job.Binds a → other.Binds a →
    job = other
  instances : ∀ job ∈ r.jobs.values, job.instances.Pairwise fun i j => ∀ a, i.Binds a → ¬ j.Binds a

/-- No round-robin address is shared by two jobs. -/
def Apart (r : Registry) : Prop :=
  ∀ job ∈ r.jobs.values, ∀ other ∈ r.jobs.values, ∀ e, e ∈ job.shared → e ∈ other.shared →
    job = other

/-! ## Instance addresses -/

theorem count_ofFamily (held : List (Family × String)) :
    (ofFamily f held).count text = held.count (f, text) := by
  induction held with
  | nil => rfl
  | cons e rest ih =>
    obtain ⟨f', text'⟩ := e
    by_cases hf : f' = f
    · subst hf
      rw [ofFamily_cons_self, List.count_cons, List.count_cons, ih]
      simp
    · rw [ofFamily_cons_of_ne hf, List.count_cons_of_ne (by simp [hf]), ih]

/-- What is held is held once. -/
theorem Books.nodup_held (h : r.Books hand) : r.held.Nodup := by
  rw [List.nodup_iff_count_le_one]
  rintro ⟨f, text⟩
  have hnodup := (ledger_iff.1 (h.ledger f)).nodup (instances_regular f)
  have hcount := List.nodup_iff_count_le_one.1 hnodup text
  rw [count_ofFamily, List.count_append] at hcount
  omega

/-- What is bound is a rendered number. -/
theorem Books.bound (h : r.Books hand) (hjob : job ∈ r.jobs.values) :
    (∀ f text, (f, text) ∈ job.shared → ∃ v, text = Codec.render v f ∧
      (Pool.roundRobin f).layout.covers v = true) ∧
    ∀ f text, (f, text) ∈ job.held → ∃ v, text = Codec.render v f ∧
      (Pool.instances f).layout.covers v = true := by
  refine ⟨h.shared job hjob, fun f text hm => ?_⟩
  have hheld : (f, text) ∈ r.held := List.mem_flatMap.2 ⟨job, hjob, hm⟩
  obtain ⟨-, -, v, -, hrender, hok, -⟩ := (h.ledger f).mem_held (List.mem_append_left hand hheld)
  exact ⟨v, hrender, hok.covers⟩

/-- A number of either space is less than the number of addresses. -/
theorem lt_of_covers {v : Nat} (h : (Pool.roundRobin f).layout.covers v = true ∨
    (Pool.instances f).layout.covers v = true) : v < f.size := by
  rcases h with h | h
  · exact roundRobin_lt h
  · have hp := instances_regular f
    exact Nat.lt_trans (hp.layout.lt_limit_of_covers h) hp.limit_lt

/-- What is bound is bound under one text: the rendered number. -/
theorem Books.binds_iff (h : r.Books hand) (hjob : job ∈ r.jobs.values) :
    job.Binds a ↔ ∃ f v, a = IpAddress.ofValue f v ∧ v < f.size ∧
      ((f, Codec.render v f) ∈ job.shared ∧ (Pool.roundRobin f).layout.covers v = true ∨
        (f, Codec.render v f) ∈ job.held ∧ (Pool.instances f).layout.covers v = true) := by
  obtain ⟨hshared, hheld⟩ := h.bound hjob
  constructor
  · rintro ⟨text, hmem, hden⟩
    obtain ⟨f, hm | hm⟩ := Job.mem_addressTexts.1 hmem
    · obtain ⟨v, rfl, hv⟩ := hshared f text hm
      rw [Codec.denoted?_render] at hden
      exact ⟨f, v, (Option.some.inj hden).symm, lt_of_covers (.inl hv), .inl ⟨hm, hv⟩⟩
    · obtain ⟨v, rfl, hv⟩ := hheld f text hm
      rw [Codec.denoted?_render] at hden
      exact ⟨f, v, (Option.some.inj hden).symm, lt_of_covers (.inr hv), .inr ⟨hm, hv⟩⟩
  · rintro ⟨f, v, rfl, -, hm⟩
    refine ⟨Codec.render v f, Job.mem_addressTexts.2 ⟨f, ?_⟩, Codec.denoted?_render v f⟩
    exact hm.imp And.left And.left

/-- **Owners.** An address that a job holds is bound by no other job. -/
theorem Books.eq_of_held (h : r.Books hand) (hjob : job ∈ r.jobs.values)
    (hother : other ∈ r.jobs.values) (hm : (f, text) ∈ job.held)
    (hden : IpAddress.denoted? text = some a) (hbinds : other.Binds a) : other = job := by
  obtain ⟨v, rfl, hspace⟩ := (h.bound hjob).2 f text hm
  rw [Codec.denoted?_render] at hden
  obtain ⟨f', v', heq, hv', hcases⟩ := (h.binds_iff hother).1 hbinds
  obtain ⟨rfl, rfl⟩ := IpAddress.ofValue_inj (lt_of_covers (.inr hspace)) hv'
    ((Option.some.inj hden).trans heq)
  rcases hcases with ⟨-, hspace'⟩ | ⟨hm', -⟩
  · rw [Pool.disjoint hspace] at hspace'
    cases hspace'
  · -- one entry of the ledger belongs to one job
    refine Classical.byContradiction fun hne => ?_
    have hsymm : Std.Symm fun job other : Job => job.held.Disjoint other.held :=
      ⟨fun _ _ => List.disjoint_symm⟩
    exact (List.nodup_flatMap.1 h.nodup_held).2.forall hother hjob hne hm' hm

/-- **Unambiguous addresses.** Where the books are kept, addresses are unambiguous as soon as no
round-robin address is shared by two jobs. -/
theorem Books.unambiguous (h : r.Books hand) (hapart : r.Apart) : r.Unambiguous := by
  have hnodup := List.nodup_flatMap.1 h.nodup_held
  constructor
  · intro job hjob other hother a hj ho
    obtain ⟨f, v, rfl, hv, hcases⟩ := (h.binds_iff hjob).1 hj
    obtain ⟨f', v', heq, hv', hcases'⟩ := (h.binds_iff hother).1 ho
    obtain ⟨rfl, rfl⟩ := IpAddress.ofValue_inj hv hv' heq
    rcases hcases with ⟨hm, -⟩ | ⟨hm, -⟩
    · rcases hcases' with ⟨hm', -⟩ | ⟨hm', -⟩
      · exact hapart job hjob other hother _ hm hm'
      · exact h.eq_of_held hother hjob hm' (Codec.denoted?_render v f) hj
    · exact (h.eq_of_held hjob hother hm (Codec.denoted?_render v f) ho).symm
  · intro job hjob
    have hinstances := (List.nodup_flatMap.1 (hnodup.1 job hjob)).2
    refine hinstances.imp_of_mem fun {i j} hi hj hdisjoint a hia hja => ?_
    obtain ⟨⟨f, text⟩, hm, hden⟩ := hia
    obtain ⟨⟨f', text'⟩, hm', hden'⟩ := hja
    obtain ⟨v, rfl, hv⟩ := (h.bound hjob).2 f text (List.mem_flatMap.2 ⟨i, hi, hm⟩)
    obtain ⟨v', rfl, hv'⟩ := (h.bound hjob).2 f' text' (List.mem_flatMap.2 ⟨j, hj, hm'⟩)
    rw [Codec.denoted?_render] at hden hden'
    obtain ⟨rfl, rfl⟩ := IpAddress.ofValue_inj (lt_of_covers (.inr hv)) (lt_of_covers (.inr hv'))
      (Option.some.inj (hden.trans hden'.symm))
    exact hdisjoint hm hm'

/-! ## Shared addresses -/

/-- A registry whose jobs share what jobs of the same name have shared before, or nothing. -/
def SharesLess (r r' : Registry) : Prop :=
  ∀ job' ∈ r'.jobs.values, job'.shared = [] ∨
    ∃ job ∈ r.jobs.values, job.name = job'.name ∧ job.shared = job'.shared

namespace SharesLess

theorem ofJobs (h : r'.jobs = r.jobs) : SharesLess r r' :=
  fun job hjob => .inr ⟨job, h ▸ hjob, rfl, rfl⟩

theorem trans (h : SharesLess r r') (h' : SharesLess r' s) : SharesLess r s := by
  intro job hjob
  rcases h' job hjob with hnil | ⟨job', hjob', hname, hshared⟩
  · exact .inl hnil
  · rcases h job' hjob' with hnil | ⟨job₀, hjob₀, hname₀, hshared₀⟩
    · exact .inl (hshared ▸ hnil)
    · exact .inr ⟨job₀, hjob₀, hname₀.trans hname, hshared₀.trans hshared⟩

theorem ofSameBooks (h : SameBooks r r') : SharesLess r r' := by
  intro job hjob
  obtain ⟨name, hname⟩ := Table.mem_values_iff.1 hjob
  obtain ⟨old, hold, hsame⟩ := h.exists_job hname
  exact .inr ⟨old, mem_of_job? hold, (congrArg Job.name hsame).symm,
    (congrArg Job.shared hsame).symm⟩

/-- A job is stored that shares nothing, or what the job shared whose place it takes. -/
theorem insert {name : String} (hj : r'.jobs = r.jobs.insert name other)
    (h : other.shared = [] ∨ ∃ job, r.job? name = some job ∧ job.name = other.name ∧
      job.shared = other.shared) : SharesLess r r' := by
  intro job' hjob'
  obtain ⟨key, hkey⟩ := Table.mem_values_iff.1 hjob'
  rw [hj, Table.get?_insert] at hkey
  split at hkey
  · obtain rfl := Option.some.inj hkey
    rcases h with hnil | ⟨job, hjob, hname, hshared⟩
    · exact .inl hnil
    · exact .inr ⟨job, mem_of_job? hjob, hname, hshared⟩
  · exact .inr ⟨job', Table.mem_values_iff.2 ⟨key, hkey⟩, rfl, rfl⟩

/-- Where no more is shared, nothing is shared by two jobs. -/
theorem apart (h : SharesLess r r') (hnamed : r'.Named) (hapart : r.Apart) : r'.Apart := by
  intro job' hjob' other' hother' e hm hm'
  have hfind : ∀ job ∈ r'.jobs.values, e ∈ job.shared →
      ∃ old ∈ r.jobs.values, old.name = job.name ∧ e ∈ old.shared := by
    intro job hjob he
    rcases h job hjob with hnil | ⟨old, hold, hname, hshared⟩
    · rw [hnil] at he
      cases he
    · exact ⟨old, hold, hname, hshared ▸ he⟩
  obtain ⟨job, hjob, hname, he⟩ := hfind job' hjob' hm
  obtain ⟨other, hother, hname', he'⟩ := hfind other' hother' hm'
  obtain rfl := hapart job hjob other hother e he he'
  have hsome := hnamed.job?_of_mem hjob'
  rw [← hname, hname', hnamed.job?_of_mem hother'] at hsome
  exact (Option.some.inj hsome).symm

end SharesLess

/-! ## Registrations -/

/-- A registration takes what another job binds: the service asks for no address, its job has none,
and another job binds the last free address of the pool. -/
structure Reissue (r : Registry) (d : ServiceDescriptor) (name : String) (f : Family) : Prop where
  unasked : (d.requested.get f).bind nonblank? = none
  unassigned : ∀ job, r.job? name = some job → job.sharedAddresses.get f = none
  bound : ∃ a : IpAddress, (r.pool (Pool.roundRobin f).name).free.getLast? = some a.bytes ∧
    ∃ other ∈ r.jobs.values, other.name ≠ name ∧ other.Binds a

/-- Nobody but the job has the address that it was given, unless it came from the free list. -/
theorem Origin.owner (h : r.Books hand) (hapart : r.Apart) {d : ServiceDescriptor}
    {name systemId : String} (horigin : Origin r name (d.requested.get f)
      ((r.startingJob name systemId).sharedAddresses.get f) f text)
    (hno : ¬ r.Reissue d name f) (hspace : InSharedSpace f text) (hother : other ∈ r.jobs.values)
    (hm : (f, text) ∈ other.shared) : other.name = name := by
  obtain ⟨v, rfl, -⟩ := hspace
  have hbinds : other.Binds (IpAddress.ofValue f v) :=
    ⟨_, Job.mem_addressTexts.2 ⟨f, .inl hm⟩, Codec.denoted?_render v f⟩
  have hstart : ∀ job, r.job? name = some job → r.startingJob name systemId = job :=
    fun job hjob => by rw [startingJob, hjob, Option.getD_some]
  have hby : r.jobByAddress? (Codec.render v f) ≠ none := by
    intro hnone
    exact jobByAddress?_eq_none.1 hnone other hother _ (Job.mem_addressTexts.2 ⟨f, .inl hm⟩)
      (Codec.denoted?_render v f)
  cases horigin with
  | kept _ hcur =>
    have hmem := mem_shared_of_sharedAddresses hcur
    cases hjob : r.job? name with
    | none =>
      rw [startingJob, hjob] at hmem
      cases hmem
    | some job =>
      rw [hstart job hjob] at hmem
      obtain rfl := hapart job (mem_of_job? hjob) other hother _ hmem hm
      exact h.named name job hjob
  | asked _ howner =>
    -- the first job that has the address is the only one
    obtain ⟨owner, hfound⟩ := Option.ne_none_iff_exists'.1 hby
    obtain ⟨howned, hhas⟩ := mem_of_jobByAddress? hfound
    have howns : owner.Binds (IpAddress.ofValue f v) := Job.hasAddress_text.1 hhas
    obtain rfl := (h.unambiguous hapart).jobs owner howned other hother _ howns hbinds
    exact howner owner hfound
  | @reused w hreq hcur hrender hlast =>
    refine Classical.byContradiction fun hne => hno ⟨hreq, fun job hjob => ?_, ?_⟩
    · rw [← hstart job hjob]
      exact hcur
    · refine ⟨IpAddress.ofValue f w, ?_, other, hother, hne, ?_⟩
      · rw [hlast, Codec.ofValue_eq_bytes]
      · rw [hrender] at hm
        exact ⟨_, Job.mem_addressTexts.2 ⟨f, .inl hm⟩, Codec.denoted?_render w f⟩
  | counted _ _ _ hnone => exact absurd hnone hby

/-- The jobs once a job was stored in a registry with the same jobs. -/
theorem mem_putJob {taken : Registry} {new : Job} (hframe : taken.jobs = r.jobs) (hn : r.Named)
    (hjob : job ∈ (taken.putJob new).jobs.values) :
    job = new ∨ job ∈ r.jobs.values ∧ job.name ≠ new.name := by
  obtain ⟨key, hkey⟩ := Table.mem_values_iff.1 hjob
  rw [putJob, hframe, Table.get?_insert] at hkey
  split at hkey
  · exact .inl (Option.some.inj hkey).symm
  · next hne =>
    have hname := hn key job hkey
    exact .inr ⟨Table.mem_values_iff.2 ⟨key, hkey⟩, fun heq => hne (hname.symm.trans heq)⟩

/-- **Registering** keeps shared addresses apart, unless it takes what another job binds. -/
theorem Registered.apart {d : ServiceDescriptor} {systemId : String} (h : r.Books hand)
    (hapart : r.Apart) (hr : Registered r hand d systemId job s)
    (hno : ∀ f, ¬ r.Reissue d job.name f) : s.Apart := by
  obtain ⟨hname, horigin, hspace, hframe, hbooks⟩ := hr
  rename_i name texts taken
  have hn : (r.startingJob name systemId).name = name := (startingJob_spec h name systemId).1
  have howner : ∀ other ∈ r.jobs.values, ∀ e ∈ other.shared,
      e ∈ (withShared (r.startingJob name systemId) systemId texts).shared → other.name = name := by
    rintro other hother ⟨f, text⟩ hm hnew
    have htext : texts.get f = text := by
      simp only [withShared, Job.shared, ServiceAddress.shared, List.flatMap_singleton,
        Dual.mem_present] at hnew
      cases f with
      | v4 => exact Option.some.inj hnew
      | v6 => exact Option.some.inj hnew
    subst htext
    have hre : ¬ r.Reissue d name f := hn ▸ hno f
    exact (horigin f).owner h hapart hre (hspace f) hother hm
  intro job hjob other hother e hm hm'
  rcases mem_putJob hframe.jobs h.named hjob with rfl | ⟨hold, hne⟩
  · rcases mem_putJob hframe.jobs h.named hother with rfl | ⟨hold', hne'⟩
    · rfl
    · exact absurd ((howner other hold' e hm' hm).trans hn.symm) hne'
  · rcases mem_putJob hframe.jobs h.named hother with rfl | ⟨hold', hne'⟩
    · exact absurd ((howner job hold e hm hm').trans hn.symm) hne
    · exact hapart job hold other hold' e hm hm'

/-- **Reissuing.** A registration that takes what another job binds gives one address to both. -/
theorem Registered.ambiguous {d : ServiceDescriptor} {systemId : String} (h : r.Books hand)
    (hr : Registered r hand d systemId job s) (hre : r.Reissue d job.name f) :
    ¬ s.Unambiguous := by
  intro hs
  obtain ⟨hname, horigin, hspace, hframe, hbooks⟩ := hr
  rename_i name texts taken
  obtain ⟨hn, -⟩ := startingJob_spec h name systemId
  obtain ⟨hunasked, hunassigned, a, hlast, other, hother, hne, hbinds⟩ := hre
  cases horigin f with
  | kept _ hcur =>
    rw [startingJob] at hcur
    cases hjob : r.job? name with
    | none =>
      rw [hjob] at hcur
      cases f <;> cases hcur
    | some old =>
      rw [hjob, Option.getD_some, hunassigned old (hn.symm ▸ hjob)] at hcur
      cases hcur
  | asked hreq _ => exact hreq hunasked
  | @reused v _ _ hrender hfree =>
    rw [hfree, Option.some.injEq, Codec.ofValue_eq_bytes] at hlast
    have ha : IpAddress.ofValue f v = a := by
      have hback := congrArg IpAddress.ofBytes? hlast
      rw [IpAddress.ofBytes?_bytes, IpAddress.ofBytes?_bytes] at hback
      exact Option.some.inj hback
    -- the new job and the other one are both there afterwards
    refine hne (congrArg Job.name (hs.jobs other ?_ _ ?_ a hbinds ?_))
    · have hkept := h.named.job?_of_mem hother
      refine Table.mem_values_iff.2 ⟨other.name, ?_⟩
      rw [putJob, hframe.jobs, Table.get?_insert_of_ne _ hne]
      exact hkept
    · exact Table.mem_values_iff.2 ⟨_, Table.get?_insert_self ..⟩
    · refine ⟨texts.get f, Job.mem_addressTexts.2 ⟨f, .inl ?_⟩, ?_⟩
      · simp only [withShared, Job.shared, ServiceAddress.shared, List.flatMap_singleton,
          Dual.mem_present]
        cases f <;> rfl
      · rw [hrender, Codec.denoted?_render, ha]
  | counted _ _ hfree _ =>
    rw [hfree] at hlast
    cases hlast

end Registry

/-! ## Runs -/

/-- A registration that succeeds and takes what another job binds. -/
def RootCall.Reissues (r : Registry) : (call : RootCall) → Except TierError call.Answer → Prop
  | .register d _, .ok job => ∃ f, r.Reissue d job.name f
  | _, _ => False

/-- **Each step** keeps shared addresses apart, unless it takes what another job binds. -/
theorem RootStep.apart {r r' : Registry} {hand : List (Family × String)} {call : RootCall}
    {result : Except TierError call.Answer} {messages : List (String × ChildMessage)}
    (h : r.Books hand) (hapart : r.Apart) (hstep : RootStep r hand call result messages r')
    (hno : ¬ call.Reissues r result) : r'.Apart := by
  obtain ⟨hbooks, -⟩ := hstep.books h
  have hrestored : ∀ {r₀ : Registry}, r₀.Restored r' → r₀.jobs = r.jobs → r.SharesLess r' := by
    rintro r₀ ⟨hjob, hsame, -⟩ hjobs
    refine (Registry.SharesLess.ofJobs hjobs).trans (.insert rfl (.inr ⟨_, hjob, ?_, ?_⟩))
    · exact hsame.name.symm
    · exact (Job.shared_congr hsame).symm
  cases hstep with
  | failed hunder => exact (Registry.SharesLess.ofJobs hunder.1.jobs).apart hbooks.named hapart
  | registered hr => exact hr.apart h hapart fun f hf => hno ⟨f, hf⟩
  | added ha =>
    obtain ⟨hjob, -, -, -⟩ := ha
    obtain ⟨-, hsame, -⟩ := Registry.addEach_spec _ _ _
    refine Registry.SharesLess.apart ?_ hbooks.named hapart
    exact .insert rfl (.inr ⟨_, h.named.job?_of_mem (Registry.mem_of_jobBySystemId? hjob),
      hsame.name.symm, (Job.shared_congr hsame).symm⟩)
  | withdrawn _ hw =>
    obtain ⟨-, hjob, -, hframe, -⟩ := hw
    refine Registry.SharesLess.apart ?_ hbooks.named hapart
    refine Registry.SharesLess.trans (.insert rfl (.inr ⟨_, hjob, ?_, ?_⟩)) (.ofJobs hframe.jobs)
    · rfl
    · rfl
  | gatewayUp hg =>
    cases hg with
    | existing => exact hapart
    | @new g _ _ _ hunder =>
      refine Registry.SharesLess.apart ?_ hbooks.named hapart
      refine (Registry.SharesLess.ofJobs hunder.1.jobs).trans ?_
      exact .insert rfl (.inl (Registry.held_gateway g).2)
  | namespaces _ hr => exact (hrestored hr rfl).apart hbooks.named hapart
  | services _ => exact hapart
  | reported hr => exact (hrestored hr rfl).apart hbooks.named hapart
  | lookedUp hl => exact (Registry.SharesLess.ofSameBooks hl.sameBooks).apart hbooks.named hapart
  | left hl => exact (Registry.SharesLess.ofSameBooks hl.sameBooks).apart hbooks.named hapart
  | subnetsTaken hs => exact (Registry.SharesLess.ofJobs hs.jobs).apart hbooks.named hapart
  | subnetsBack hs => exact (Registry.SharesLess.ofJobs hs.jobs).apart hbooks.named hapart
  | joined _ _ => exact hapart

namespace RootTier

variable {σ : Type} (R : RootTier σ)

/-- Shared addresses stay apart in a run without a registration that takes what another job binds.
-/
theorem apart {calls : List RootCall} {s : σ}
    (hno : ∀ call earlier, call :: earlier <:+ calls →
      ¬ call.Reissues (R.registry earlier s) (R.tier.perform call (R.after earlier s)).1) :
    (R.registry calls s).Apart := by
  induction calls with
  | nil =>
    rw [registry, after, R.site.get_set]
    intro job hjob
    cases hjob
  | cons call earlier ih =>
    obtain ⟨hbooks, -⟩ := R.books earlier s
    have hapart := ih fun c e he => hno c e (he.trans (List.suffix_cons call earlier))
    obtain ⟨r', messages, hstep, hsame⟩ := R.perform_spec hbooks call
    have hstill := hstep.apart hbooks hapart (hno call earlier (List.suffix_refl _))
    obtain ⟨hafter, -⟩ := hstep.books hbooks
    exact (Registry.SharesLess.ofSameBooks hsame).apart (hsame.books hafter).named hstill

/-- **Unambiguous runs.** No IP address is bound by two jobs or by two instances of a job, at every
moment of a run, exactly if no registration of the run takes from the free list of a round-robin
pool what another job binds. -/
theorem unambiguous_iff (calls : List RootCall) (s : σ) :
    (∀ earlier, earlier <:+ calls → (R.registry earlier s).Unambiguous) ↔
      ∀ call earlier, call :: earlier <:+ calls →
        ¬ call.Reissues (R.registry earlier s) (R.tier.perform call (R.after earlier s)).1 := by
  constructor
  · intro hall call earlier hsuffix hre
    have hafter := hall (call :: earlier) hsuffix
    obtain ⟨hbooks, -⟩ := R.books earlier s
    cases call with
    | register d systemId =>
      have hspec := Registry.register_spec hbooks d systemId
      have hperform : R.tier.perform (.register d systemId) =
          (Registry.register d systemId).zoom R.site := rfl
      rw [registry, after, hperform, Action.zoom_apply, R.site.get_set] at hafter
      rw [hperform, Action.zoom_apply] at hre
      rcases hx : Registry.register d systemId (R.registry earlier s) with ⟨e | job, r'⟩
      · rw [registry] at hx
        rw [hx] at hre
        exact hre
      · have hregistered := hspec.of_ok rfl hx
        rw [registry] at hx
        rw [hx] at hre hafter
        obtain ⟨f, hf⟩ := hre
        exact hregistered.ambiguous hbooks hf hafter
    | _ => exact hre
  · intro hno earlier hsuffix
    obtain ⟨hbooks, -⟩ := R.books earlier s
    exact hbooks.unambiguous (R.apart fun c e he => hno c e (he.trans hsuffix))

/-- Addresses can become ambiguous. A service that asks for a wrong IPv6 address takes 10.30.0.0 and
gives it back; a second one asks for 10.30.0.0, and a third one takes it from the free list. -/
theorem ambiguous_reissued : ¬ ∀ calls : List RootCall,
    (Standalone.delivering.registry calls (.start ⟨[], [], []⟩ [])).Unambiguous := by
  intro hall
  have hrun := hall
    [.register ⟨"c", "n", "s", "n", ⟨none, none⟩⟩ "third",
      .register ⟨"b", "n", "s", "n", ⟨some "10.30.0.0", none⟩⟩ "second",
      .register ⟨"a", "n", "s", "n", ⟨none, some "::1"⟩⟩ "first"]
  generalize hr : Standalone.delivering.registry _ _ = r at hrun
  have hjobs : (r.jobs.values.map fun job => (job.name, job.addressTexts)) =
      [("b.n.s.n", ["10.30.0.0", "fdff:2000::"]), ("c.n.s.n", ["10.30.0.0", "fdff:2000::1"])] := by
    subst hr
    decide +kernel
  have hfind : ∀ name texts, (name, texts) ∈ (r.jobs.values.map fun job =>
      (job.name, job.addressTexts)) → "10.30.0.0" ∈ texts → ∃ job ∈ r.jobs.values,
        job.name = name ∧ job.Binds (.ofValue .v4 0x0A1E0000) := by
    intro name texts hm htext
    obtain ⟨job, hjob, heq⟩ := List.mem_map.1 hm
    obtain ⟨rfl, rfl⟩ := Prod.mk.inj heq
    exact ⟨job, hjob, rfl, "10.30.0.0", htext, by decide +kernel⟩
  obtain ⟨second, hsecond, hname, hbinds⟩ := hfind "b.n.s.n" ["10.30.0.0", "fdff:2000::"]
    (by simp [hjobs]) (by simp)
  obtain ⟨third, hthird, hname', hbinds'⟩ := hfind "c.n.s.n" ["10.30.0.0", "fdff:2000::1"]
    (by simp [hjobs]) (by simp)
  have hsame := hrun.jobs second hsecond third hthird _ hbinds hbinds'
  rw [hsame, hname'] at hname
  exact absurd hname (by decide)

end RootTier

end Overlay
