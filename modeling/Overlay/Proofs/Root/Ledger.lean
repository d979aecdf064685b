import Overlay.Proofs.Pool.Ledger
import Overlay.Proofs.Registry.Jobs

/-!
# The ledger of the instance pools

Where are the instance addresses? A job holds them, or they are in hand: taken from a pool and not
yet stored, or removed from a job and not yet returned. `Registry.Books r hand` says that the
instance pools and the jobs of a registry agree about it. In each family, the free numbers together
with the numbers of what is held or in hand are exactly the numbers of the layout below the counter,
each once.

* `Books.allocate`: taking an address from an instance pool puts it in hand, and never skips a
  number;
* `Books.release`: giving back an address in hand always succeeds;
* `Books.store`: storing a job moves addresses between it and the hand.
-/

namespace Overlay

/-! ## Pools apart -/

theorem PoolKind.name_inj {k k' : PoolKind} : k.name = k'.name ↔ k = k' := by
  obtain ⟨p, f⟩ := k
  obtain ⟨p', f'⟩ := k'
  cases p <;> cases f <;> cases p' <;> cases f' <;> simp [PoolKind.name]

/-- Instances and services have addresses of their own. -/
theorem Pool.disjoint {f : Family} {v : Nat} (h : (instances f).layout.covers v = true) :
    (roundRobin f).layout.covers v = false := by
  rw [Bool.eq_false_iff]
  intro h'
  cases f <;>
    simp [instances, roundRobin, ofKind, PoolKind.layout, Layout.octets, Layout.covers,
      Block.contains_iff, Block.network, Family.width, Family.size] at h h' <;>
    omega

/-! ## Addresses of one family -/

/-- The texts of a family among addresses. -/
def ofFamily (f : Family) (held : List (Family × String)) : List String :=
  held.filterMap fun e => if e.1 = f then some e.2 else none

section

variable {f f' : Family} {text : String} {held held' : List (Family × String)}

@[simp] theorem ofFamily_append : ofFamily f (held ++ held') = ofFamily f held ++ ofFamily f held' :=
  List.filterMap_append ..

@[simp] theorem ofFamily_cons_self : ofFamily f ((f, text) :: held) = text :: ofFamily f held := by
  simp [ofFamily]

theorem ofFamily_cons_of_ne (h : f' ≠ f) :
    ofFamily f ((f', text) :: held) = ofFamily f held := by
  simp [ofFamily, h]

theorem mem_ofFamily : text ∈ ofFamily f held ↔ (f, text) ∈ held := by
  simp [ofFamily]

theorem perm_ofFamily (h : held.Perm held') : (ofFamily f held).Perm (ofFamily f held') :=
  h.filterMap _

end

/-! ## The ledger of one pool -/

namespace Registry

variable {f : Family} {r r' : Registry} {hand hand' held held' : List (Family × String)}
  {name text : String}

/-- The free numbers of an instance pool and the numbers of what is held are exactly the numbers
below its counter. -/
def Ledger (f : Family) (r : Registry) (held : List (Family × String)) : Prop :=
  ∃ next free out, (Pool.instances f).Shows r next free ∧
    (ofFamily f held).Perm (out.map (Codec.render · f)) ∧
    (Pool.instances f).layout.AllBelow next (free ++ out)

theorem instances_regular (f : Family) : (Pool.instances f).Regular :=
  Pool.ofKind_regular _

theorem instances_lt {v : Nat} (h : (Pool.instances f).layout.Allocatable v) : v < f.size :=
  (instances_regular f).lt_size h

theorem roundRobin_lt {v : Nat} (h : (Pool.roundRobin f).layout.covers v = true) : v < f.size :=
  have hp := Pool.ofKind_regular ⟨.roundRobin, f⟩
  Nat.lt_trans (hp.layout.lt_limit_of_covers h) hp.limit_lt

/-- The ledger of an instance pool is about the texts of its family. -/
theorem ledger_iff : r.Ledger f held ↔ (Pool.instances f).Ledger r (ofFamily f held) :=
  .rfl

/-- An unused pool with nothing held. -/
theorem ledger_unused (h : r.pool (Pool.instances f).name = .unused) : r.Ledger f [] :=
  ledger_iff.2 (.unused (instances_regular f) h)

/-- The ledger depends on the pool's state and on what is held of its family. -/
theorem Ledger.congr (h : r.Ledger f held)
    (hpool : r'.pool (Pool.instances f).name = r.pool (Pool.instances f).name)
    (hheld : (ofFamily f held').Perm (ofFamily f held)) : r'.Ledger f held' :=
  ledger_iff.2 ((ledger_iff.1 h).congr hpool hheld)

/-- What is held is a rendered number that was handed out and is not free. -/
theorem Ledger.mem_held (h : r.Ledger f held) (hm : (f, text) ∈ held) :
    ∃ next free v, (Pool.instances f).Shows r next free ∧ text = Codec.render v f ∧
      (Pool.instances f).layout.Allocatable v ∧ v < next ∧ v ∉ free :=
  (ledger_iff.1 h).mem (mem_ofFamily.2 hm)

/-- **Taking.** While nobody has a number from the counter on, an address that is handed out joins
what is held, and no number is skipped. -/
theorem Ledger.allocate (h : r.Ledger f held)
    (hfree : ∀ next free v, (Pool.instances f).Shows r next free →
      (Pool.instances f).layout.Allocatable v → next ≤ v → (Pool.instances f).taken r v = false) :
    (∀ text, ((Pool.instances f).allocate r).1 = .ok text →
      ((Pool.instances f).allocate r).2.Ledger f ((f, text) :: held)) ∧
    (∀ e, ((Pool.instances f).allocate r).1 = .error e →
      ((Pool.instances f).allocate r).2.Ledger f held) := by
  obtain ⟨hok, herror⟩ := (ledger_iff.1 h).allocate (instances_regular f) hfree
  refine ⟨fun text htext => ?_, fun e he => ledger_iff.2 (herror e he)⟩
  rw [ledger_iff, ofFamily_cons_self]
  exact hok text htext

/-- **Giving back.** What is held is taken back, and then it is free. -/
theorem Ledger.release (h : r.Ledger f ((f, text) :: held)) :
    ((Pool.instances f).release text r).1 = .ok () ∧
      ((Pool.instances f).release text r).2.Ledger f held := by
  rw [ledger_iff, ofFamily_cons_self] at h
  exact h.release (instances_regular f)

/-! ## All books -/

/-- Everything that a root keeps in agreement: jobs under their names, the ledgers of both instance
pools with some addresses in hand, shared addresses in their own space, and a job for each
gateway. -/
structure Books (r : Registry) (hand : List (Family × String)) : Prop where
  named : r.Named
  ledger : ∀ f, r.Ledger f (r.held ++ hand)
  /-- A shared address is a rendered number of the round-robin space. -/
  shared : ∀ job ∈ r.jobs.values, ∀ f text, (f, text) ∈ job.shared →
    ∃ v, text = Codec.render v f ∧ (Pool.roundRobin f).layout.covers v = true
  roundRobin : ∀ f, ∃ next free, (Pool.roundRobin f).Shows r next free
  gateways : ∀ id g, r.gateway? id = some g → (r.job? g.jobName).isSome

namespace Books

/-- The registry without records. -/
theorem empty : (∅ : Registry).Books [] where
  named := nofun
  ledger _ := ledger_unused rfl
  shared := nofun
  roundRobin _ := ⟨_, _, Pool.shows_unused (Pool.ofKind_regular _) rfl⟩
  gateways := nofun

/-- The order of what is in hand does not matter. -/
theorem perm (h : r.Books hand) (hp : hand'.Perm hand) : r.Books hand' :=
  { h with ledger := fun f => (h.ledger f).congr rfl (perm_ofFamily (hp.append_left _)) }

/-- Nobody has a number from the counter of an instance pool on. -/
theorem not_taken (h : r.Books hand) {next v : Nat} {free : List Nat}
    (hshows : (Pool.instances f).Shows r next free) (hv : (Pool.instances f).layout.Allocatable v)
    (hle : next ≤ v) : (Pool.instances f).taken r v = false := by
  have hnone : r.jobByAddress? (IpAddress.ofValue f v).text = none := by
    rw [jobByAddress?_eq_none]
    intro job hjob text htext hden
    rcases Job.mem_addressTexts.1 htext with ⟨f', hm | hm⟩
    · -- a shared address lies in another space
      obtain ⟨w, rfl, hw⟩ := h.shared job hjob f' text hm
      rw [Codec.denoted?_render] at hden
      obtain ⟨rfl, rfl⟩ := IpAddress.ofValue_inj (roundRobin_lt hw) (instances_lt hv)
        (Option.some.inj hden)
      rw [Pool.disjoint hv.covers] at hw
      cases hw
    · -- an address that is held lies below the counter
      have hheld : (f', text) ∈ r.held := List.mem_flatMap.2 ⟨job, hjob, hm⟩
      obtain ⟨next', free', w, hshows', rfl, hw, hwnext, -⟩ :=
        (h.ledger f').mem_held (List.mem_append_left hand hheld)
      rw [Codec.denoted?_render] at hden
      obtain ⟨rfl, rfl⟩ := IpAddress.ofValue_inj (instances_lt hw) (instances_lt hv)
        (Option.some.inj hden)
      have := hshows.next_unique hshows'
      omega
  have hrender : Codec.render v f = (IpAddress.ofValue f v).text := rfl
  rw [Pool.taken]
  change (_ && (r.jobByAddress? (Codec.render v f)).isSome) = false
  rw [hrender, hnone, Option.isSome_none, Bool.and_false]

/-- A change of one instance pool alone. -/
theorem ofPool (h : r.Books hand) (hsame : SameBut (Pool.instances f).name r r')
    (hledger : r'.Ledger f (r.held ++ hand'))
    (hother : ∀ f', f' ≠ f → ofFamily f' hand' = ofFamily f' hand) : r'.Books hand' where
  named := h.named.congr hsame.jobs
  ledger f' := by
    have hheld : r'.held = r.held := by rw [held, held, hsame.jobs]
    rw [hheld]
    by_cases hf : f' = f
    · exact hf ▸ hledger
    · refine (h.ledger f').congr (hsame.pool _ fun heq => hf ?_) ?_
      · exact congrArg PoolKind.family (PoolKind.name_inj.1 heq)
      · rw [ofFamily_append, ofFamily_append, hother f' hf]
  shared := by
    rw [hsame.jobs]
    exact h.shared
  roundRobin f' := by
    obtain ⟨next, free, hshows⟩ := h.roundRobin f'
    refine ⟨next, free, hshows.congr (hsame.pool _ fun heq => ?_)⟩
    cases congrArg PoolKind.purpose (PoolKind.name_inj.1 heq)
  gateways id g hg := by
    rw [gateway?, hsame.gateways] at hg
    rw [job?_congr hsame.jobs]
    exact h.gateways id g hg

/-- **Taking.** An address that an instance pool hands out is in hand then; a failure leaves the
books as they are. -/
theorem allocate (h : r.Books hand) (f : Family) :
    (∀ text, ((Pool.instances f).allocate r).1 = .ok text →
      ((Pool.instances f).allocate r).2.Books ((f, text) :: hand)) ∧
    (∀ e, ((Pool.instances f).allocate r).1 = .error e →
      ((Pool.instances f).allocate r).2.Books hand) := by
  have hsame := (Pool.instances f).allocate_sameBut r
  obtain ⟨hok, herror⟩ := (h.ledger f).allocate fun _ _ _ hs hv hle => h.not_taken hs hv hle
  refine ⟨fun text htext => h.ofPool hsame ?_ ?_, fun e he => h.ofPool hsame (herror e he) ?_⟩
  · refine (hok text htext).congr rfl (perm_ofFamily ?_)
    exact List.perm_middle
  · exact fun f' hf => ofFamily_cons_of_ne (Ne.symm hf)
  · exact fun _ _ => rfl

/-- **Giving back.** An address in hand is taken back by its pool. -/
theorem release (h : r.Books ((f, text) :: hand)) :
    ((Pool.instances f).release text r).1 = .ok () ∧
      ((Pool.instances f).release text r).2.Books hand := by
  have hsame := (Pool.instances f).release_sameBut text r
  have hfront : r.Ledger f ((f, text) :: (r.held ++ hand)) :=
    (h.ledger f).congr rfl (perm_ofFamily List.perm_middle.symm)
  obtain ⟨hresult, hledger⟩ := hfront.release
  exact ⟨hresult, h.ofPool hsame hledger fun f' hf => (ofFamily_cons_of_ne (Ne.symm hf)).symm⟩

/-- **Storing.** A job is stored while addresses move between it and the hand. -/
theorem store {job : Job} (h : r.Books hand) (hj : r'.jobs = r.jobs.insert name job)
    (hpools : r'.pools = r.pools) (hg : r'.gateways = r.gateways) (hn : job.name = name)
    (hshared : ∀ f text, (f, text) ∈ job.shared →
      ∃ v, text = Codec.render v f ∧ (Pool.roundRobin f).layout.covers v = true)
    (hheld : (r'.held ++ hand').Perm (r.held ++ hand)) : r'.Books hand' where
  named := h.named.insert hj hn
  ledger f := (h.ledger f).congr (by rw [pool, pool, hpools]) (perm_ofFamily hheld)
  shared other hother f text hm := by
    obtain ⟨key, hkey⟩ := Table.mem_values_iff.1 hother
    rw [hj, Table.get?_insert] at hkey
    split at hkey
    · obtain rfl := Option.some.inj hkey
      exact hshared f text hm
    · exact h.shared other (Table.mem_values_iff.2 ⟨key, hkey⟩) f text hm
  roundRobin f := by
    obtain ⟨next, free, hshows⟩ := h.roundRobin f
    exact ⟨next, free, hshows.congr (by rw [pool, pool, hpools])⟩
  gateways id g hid := by
    rw [gateway?, hg] at hid
    rw [job?, hj, Table.get?_insert]
    split
    · rfl
    · exact h.gateways id g hid

/-- **Storing again.** A job takes the place of one that shares and holds the same. -/
theorem restore {job job' : Job} (h : r.Books hand) (hj : r'.jobs = r.jobs.insert name job')
    (hpools : r'.pools = r.pools) (hg : r'.gateways = r.gateways) (hold : r.job? name = some job)
    (hsame : job.SameService job') (hheld : job'.held = job.held) : r'.Books hand := by
  refine h.store hj hpools hg (hsame.name.trans (h.named name job hold)) ?_ ?_
  · rw [Job.shared_congr hsame]
    exact h.shared job (mem_of_job? hold)
  · exact (held_insert_of_same hj hold hheld).append_right hand

end Books

/-! ## What the books do not look at -/

/-- Registries with the same books: the same jobs but for the interested parties, the same
gateways, the same state of all pools but those of subnets. -/
structure SameBooks (r r' : Registry) : Prop where
  jobs : r'.jobs.map Job.withoutParties = r.jobs.map Job.withoutParties
  gateways : r'.gateways = r.gateways
  pools : ∀ k : PoolKind, k.purpose ≠ .subnet → r'.pool k.name = r.pool k.name

namespace SameBooks

variable {r'' : Registry}

theorem refl (r : Registry) : SameBooks r r :=
  ⟨rfl, rfl, fun _ _ => rfl⟩

theorem trans (h : SameBooks r r') (h' : SameBooks r' r'') : SameBooks r r'' :=
  ⟨h'.jobs.trans h.jobs, h'.gateways.trans h.gateways,
    fun k hk => (h'.pools k hk).trans (h.pools k hk)⟩

/-- Other parties of a job. -/
theorem putParties {job : Job} (h : r.job? name = some job) (parties : NameSet) :
    SameBooks r { r with jobs := r.jobs.insert name { job with parties } } :=
  ⟨Table.map_insert_of_get? h rfl, rfl, fun _ _ => rfl⟩

/-- Whether a cluster has failed is not in the books. -/
theorem setClusterStatus (r : Registry) (id : String) (status : Cluster.Status) :
    SameBooks r (r.setClusterStatus id status).2 := by
  rw [Registry.setClusterStatus]
  split
  · exact .refl r
  · exact ⟨rfl, rfl, fun _ _ => rfl⟩

/-- The job of a name, but for its parties. -/
theorem job? (h : SameBooks r r') (name : String) :
    (r'.job? name).map Job.withoutParties = (r.job? name).map Job.withoutParties := by
  have heq := congrArg (Table.get? · name) h.jobs
  rwa [Table.get?_map, Table.get?_map] at heq

/-- A job that is found afterwards was found before, with other parties at most. -/
theorem exists_job {job : Job} (h : SameBooks r r') (hj : r'.job? name = some job) :
    ∃ old, r.job? name = some old ∧ job.withoutParties = old.withoutParties := by
  have heq := h.job? name
  rw [hj, Option.map_some, eq_comm] at heq
  obtain ⟨old, hold, hsame⟩ := Option.map_eq_some_iff.1 heq
  exact ⟨old, hold, hsame.symm⟩

/-- The job of an identifier, but for its parties. -/
theorem jobBySystemId? (h : SameBooks r r') (id : String) :
    (r'.jobBySystemId? id).map Job.withoutParties =
      (r.jobBySystemId? id).map Job.withoutParties := by
  have hvalues := congrArg Table.values h.jobs
  rw [Table.values_map, Table.values_map] at hvalues
  have hfind : ∀ jobs : List Job, (jobs.find? fun job => job.systemId == id).map
      Job.withoutParties = (jobs.map Job.withoutParties).find? fun job => job.systemId == id := by
    intro jobs
    rw [List.find?_map]
    rfl
  rw [Registry.jobBySystemId?, Registry.jobBySystemId?, hfind, hfind, hvalues]

theorem named (h : SameBooks r r') (hn : r.Named) : r'.Named := by
  intro name job hj
  obtain ⟨old, hold, hsame⟩ := h.exists_job hj
  exact (congrArg Job.name hsame).trans (hn name old hold)

/-- The books are kept by changes that they do not look at. -/
theorem books (h : SameBooks r r') (hb : r.Books hand) : r'.Books hand where
  named := h.named hb.named
  ledger f := by
    rw [held_congr h.jobs]
    exact (hb.ledger f).congr (h.pools ⟨.oneInstance, f⟩ nofun) (.refl _)
  shared job hj f text hm := by
    obtain ⟨name, hname⟩ := Table.mem_values_iff.1 hj
    obtain ⟨old, hold, hsame⟩ := h.exists_job hname
    have hshared : job.withoutParties.shared = old.withoutParties.shared := congrArg Job.shared hsame
    have hm' : (f, text) ∈ old.withoutParties.shared := hshared ▸ hm
    exact hb.shared old (mem_of_job? hold) f text hm'
  roundRobin f := by
    obtain ⟨next, free, hshows⟩ := hb.roundRobin f
    exact ⟨next, free, hshows.congr (h.pools ⟨.roundRobin, f⟩ nofun)⟩
  gateways id g hid := by
    rw [gateway?, h.gateways] at hid
    have heq := congrArg Option.isSome (h.job? g.jobName)
    rw [Option.isSome_map, Option.isSome_map] at heq
    rw [heq]
    exact hb.gateways id g hid

end SameBooks

/-- Registries that agree on everything but the pools of subnets. -/
structure OnlySubnets (r r' : Registry) : Prop extends OnlyPools r r' where
  pools : ∀ k : PoolKind, k.purpose ≠ .subnet → r'.pool k.name = r.pool k.name

namespace OnlySubnets

variable {r'' : Registry}

theorem refl (r : Registry) : OnlySubnets r r :=
  ⟨.refl r, fun _ _ => rfl⟩

theorem trans (h : OnlySubnets r r') (h' : OnlySubnets r' r'') : OnlySubnets r r'' :=
  ⟨h.toOnlyPools.trans h'.toOnlyPools, fun k hk => (h'.pools k hk).trans (h.pools k hk)⟩

theorem ofSameBut {f : Family} (h : SameBut (Pool.subnets f).name r r') : OnlySubnets r r' := by
  refine ⟨.ofSameBut h, fun k hk => h.pool k.name fun heq => hk ?_⟩
  exact congrArg PoolKind.purpose (PoolKind.name_inj.1 heq)

theorem sameBooks (h : OnlySubnets r r') : SameBooks r r' :=
  ⟨congrArg _ h.jobs, h.gateways, h.pools⟩

end OnlySubnets

end Registry

end Overlay
