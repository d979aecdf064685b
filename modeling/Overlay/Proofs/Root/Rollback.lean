import Overlay.Proofs.Pool.Offers
import Overlay.Proofs.Root.Frames
import Overlay.Proofs.Root.Tasks

/-!
# All or nothing

A call of a root that takes addresses takes all that it needs or none (`RootTier.all_or_nothing`). If
it fails, at whatever address, then all jobs, gateways, clusters and nodes are as before, and each pool
offers the same addresses as before. The pools themselves may have changed: an address that went out
and came back is free then, with the counter behind it, and a counter may have passed addresses that
jobs have.

For the instance pools this follows from the books: what is not out is on offer. The pools of
round-robin addresses and of subnets have no such books, but a call takes at most one address of each
of them, and that one comes back (`Registry.release_offers`).
-/

namespace Overlay

open Overlay.Action (Triple)

namespace Registry

variable {r r' : Registry} {hand : List (Family × String)} {k : PoolKind} {next : Nat}
  {free : List Nat} {text : String} {α : Type}

/-- Registries that agree on everything but the state of their pools, and whose pools offer the
same. -/
structure SameOffers (r r' : Registry) : Prop extends OnlyPools r r' where
  offers : ∀ (k : PoolKind) (bytes : List UInt8),
    (Pool.ofKind k).Offers r' bytes ↔ (Pool.ofKind k).Offers r bytes

namespace SameOffers

theorem refl (r : Registry) : SameOffers r r :=
  ⟨.refl r, fun _ _ => .rfl⟩

/-- One pool has changed, and offers the same. -/
theorem ofSameBut (h : SameBut k.name r r')
    (hoffers : ∀ bytes, (Pool.ofKind k).Offers r' bytes ↔ (Pool.ofKind k).Offers r bytes) :
    SameOffers r r' := by
  refine ⟨.ofSameBut h, fun other bytes => ?_⟩
  by_cases hk : other = k
  · subst hk
    exact hoffers bytes
  · exact Pool.offers_congr (h.pool _ fun heq => hk (PoolKind.name_inj.1 heq)) h.jobs

end SameOffers

/-! ## One address -/

/-- A pool gives an address, or offers what it offered before. -/
theorem allocate_offers (h : (Pool.ofKind k).Shows r next free) :
    Triple (· = r) (Pool.ofKind k).allocate (fun text s => (Pool.ofKind k).allocate r = (.ok text, s))
      (fun _ s => r.SameOffers s ∧ SameBut k.name r s) := by
  constructor
  · intro s s' text hs hx
    rw [← hs]
    exact hx
  · intro s s' e hs hx
    subst hs
    have hsame := (Pool.ofKind k).allocate_sameBut s
    have hoffers : ∀ bytes, (Pool.ofKind k).Offers ((Pool.ofKind k).allocate s).2 bytes ↔
        (Pool.ofKind k).Offers s bytes :=
      fun _ => Pool.offers_of_allocate_error (Pool.ofKind_regular k) h (congrArg Prod.fst hx)
    rw [hx] at hsame hoffers
    exact ⟨.ofSameBut hsame hoffers, hsame⟩

/-- **Rolling back.** An address that a pool gave comes back, and everything offers what it offered
before. -/
theorem release_offers (h : (Pool.ofKind k).Shows r next free)
    (htaken : (Pool.ofKind k).allocate r = (.ok text, r')) :
    Triple (fun s => r'.SameOffers s ∧ s.pool k.name = r'.pool k.name)
      ((Pool.ofKind k).release text) (fun _ => r.SameOffers) (fun _ _ => False) := by
  have hgiven := (Pool.ofKind k).allocate_sameBut r
  have hundo : ∀ s, r'.SameOffers s → s.pool k.name = r'.pool k.name →
      ((Pool.ofKind k).release text s).1 = .ok () ∧
        r.SameOffers ((Pool.ofKind k).release text s).2 := by
    intro s hs hpool
    have hback := (Pool.ofKind k).release_sameBut text s
    rw [htaken] at hgiven
    have hjobs : s.jobs = r.jobs := hs.jobs.trans hgiven.jobs
    obtain ⟨hresult, hoffers⟩ := Pool.release_undoes_allocate (Pool.ofKind_regular k) h
      (by rw [htaken]) (by rw [htaken]; exact hpool) hjobs
    refine ⟨hresult, ?_, fun other bytes => ?_⟩
    · exact ((OnlyPools.ofSameBut hgiven).trans hs.toOnlyPools).trans (.ofSameBut hback)
    · by_cases hk : other = k
      · subst hk
        exact hoffers bytes
      · have hne : other.name ≠ k.name := fun heq => hk (PoolKind.name_inj.1 heq)
        calc (Pool.ofKind other).Offers ((Pool.ofKind k).release text s).2 bytes
            ↔ (Pool.ofKind other).Offers s bytes :=
              Pool.offers_congr (hback.pool _ hne) hback.jobs
          _ ↔ (Pool.ofKind other).Offers r' bytes := hs.offers other bytes
          _ ↔ (Pool.ofKind other).Offers r bytes :=
              Pool.offers_congr (hgiven.pool _ hne) hgiven.jobs
  constructor
  · rintro s s' u ⟨hs, hpool⟩ hx
    have hafter := (hundo s hs hpool).2
    rw [hx] at hafter
    exact hafter
  · rintro s s' e ⟨hs, hpool⟩ hx
    have hresult := (hundo s hs hpool).1
    rw [hx] at hresult
    cases hresult

/-! ## Subnets -/

/-- The subnet pools are in order. -/
def SubnetsShow (r : Registry) : Prop :=
  ∀ f, ∃ next free, (Pool.subnets f).Shows r next free

theorem SubnetsShow.congr (h : r.SubnetsShow) (hsame : r.SameSubnets r') : r'.SubnetsShow := by
  intro f
  obtain ⟨next, free, hshows⟩ := h f
  exact ⟨next, free, hshows.congr (hsame f)⟩

/-- One subnet pool has changed, and is in order. -/
theorem SubnetsShow.ofSameBut {f : Family} (h : r.SubnetsShow)
    (hsame : SameBut (Pool.subnets f).name r r')
    (hshows : ∃ next free, (Pool.subnets f).Shows r' next free) : r'.SubnetsShow := by
  intro f'
  by_cases hf : f' = f
  · exact hf ▸ hshows
  · obtain ⟨next, free, hs⟩ := h f'
    refine ⟨next, free, hs.congr (hsame.pool _ fun heq => hf ?_)⟩
    exact congrArg PoolKind.family (PoolKind.name_inj.1 heq)

theorem allocate_subnetsShow (f : Family) : Triple SubnetsShow (Pool.subnets f).allocate
    (fun _ => SubnetsShow) (fun _ => SubnetsShow) := by
  refine .of_after fun s hs => hs.ofSameBut ((Pool.subnets f).allocate_sameBut s) ?_
  obtain ⟨next, free, hshows⟩ := hs f
  exact hshows.after_allocate (Pool.ofKind_regular ⟨.subnet, f⟩)

theorem release_subnetsShow (f : Family) (text : String) :
    Triple SubnetsShow ((Pool.subnets f).release text)
      (fun _ => SubnetsShow) (fun _ => SubnetsShow) := by
  refine .of_after fun s hs => hs.ofSameBut ((Pool.subnets f).release_sameBut text s) ?_
  obtain ⟨next, free, hshows⟩ := hs f
  exact hshows.after_release (Pool.ofKind_regular ⟨.subnet, f⟩) text

theorem takeSubnets_subnetsShow :
    Triple SubnetsShow takeSubnets (fun _ => SubnetsShow) (fun _ => SubnetsShow) := by
  refine .bind (.mapError (allocate_subnetsShow .v4)) fun v4 => ?_
  refine .attempt_bind (allocate_subnetsShow .v6) (fun v6 => .pure fun _ hs => hs) fun e => ?_
  exact .attempt_bind (release_subnetsShow .v4 v4) (fun _ => .throw fun _ hs => hs) fun _ =>
    .throw fun _ hs => hs

theorem returnSubnets_subnetsShow (list : List (Family × String)) :
    Triple SubnetsShow (returnSubnets list) (fun _ => SubnetsShow) (fun _ => SubnetsShow) := by
  induction list with
  | nil => exact .pure fun _ hs => hs
  | cons e rest ih => exact .bind (.mapError (release_subnetsShow e.1 e.2)) fun _ => ih

/-- **Subnets.** A pair of subnets is taken, or everything offers what it offered before. -/
theorem takeSubnets_offers (h : r.SubnetsShow) :
    Triple (· = r) takeSubnets (fun _ _ => True) (fun _ => r.SameOffers) := by
  obtain ⟨next4, free4, hshows4⟩ := h .v4
  obtain ⟨next6, free6, hshows6⟩ := h .v6
  refine .bind (.mapError ((allocate_offers hshows4).mono (fun _ _ hs => hs) fun _ _ hs => hs.1))
    fun v4 => .of_forall fun taken htaken => ?_
  have hgiven := (Pool.subnets .v4).allocate_sameBut r
  change (Pool.subnets .v4).allocate r = (.ok v4, taken) at htaken
  rw [htaken] at hgiven
  have hafter := hshows6.congr (hgiven.pool _ (by decide))
  refine .attempt_bind (allocate_offers hafter) (fun v6 => .pure fun _ _ => trivial) fun e => ?_
  have hback := (release_offers hshows4 htaken).pre fun s (hs : taken.SameOffers s ∧
    SameBut (Pool.subnets .v6).name taken s) => ⟨hs.1, hs.2.pool _ (by decide)⟩
  exact .attempt_bind hback (fun _ => .throw fun _ hs => hs) fun _ => .of_false

/-! ## Instances -/

/-- The instance pools offer what is not out. -/
theorem Books.offers_iff (h : r.Books hand) (f : Family) (bytes : List UInt8) :
    (Pool.instances f).Offers r bytes ↔ ∃ v, bytes = Codec.ofValue v f ∧
      (Pool.instances f).layout.Allocatable v ∧ Codec.render v f ∉ ofFamily f (r.held ++ hand) :=
  (ledger_iff.1 (h.ledger f)).offers_iff (instances_regular f)
    fun _ _ _ hshows hv hle => h.not_taken hshows hv hle

/-- When addresses of instance pools went out and came back, everything offers what it offered
before. -/
theorem Underway.sameOffers (hu : r.Underway hand r') (h : r.Books hand)
    (hbut : r.PoolsBut .oneInstance r') : r.SameOffers r' := by
  obtain ⟨hframe, hbooks⟩ := hu
  refine ⟨hframe, fun k bytes => ?_⟩
  obtain ⟨purpose, f⟩ := k
  by_cases hpurpose : purpose = .oneInstance
  · subst hpurpose
    have hheld : r'.held = r.held := by rw [held, held, hframe.jobs]
    have hafter := hbooks.offers_iff f bytes
    rw [hheld] at hafter
    exact hafter.trans (h.offers_iff f bytes).symm
  · exact Pool.offers_congr (hbut ⟨purpose, f⟩ hpurpose) hframe.jobs

/-- An operation that fails with the books as they were. -/
theorem offers_of_underway {x : Action Registry TierError α} {Q : α → Registry → Prop}
    (h : r.Books hand) (hx : Triple (· = r) x Q (fun _ => r.Underway hand))
    (huses : UsesOnly .oneInstance x) :
    Triple (· = r) x (fun _ _ => True) (fun _ => r.SameOffers) where
  of_ok _ _ := trivial
  of_error := by
    intro s s' e hs hrun
    have hbut := huses s
    rw [hrun] at hbut
    rw [hs] at hbut
    exact (hx.of_error hs hrun).sameOffers h hbut

/-! ## Services -/

section

variable {f : Family} (h : (Pool.roundRobin f).Shows r next free) (name : String)
  (requested : Option String)

include h

/-- A shared address was asked for, and nothing has changed, or it comes from the pool. -/
theorem assignShared_offers : Triple (· = r) (Pool.assignShared name requested f)
    (fun text s => if (requested.bind nonblank?).isNone
      then (Pool.roundRobin f).allocate r = (.ok text, s) else s = r)
    (fun _ s => r.SameOffers s ∧ SameBut (Pool.roundRobin f).name r s) := by
  have hsame : ∀ s, s = r → r.SameOffers s ∧ SameBut (Pool.roundRobin f).name r s :=
    fun s hs => hs.symm ▸ ⟨.refl r, .refl _ r⟩
  cases hname : name.isEmpty with
  | true =>
    refine .of_match fun s hs => ?_
    rw [Pool.assignShared, if_pos hname]
    exact hsame s hs
  | false =>
    cases hreq : requested.bind nonblank? with
    | none =>
      rw [Pool.assignShared_of_none hname hreq]
      exact allocate_offers h
    | some wanted =>
      have hasked : ∀ s, (Pool.assignShared name requested f s).2 = s :=
        fun s => Pool.assignShared_snd hreq s
      constructor
      · rintro s s' text rfl hx
        exact (congrArg Prod.snd hx).symm.trans (hasked s)
      · rintro s s' e rfl hx
        exact hsame s' ((congrArg Prod.snd hx).symm.trans (hasked s))

/-- A shared address that was not taken has changed nothing. -/
theorem sharedAddress_offers (current : Option String) :
    Triple (· = r) (sharedAddress name requested current f)
      (fun given s => if given.2 then (Pool.roundRobin f).allocate r = (.ok given.1, s) else s = r)
      (fun _ s => r.SameOffers s ∧ SameBut (Pool.roundRobin f).name r s) := by
  unfold sharedAddress
  split
  · exact .pure fun s hs => hs
  · have hassign := assignShared_offers h name (requested.bind nonblank?)
    rw [nonblank?_nonblank?] at hassign
    exact .bind (.mapError hassign) fun text => .pure fun s hs => hs

end

/-- **Services.** A service is registered, or everything offers what it offered before. -/
theorem register_offers (h : ∀ f, ∃ next free, (Pool.roundRobin f).Shows r next free)
    (d : ServiceDescriptor) (systemId : String) :
    Triple (· = r) (register d systemId) (fun _ _ => True) (fun _ => r.SameOffers) := by
  obtain ⟨next4, free4, hshows4⟩ := h .v4
  obtain ⟨next6, free6, hshows6⟩ := h .v6
  have hsame : ∀ s, s = r → r.SameOffers s := fun s hs => hs ▸ .refl r
  simp only [register, Action.throw_bind]
  refine .bind (R := fun _ s => s = r) (.ofExcept (fun _ _ _ hs => hs) fun _ s _ hs => hsame s hs)
    fun name => ?_
  split
  · exact .throw hsame
  refine .bind (R := fun _ s => s = r) (.inspect fun _ hs => hs) fun found => ?_
  refine .bind ((sharedAddress_offers hshows4 name d.requested.v4 _).mono (fun _ _ hs => hs)
    fun _ _ hs => hs.1) ?_
  rintro ⟨v4, _ | _⟩
  · -- the first address was not taken from the pool, so nothing has to come back
    refine .attempt_bind ((sharedAddress_offers hshows6 name d.requested.v6 _).pre fun _ hs => hs)
      (fun given => ?_) fun e => .throw fun _ hs => hs.1
    exact .bind (R := fun _ _ => True) (.modify fun _ _ => trivial) fun _ =>
      .pure fun _ _ => trivial
  · refine .of_forall fun taken htaken => ?_
    have hgiven := (Pool.roundRobin .v4).allocate_sameBut r
    change (Pool.roundRobin .v4).allocate r = (.ok v4, taken) at htaken
    rw [htaken] at hgiven
    have hafter := hshows6.congr (hgiven.pool _ (by decide))
    refine .attempt_bind (sharedAddress_offers hafter name d.requested.v6 _) (fun given => ?_)
      fun e => ?_
    · exact .bind (R := fun _ _ => True) (.modify fun _ _ => trivial) fun _ =>
        .pure fun _ _ => trivial
    · have hback := (release_offers hshows4 htaken).pre fun s (hs : taken.SameOffers s ∧
        SameBut (Pool.roundRobin .v6).name taken s) => ⟨hs.1, hs.2.pool _ (by decide)⟩
      exact .attempt_bind hback (fun _ => .throw fun _ hs => hs) fun _ => .of_false

end Registry

/-! ## Runs -/

namespace Tier

variable {σ α : Type} {t : Tier σ}

/-- The subnet pools of a tier are in order. -/
def SubnetsShow (t : Tier σ) (s : σ) : Prop :=
  (t.site.get s).SubnetsShow

theorem SubnetsShow.set {s : σ} {r : Registry} (h : t.SubnetsShow s)
    (hr : (t.site.get s).SameSubnets r) : t.SubnetsShow (t.site.set r s) := by
  rw [SubnetsShow, t.site.get_set]
  exact Registry.SubnetsShow.congr h hr

theorem zoom_subnetsShow {x : Action Registry TierError α}
    (hx : Triple Registry.SubnetsShow x (fun _ => Registry.SubnetsShow)
      (fun _ => Registry.SubnetsShow)) :
    Triple t.SubnetsShow (x.zoom t.site) (fun _ => t.SubnetsShow) (fun _ => t.SubnetsShow) := by
  refine .of_after fun s hs => ?_
  rw [SubnetsShow, Action.zoom_apply, t.site.get_set]
  exact hx.after hs

theorem requestSubnets_subnetsShow (hrole : t.role = .root) :
    Triple t.SubnetsShow t.requestSubnets (fun _ => t.SubnetsShow) (fun _ => t.SubnetsShow) := by
  rw [requestSubnets, parent?_of_role hrole]
  exact zoom_subnetsShow Registry.takeSubnets_subnetsShow

theorem releaseSubnets_subnetsShow (hrole : t.role = .root) (subnets : Addresses) :
    Triple t.SubnetsShow (t.releaseSubnets subnets) (fun _ => t.SubnetsShow)
      (fun _ => t.SubnetsShow) := by
  rw [releaseSubnets, parent?_of_role hrole]
  exact zoom_subnetsShow (Registry.returnSubnets_subnetsShow subnets.present)

theorem nodeSubnets_subnetsShow (hrole : t.role = .root) (id : String) :
    Triple t.SubnetsShow (t.nodeSubnets id) (fun _ => t.SubnetsShow) (fun _ => t.SubnetsShow) := by
  refine .bind (R := fun _ => t.SubnetsShow) (look_spec fun _ hs => hs) fun found => ?_
  cases found with
  | some node => exact .pure fun _ hs => hs
  | none =>
    refine .bind (requestSubnets_subnetsShow hrole) fun subnets => ?_
    exact .bind (R := fun _ => t.SubnetsShow) (change_spec fun _ hs => hs.set fun _ => rfl)
      fun _ => .pure fun _ hs => hs

theorem releaseNodeSubnets_subnetsShow (hrole : t.role = .root) (id : String) :
    Triple t.SubnetsShow (t.releaseNodeSubnets id) (fun _ => t.SubnetsShow)
      (fun _ => t.SubnetsShow) := by
  refine .bind (R := fun _ => t.SubnetsShow) (look_spec fun _ hs => hs) fun found => ?_
  cases found with
  | none => exact .pure fun _ hs => hs
  | some node =>
    refine .bind (releaseSubnets_subnetsShow hrole node.subnets) fun _ => ?_
    exact change_spec fun _ hs => hs.set fun _ => rfl

end Tier

namespace RootTier

variable {σ : Type} {R : RootTier σ}

/-- Telling others has no effect on the subnet pools of the root. -/
def KeepsSubnets (R : RootTier σ) : Prop :=
  ∀ recipient message s,
    (R.site.get s).SameSubnets (R.site.get (R.notify recipient message s).2)

/-- That the subnet pools are in order is seen from nothing else. -/
theorem KeepsSubnets.seesSubnets (h : R.KeepsSubnets) : R.tier.SeesSubnets R.tier.SubnetsShow where
  role := rfl
  set := Tier.SubnetsShow.set
  notify recipient message {_} hs := Registry.SubnetsShow.congr hs (h recipient message _)

/-- Every task leaves the subnet pools in order. -/
theorem KeepsSubnets.carryOut (h : R.KeepsSubnets) (task : RootTask) {s : σ}
    (hs : R.tier.SubnetsShow s) : R.tier.SubnetsShow (R.tier.carryOut task s) := by
  have hsees := h.seesSubnets
  cases task with
  | call call =>
    cases hcall : call.aboutSubnets with
    | false => exact (hsees.perform call hcall).after hs
    | true =>
      cases call with
      | requestSubnets => exact (Tier.requestSubnets_subnetsShow rfl).after hs
      | releaseSubnets subnets => exact (Tier.releaseSubnets_subnetsShow rfl subnets).after hs
      | _ => cases hcall
  | resolve selector => exact (hsees.unconcerned.steady.resolve selector).after hs
  | report selector number network reporter =>
    exact (hsees.unconcerned.steady.reportNetwork nofun ..).after hs
  | undeploy selector number => exact (hsees.unconcerned.undeploy selector number).after hs
  | request client wanted =>
    refine (hsees.unconcerned.handle client wanted ?_ ?_).after hs
    · exact fun _ _ => Tier.nodeSubnets_subnetsShow rfl client
    · exact fun _ => Tier.releaseNodeSubnets_subnetsShow rfl client

/-- The subnet pools are in order at every moment of a run. -/
theorem KeepsSubnets.state (h : R.KeepsSubnets) (tasks : List RootTask) (s : σ) :
    (R.state tasks s).SubnetsShow := by
  induction tasks with
  | nil =>
    intro f
    rw [RootTier.state, reached, R.site.get_set]
    exact ⟨_, _, Pool.shows_unused (Pool.ofKind_regular _) rfl⟩
  | cons task earlier ih => exact h.carryOut task ih

end RootTier

/-- Whether a call takes addresses. -/
def RootCall.allocates : RootCall → Bool
  | .register _ _ | .addInstances _ _ _ | .deployGateway _ | .requestSubnets => true
  | _ => false

namespace RootTier

variable {σ : Type} (R : RootTier σ)

/-- **All or nothing.** A call that takes addresses and fails, after whatever run, changes nothing but
the state of the pools, and all pools offer what they offered before. -/
theorem all_or_nothing (hkeeps : R.KeepsSubnets) (tasks : List RootTask) (s : σ) (call : RootCall)
    (hcall : call.allocates = true)
    (herror : (R.tier.perform call (R.reached tasks s)).1.isOk = false) :
    (R.state tasks s).SameOffers (R.site.get (R.tier.perform call (R.reached tasks s)).2) := by
  obtain ⟨lost, hbooks⟩ := R.state_books tasks s
  have hsubnets := hkeeps.state tasks s
  -- each of the calls is an operation on the registry that either succeeds or keeps all offers
  have hzoom : ∀ {x : Action Registry TierError call.Answer},
      R.tier.perform call = x.zoom R.site → Triple (· = R.state tasks s) x (fun _ _ => True)
        (fun _ => (R.state tasks s).SameOffers) →
      (R.state tasks s).SameOffers (R.site.get (R.tier.perform call (R.reached tasks s)).2) := by
    intro x hperform hx
    rw [hperform] at herror ⊢
    rw [Action.zoom_apply, R.site.get_set]
    rcases hrun : x (R.site.get (R.reached tasks s)) with ⟨e' | a, r'⟩
    · exact hx.of_error rfl hrun
    · rw [Action.zoom_apply, hrun] at herror
      cases herror
  cases call with
  | register d systemId => exact hzoom rfl (Registry.register_offers hbooks.roundRobin d systemId)
  | addInstances systemId replicas cluster =>
    exact hzoom rfl (Registry.offers_of_underway hbooks
      (Registry.addInstances_spec hbooks systemId replicas cluster)
      (.addInstances systemId replicas cluster))
  | deployGateway d =>
    exact hzoom rfl (Registry.offers_of_underway hbooks (Registry.deployGateway_spec hbooks d)
      (.deployGateway d))
  | requestSubnets => exact hzoom rfl (Registry.takeSubnets_offers hsubnets)
  | _ => cases hcall

/-- A service that asks for an IPv6 address outside of the space. -/
def outOfSpace : RootCall :=
  .register ⟨"b", "n", "s", "n", ⟨none, some "::1"⟩⟩ "K"

/-- A service with an instance. -/
def oneInstance : List RootTask :=
  [.call (.addInstances "J" 1 "c1"), .call (.register ⟨"a", "n", "s", "n", ⟨none, none⟩⟩ "J")]

/-- The IPv4 address that was taken for the other service has come back, and the counter has moved. -/
theorem all_or_nothing_outOfSpace :
    (Standalone.delivering.state oneInstance (.start ⟨[], [], []⟩ [])).SameOffers
      (Standalone.delivering.site.get (Standalone.delivering.tier.perform outOfSpace
        (Standalone.delivering.reached oneInstance (.start ⟨[], [], []⟩ []))).2) ∧
    (Standalone.delivering.state oneInstance (.start ⟨[], [], []⟩ [])).pool "rr_ip" ≠
      (Standalone.delivering.site.get (Standalone.delivering.tier.perform outOfSpace
        (Standalone.delivering.reached oneInstance (.start ⟨[], [], []⟩ []))).2).pool "rr_ip" := by
  have hkeeps : Standalone.delivering.KeepsSubnets := by
    intro recipient message s f
    simp only [Standalone.delivering, Standalone.deliver]
    split
    · rfl
    · rfl
  refine ⟨Standalone.delivering.all_or_nothing hkeeps oneInstance (.start ⟨[], [], []⟩ [])
    outOfSpace rfl (by decide +kernel), by decide +kernel⟩

end RootTier

end Overlay
