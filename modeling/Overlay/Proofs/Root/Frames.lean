import Overlay.Proofs.Root.Runs
import Overlay.Proofs.Tier.Operations

/-!
# Which pools an operation uses

An operation of a root uses the pools of one purpose at most (`Registry.UsesOnly`): scheduling uses
the instance pools, registering the round-robin pools, and workers get their subnets from pools of
their own. So an invariant that sees nothing of the registry but the subnet pools is kept by all calls
but those that take subnets or give them back (`Tier.SeesSubnets`).
-/

namespace Overlay

open Overlay.Action (Triple)

namespace Registry

variable {purpose : Purpose} {r r' r'' : Registry} {ε ε' α β : Type}

/-- Registries with the same state of all pools but those of one purpose. -/
def PoolsBut (purpose : Purpose) (r r' : Registry) : Prop :=
  ∀ k : PoolKind, k.purpose ≠ purpose → r'.pool k.name = r.pool k.name

namespace PoolsBut

theorem refl (purpose : Purpose) (r : Registry) : PoolsBut purpose r r :=
  fun _ _ => rfl

theorem trans (h : PoolsBut purpose r r') (h' : PoolsBut purpose r' r'') :
    PoolsBut purpose r r'' :=
  fun k hk => (h' k hk).trans (h k hk)

theorem ofPools (h : r'.pools = r.pools) : PoolsBut purpose r r' := by
  intro k _
  simp only [pool, h]

theorem ofSameBut {k : PoolKind} (h : SameBut k.name r r') : PoolsBut k.purpose r r' := by
  intro k' hk
  refine h.pool k'.name fun heq => hk ?_
  exact congrArg PoolKind.purpose (PoolKind.name_inj.1 heq)

end PoolsBut

/-- An action that leaves all pools alone but those of one purpose, whether it fails or not. -/
def UsesOnly (purpose : Purpose) (x : Action Registry ε α) : Prop :=
  ∀ r, PoolsBut purpose r (x r).2

namespace UsesOnly

theorem ofPools {x : Action Registry ε α} (h : ∀ r, (x r).2.pools = r.pools) :
    UsesOnly purpose x :=
  fun r => .ofPools (h r)

theorem pure (a : α) : UsesOnly purpose (Pure.pure a : Action Registry ε α) :=
  .ofPools fun _ => rfl

theorem throw (e : ε) : UsesOnly purpose (MonadExcept.throw e : Action Registry ε α) :=
  .ofPools fun _ => rfl

theorem bind {x : Action Registry ε α} {f : α → Action Registry ε β} (hx : UsesOnly purpose x)
    (hf : ∀ a, UsesOnly purpose (f a)) : UsesOnly purpose (x >>= f) := by
  intro r
  have hfirst := hx r
  rw [Action.bind_apply]
  rcases hxr : x r with ⟨e | a, s⟩
  · rw [hxr] at hfirst
    exact hfirst
  · rw [hxr] at hfirst
    exact hfirst.trans (hf a s)

theorem attempt {x : Action Registry ε α} (hx : UsesOnly purpose x) :
    UsesOnly purpose (x.attempt : Action Registry ε' (Except ε α)) :=
  hx

theorem mapError {x : Action Registry ε α} {f : ε → ε'} (hx : UsesOnly purpose x) :
    UsesOnly purpose (x.mapError f) :=
  hx

theorem inspect (f : Registry → α) : UsesOnly purpose (Action.inspect f : Action Registry ε α) :=
  .ofPools fun _ => rfl

theorem updateJob (name : String) (edit : Job → Except ε (α × Job)) :
    UsesOnly purpose (Registry.updateJob name edit) := by
  refine .ofPools fun r => ?_
  unfold Registry.updateJob
  split
  · rfl
  split
  · rfl
  · rfl

theorem updateGateway (id : String) (edit : Gateway → Except ε (α × Gateway)) :
    UsesOnly purpose (Registry.updateGateway id edit) := by
  refine .ofPools fun r => ?_
  unfold Registry.updateGateway
  split
  · rfl
  split
  · rfl
  · rfl

theorem allocate (k : PoolKind) : UsesOnly k.purpose (Pool.ofKind k).allocate :=
  fun r => .ofSameBut ((Pool.ofKind k).allocate_sameBut r)

theorem release (k : PoolKind) (text : String) :
    UsesOnly k.purpose ((Pool.ofKind k).release text) :=
  fun r => .ofSameBut ((Pool.ofKind k).release_sameBut text r)

/-! ### Scheduling -/

theorem returnInstanceAddresses (list : List (Family × String)) :
    UsesOnly .oneInstance (Registry.returnInstanceAddresses list : Action Registry ε Unit) := by
  induction list with
  | nil => exact .pure ()
  | cons e rest ih => exact .bind (.attempt (.release ⟨.oneInstance, e.1⟩ e.2)) fun _ => ih

/-- Giving addresses back, and failing. -/
theorem rollback (list : List (Family × String)) (e : ε) : UsesOnly .oneInstance
    (do Registry.returnInstanceAddresses list; MonadExcept.throw e : Action Registry ε α) :=
  .bind (.returnInstanceAddresses list) fun _ => .throw e

theorem takeInstancePair : UsesOnly .oneInstance Registry.takeInstancePair := by
  refine .bind (.mapError (.allocate ⟨.oneInstance, .v4⟩)) fun v4 => ?_
  refine .bind (.attempt (.allocate ⟨.oneInstance, .v6⟩)) fun answer => ?_
  cases answer with
  | ok v6 => exact .pure _
  | error e => exact .rollback _ _

theorem takeInstancePairs (count : Nat) (taken : List Addresses) :
    UsesOnly .oneInstance (Registry.takeInstancePairs count taken) := by
  induction count generalizing taken with
  | zero => exact .pure taken
  | succ count ih =>
    refine .bind (.attempt .takeInstancePair) fun answer => ?_
    cases answer with
    | ok pair => exact ih _
    | error e => exact .rollback _ e

theorem addInstances (systemId : String) (replicas : UInt32) (cluster : String) :
    UsesOnly .oneInstance (Registry.addInstances systemId replicas cluster) := by
  simp only [Registry.addInstances, Action.throw_bind]
  split
  · exact .throw _
  refine .bind (.inspect _) fun found => ?_
  cases found with
  | none => exact .throw _
  | some job =>
    refine .bind (.takeInstancePairs _ _) fun pairs => .bind (.updateJob _ _) fun added => ?_
    cases added with
    | none => exact .rollback _ _
    | some added => exact .pure added

theorem gatewayAddress (publicAddress : Option String) (f : Family) :
    UsesOnly .oneInstance (Registry.gatewayAddress publicAddress f) := by
  cases publicAddress with
  | none => exact .pure none
  | some a =>
    exact .bind (.mapError (.allocate ⟨.oneInstance, f⟩)) fun text => .pure (some text)

theorem deployGateway (d : GatewayDeployment) :
    UsesOnly .oneInstance (Registry.deployGateway d) := by
  simp only [Registry.deployGateway, Action.throw_bind]
  split
  · exact .throw _
  split
  · exact .throw _
  refine .bind (.inspect _) fun existing => ?_
  cases existing with
  | some g => exact .pure g.job
  | none =>
  refine .bind (.inspect _) fun named => ?_
  cases named with
  | some job => exact .throw _
  | none =>
  refine .bind (.gatewayAddress _ .v4) fun v4 => ?_
  refine .bind (.attempt (.gatewayAddress _ .v6)) fun answer => ?_
  cases answer with
  | error e => exact .rollback _ e
  | ok v6 => exact .bind (.ofPools fun _ => rfl) fun _ => .pure _

/-! ### Registering -/

theorem assignShared (name : String) (requested : Option String) (f : Family) :
    UsesOnly .roundRobin (Pool.assignShared name requested f) := by
  intro r
  simp only [Pool.assignShared]
  split
  · exact .refl _ r
  split
  · exact UsesOnly.allocate ⟨.roundRobin, f⟩ r
  · exact .refl _ r

theorem sharedAddress (name : String) (requested current : Option String) (f : Family) :
    UsesOnly .roundRobin (Registry.sharedAddress name requested current f) := by
  unfold Registry.sharedAddress
  split
  · exact .pure _
  · exact .bind (.mapError (.assignShared _ _ f)) fun text => .pure _

theorem register (d : ServiceDescriptor) (systemId : String) :
    UsesOnly .roundRobin (Registry.register d systemId) := by
  simp only [Registry.register, Action.throw_bind]
  refine .bind (.ofPools fun _ => rfl) fun name => ?_
  split
  · exact .throw _
  refine .bind (.inspect _) fun found => .bind (.sharedAddress _ _ _ _) fun given => ?_
  refine .bind (.attempt (.sharedAddress _ _ _ _)) fun answer => ?_
  cases answer with
  | ok given6 => exact .bind (.ofPools fun _ => rfl) fun _ => .pure _
  | error e =>
    dsimp only
    split
    · exact .bind (.attempt (.release ⟨.roundRobin, .v4⟩ _)) fun _ => .throw e
    · exact .throw e

/-! ### Gateways -/

theorem editGateway (id : String) (edit : Gateway → Gateway) :
    UsesOnly purpose (Registry.editGateway id edit) := by
  refine .bind (.updateGateway id _) fun found => ?_
  cases found with
  | some g => exact .pure g
  | none => exact .throw _

theorem setGatewayNamespaces (id : String) (namespaces : Addresses) :
    UsesOnly purpose (Registry.setGatewayNamespaces id namespaces) := by
  refine .bind (.editGateway id _) fun g => .bind (.updateJob _ _) fun found => ?_
  cases found with
  | some _ => exact .pure g
  | none => exact .bind (.ofPools fun _ => rfl) fun _ => .pure g

end UsesOnly

/-- Registries with the same state of the subnet pools. -/
def SameSubnets (r r' : Registry) : Prop :=
  ∀ f, r'.pool (Pool.subnets f).name = r.pool (Pool.subnets f).name

theorem PoolsBut.sameSubnets (h : PoolsBut purpose r r') (hp : purpose ≠ .subnet) :
    SameSubnets r r' :=
  fun f => h ⟨.subnet, f⟩ (Ne.symm hp)

theorem OnlyJobs.sameSubnets (h : OnlyJobs r r') : SameSubnets r r' :=
  fun f => h.pool (Pool.subnets f).name

end Registry

/-! ## What a root does apart from subnets -/

/-- Whether a call takes subnets or gives them back. -/
def RootCall.aboutSubnets : RootCall → Bool
  | .requestSubnets | .releaseSubnets _ => true
  | _ => false

namespace Tier

variable {σ α : Type} {t : Tier σ}

/-- An invariant over a root that sees nothing of its registry but the subnet pools. -/
structure SeesSubnets (t : Tier σ) (I : σ → Prop) : Prop where
  role : t.role = .root
  set : ∀ {s r}, I s → (t.site.get s).SameSubnets r → I (t.site.set r s)
  notify : ∀ recipient message {s}, I s → I (t.notify recipient message s).2

namespace SeesSubnets

variable {I : σ → Prop} (h : t.SeesSubnets I)

include h

/-- An operation that uses other pools. -/
theorem zoom {ε : Type} {purpose : Purpose} {x : Action Registry ε α}
    (hx : Registry.UsesOnly purpose x) (hp : purpose ≠ .subnet) :
    Triple I (x.zoom t.site) (fun _ => I) (fun _ => I) :=
  .of_after fun s hs => h.set hs ((hx (t.site.get s)).sameSubnets hp)

theorem unconcerned : t.Unconcerned I where
  jobs hs hr := h.set hs hr.sameSubnets
  call hparent := by
    rw [parent?_of_role h.role] at hparent
    cases hparent
  back _ addresses := h.zoom (.returnInstanceAddresses addresses) (by decide)
  notify := h.notify

/-- **Calls.** All calls but those about subnets keep the invariant. -/
theorem perform (call : RootCall) (hcall : call.aboutSubnets = false) :
    Triple I (t.perform call) (fun _ => I) (fun _ => I) := by
  have hsteady := h.unconcerned.steady
  cases call with
  | register d systemId =>
    rw [Tier.perform, Tier.register, atRoot_of_role h.role]
    exact h.zoom (.register d systemId) (by decide)
  | addInstances systemId replicas cluster =>
    rw [Tier.perform, Tier.addInstances, atRoot_of_role h.role]
    exact h.zoom (.addInstances systemId replicas cluster) (by decide)
  | undeployInstance systemId number =>
    simp only [Tier.perform, undeployInstance, isRoot_of_role h.role, Bool.not_true,
      Bool.false_eq_true, if_false]
    refine .bind (R := fun _ => I) (look_spec fun _ hs => hs) fun found => ?_
    cases found with
    | none => exact .throw fun _ hs => hs
    | some job => exact h.unconcerned.undeploy _ number
  | deployGateway d =>
    rw [Tier.perform, Tier.deployGateway, atRoot_of_role h.role]
    exact h.zoom (.deployGateway d) (by decide)
  | setGatewayNamespaces id namespaces =>
    rw [Tier.perform, Tier.setGatewayNamespaces, atRoot_of_role h.role]
    have huses : Registry.UsesOnly .oneInstance (Registry.setGatewayNamespaces id namespaces) :=
      .setGatewayNamespaces id namespaces
    exact h.zoom huses (by decide)
  | setGatewayServices id services =>
    rw [Tier.perform, Tier.setGatewayServices, atRoot_of_role h.role]
    have huses : Registry.UsesOnly .oneInstance (Registry.setGatewayServices id services) :=
      .editGateway id _
    exact h.zoom huses (by decide)
  | applyDeployReport report =>
    refine .of_forall fun s hs => (applyDeployReport_spec report s).mono ?_ fun _ _ hs' => hs' ▸ hs
    rintro _ _ ⟨r', messages, hr, -, rfl⟩
    exact hsteady.tell messages (h.set hs (Registry.OnlyJobs.restored hr).sameSubnets)
  | childLookup child selector =>
    simp only [Tier.perform, childLookup]
    refine .bind (hsteady.resolve selector) fun found => ?_
    split
    · exact .pure fun _ hs => hs
    · exact .bind (hsteady.addInterest ..) fun _ => look_spec fun _ hs => hs
  | removeInterest jobName party => exact h.unconcerned.removeInterest jobName party
  | requestSubnets => cases hcall
  | releaseSubnets subnets => cases hcall
  | registerCluster registration =>
    simp only [Tier.perform, registerCluster, isRoot_of_role h.role, Bool.not_true,
      Bool.false_eq_true, if_false]
    split
    · exact .throw fun _ hs => hs
    refine .bind (R := fun _ => I) (change_spec fun s hs => ?_) fun _ => .pure fun _ hs => hs
    exact h.set hs fun _ => rfl

end SeesSubnets

end Tier

end Overlay
