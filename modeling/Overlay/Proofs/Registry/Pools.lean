import Overlay.Registry.Basic

/-!
# The registry but for its pools

A pool works on its own state in the registry and on nothing else. `Registry.SameBut name` says
that two registries agree but for the state of one pool, `Registry.OnlyPools` that they agree but
for the state of some pools. Most operations on jobs leave everything else alone
(`Registry.OnlyJobs`).
-/

namespace Overlay.Registry

variable {r r' r'' : Registry} {name other : String}

@[simp] theorem pool_setPool (r : Registry) (name : String) (state : PoolState) :
    (r.setPool name state).pool name = state := by
  simp [pool, setPool]

theorem pool_setPool_of_ne (h : other ≠ name) (state : PoolState) :
    (r.setPool name state).pool other = r.pool other := by
  simp [pool, setPool, Table.get?_insert_of_ne _ h]

@[simp] theorem pool_setNext (r : Registry) (name : String) (next : List UInt8) :
    (r.setNext name next).pool name = { r.pool name with next := some next } :=
  pool_setPool ..

@[simp] theorem pool_pushFree (r : Registry) (name : String) (bytes : List UInt8) :
    (r.pushFree name bytes).pool name =
      { r.pool name with free := (r.pool name).free ++ [bytes] } :=
  pool_setPool ..

/-- Registries that agree on everything but the state of one pool. -/
structure SameBut (name : String) (r r' : Registry) : Prop where
  jobs : r'.jobs = r.jobs
  clusters : r'.clusters = r.clusters
  nodes : r'.nodes = r.nodes
  gateways : r'.gateways = r.gateways
  pool : ∀ other, other ≠ name → r'.pool other = r.pool other

namespace SameBut

theorem refl (name : String) (r : Registry) : SameBut name r r :=
  ⟨rfl, rfl, rfl, rfl, fun _ _ => rfl⟩

theorem trans (h : SameBut name r r') (h' : SameBut name r' r'') : SameBut name r r'' where
  jobs := h'.jobs.trans h.jobs
  clusters := h'.clusters.trans h.clusters
  nodes := h'.nodes.trans h.nodes
  gateways := h'.gateways.trans h.gateways
  pool other hne := (h'.pool other hne).trans (h.pool other hne)

theorem setPool (r : Registry) (name : String) (state : PoolState) :
    SameBut name r (r.setPool name state) :=
  ⟨rfl, rfl, rfl, rfl, fun _ hne => pool_setPool_of_ne hne state⟩

theorem setNext (r : Registry) (name : String) (next : List UInt8) :
    SameBut name r (r.setNext name next) :=
  setPool ..

theorem pushFree (r : Registry) (name : String) (bytes : List UInt8) :
    SameBut name r (r.pushFree name bytes) :=
  setPool ..

end SameBut

/-- Registries that agree on everything but the state of their pools. -/
structure OnlyPools (r r' : Registry) : Prop where
  jobs : r'.jobs = r.jobs
  clusters : r'.clusters = r.clusters
  nodes : r'.nodes = r.nodes
  gateways : r'.gateways = r.gateways

namespace OnlyPools

theorem refl (r : Registry) : OnlyPools r r :=
  ⟨rfl, rfl, rfl, rfl⟩

theorem trans (h : OnlyPools r r') (h' : OnlyPools r' r'') : OnlyPools r r'' :=
  ⟨h'.jobs.trans h.jobs, h'.clusters.trans h.clusters, h'.nodes.trans h.nodes,
    h'.gateways.trans h.gateways⟩

theorem ofSameBut (h : SameBut name r r') : OnlyPools r r' :=
  ⟨h.jobs, h.clusters, h.nodes, h.gateways⟩

end OnlyPools

/-- Registries that agree on everything but their jobs. -/
structure OnlyJobs (r r' : Registry) : Prop where
  pools : r'.pools = r.pools
  clusters : r'.clusters = r.clusters
  nodes : r'.nodes = r.nodes
  gateways : r'.gateways = r.gateways

namespace OnlyJobs

theorem refl (r : Registry) : OnlyJobs r r :=
  ⟨rfl, rfl, rfl, rfl⟩

theorem trans (h : OnlyJobs r r') (h' : OnlyJobs r' r'') : OnlyJobs r r'' :=
  ⟨h'.pools.trans h.pools, h'.clusters.trans h.clusters, h'.nodes.trans h.nodes,
    h'.gateways.trans h.gateways⟩

theorem setJobs (r : Registry) (jobs : Table Job) : OnlyJobs r { r with jobs } :=
  ⟨rfl, rfl, rfl, rfl⟩

theorem pool (h : OnlyJobs r r') (name : String) : r'.pool name = r.pool name := by
  rw [Registry.pool, Registry.pool, h.pools]

theorem addParty (r : Registry) (name party : String) : OnlyJobs r (r.addParty name party).2 := by
  rw [Registry.addParty]
  split
  · exact .refl r
  · exact .setJobs r _

theorem removeParty (r : Registry) (name party : String) (dropUnused : Bool) :
    OnlyJobs r (r.removeParty name party dropUnused).2 := by
  rw [Registry.removeParty]
  split
  · exact .refl r
  dsimp only
  split
  · exact .setJobs r _
  split
  · exact .setJobs r _
  · exact .refl r

end OnlyJobs

end Overlay.Registry
