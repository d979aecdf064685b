import Overlay.Bus
import Overlay.Http.Client

/-!
# A root and its clusters

Two levels of tiers on one machine. The clusters ask the root over HTTP, the root calls its
clusters back over HTTP, and every cluster publishes for its workers. A tier that accepts calls
listens on a port of its own; what goes to another port reaches nobody.

A call may cause further calls: a report of a cluster makes the root call clusters back, which look
the job up at the root. Every call is carried one level less deep than the one that caused it.
-/

namespace Overlay

/-- A tier of a hierarchy with `n` clusters. -/
inductive Site (n : Nat) where
  | root
  | cluster (i : Fin n)
  deriving DecidableEq

namespace Hierarchy

/-- How a hierarchy is laid out. -/
structure Plan (n : Nat) where
  /-- The identifiers of the clusters. -/
  ids : Fin n → String
  /-- The port on which a tier listens, if it accepts calls. -/
  port? : Site n → Option UInt16
  /-- The port at which the clusters look for the root. -/
  rootPort : UInt16

/-- The number of a cluster is always in range. -/
instance {n : Nat} : GetElem (Vector Registry n) (Fin n) Registry fun _ _ => True where
  getElem registries i _ := registries.get i

@[simp] theorem getElem_number {n : Nat} (registries : Vector Registry n) (i : Fin n) :
    registries[i] = registries[i.val] := rfl

/-- The registries of all tiers, and what the clusters have published, in order. -/
structure World (n : Nat) where
  root : Registry
  clusters : Vector Registry n
  published : List (Fin n × Publication)

variable {n : Nat}

/-- Nothing remembered and nothing published. -/
def World.empty (n : Nat) : World n :=
  ⟨∅, Vector.replicate n ∅, []⟩

/-- The registry of the root. -/
def rootPart : Part (World n) Registry where
  get := World.root
  set r w := { w with root := r }

/-- The registry of a cluster. -/
def clusterPart (i : Fin n) : Part (World n) Registry where
  get w := w.clusters[i]
  set r w := { w with clusters := w.clusters.set i r }
  get_set := by simp
  set_get := by simp
  set_set := by simp

/-- The registry of a tier. -/
def part : Site n → Part (World n) Registry
  | .root => rootPart
  | .cluster i => clusterPart i

/-- Publishes messages of a cluster for its workers. -/
def publisher (i : Fin n) : Notifier (World n) := fun recipient m w =>
  (.ok (), { w with published := w.published ++ [(i, ⟨m.topic recipient, m.payload⟩)] })

/-- Calls across tiers are tried twice. -/
def retry : RetryPolicy :=
  { RetryPolicy.standard with maxAttempts := 2 }

/-- A tier of the hierarchy, whose calls are carried by a transport. -/
def tier (plan : Plan n) (transport : Http.Transport (World n)) : Site n → Tier (World n)
  | .root => ⟨.root, rootPart, Http.clusterNotifier rootPart retry transport⟩
  | .cluster i =>
    let client := Http.ParentClient.new s!"http://127.0.0.1:{plan.rootPort}" (plan.ids i) retry
    ⟨.cluster (plan.ids i) (client.parent transport), clusterPart i, publisher i⟩

/-- Which interface a tier serves. -/
def router : Site n → Http.Router
  | .root => .root
  | .cluster _ => .cluster

/-- The tiers of a hierarchy. -/
def sites (n : Nat) : List (Site n) :=
  .root :: (List.finRange n).map .cluster

/-- The tier that a URL reaches. -/
def siteAt? (plan : Plan n) (url : Http.Url) : Option (Site n) :=
  if url.isLocal then (sites n).find? fun s => (plan.port? s).any fun p => p.toNat == url.port
  else none

/-- Carries calls, at most `depth` deep. -/
def transport (plan : Plan n) : Nat → Http.Transport (World n)
  | 0 => fun url _ => throw (.unreachable url.text)
  | depth + 1 => fun url request =>
    match siteAt? plan url with
    | none => throw (.unreachable url.text)
    | some s => do
      let t := tier plan (transport plan depth) s
      let response ← (Http.Api.respond t (router s) request).mapError nofun
      return response.reply

/-- How deep calls are carried. The deepest are four: a cluster reports, the root calls clusters
back, they look the job up, and the root answers. -/
def depth : Nat :=
  4

/-- A tier of the hierarchy. -/
def tierAt (plan : Plan n) (s : Site n) : Tier (World n) :=
  tier plan (transport plan depth) s

end Hierarchy

end Overlay
