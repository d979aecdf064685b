import Mathlib.Logic.Embedding.Basic
import Overlay.Hierarchy
import Overlay.Proofs.Root.Runs

/-!
# A hierarchy without a network

A root and its clusters that call each other directly: every call is answered and every notification
arrives, as in a run of the hierarchy over HTTP in which nothing fails. A cluster that is called
back may look jobs up at the root, and no one is told of a look-up; so the root that answers a
callback needs nobody to tell (`Hierarchy.silence`), and the other tiers are built on it.

A run starts with empty registries. Like the runs of a root it is a list, the latest step first.
-/

namespace Overlay

variable {σ : Type}

/-- What a root does for a child that calls it. Most calls are answered for registered children
only. -/
def Tier.serve (t : Tier σ) (child : String) : (call : ParentCall) → Action σ TierError call.Answer
  | .fetchJob selector => do
    let _ ← t.requireCluster child
    t.childLookup child selector
  | .reportDeployment report => do
    let _ ← t.applyDeployReport report
  | .requestSubnets => do
    let _ ← t.requireCluster child
    t.requestSubnets
  | .releaseSubnets subnets => do
    let _ ← t.requireCluster child
    t.releaseSubnets subnets
  | .removeInterest jobName => do
    let _ ← t.requireCluster child
    let _ ← t.removeInterest jobName child
  | .register registration => do
    let _ ← t.registerCluster registration

/-- The direct connection of a child to its parent. -/
def Tier.connection (t : Tier σ) (child : String) : Parent σ := fun call =>
  (t.serve child call).mapError fun e => .refused (Http.errorStatus e).display e.message

/-- Whether a root is called on behalf of a child tier. -/
def RootCall.forChild : RootCall → Bool
  | .childLookup _ _ | .removeInterest _ _ => true
  | _ => false

namespace Hierarchy

variable {n : Nat}

/-- The root with some way to tell its clusters. -/
def rootTelling (notify : Notifier (World n)) : Tier (World n) :=
  ⟨.root, rootPart, notify⟩

/-- A cluster that calls a root directly. -/
def clusterBelow (root : Tier (World n)) (id : String) (i : Fin n) : Tier (World n) :=
  ⟨.cluster id (root.connection id), clusterPart i, publisher i⟩

@[simp] theorem rootTelling_get (notify : Notifier (World n)) (w : World n) :
    (rootTelling notify).site.get w = w.root := rfl

@[simp] theorem clusterBelow_get (root : Tier (World n)) (id : String) (i : Fin n) (w : World n) :
    (clusterBelow root id i).site.get w = w.clusters[i] := rfl

/-- Nobody is told. -/
def silence : Notifier (World n) :=
  fun _ _ => pure ()

/-- The cluster of an identifier. -/
def clusterOf? (ids : Fin n ↪ String) (id : String) : Option (Fin n) :=
  (List.finRange n).find? fun i => ids i == id

/-- A cluster that is called back: it looks jobs up at a root that tells nobody. -/
def calledBack (ids : Fin n ↪ String) (i : Fin n) : Tier (World n) :=
  clusterBelow (rootTelling silence) (ids i) i

/-- Tells clusters of changes by calling them. A cluster that has failed is skipped, one that fails
is marked. -/
def callBack (ids : Fin n ↪ String) : Notifier (World n) := fun recipient message =>
  match message with
  | .update update => do
    match ← (Action.inspect fun w : World n => w.root.cluster? recipient) with
    | none => throw (.notRegistered recipient)
    | some cluster =>
      if cluster.status = .failed then return
      let mark : Action (World n) DeliveryFault Bool :=
        (Action.step fun r : Registry => r.setClusterStatus recipient .failed).zoom rootPart
      match clusterOf? ids recipient with
      | none =>
        let _ ← mark
        throw (.unreachable recipient)
      | some i =>
        match ← ((calledBack ids i).applyUpdate update).attempt with
        | .ok _ => return
        | .error e =>
          let _ ← mark
          throw (.answered recipient (Http.errorStatus e).display)
  | _ => pure ()

/-- The root of the hierarchy. -/
def directRoot (ids : Fin n ↪ String) : Tier (World n) :=
  rootTelling (callBack ids)

/-- A cluster of the hierarchy. -/
def directCluster (ids : Fin n ↪ String) (i : Fin n) : Tier (World n) :=
  clusterBelow (directRoot ids) (ids i) i

/-! ## Runs -/

/-- A step of the hierarchy. -/
inductive Step (n : Nat) where
  /-- The root is called from outside. -/
  | root (call : RootCall) (outside : call.forChild = false)
  /-- A cluster registers with the root. -/
  | join (i : Fin n) (address : String) (port : UInt16)
  /-- A worker sends a request to its cluster. -/
  | request (i : Fin n) (client : String) (wanted : ChildRequest)

variable (ids : Fin n ↪ String)

/-- The hierarchy after a step. -/
def Step.run : Step n → World n → World n
  | .root call _, w => ((directRoot ids).perform call w).2
  | .join i address port, w => ((directCluster ids i).registerWithParent address port w).2
  | .request i client wanted, w => ((directCluster ids i).handle client wanted w).2

/-- The hierarchy after a run. -/
def after : List (Step n) → World n
  | [] => .empty n
  | step :: earlier => step.run ids (after earlier)

/-- The number of a cluster that is alone. -/
scoped instance single : OfNat (Fin 1) 0 :=
  ⟨⟨0, Nat.one_pos⟩⟩

/-- The names of a hierarchy with one cluster. -/
def alone : Fin 1 ↪ String :=
  ⟨fun _ => "c1", fun _ _ _ => Subsingleton.elim _ _⟩

/-- A run with one cluster: a job gets two instances, and a worker asks for it. -/
def askedFor : List (Step 1) :=
  [.request 0 "w1" (.tableQuery ⟨some "a.n.s.n", none⟩),
    .root (.addInstances "J" 2 "c1") (Eq.refl false),
    .root (.register ⟨"a", "n", "s", "n", ⟨none, none⟩⟩ "J") (Eq.refl false),
    .join 0 "127.0.0.1" 10000]

end Hierarchy

end Overlay
