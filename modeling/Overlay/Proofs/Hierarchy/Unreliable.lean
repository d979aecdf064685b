import Overlay.Proofs.Hierarchy.Direct

/-!
# A hierarchy whose calls may fail

A root and its clusters, as in a hierarchy without a network, but each call between two tiers has a
fate of its own (`Hierarchy.Fate`): it may be lost on the way, it may take effect while the answer is
lost, and since callers try again it may take effect more than once. The fates of the calls are
listed beforehand, so a run is a list of steps with the fates of the calls that each of them makes.
-/

namespace Overlay

open Overlay.Action (Triple)

/-- A part of a part. -/
def Part.comp {σ τ υ : Type} (p : Part σ τ) (q : Part τ υ) : Part σ υ where
  get s := q.get (p.get s)
  set u s := p.set (q.set u (p.get s)) s
  get_set u s := by rw [p.get_set, q.get_set]
  set_get s := by rw [q.set_get, p.set_get]
  set_set u u' s := by rw [p.get_set, q.set_set, p.set_set]

namespace Hierarchy

variable {n : Nat} {ε ε' α : Type}

/-- What becomes of a call. -/
structure Fate where
  /-- How often the call takes effect without the caller's hearing of it. -/
  unheard : Nat
  /-- Whether the call is answered after that. Otherwise the caller gives up. -/
  answered : Bool

/-- A hierarchy, and the fates of the calls to come. A call without a fate is answered. -/
structure Unreliable (n : Nat) where
  world : World n
  fates : List Fate

/-- The hierarchy without the fates of its calls. -/
def worldPart : Part (Unreliable n) (World n) where
  get := Unreliable.world
  set world s := { s with world }

/-- The fate of the next call. -/
def Unreliable.nextFate (s : Unreliable n) : Fate × Unreliable n :=
  match s.fates with
  | [] => (⟨0, true⟩, s)
  | fate :: fates => (fate, { s with fates })

/-- A call takes effect some times, and nobody hears of it. -/
def unheard (x : Action (Unreliable n) ε α) : Nat → Action (Unreliable n) ε' Unit
  | 0 => pure ()
  | count + 1 => do
    let _ ← x.attempt
    unheard x count

/-- A call meets its fate. -/
def carried (givenUp : ε) (x : Action (Unreliable n) ε α) : Action (Unreliable n) ε α := do
  let fate ← .step Unreliable.nextFate
  unheard x fate.unheard
  if fate.answered then x else throw givenUp

/-! ## Tiers -/

/-- A root with some way to tell its clusters. -/
def rootOver (notify : Notifier (Unreliable n)) : Tier (Unreliable n) :=
  ⟨.root, worldPart.comp rootPart, notify⟩

/-- A cluster whose calls to the root may fail. -/
def clusterOver (root : Tier (Unreliable n)) (id : String) (i : Fin n) : Tier (Unreliable n) :=
  ⟨.cluster id fun call => carried (.unreachable "no answer") (root.connection id call),
    worldPart.comp (clusterPart i),
    fun recipient message => (publisher i recipient message).zoom worldPart⟩

/-- Nobody is told. -/
def tellNobody : Notifier (Unreliable n) :=
  fun _ _ => pure ()

/-- A cluster takes a change over, if it is reached. -/
def reach (ids : Fin n ↪ String) (recipient : String) (update : JobUpdate) :
    Action (Unreliable n) DeliveryFault Unit :=
  match clusterOf? ids recipient with
  | none => throw (.unreachable recipient)
  | some i => carried (.unreachable recipient) do
    let _ ← ((clusterOver (rootOver tellNobody) (ids i) i).applyUpdate update).mapError fun e =>
      .answered recipient (Http.errorStatus e).display

/-- Tells clusters of changes by calling them, and these calls may fail, too. A cluster that has
failed is skipped, one that fails is marked. -/
def callOver (ids : Fin n ↪ String) : Notifier (Unreliable n) := fun recipient message =>
  match message with
  | .update update => do
    match ← .inspect fun s : Unreliable n => s.world.root.cluster? recipient with
    | none => throw (.notRegistered recipient)
    | some cluster =>
      if cluster.status = .failed then return
      match ← (reach ids recipient update).attempt with
      | .ok () => return
      | .error fault =>
        let _ ← (Action.step fun r : Registry => r.setClusterStatus recipient .failed).zoom
          (worldPart.comp rootPart)
        throw fault
  | _ => pure ()

/-! ## Runs -/

/-- The hierarchy after a step whose calls meet some fates. -/
def Step.survive (ids : Fin n ↪ String) (step : Step n) (fates : List Fate) (w : World n) : World n :=
  let root := rootOver (callOver ids)
  match step with
  | .root call _ => (root.perform call ⟨w, fates⟩).2.world
  | .join i address port =>
    ((clusterOver root (ids i) i).registerWithParent address port ⟨w, fates⟩).2.world
  | .request i client wanted =>
    ((clusterOver root (ids i) i).handle client wanted ⟨w, fates⟩).2.world

/-- The hierarchy after a run. -/
def surviving (ids : Fin n ↪ String) : List (Step n × List Fate) → World n
  | [] => .empty n
  | (step, fates) :: earlier => step.survive ids fates (surviving ids earlier)

/-! ## Calls that may fail -/

variable {P : Unreliable n → Prop} {x : Action (Unreliable n) ε α} {givenUp : ε}

/-- What a call keeps is kept however often it takes effect. -/
theorem unheard_spec {E : ε' → Unreliable n → Prop}
    (h : Triple P x (fun _ => P) (fun _ => P)) (count : Nat) :
    Triple P (unheard x count) (fun _ => P) E := by
  induction count with
  | zero => exact .pure fun _ hs => hs
  | succ count ih => exact .attempt_bind h (fun _ => ih) fun _ => ih

/-- **Fates.** What a call keeps is kept whatever becomes of it. If it is answered, the answer is one
that the call gives. -/
theorem carried_spec {Q : α → Unreliable n → Prop}
    (hfates : ∀ s fates, P s → P { s with fates }) (hkeep : ∀ a s, Q a s → P s)
    (h : Triple P x Q (fun _ => P)) : Triple P (carried givenUp x) Q (fun _ => P) := by
  refine .bind (R := fun _ => P) (.step fun s hs => ?_) fun fate => ?_
  · rw [Unreliable.nextFate]
    split
    · exact hs
    · exact hfates s _ hs
  refine .bind (unheard_spec (h.mono hkeep fun _ _ hs => hs) fate.unheard) fun _ => ?_
  split
  · exact h
  · exact .throw fun _ hs => hs

/-- Each call to come has its effect if it is answered, and otherwise none. -/
def Unreliable.Faithful (s : Unreliable n) : Prop :=
  ∀ fate ∈ s.fates, fate.unheard = 0

/-- A call that is lost has no effect. -/
theorem carried_faithful {Q : α → Unreliable n → Prop} {E : ε → Unreliable n → Prop}
    (hfates : ∀ s fates, P s → P { s with fates }) (hlost : ∀ s, P s → E givenUp s)
    (h : Triple P x Q E) :
    Triple (fun s => P s ∧ s.Faithful) (carried givenUp x) Q E := by
  refine .bind (R := fun fate s => P s ∧ fate.unheard = 0) (.step ?_) fun fate => ?_
  · rintro s ⟨hs, hfaithful⟩
    rw [Unreliable.nextFate]
    split
    · exact ⟨hs, rfl⟩
    · next fate fates hlist =>
      exact ⟨hfates s fates hs, hfaithful fate (hlist ▸ List.mem_cons_self)⟩
  refine .of_forall fun s ⟨hs, hunheard⟩ => ?_
  rw [hunheard]
  refine .bind (R := fun _ => P) (.pure ?_) fun _ => ?_
  · rintro _ rfl
    exact hs
  split
  · exact h
  · exact .throw hlost

/-- Only registered clusters are served. -/
theorem requireCluster_keeps {notify : Notifier (Unreliable n)} (id : String) :
    Triple P ((rootOver notify).requireCluster id) (fun _ => P) (fun _ => P) := by
  refine .bind (R := fun _ => P) (Tier.look_spec fun _ hs => hs) fun found => ?_
  cases found with
  | none => exact .throw fun _ hs => hs
  | some cluster => exact .pure fun _ hs => hs

/-- What is kept when a cluster is marked is kept when it is marked and the fault is passed on. -/
theorem mark_keeps {σ : Type} {I : σ → Prop} {site : Part σ Registry}
    (hmark : ∀ s, I s → ∀ id, I (site.set ((site.get s).setClusterStatus id .failed).2 s))
    (id : String) (fault : DeliveryFault) : Triple I (do
      let _ ← (Action.step fun r : Registry => r.setClusterStatus id .failed).zoom site
      throw fault : Action σ DeliveryFault Unit) (fun _ => I) (fun _ => I) := by
  refine .bind (R := fun _ => I) (.zoom fun s hs => .step ?_) fun _ => .throw fun _ hs => hs
  rintro _ rfl
  exact hmark s hs id

/-- **Calling back.** What the clusters keep when they take changes over is kept when they are called
back, if it is kept when a cluster is marked. -/
theorem callOver_keeps {ids : Fin n ↪ String} (hfates : ∀ s fates, P s → P { s with fates })
    (happly : ∀ i update, Triple P
      ((clusterOver (rootOver tellNobody) (ids i) i).applyUpdate update) (fun _ => P) (fun _ => P))
    (hmark : ∀ s, P s → ∀ id,
      P { s with world.root := (s.world.root.setClusterStatus id .failed).2 })
    (recipient : String) (message : ChildMessage) :
    Triple P (callOver ids recipient message) (fun _ => P) (fun _ => P) := by
  cases message with
  | update update =>
    have hreach : Triple P (reach ids recipient update) (fun _ => P) (fun _ => P) := by
      rw [reach]
      split
      · exact .throw fun _ hs => hs
      · next i _ =>
        refine carried_spec hfates (fun _ _ hs => hs) ?_
        exact .bind (.mapError (happly i update)) fun _ => .pure fun _ hs => hs
    refine .bind (R := fun _ => P) (.inspect fun _ hs => hs) fun found => ?_
    cases found with
    | none => exact .throw fun _ hs => hs
    | some cluster =>
      dsimp only
      split
      · exact .pure fun _ hs => hs
      exact .attempt_bind hreach (fun _ => .pure fun _ hs => hs) (mark_keeps hmark recipient)
  | tableAnswer _ => exact .pure fun _ hs => hs
  | subnets _ => exact .pure fun _ hs => hs
  | interestRemoved _ => exact .pure fun _ hs => hs

end Hierarchy

end Overlay
