import Overlay.Proofs.Cluster.Operations
import Overlay.Proofs.Hierarchy.Unreliable
import Overlay.Proofs.Http.Callbacks
import Overlay.Proofs.Root.Tasks

/-!
# Roots that call back

A root tells its clusters of changes by calling them, and a cluster that is called may look the job
up at the root before it answers. What the root does then is nothing that its books look at: it
notes that the cluster is interested, and it marks a cluster that could not be told
(`Tier.connection_sameBooks`, `Registry.SameBooks.setClusterStatus`).

So whatever holds of every root holds of a root over HTTP (`Http.calling`), of one whose clusters
are called directly (`Hierarchy.callingBack`), and of one whose calls may be lost
(`Hierarchy.callingOver`).
-/

namespace Overlay

open Overlay.Action (Triple)

/-! ## Look-ups while a cluster is told -/

namespace Tier

variable {σ : Type} {t : Tier σ} {r : Registry}

/-- A child that looks a job up is noted as interested in it, if anything. -/
theorem childLookup_noted (hrole : t.role = .root) (child : String) (selector : Selector) (s : σ) :
    Triple (· = s) (t.childLookup child selector) (fun _ => t.Noted s) (fun _ => t.Noted s) := by
  simp only [childLookup]
  refine .bind ((resolve_root hrole selector s).mono (fun _ _ hs => hs)
    fun _ _ hs => hs ▸ .refl t _) fun found => ?_
  split
  · exact .pure fun _ hs => hs ▸ .refl t _
  · exact .bind (addInterest_noted found.job.name child s) fun _ => look_spec fun _ hs => hs

/-- **Look-ups.** A root that answers a look-up keeps its books. -/
theorem connection_sameBooks (hrole : t.role = .root) (child : String) (selector : Selector) :
    Triple (fun s => r.SameBooks (t.site.get s)) (t.connection child (.fetchJob selector))
      (fun _ s => r.SameBooks (t.site.get s)) (fun _ s => r.SameBooks (t.site.get s)) := by
  have hnoted : ∀ {s s' : σ}, t.Noted s s' → r.SameBooks (t.site.get s) →
      r.SameBooks (t.site.get s') := by
    rintro s _ ⟨r', rfl, hsame⟩ hs
    rw [t.site.get_set]
    exact hs.trans hsame
  refine .mapError (.bind (R := fun _ s => r.SameBooks (t.site.get s)) ?_ fun _ => ?_)
  · refine .bind (look_spec (Q := fun _ s => r.SameBooks (t.site.get s)) fun _ hs => hs) ?_
    rintro (_ | cluster)
    · exact .throw fun _ hs => hs
    · exact .pure fun _ hs => hs
  · exact .of_forall fun s hs => (childLookup_noted hrole child selector s).mono
      (fun _ _ h => hnoted h hs) fun _ _ h => hnoted h hs

end Tier

/-! ## Over HTTP -/

namespace Http

variable {σ : Type} {I : σ → Prop} {site : Part σ Registry} {policy : RetryPolicy}
  {transport : Transport σ}

/-- What a request keeps is kept however often it is sent. -/
theorem send_keeps {try_ : Action σ TransportFault Reply} (policy : RetryPolicy)
    (h : Triple I try_ (fun _ => I) (fun _ => I)) :
    Triple I (policy.send (·.status) try_) (fun _ => I) (fun _ => I) := by
  rw [RetryPolicy.send]
  induction policy.attempts - 1 with
  | zero => exact h
  | succ left ih =>
    have hagain : ∀ outcome, Triple I (if RetryPolicy.isPassing (Reply.status ·) outcome then
        RetryPolicy.sendLeft (Reply.status ·) try_ left else .ofExcept outcome)
        (fun _ => I) (fun _ => I) := by
      intro outcome
      split
      · exact ih
      · exact .ofExcept (fun _ _ _ hs => hs) fun _ _ _ hs => hs
    exact .attempt_bind h (fun _ => hagain _) fun _ => hagain _

/-- **Telling clusters.** What the requests keep is kept when clusters are told of something, if it
is kept when a cluster is marked. -/
theorem clusterNotifier_keeps
    (hrequest : ∀ url request, Triple I (transport url request) (fun _ => I) (fun _ => I))
    (hmark : ∀ s, I s → ∀ id, I (site.set ((site.get s).setClusterStatus id .failed).2 s))
    (recipient : String) (message : ChildMessage) :
    Triple I (clusterNotifier site policy transport recipient message)
      (fun _ => I) (fun _ => I) := by
  cases message with
  | update update =>
    have hcall : ∀ cluster, Triple I (callBack transport cluster update)
        (fun _ => I) (fun _ => I) := by
      intro cluster
      cases hurl : Url.ofText? (callbackUrl cluster) with
      | none =>
        rw [callBack_of_none hurl]
        exact .throw fun _ hs => hs
      | some url =>
        rw [callBack_of_some hurl]
        exact hrequest url _
    have hfail := Hierarchy.mark_keeps hmark recipient
    refine .bind (R := fun _ => I) (.inspect fun _ hs => hs) ?_
    rintro (_ | cluster)
    · exact .throw fun _ hs => hs
    dsimp only
    split
    · exact .pure fun _ hs => hs
    refine .attempt_bind (send_keeps policy (hcall cluster)) (fun reply => ?_) fun fault => hfail _
    dsimp only
    split
    · exact .pure fun _ hs => hs
    · exact hfail _
  | tableAnswer _ => exact .pure fun _ hs => hs
  | subnets _ => exact .pure fun _ hs => hs
  | interestRemoved _ => exact .pure fun _ hs => hs

/-- A root that calls its clusters back over HTTP. The requests may have effects on the root, but
only such that its books do not look at. -/
def calling (site : Part σ Registry) (policy : RetryPolicy) (transport : Transport σ)
    (h : ∀ url request s, (site.get s).SameBooks (site.get (transport url request s).2)) :
    RootTier σ where
  site := site
  notify := clusterNotifier site policy transport
  keeps recipient message s := by
    refine (clusterNotifier_keeps (I := fun s' => (site.get s).SameBooks (site.get s'))
      (fun url request => .of_after fun s' hs => hs.trans (h url request s'))
      (fun s' hs id => ?_) recipient message).after (.refl _)
    rw [site.get_set]
    exact hs.trans (.setClusterStatus ..)

/-- The root on a line: its requests are kept, and have no other effect. -/
def Wire.calling (W : Wire) : RootTier Line :=
  Http.calling Line.site W.policy W.transport fun _ _ _ => .refl _

@[simp] theorem Wire.tier_calling (W : Wire) : W.calling.tier = W.root := rfl

end Http

/-! ## Without a network -/

namespace Hierarchy

variable {n : Nat} {ids : Fin n ↪ String} {r : Registry}

/-- What a cluster does when it is called back keeps the books of the root. -/
theorem calledBack_steady (i : Fin n) :
    (calledBack ids i).Steady (fun w => r.SameBooks w.root) fun _ _ => True where
  trim hs _ _ := hs
  merge hs _ := hs
  fetch hparent selector := by
    obtain rfl := Option.some.inj hparent
    have hlookup := Tier.connection_sameBooks (t := rootTelling (n := n) silence) (r := r) rfl
      (ids i) selector
    exact hlookup.mono (fun _ _ hs => ⟨hs, fun _ _ => trivial⟩) fun _ _ hs => hs
  notify _ _ _ hs := hs

/-- The same, if its calls may fail. -/
theorem clusterOver_steady (i : Fin n) : (clusterOver (rootOver tellNobody) (ids i) i).Steady
    (fun s => r.SameBooks s.world.root) fun _ _ => True where
  trim hs _ _ := hs
  merge hs _ := hs
  fetch hparent selector := by
    obtain rfl := Option.some.inj hparent
    have hlookup := Tier.connection_sameBooks (t := rootOver (n := n) tellNobody) (r := r) rfl
      (ids i) selector
    exact carried_spec (fun _ _ hs => hs) (fun _ _ hs => hs.1)
      (hlookup.mono (fun _ _ hs => ⟨hs, fun _ _ => trivial⟩) fun _ _ hs => hs)
  notify _ _ _ hs := hs

/-- **Calling back.** What the clusters keep when they take changes over is kept when they are
called back, if it is kept when a cluster is marked. -/
theorem callBack_keeps {P : World n → Prop}
    (happly : ∀ i update, Triple P ((calledBack ids i).applyUpdate update)
      (fun _ => P) (fun _ => P))
    (hmark : ∀ w, P w → ∀ id, P { w with root := (w.root.setClusterStatus id .failed).2 })
    (recipient : String) (message : ChildMessage) :
    Triple P (callBack ids recipient message) (fun _ => P) (fun _ => P) := by
  cases message with
  | update update =>
    have hfail := @mark_keeps _ P rootPart hmark recipient
    refine .bind (R := fun _ => P) (.inspect fun _ hw => hw) ?_
    rintro (_ | cluster)
    · exact .throw fun _ hw => hw
    dsimp only
    split
    · exact .pure fun _ hw => hw
    split
    · exact hfail _
    · next i _ =>
      exact .attempt_bind (happly i update) (fun _ => .pure fun _ hw => hw) fun _ => hfail _
  | tableAnswer _ => exact .pure fun _ hw => hw
  | subnets _ => exact .pure fun _ hw => hw
  | interestRemoved _ => exact .pure fun _ hw => hw

/-- The root of a hierarchy in which every call is answered. -/
def callingBack (ids : Fin n ↪ String) : RootTier (World n) where
  site := rootPart
  notify := callBack ids
  keeps recipient message w := (callBack_keeps (P := fun w' => w.root.SameBooks w'.root)
    (fun i update => (calledBack_steady i).applyUpdate update)
    (fun _ hw _ => hw.trans (.setClusterStatus ..)) recipient message).after (.refl _)

@[simp] theorem tier_callingBack (ids : Fin n ↪ String) :
    (callingBack ids).tier = directRoot ids := rfl

/-- The root of a hierarchy whose calls may be lost or repeated. -/
def callingOver (ids : Fin n ↪ String) : RootTier (Unreliable n) where
  site := worldPart.comp rootPart
  notify := callOver ids
  keeps recipient message s := (callOver_keeps (P := fun s' => s.world.root.SameBooks s'.world.root)
    (fun _ _ hs => hs) (fun i update => (clusterOver_steady i).applyUpdate update)
    (fun _ hs _ => hs.trans (.setClusterStatus ..)) recipient message).after (.refl _)

@[simp] theorem tier_callingOver (ids : Fin n ↪ String) :
    (callingOver ids).tier = rootOver (callOver ids) := rfl

end Hierarchy

end Overlay
