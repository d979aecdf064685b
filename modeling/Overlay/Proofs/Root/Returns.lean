import Overlay.Proofs.Pool.Basic
import Overlay.Proofs.Root.Frames
import Overlay.Proofs.Root.Runs

/-!
# Subnets that come back

A pair of subnets comes back one after the other, the IPv4 subnet first. If the IPv6 subnet is
refused then, the IPv4 one has come back (`Registry.HalfBack`), so trying again with the right IPv6
subnet is refused (`Registry.returnSubnets_again`). This is the only way in which a failure leaves a
trace (`RootTier.returnsAtomically_iff`).
-/

namespace Overlay

variable {r r' : Registry} {text : String} {bytes : List UInt8} {e : PoolError}

namespace Pool

/-- What may come back depends on the state of the pool only. -/
theorem releasable_congr {p : Pool} (h : r'.pool p.name = r.pool p.name) (text : String) :
    p.releasable r' text = p.releasable r text := by
  simp only [releasable, next, h]

/-- What has come back may not come back again. -/
theorem releasable_pushFree {p : Pool} (h : p.releasable r text = .ok bytes) :
    p.releasable (r.pushFree p.name bytes) text = .error (.alreadyFree text p.name) := by
  have hnext : p.next (r.pushFree p.name bytes) = p.next r := by
    simp only [next, Registry.pool_pushFree]
  cases hparse : Codec.parse text p.family with
  | error fault => simp [releasable, hparse, Except.mapError, bind, Except.bind] at h
  | ok parsed =>
    simp only [releasable, hparse, hnext, Registry.pool_pushFree, Except.mapError, bind,
      Except.bind, throw, throwThe, MonadExceptOf.throw, pure, Except.pure] at h ⊢
    -- The address passes the same checks as before, up to the one of the free list.
    split at h
    · cases h
    next hcontains =>
    split at h
    · cases h
    next hstride =>
    split at h
    · cases h
    next haligned =>
    split at h
    · cases h
    next v _ =>
    split at h
    · cases h
    next hpassed =>
    split at h
    · cases h
    obtain rfl := Except.ok.inj h
    rw [if_neg hcontains, if_neg hstride, if_neg haligned, if_neg hpassed]
    exact if_pos (by simp)

end Pool

namespace Registry

/-- The IPv4 subnet of the pair may come back, and the IPv6 subnet may not. -/
def HalfBack (r : Registry) (subnets : Addresses) : Prop :=
  ∃ v4 v6 bytes e, subnets = ⟨some v4, some v6⟩ ∧
    (Pool.subnets .v4).releasable r v4 = .ok bytes ∧ (Pool.subnets .v6).releasable r v6 = .error e

variable {f : Family} {rest : List (Family × String)}

theorem returnSubnets_of_releasable (h : (Pool.subnets f).releasable r text = .ok bytes) :
    returnSubnets ((f, text) :: rest) r =
      returnSubnets rest (r.pushFree (Pool.subnets f).name bytes) := by
  have hrelease : ((Pool.subnets f).release text).mapError TierError.pool r =
      (.ok (), r.pushFree (Pool.subnets f).name bytes) := by
    rw [Action.mapError_apply, Pool.release, h]
    rfl
  rw [returnSubnets, Action.bind_of_ok hrelease]

theorem returnSubnets_of_refused (h : (Pool.subnets f).releasable r text = .error e) :
    returnSubnets ((f, text) :: rest) r = (.error (.pool e), r) := by
  have hrelease : ((Pool.subnets f).release text).mapError TierError.pool r =
      (.error (.pool e), r) := by
    rw [Action.mapError_apply, Pool.release, h]
    rfl
  rw [returnSubnets, Action.bind_of_error hrelease]

/-- The pool of IPv6 subnets does not see that an IPv4 subnet has come back. -/
theorem releasable_v6_pushFree (r : Registry) (bytes : List UInt8) (text : String) :
    (Pool.subnets .v6).releasable (r.pushFree (Pool.subnets .v4).name bytes) text =
      (Pool.subnets .v6).releasable r text :=
  Pool.releasable_congr (pool_setPool_of_ne (by decide) _) text

/-- **Half a return.** The pair is refused, and its IPv4 subnet is free. -/
theorem returnSubnets_half {v4 v6 : String}
    (h4 : (Pool.subnets .v4).releasable r v4 = .ok bytes)
    (h6 : (Pool.subnets .v6).releasable r v6 = .error e) :
    returnSubnets (Dual.present ⟨some v4, some v6⟩) r =
      (.error (.pool e), r.pushFree (Pool.subnets .v4).name bytes) :=
  (returnSubnets_of_releasable h4).trans
    (returnSubnets_of_refused ((releasable_v6_pushFree r bytes v6).trans h6))

/-- After half a return the IPv4 subnet is refused, with whatever IPv6 subnet it comes back. -/
theorem returnSubnets_again {v4 : String} (h4 : (Pool.subnets .v4).releasable r v4 = .ok bytes)
    (v6 : Option String) :
    (returnSubnets (Dual.present ⟨some v4, v6⟩) (r.pushFree (Pool.subnets .v4).name bytes)).1 =
      .error (.pool (.alreadyFree v4 (Pool.subnets .v4).name)) :=
  congrArg Prod.fst (returnSubnets_of_refused (Pool.releasable_pushFree h4))

theorem returnSubnets_single (f : Family) (text : String) :
    returnSubnets [(f, text)] r =
      match (Pool.subnets f).releasable r text with
      | .ok bytes => (.ok (), r.pushFree (Pool.subnets f).name bytes)
      | .error e => (.error (.pool e), r) := by
  cases h : (Pool.subnets f).releasable r text with
  | ok bytes => exact returnSubnets_of_releasable h
  | error e => exact returnSubnets_of_refused h

/-- An IPv4 subnet that may come back comes back alone. -/
theorem returnSubnets_v4 {v4 : String} (h4 : (Pool.subnets .v4).releasable r v4 = .ok bytes) :
    (returnSubnets (Dual.present ⟨some v4, none⟩) r).1 = .ok () := by
  change (returnSubnets [(.v4, v4)] r).1 = _
  rw [returnSubnets_single, h4]

/-- A failure leaves the registry as it was, unless half of the pair came back. -/
theorem returnSubnets_failed {subnets : Addresses} {e : TierError}
    (h : returnSubnets subnets.present r = (.error e, r')) : r' = r ∨ r.HalfBack subnets := by
  obtain ⟨v4, v6⟩ := subnets
  cases v4 with
  | none =>
    cases v6 with
    | none => cases h
    | some v6 =>
      have hsingle := (returnSubnets_single .v6 v6).symm.trans h
      split at hsingle
      · cases hsingle
      · exact .inl (Prod.mk.inj hsingle).2.symm
  | some v4 =>
    cases h4 : (Pool.subnets .v4).releasable r v4 with
    | error fault =>
      have hrefused := (returnSubnets_of_refused h4).symm.trans h
      exact .inl (Prod.mk.inj hrefused).2.symm
    | ok bytes =>
      have hrest := (returnSubnets_of_releasable h4).symm.trans h
      cases v6 with
      | none => cases hrest
      | some v6 =>
        cases h6 : (Pool.subnets .v6).releasable r v6 with
        | error fault => exact .inr ⟨v4, v6, bytes, fault, rfl, h4, h6⟩
        | ok back =>
          have hsingle := (returnSubnets_single .v6 v6).symm.trans hrest
          rw [releasable_v6_pushFree, h6] at hsingle
          cases hsingle

end Registry

namespace RootTier

variable {σ : Type} (R : RootTier σ)

/-- If the subnets cannot come back, then the pools of subnets are as they were. -/
def RefusesWhole (s : σ) (subnets : Addresses) : Prop :=
  ∀ e s', R.tier.releaseSubnets subnets s = (.error e, s') →
    (R.site.get s).SameSubnets (R.site.get s')

/-- If the subnets cannot come back, then this is of no consequence for what comes back later. -/
def RefusesFreely (s : σ) (subnets : Addresses) : Prop :=
  ∀ e s', R.tier.releaseSubnets subnets s = (.error e, s') →
    ∀ again, (R.tier.releaseSubnets again s').1 = (R.tier.releaseSubnets again s).1

theorem releaseSubnets_apply (s : σ) (subnets : Addresses) : R.tier.releaseSubnets subnets s =
    ((Registry.returnSubnets subnets.present (R.site.get s)).1,
      R.site.set (Registry.returnSubnets subnets.present (R.site.get s)).2 s) :=
  rfl

theorem releaseSubnets_fst (s : σ) (subnets : Addresses) :
    (R.tier.releaseSubnets subnets s).1 =
      (Registry.returnSubnets subnets.present (R.site.get s)).1 :=
  rfl

theorem releaseSubnets_half {s : σ} {v4 v6 : String}
    (h4 : (Pool.subnets .v4).releasable (R.site.get s) v4 = .ok bytes)
    (h6 : (Pool.subnets .v6).releasable (R.site.get s) v6 = .error e) :
    R.tier.releaseSubnets ⟨some v4, some v6⟩ s = (.error (.pool e),
      R.site.set ((R.site.get s).pushFree (Pool.subnets .v4).name bytes) s) := by
  rw [releaseSubnets_apply, Registry.returnSubnets_half h4 h6]

/-- A failure that did not come halfway leaves the state as it was. -/
theorem releaseSubnets_failed {s s' : σ} {subnets : Addresses} {e : TierError}
    (hnot : ¬(R.site.get s).HalfBack subnets)
    (h : R.tier.releaseSubnets subnets s = (.error e, s')) : s' = s := by
  rw [releaseSubnets_apply] at h
  obtain ⟨herror, hs'⟩ := Prod.mk.inj h
  generalize hx : Registry.returnSubnets subnets.present (R.site.get s) = outcome at herror hs'
  obtain ⟨result, r'⟩ := outcome
  obtain rfl : result = .error e := herror
  have hsame : r' = R.site.get s := (Registry.returnSubnets_failed hx).resolve_right hnot
  rw [← hs', hsame, R.site.set_get]

/-- **Returns.** Giving subnets back is all or nothing exactly if it is not the case that the IPv4
subnet may come back and the IPv6 subnet may not. -/
theorem refuses_iff (s : σ) (subnets : Addresses) :
    (R.RefusesWhole s subnets ↔ ¬(R.site.get s).HalfBack subnets) ∧
      (R.RefusesFreely s subnets ↔ ¬(R.site.get s).HalfBack subnets) := by
  refine ⟨⟨?_, fun hnot e s' h => ?_⟩, ⟨?_, fun hnot e s' h again => ?_⟩⟩
  · rintro hwhole ⟨v4, v6, bytes, e, rfl, h4, h6⟩
    have hpool := hwhole _ _ (R.releaseSubnets_half h4 h6) .v4
    rw [R.site.get_set, Registry.pool_pushFree] at hpool
    have hfree := congrArg (fun state => state.free.length) hpool
    simp at hfree
  · rw [R.releaseSubnets_failed hnot h]
    exact fun _ => rfl
  · rintro hfreely ⟨v4, v6, bytes, e, rfl, h4, h6⟩
    -- The IPv4 subnet alone could have come back before, and cannot any more.
    have hretry := hfreely _ _ (R.releaseSubnets_half h4 h6) ⟨some v4, none⟩
    rw [releaseSubnets_fst, releaseSubnets_fst, R.site.get_set,
      Registry.returnSubnets_again h4 none, Registry.returnSubnets_v4 h4] at hretry
    cases hretry
  · rw [R.releaseSubnets_failed hnot h]

/-- A return can fail halfway. The first pair of subnets comes back with a wrong IPv6 subnet; with
the right one it is refused then. -/
theorem refusesFreely_misspelt : ¬ ∀ (calls : List RootCall) (subnets : Addresses),
    Standalone.delivering.RefusesFreely
      (Standalone.delivering.after calls (.start ⟨[], [], []⟩ [])) subnets := by
  intro hall
  have hretry := hall [.requestSubnets] ⟨some "172.18.0.0", some "fc00::1"⟩
    (.pool (.misaligned "fc00::1" "subnet_ip_v6")) _ (Prod.ext (by decide +kernel) rfl)
    ⟨some "172.18.0.0", some "fc00::"⟩
  exact absurd hretry (by decide +kernel)

end RootTier

end Overlay
