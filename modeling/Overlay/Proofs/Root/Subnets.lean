import Overlay.Proofs.Root.Frames

/-!
# Subnets of a root

The root takes pairs of subnets from its pools and takes them back. `Registry.SubnetsOut r out` says
which ones are out. A pair joins them, or nothing does, since the IPv4 subnet goes back if there is no
IPv6 subnet (`Registry.takeSubnets_out`); and what is out can always come back
(`Registry.returnSubnets_out`).

A subnet is a block of addresses of which the pool hands out the first one. The blocks of different
subnets do not meet, and they lie inside of the space of the pool (`subnets_apart`,
`covers_of_subnet`).
-/

namespace Overlay

open Overlay.Action (Triple)

variable {f : Family} {v w : Nat}

/-! ## Blocks of addresses -/

/-- The number of addresses of a subnet. -/
def subnetSize : Family → Nat
  | .v4 => 64
  | .v6 => 256

theorem subnets_regular (f : Family) : (Pool.subnets f).Regular :=
  Pool.ofKind_regular _

/-- The space of subnets is one block. -/
theorem subnets_blocks (f : Family) : (Pool.subnets f).layout.blocks =
    [⟨(Pool.subnets f).layout.start, (Pool.subnets f).layout.limit⟩] := by
  cases f <;> rfl

theorem allocatable_subnets : (Pool.subnets f).layout.Allocatable v ↔
    (Pool.subnets f).layout.start ≤ v ∧ v < (Pool.subnets f).layout.limit ∧
      (v - (Pool.subnets f).layout.start) % subnetSize f = 0 := by
  refine Layout.allocatable_of_stride ?_ (subnets_blocks f)
  cases f <;> rfl

/-- The space holds a whole number of subnets. -/
theorem subnets_whole (f : Family) : (Pool.subnets f).layout.start ≤ (Pool.subnets f).layout.limit ∧
    ((Pool.subnets f).layout.limit - (Pool.subnets f).layout.start) % subnetSize f = 0 := by
  cases f <;> decide

/-- **Apart.** Different subnets have no address in common. -/
theorem subnets_apart (hv : (Pool.subnets f).layout.Allocatable v)
    (hw : (Pool.subnets f).layout.Allocatable w) (hne : v ≠ w) :
    v + subnetSize f ≤ w ∨ w + subnetSize f ≤ v := by
  obtain ⟨hstart, -, hmod⟩ := allocatable_subnets.1 hv
  obtain ⟨hstart', -, hmod'⟩ := allocatable_subnets.1 hw
  cases f with
  | v4 =>
    simp only [subnetSize] at hmod hmod' ⊢
    omega
  | v6 =>
    simp only [subnetSize] at hmod hmod' ⊢
    omega

/-- **Inside.** All addresses of a subnet lie in the space of the pool. -/
theorem covers_of_subnet (hv : (Pool.subnets f).layout.Allocatable v) (hle : v ≤ w)
    (hlt : w < v + subnetSize f) : (Pool.subnets f).layout.covers w = true := by
  obtain ⟨hstart, hlimit, hmod⟩ := allocatable_subnets.1 hv
  obtain ⟨hle', hwhole⟩ := subnets_whole f
  rw [Layout.covers_of_single (subnets_blocks f)]
  dsimp only
  cases f with
  | v4 =>
    simp only [subnetSize] at hmod hwhole hlt
    omega
  | v6 =>
    simp only [subnetSize] at hmod hwhole hlt
    omega

/-! ## What is out -/

namespace Registry

variable {r r' : Registry} {out out' : List (Family × String)} {text : String}

/-- The subnets that were handed out and have not come back. -/
def SubnetsOut (r : Registry) (out : List (Family × String)) : Prop :=
  ∀ f, (Pool.subnets f).Ledger r (ofFamily f out)

namespace SubnetsOut

theorem empty : (∅ : Registry).SubnetsOut [] :=
  fun f => .unused (subnets_regular f) rfl

/-- What is out depends on the subnet pools, and its order does not matter. -/
theorem congr (h : r.SubnetsOut out) (hsame : r.SameSubnets r') (hperm : out'.Perm out) :
    r'.SubnetsOut out' :=
  fun f => (h f).congr (hsame f) (perm_ofFamily hperm)

/-- One pool has changed, and what is out of the other family is out as before. -/
theorem ofSameBut (h : r.SubnetsOut out) (hsame : SameBut (Pool.subnets f).name r r')
    (hledger : (Pool.subnets f).Ledger r' (ofFamily f out'))
    (hother : ∀ f', f' ≠ f → ofFamily f' out' = ofFamily f' out) : r'.SubnetsOut out' := by
  intro f'
  by_cases hf : f' = f
  · exact hf ▸ hledger
  · refine (h f').congr (hsame.pool _ fun heq => hf ?_) (by rw [hother f' hf])
    exact congrArg PoolKind.family (PoolKind.name_inj.1 heq)

end SubnetsOut

/-- No job has a subnet. -/
theorem subnets_not_taken (r : Registry) (f : Family) (v : Nat) :
    (Pool.subnets f).taken r v = false :=
  Bool.false_and _

theorem allocate_out (f : Family) : Triple (SubnetsOut · out) (Pool.subnets f).allocate
    (fun text r => r.SubnetsOut ((f, text) :: out)) (fun _ r => r.SubnetsOut out) := by
  constructor
  · intro s s' text hs hx
    have hsame := (Pool.subnets f).allocate_sameBut s
    have hledger := ((hs f).allocate (subnets_regular f)
      fun _ _ _ _ _ _ => subnets_not_taken s f _).1 text
    rw [hx] at hsame hledger
    refine hs.ofSameBut hsame ?_ fun f' hf => ofFamily_cons_of_ne (Ne.symm hf)
    rw [ofFamily_cons_self]
    exact hledger rfl
  · intro s s' e hs hx
    have hsame := (Pool.subnets f).allocate_sameBut s
    have hledger := ((hs f).allocate (subnets_regular f)
      fun _ _ _ _ _ _ => subnets_not_taken s f _).2 e
    rw [hx] at hsame hledger
    exact hs.ofSameBut hsame (hledger rfl) fun _ _ => rfl

theorem release_out (f : Family) (text : String) :
    Triple (SubnetsOut · ((f, text) :: out)) ((Pool.subnets f).release text)
      (fun _ r => r.SubnetsOut out) (fun _ _ => False) := by
  have hrelease : ∀ s : Registry, s.SubnetsOut ((f, text) :: out) →
      ((Pool.subnets f).release text s).1 = .ok () ∧
        ((Pool.subnets f).release text s).2.SubnetsOut out := by
    intro s hs
    have hledger := hs f
    rw [ofFamily_cons_self] at hledger
    obtain ⟨hresult, hafter⟩ := hledger.release (subnets_regular f)
    refine ⟨hresult, hs.ofSameBut ((Pool.subnets f).release_sameBut text s) hafter ?_⟩
    exact fun f' hf => (ofFamily_cons_of_ne (Ne.symm hf)).symm
  constructor
  · intro s s' u hs hx
    have hafter := (hrelease s hs).2
    rwa [hx] at hafter
  · intro s s' e hs hx
    have hresult := (hrelease s hs).1
    rw [hx] at hresult
    cases hresult

/-- **Taking.** A subnet of each family joins what is out, or none. -/
theorem takeSubnets_out : Triple (SubnetsOut · out) takeSubnets
    (fun subnets r => (∃ v4 v6, subnets = ⟨some v4, some v6⟩) ∧
      r.SubnetsOut (subnets.present ++ out)) (fun _ r => r.SubnetsOut out) := by
  refine .bind (.mapError (allocate_out .v4)) fun v4 => ?_
  refine .attempt_bind (allocate_out .v6) (fun v6 => .pure fun r hr => ⟨⟨v4, v6, rfl⟩, ?_⟩)
    fun e => ?_
  · exact hr.congr (fun _ => rfl) (.swap ..)
  · exact .attempt_bind (release_out .v4 v4) (fun _ => .throw fun _ hr => hr) fun _ => .of_false

/-- **Giving back.** What is out is taken back. -/
theorem returnSubnets_out (list : List (Family × String)) :
    Triple (SubnetsOut · (list ++ out)) (returnSubnets list) (fun _ r => r.SubnetsOut out)
      (fun _ _ => False) := by
  induction list with
  | nil => exact .pure fun _ hr => hr
  | cons e rest ih => exact .bind (.mapError (release_out e.1 e.2)) fun _ => ih

end Registry

end Overlay
