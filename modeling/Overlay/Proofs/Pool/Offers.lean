import Overlay.Proofs.Pool.Ledger

/-!
# What a pool can still hand out

`Pool.Offers p r bytes` says that an address, in the form in which it is stored, can still go out: it
is free, or it is an address from the counter on that no job has. Two pools can offer the same
although their counters stand elsewhere.

* A pool that cannot hand anything out offers what it offered before
  (`Pool.offers_of_allocate_error`).
* If an address that went out comes back, the pool offers what it offered before, and coming back
  always works (`Pool.release_undoes_allocate`).
* Where it is known what is out, the offers are all other addresses of the layout
  (`Pool.Ledger.offers_iff`).
-/

namespace Overlay.Pool

variable {p : Pool} {r r' : Registry} {next next' v : Nat} {free free' : List Nat}
  {text : String} {texts : List String} {bytes : List UInt8}

/-- Whether a pool can still hand out an address. -/
def Offers (p : Pool) (r : Registry) (bytes : List UInt8) : Prop :=
  bytes ∈ (r.pool p.name).free ∨ ∃ next v, p.next r = .ok next ∧ next ≤ v ∧
    p.layout.Allocatable v ∧ p.taken r v = false ∧ bytes = Codec.ofValue v p.family

/-- The numbers that a pool offers, given its counter and its free list. -/
def Open (p : Pool) (r : Registry) (next : Nat) (free : List Nat) (v : Nat) : Prop :=
  v ∈ free ∨ p.layout.Allocatable v ∧ next ≤ v ∧ p.taken r v = false

theorem Shows.offers_iff (h : p.Shows r next free) :
    p.Offers r bytes ↔ ∃ v, bytes = Codec.ofValue v p.family ∧ p.Open r next free v := by
  unfold Offers Open
  rw [h.free_eq, List.mem_map]
  constructor
  · rintro (⟨v, hv, rfl⟩ | ⟨next', v, hnext, hle, hv, htaken, rfl⟩)
    · exact ⟨v, rfl, .inl hv⟩
    · obtain rfl := Except.ok.inj (h.next_eq.symm.trans hnext)
      exact ⟨v, rfl, .inr ⟨hv, hle, htaken⟩⟩
  · rintro ⟨v, rfl, hv | ⟨hv, hle, htaken⟩⟩
    · exact .inl ⟨v, hv, rfl⟩
    · exact .inr ⟨next, v, h.next_eq, hle, hv, htaken, rfl⟩

/-- Pools with the same open numbers offer the same. -/
theorem Shows.sameOffers (h : p.Shows r next free) (h' : p.Shows r' next' free')
    (hopen : ∀ v, p.Open r' next' free' v ↔ p.Open r next free v) :
    p.Offers r' bytes ↔ p.Offers r bytes := by
  simp only [h.offers_iff, h'.offers_iff, hopen]

/-- What a pool offers depends on its state and on the jobs. -/
theorem offers_congr (hpool : r'.pool p.name = r.pool p.name) (hjobs : r'.jobs = r.jobs) :
    p.Offers r' bytes ↔ p.Offers r bytes := by
  simp only [Offers, Pool.next, hpool, taken_congr hjobs]

/-! ## Taking and giving back -/

/-- A pool that cannot hand anything out offers nothing, before and afterwards. -/
theorem offers_of_allocate_error (hp : p.Regular) (h : p.Shows r next free) {e : PoolError}
    (herror : (p.allocate r).1 = .error e) :
    p.Offers (p.allocate r).2 bytes ↔ p.Offers r bytes := by
  have hcases := allocate_cases hp h
  rw [herror] at hcases
  generalize (p.allocate r).2 = r' at hcases
  cases hcases with
  | exhausted hnil hall hafter =>
    subst hnil
    refine h.sameOffers hafter fun v => ⟨?_, ?_⟩
    · rintro (hv | ⟨hv, hle, -⟩)
      · cases hv
      · have := hp.layout.lt_limit hv
        omega
    · rintro (hv | ⟨hv, hle, htaken⟩)
      · cases hv
      · rw [hall v hv hle] at htaken
        cases htaken

/-- **Rolling back.** An address that went out can come back, and then the pool offers what it offered
before. In between other pools may have worked. -/
theorem release_undoes_allocate (hp : p.Regular) (h : p.Shows r next free)
    (hok : (p.allocate r).1 = .ok text) (hpool : r'.pool p.name = (p.allocate r).2.pool p.name)
    (hjobs : r'.jobs = r.jobs) : (p.release text r').1 = .ok () ∧
      ∀ bytes, p.Offers (p.release text r').2 bytes ↔ p.Offers r bytes := by
  have hcases := allocate_cases hp h
  rw [hok] at hcases
  generalize (p.allocate r).2 = taken at hcases hpool
  have hjobs' : (p.release text r').2.jobs = r.jobs := (p.release_sameBut text r').jobs.trans hjobs
  cases hcases with
  | @reused front v _ hfree hafter =>
    -- the last free number went out, and is the last free one again
    subst hfree
    obtain ⟨hv, hlt⟩ := h.free_ok v (by simp)
    have hnot : v ∉ front := fun hm => (List.nodup_append.1 h.nodup).2.2 v hm v (by simp) rfl
    obtain ⟨hresult, hback⟩ := release_of_spells hp (hafter.congr hpool)
      (Codec.spells_render (hp.lt_size hv)) hv hlt hnot
    refine ⟨hresult, fun bytes => h.sameOffers hback fun w => ?_⟩
    simp only [Open, taken_congr hjobs']
  | @counted v _ hnil hv hle hfresh hskipped hafter =>
    -- the counter stays behind the number, which is free now; all that it skipped is taken
    subst hnil
    have hfollows := hp.layout.follows hv
    obtain ⟨hresult, hback⟩ := release_of_spells hp (hafter.congr hpool)
      (Codec.spells_render (hp.lt_size hv)) hv hfollows.lt List.not_mem_nil
    refine ⟨hresult, fun bytes => h.sameOffers hback fun w => ?_⟩
    simp only [Open, taken_congr hjobs', List.nil_append, List.mem_singleton, List.not_mem_nil,
      false_or]
    constructor
    · rintro (rfl | ⟨hw, hlow, htaken⟩)
      · exact ⟨hv, hle, hfresh⟩
      · have := hfollows.lt
        exact ⟨hw, by omega, htaken⟩
    · rintro ⟨hw, hlow, htaken⟩
      rcases Nat.lt_trichotomy w v with hwv | rfl | hwv
      · rw [hskipped w hw hlow hwv] at htaken
        cases htaken
      · exact .inl rfl
      · exact .inr ⟨hw, hfollows.le w hw hwv, htaken⟩

/-! ## Offers and ledgers -/

/-- While nobody has a number from the counter on, a pool offers what is not out. -/
theorem Ledger.offers_iff (hp : p.Regular) (h : p.Ledger r texts)
    (hfree : ∀ next free v, p.Shows r next free → p.layout.Allocatable v → next ≤ v →
      p.taken r v = false) :
    p.Offers r bytes ↔ ∃ v, bytes = Codec.ofValue v p.family ∧ p.layout.Allocatable v ∧
      Codec.render v p.family ∉ texts := by
  obtain ⟨next, free, hshows, hmem⟩ := h.mem_render_iff hp
  rw [hshows.offers_iff]
  refine exists_congr fun v => and_congr_right fun _ => ?_
  constructor
  · rintro (hv | ⟨hv, hle, -⟩)
    · have hok := (hshows.free_ok v hv).1
      exact ⟨hok, fun hm => ((hmem v (hp.lt_size hok)).1 hm).2.2 hv⟩
    · refine ⟨hv, fun hm => ?_⟩
      have := ((hmem v (hp.lt_size hv)).1 hm).2.1
      omega
  · rintro ⟨hv, hnot⟩
    rw [hmem v (hp.lt_size hv)] at hnot
    by_cases hlt : v < next
    · exact .inl (Decidable.byContradiction fun hfree => hnot ⟨hv, hlt, hfree⟩)
    · exact .inr ⟨hv, by omega, hfree next free v hshows hv (by omega)⟩

end Overlay.Pool
