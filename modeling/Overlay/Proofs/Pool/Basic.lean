import Overlay.Proofs.Address.Canonical
import Overlay.Proofs.Pool.Layout
import Overlay.Proofs.Registry.Pools

/-!
# What a pool does

`Pool.Shows p r next free` reads the stored state of a pool as numbers: the counter stands at
`next`, and the numbers `free` came back, oldest first. From there each operation has one
description:

* `Pool.allocate_cases`: the last free number goes out; without one, the least number from the
  counter on that no job has, and the counter moves behind it; without such a number the pool is
  exhausted;
* `Pool.release_cases`: a text is taken back exactly if it spells an allocatable number below the
  counter that is not free, and then it is the last free one; any other text changes nothing.

Both hold for every pool whose layout is regular (`Pool.Regular`), the six pools of a tier among
them (`Pool.ofKind_regular`).
-/

namespace Overlay

/-- The texts that denote the address of a family with a number. -/
def Codec.Spells (text : String) (family : Family) (value : Nat) : Prop :=
  ∃ a, IpAddress.denoted? text = some a ∧ a.family = family ∧ a.value = value

namespace Codec

variable {text : String} {family : Family} {v w : Nat}

theorem Spells.parse (h : Spells text family v) :
    parse text family = .ok (Codec.ofValue v family) := by
  obtain ⟨a, ha, rfl, rfl⟩ := h
  exact parse_of_denoted? ha

theorem Spells.lt_size (h : Spells text family v) : v < family.size := by
  obtain ⟨a, -, rfl, rfl⟩ := h
  exact a.value_lt

/-- What parses spells a number. -/
theorem Spells.of_parse {bytes : List UInt8} (h : Codec.parse text family = .ok bytes) :
    ∃ v, Spells text family v ∧ bytes = Codec.ofValue v family := by
  obtain ⟨a, ha, rfl, rfl⟩ := parse_eq_ok_iff.1 h
  exact ⟨a.value, ⟨a, ha, rfl, rfl⟩, rfl⟩

/-- A rendered number spells the number. -/
theorem spells_render (h : v < family.size) : Spells (render v family) family v :=
  ⟨_, denoted?_render v family, rfl, Nat.mod_eq_of_lt h⟩

/-- A text spells one number only. -/
theorem Spells.unique (hv : Spells text family v) (hw : Spells text family w) : v = w := by
  have h := hv.parse.symm.trans hw.parse
  exact (ofValue_inj hv.lt_size hw.lt_size).1 (Except.ok.inj h)

end Codec

namespace Pool

variable {p : Pool} {r r' : Registry} {next v w : Nat} {free : List Nat} {text : String}

/-- A pool with a regular layout whose limit is an address of the pool's family. -/
structure Regular (p : Pool) : Prop where
  layout : p.layout.Regular
  limit_lt : p.layout.limit < p.family.size

/-- The pools of a tier are regular. -/
theorem ofKind_regular (k : PoolKind) : (ofKind k).Regular :=
  ⟨k.layout_regular, k.layout_limit_lt⟩

theorem Regular.lt_size (hp : p.Regular) (hv : p.layout.Allocatable v) : v < p.family.size :=
  Nat.lt_trans (hp.layout.lt_limit hv) hp.limit_lt

/-- The stored state of a pool, read as numbers. -/
structure Shows (p : Pool) (r : Registry) (next : Nat) (free : List Nat) : Prop where
  next_eq : p.next r = .ok next
  next_ok : p.layout.Allocatable next ∨ next = p.layout.limit
  free_eq : (r.pool p.name).free = free.map (Codec.ofValue · p.family)
  free_ok : ∀ v ∈ free, p.layout.Allocatable v ∧ v < next
  nodup : free.Nodup

/-- An unused pool stands at its first address, and nothing has come back. -/
theorem shows_unused (hp : p.Regular) (h : r.pool p.name = .unused) :
    p.Shows r p.layout.start [] where
  next_eq := by simp [next, h, PoolState.unused]
  next_ok := .inl hp.layout.start_spec.1
  free_eq := by simp [h, PoolState.unused]
  free_ok := nofun
  nodup := .nil

/-- A pool shows what its stored state says. -/
theorem Shows.congr (h : p.Shows r next free) (hr : r'.pool p.name = r.pool p.name) :
    p.Shows r' next free := by
  obtain ⟨hnext, hok, hfree, hall, hnd⟩ := h
  refine ⟨?_, hok, hr ▸ hfree, hall, hnd⟩
  rw [← hnext, Pool.next, Pool.next, hr]

/-- A pool shows one counter and one list of free numbers. -/
theorem Shows.next_unique {next' : Nat} {free' : List Nat} (h : p.Shows r next free)
    (h' : p.Shows r next' free') : next = next' :=
  Except.ok.inj (h.next_eq.symm.trans h'.next_eq)

/-- The counter stands at the limit at most. -/
theorem Shows.next_le (hp : p.Regular) (h : p.Shows r next free) : next ≤ p.layout.limit := by
  rcases h.next_ok with hok | rfl
  · exact Nat.le_of_lt (hp.layout.lt_limit hok)
  · exact Nat.le_refl _

/-- The counter moves to a number of the layout, or to the limit. -/
theorem Shows.setNext (hp : p.Regular) (h : p.Shows r next free) (hle : next ≤ w)
    (hw : p.layout.Allocatable w ∨ w = p.layout.limit) :
    p.Shows (r.setNext p.name (Codec.ofValue w p.family)) w free := by
  have hlt : w < p.family.size := by
    rcases hw with hw | rfl
    · exact hp.lt_size hw
    · exact hp.limit_lt
  refine ⟨?_, hw, ?_, fun v hv => ⟨(h.free_ok v hv).1, ?_⟩, h.nodup⟩
  · simp [Pool.next, Codec.toValue_ofValue hlt]
  · rw [Registry.pool_setNext]
    exact h.free_eq
  · exact Nat.lt_of_lt_of_le (h.free_ok v hv).2 hle

/-- A number is taken or not whatever the pools hold. -/
theorem taken_congr (h : r'.jobs = r.jobs) (v : Nat) : p.taken r' v = p.taken r v := by
  simp [taken, Registry.jobByAddress?, h]

/-! ## The rest of the registry -/

theorem advance_sameBut (p : Pool) (steps : Nat) (r : Registry) :
    Registry.SameBut p.name r (p.advance steps r).2 := by
  induction steps generalizing r with
  | zero => exact .refl _ r
  | succ steps ih =>
    rw [advance]
    split
    · exact .refl _ r
    · split
      · dsimp only
        split
        · exact (Registry.SameBut.setNext r ..).trans (ih _)
        · exact .setNext r ..
      · exact .refl _ r

/-- Handing out changes the state of the pool and nothing else. -/
theorem allocate_sameBut (p : Pool) (r : Registry) :
    Registry.SameBut p.name r (p.allocate r).2 := by
  rw [allocate, Registry.popFree]
  cases (r.pool p.name).free.getLast? with
  | none => exact p.advance_sameBut _ r
  | some bytes => exact .setPool ..

/-- Taking back changes the state of the pool and nothing else. -/
theorem release_sameBut (p : Pool) (text : String) (r : Registry) :
    Registry.SameBut p.name r (p.release text r).2 := by
  rw [release]
  cases p.releasable r text with
  | ok bytes => exact .pushFree ..
  | error e => exact .refl _ r

/-! ## Handing out -/

/-- What can happen when a pool hands out an address: the result, and the registry afterwards. -/
inductive Allocation (p : Pool) (r : Registry) (next : Nat) (free : List Nat) :
    Except PoolError String → Registry → Prop
  /-- The number that came back last goes out again. -/
  | reused {front : List Nat} {v : Nat} {r' : Registry} : free = front ++ [v] →
      p.Shows r' next front → Allocation p r next free (.ok (Codec.render v p.family)) r'
  /-- The least number from the counter on that no job has goes out. -/
  | counted {v : Nat} {r' : Registry} : free = [] → p.layout.Allocatable v → next ≤ v →
      p.taken r v = false →
      (∀ w, p.layout.Allocatable w → next ≤ w → w < v → p.taken r w = true) →
      p.Shows r' (p.layout.successor v) [] →
      Allocation p r next free (.ok (Codec.render v p.family)) r'
  /-- Every number from the counter on belongs to a job. -/
  | exhausted {r' : Registry} : free = [] →
      (∀ w, p.layout.Allocatable w → next ≤ w → p.taken r w = true) →
      p.Shows r' p.layout.limit [] → Allocation p r next free (.error (.exhausted p.name)) r'

/-- The counter moves past taken numbers to the first one that is not, if it may take as many steps
as there are numbers ahead. -/
theorem advance_spec (hp : p.Regular) {steps : Nat} (h : p.Shows r next [])
    (hsteps : p.layout.remaining next < steps) :
    Allocation p r next [] (p.advance steps r).1 (p.advance steps r).2 := by
  induction steps generalizing r next with
  | zero => omega
  | succ steps ih =>
    simp only [advance, h.next_eq]
    by_cases hnext : p.layout.Allocatable next
    · have hfollows := hp.layout.follows hnext
      have hshows := h.setNext hp (Nat.le_of_lt hfollows.lt) hfollows.cases
      have hsame := Registry.SameBut.setNext r p.name
        (Codec.ofValue (p.layout.successor next) p.family)
      rw [if_pos hnext.1, taken_congr hsame.jobs]
      by_cases htaken : p.taken r next = true
      · -- the number at the counter is skipped, and so are those the rest of the run skips
        rw [if_pos htaken]
        have hless := Layout.remaining_lt hnext.covers hfollows.lt
        have hrest := ih hshows (by omega)
        have hskip : ∀ w, p.layout.Allocatable w → next ≤ w → w < p.layout.successor next →
            p.taken r w = true := by
          intro w hw hle hlt
          rcases Nat.eq_or_lt_of_le hle with rfl | hlt'
          · exact htaken
          · have := hfollows.le w hw hlt'
            omega
        generalize p.advance steps _ = out at hrest
        obtain ⟨answer, r'⟩ := out
        cases hrest with
        | reused hfree => simp at hfree
        | counted _ hv hle hfree hbefore hafter =>
          rw [taken_congr hsame.jobs] at hfree
          refine .counted rfl hv (by have := hfollows.lt; omega) hfree (fun w hw hlo hhi => ?_) hafter
          by_cases hcase : w < p.layout.successor next
          · exact hskip w hw hlo hcase
          · rw [← taken_congr hsame.jobs]
            exact hbefore w hw (by omega) hhi
        | exhausted _ hall hafter =>
          refine .exhausted rfl (fun w hw hlo => ?_) hafter
          by_cases hcase : w < p.layout.successor next
          · exact hskip w hw hlo hcase
          · rw [← taken_congr hsame.jobs]
            exact hall w hw (by omega)
      · rw [if_neg htaken]
        refine .counted rfl hnext (Nat.le_refl _) (by simpa using htaken) ?_ hshows
        intro w _ hlo hhi
        omega
    · -- only the limit is no address of the layout, and nothing lies behind it
      have hlimit : next = p.layout.limit := h.next_ok.resolve_left hnext
      have hout : p.layout.contains next ≠ true := by
        intro hc
        rw [Layout.contains, Bool.and_eq_true] at hc
        have := hp.layout.lt_limit_of_covers hc.1
        omega
      rw [if_neg hout]
      refine .exhausted rfl (fun w hw hlo => ?_) (hlimit ▸ h)
      have := hp.layout.lt_limit hw
      omega

/-- The last free number leaves the list. -/
theorem popFree_append {front : List Nat} (h : p.Shows r next (front ++ [v])) :
    r.popFree p.name = (some (Codec.ofValue v p.family), (r.popFree p.name).2) ∧
      p.Shows (r.popFree p.name).2 next front := by
  have hfree := h.free_eq
  rw [List.map_append, List.map_singleton] at hfree
  have hpop : r.popFree p.name = (some (Codec.ofValue v p.family),
      r.setPool p.name { r.pool p.name with free := front.map (Codec.ofValue · p.family) }) := by
    simp [Registry.popFree, hfree]
  rw [hpop]
  refine ⟨rfl, ⟨?_, h.next_ok, by simp, fun w hw => h.free_ok w (by simp [hw]), ?_⟩⟩
  · have := h.next_eq
    rw [Pool.next] at this ⊢
    rwa [Registry.pool_setPool]
  · exact (List.nodup_append.1 h.nodup).1

/-- **Handing out.** What a pool does when it hands out an address. -/
theorem allocate_cases (hp : p.Regular) (h : p.Shows r next free) :
    Allocation p r next free (p.allocate r).1 (p.allocate r).2 := by
  rcases List.eq_nil_or_concat free with rfl | ⟨front, v, rfl⟩
  · have hpop : r.popFree p.name = (none, r) := by
      simp [Registry.popFree, h.free_eq]
    rw [allocate, hpop]
    exact advance_spec hp h (Nat.lt_succ_of_le (p.layout.remaining_le_size next))
  · rw [List.concat_eq_append] at h ⊢
    obtain ⟨hpop, hshows⟩ := popFree_append h
    rw [allocate, hpop]
    simp only [Codec.stringify_ofValue]
    exact .reused rfl hshows

/-- A pool that was in order is in order whether it could hand out an address or not. -/
theorem Shows.after_allocate (hp : p.Regular) (h : p.Shows r next free) :
    ∃ next' free', p.Shows (p.allocate r).2 next' free' := by
  have hcases := allocate_cases hp h
  generalize p.allocate r = out at hcases
  obtain ⟨answer, r'⟩ := out
  cases hcases with
  | reused _ hafter => exact ⟨_, _, hafter⟩
  | counted _ _ _ _ _ hafter => exact ⟨_, _, hafter⟩
  | exhausted _ _ hafter => exact ⟨_, _, hafter⟩

/-! ## Taking back -/

/-- The checks on a text that spells a number, in their order. -/
theorem releasable_of_spells (hp : p.Regular) (h : p.Shows r next free)
    (ht : Codec.Spells text p.family v) :
    p.releasable r text =
      if p.layout.contains v = false then .error (.outOfRange text p.name)
      else if p.layout.aligned v = false then .error (.misaligned text p.name)
      else if next ≤ v then .error (.aheadOfNext text p.name (Codec.render next p.family))
      else if v ∈ free then .error (.alreadyFree text p.name)
      else .ok (Codec.ofValue v p.family) := by
  have hstride : p.layout.alignmentFails v = false := by
    have hmoves := hp.layout.moves
    rw [Layout.alignmentFails, Bool.and_eq_false_iff]
    refine .inr (beq_eq_false_iff_ne.2 fun hz => ?_)
    rw [hz] at hmoves
    exact Nat.lt_irrefl 0 hmoves
  have hcontains : Codec.ofValue v p.family ∈ (r.pool p.name).free ↔ v ∈ free := by
    rw [h.free_eq, List.mem_map]
    constructor
    · rintro ⟨w, hw, heq⟩
      exact (Codec.ofValue_inj (hp.lt_size (h.free_ok w hw).1) ht.lt_size).1 heq ▸ hw
    · exact fun hm => ⟨v, hm, rfl⟩
  have hvalue := Codec.toValue_ofValue ht.lt_size
  simp [releasable, ht.parse, Except.mapError, bind, Except.bind, throw, throwThe,
    MonadExceptOf.throw, pure, Except.pure, hvalue, hstride, h.next_eq, hcontains]

/-- When a text may come back. -/
theorem releasable_eq_ok_iff (hp : p.Regular) (h : p.Shows r next free) {bytes : List UInt8} :
    p.releasable r text = .ok bytes ↔ ∃ v, Codec.Spells text p.family v ∧
      bytes = Codec.ofValue v p.family ∧ p.layout.Allocatable v ∧ v < next ∧ v ∉ free := by
  constructor
  · intro hrel
    cases hparse : Codec.parse text p.family with
    | error e =>
      simp [releasable, hparse, Except.mapError, bind, Except.bind] at hrel
    | ok bs =>
      obtain ⟨v, hv, rfl⟩ := Codec.Spells.of_parse hparse
      rw [releasable_of_spells hp h hv] at hrel
      split at hrel
      · cases hrel
      · next hc =>
        split at hrel
        · cases hrel
        · next ha =>
          split at hrel
          · cases hrel
          · next hn =>
            split at hrel
            · cases hrel
            · next hf =>
              exact ⟨v, hv, (Except.ok.inj hrel).symm, ⟨by simpa using hc, by simpa using ha⟩,
                by omega, hf⟩
  · rintro ⟨v, hv, rfl, ⟨hc, ha⟩, hn, hf⟩
    rw [releasable_of_spells hp h hv, if_neg (by simp [hc]), if_neg (by simp [ha]),
      if_neg (by omega), if_neg hf]

/-- A number that came back is the last free one. -/
theorem Shows.pushFree (h : p.Shows r next free) (hv : p.layout.Allocatable v) (hlt : v < next)
    (hf : v ∉ free) :
    p.Shows (r.pushFree p.name (Codec.ofValue v p.family)) next (free ++ [v]) where
  next_eq := by
    have := h.next_eq
    rw [Pool.next] at this ⊢
    rwa [Registry.pool_pushFree]
  next_ok := h.next_ok
  free_eq := by simp [h.free_eq]
  free_ok w hw := by
    rcases List.mem_append.1 hw with hw | hw
    · exact h.free_ok w hw
    · rw [List.mem_singleton.1 hw]
      exact ⟨hv, hlt⟩
  nodup := by
    rw [List.nodup_append]
    refine ⟨h.nodup, by simp, fun a ha b hb => ?_⟩
    rw [List.mem_singleton.1 hb]
    exact fun hab => hf (hab ▸ ha)

/-- What can happen when a pool takes a text back: the result, and the registry afterwards. -/
inductive Return (p : Pool) (r : Registry) (next : Nat) (free : List Nat) (text : String) :
    Except PoolError Unit → Registry → Prop
  | taken {v : Nat} {r' : Registry} : Codec.Spells text p.family v → p.layout.Allocatable v →
      v < next → v ∉ free → p.Shows r' next (free ++ [v]) → Return p r next free text (.ok ()) r'
  | refused {e : PoolError} : (∀ v, Codec.Spells text p.family v → p.layout.Allocatable v →
      v < next → v ∈ free) → Return p r next free text (.error e) r

/-- **Taking back.** What a pool does with a text that comes back. -/
theorem release_cases (hp : p.Regular) (h : p.Shows r next free) (text : String) :
    Return p r next free text (p.release text r).1 (p.release text r).2 := by
  rw [release]
  cases hrel : p.releasable r text with
  | ok bytes =>
    obtain ⟨v, hspell, rfl, hv, hlt, hf⟩ := (releasable_eq_ok_iff hp h).1 hrel
    exact .taken hspell hv hlt hf (h.pushFree hv hlt hf)
  | error e =>
    refine .refused fun v hspell hv hlt => ?_
    refine Decidable.byContradiction fun hf => ?_
    have := (releasable_eq_ok_iff hp h).2 ⟨v, hspell, rfl, hv, hlt, hf⟩
    rw [hrel] at this
    cases this

/-- A spelling of a number that is out comes back. -/
theorem release_of_spells (hp : p.Regular) (h : p.Shows r next free)
    (ht : Codec.Spells text p.family v) (hv : p.layout.Allocatable v) (hlt : v < next)
    (hf : v ∉ free) : (p.release text r).1 = .ok () ∧
      p.Shows (p.release text r).2 next (free ++ [v]) := by
  have hrel := (releasable_eq_ok_iff hp h).2 ⟨v, ht, rfl, hv, hlt, hf⟩
  rw [release, hrel]
  exact ⟨rfl, h.pushFree hv hlt hf⟩

/-- A pool that was in order is in order whatever it was asked to take back. -/
theorem Shows.after_release (hp : p.Regular) (h : p.Shows r next free) (text : String) :
    ∃ next' free', p.Shows (p.release text r).2 next' free' := by
  have hcases := release_cases hp h text
  generalize p.release text r = out at hcases
  obtain ⟨answer, r'⟩ := out
  cases hcases with
  | taken _ _ _ _ hafter => exact ⟨_, _, hafter⟩
  | refused => exact ⟨_, _, h⟩

/-! ## Addresses that are asked for -/

section Asked

variable {name wanted : String} {requested : Option String} {f : Family} {s : Registry}

/-- The address that is asked for, if it is one that jobs can share. -/
def sharable (wanted : String) (f : Family) : Except PoolError String := do
  let bytes ← (Codec.parse wanted f).mapError .malformed
  if !(roundRobin f).layout.covers (Codec.toValue bytes) then
    throw (.outOfRange wanted (roundRobin f).name)
  (Codec.stringify bytes).mapError .malformed

/-- An address that jobs can share is refused if another job has it. -/
theorem assignShared_of_sharable (hname : name.isEmpty = false)
    (hreq : requested.bind nonblank? = some wanted) (r : Registry) :
    assignShared name requested f r =
      (sharable wanted f >>= fun text =>
        match r.jobByAddress? text with
        | some owner =>
          if owner.name = name then .ok text else .error (.conflict text owner.name)
        | none => .ok text, r) := by
  simp only [assignShared, sharable, hname, hreq, Bool.false_eq_true, if_false]
  cases Codec.parse wanted f with
  | error fault => rfl
  | ok bytes =>
    cases hcovers : (roundRobin f).layout.covers (Codec.toValue bytes) with
    | false => simp [hcovers, Except.mapError, bind, Except.bind]; rfl
    | true => simp [hcovers, Except.mapError, bind, Except.bind]; rfl

/-- Asking for an address changes nothing. -/
theorem assignShared_snd (hreq : requested.bind nonblank? = some wanted) (r : Registry) :
    (assignShared name requested f r).2 = r := by
  cases hname : name.isEmpty with
  | true => rw [assignShared, if_pos hname]
  | false => rw [assignShared_of_sharable hname hreq]

/-- **Asking for an address.** It is given if jobs can share it and the first job that has it, if
any, is the one that asks. -/
theorem assignShared_eq_ok_iff (hreq : requested.bind nonblank? = some wanted) :
    assignShared name requested f r = (.ok text, s) ↔
      s = r ∧ name.isEmpty = false ∧ sharable wanted f = .ok text ∧
        ∀ owner, r.jobByAddress? text = some owner → owner.name = name := by
  cases hname : name.isEmpty with
  | true => simp [assignShared, hname]
  | false =>
    rw [assignShared_of_sharable hname hreq]
    cases hshare : sharable wanted f with
    | error e => simp [bind, Except.bind]
    | ok address =>
      simp only [bind, Except.bind, Prod.mk.injEq, Except.ok.injEq, eq_comm (a := s), true_and]
      cases howner : r.jobByAddress? address with
      | none => grind
      | some owner => by_cases hn : owner.name = name <;> grind

/-- Without a request the pool hands an address out. -/
theorem assignShared_of_none (hname : name.isEmpty = false)
    (hreq : requested.bind nonblank? = none) (f : Family) :
    assignShared name requested f = (roundRobin f).allocate := by
  funext s
  simp only [assignShared, hname, hreq, Bool.false_eq_true, if_false]

end Asked

end Pool

end Overlay
