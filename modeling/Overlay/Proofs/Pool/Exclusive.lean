import Overlay.Proofs.Pool.Runs

/-!
# Exclusive hands

A pool is called in any order, while the jobs of its registry change and while it is opened again
over the same registry. An address that went out is *outstanding* until it is taken back. Three
facts hold after every history of calls on a pool that was unused before:

* the counter rests on an address of the layout or on its limit, and the free list has no address
  twice and only addresses below the counter;
* no outstanding address goes out again;
* every spelling of an outstanding address is taken back, and a text that is refused changes
  nothing.

The invariant behind them is `Pool.InLine`, which `PoolInUse.Kept` carries along with the pool: the
number of an outstanding address lies below the counter and is not free.
-/

namespace Overlay

/-- A pool and the registry it works on. -/
structure PoolInUse where
  pool : Pool
  registry : Registry

namespace PoolInUse

/-- Performs one call. -/
def perform (s : PoolInUse) : PoolCall → PoolEvent × PoolInUse
  | .allocate =>
    let out := s.pool.allocate s.registry
    (.allocated out.1, { s with registry := out.2 })
  | .release text =>
    let out := s.pool.release text s.registry
    (.released text out.1, { s with registry := out.2 })
  | .checkRelease text =>
    let out := s.pool.checkRelease text s.registry
    (.checked text out.1, { s with registry := out.2 })
  | .reopen => (.reopened, { s with pool := .ofKind s.pool.kind })
  | .setJobs jobs => (.jobsSet, { s with registry := { s.registry with jobs } })

/-- Performs calls, the last one of the list first. Gives the log of their answers, the latest one
first, and the state afterwards. -/
def performAll (s : PoolInUse) : List PoolCall → List PoolEvent × PoolInUse
  | [] => ([], s)
  | call :: earlier =>
    let (log, s) := s.performAll earlier
    let (event, s) := s.perform call
    (event :: log, s)

/-! ## One call -/

open PoolEvent

/-- The pool is the one of the kind, and its stored state is in line with the log. -/
structure Kept (k : PoolKind) (log : List PoolEvent) (s : PoolInUse) : Prop where
  pool : s.pool = .ofKind k
  inLine : ∃ next free, (Pool.ofKind k).InLine log s.registry next free

variable {k : PoolKind} {log : List PoolEvent} {s : PoolInUse}

/-- An unused pool with an empty log. -/
theorem kept_unused {r : Registry} (h : r.pool k.name = .unused) : Kept k [] ⟨.ofKind k, r⟩ where
  pool := rfl
  inLine := ⟨_, _, Pool.inLine_unused (Pool.ofKind_regular k) h⟩

/-- The pool of a kind in use serves the call. -/
theorem perform_ofKind (k : PoolKind) (r : Registry) (call : PoolCall) :
    (mk (.ofKind k) r).perform call =
      (((Pool.ofKind k).serve r call).1, ⟨.ofKind k, ((Pool.ofKind k).serve r call).2⟩) := by
  cases call <;> simp only [perform, Pool.serve, Pool.ofKind]

/-- Every call keeps the state in line with the log. -/
theorem Kept.perform (h : Kept k log s) (call : PoolCall) :
    Kept k ((s.perform call).1 :: log) (s.perform call).2 := by
  obtain ⟨p, r⟩ := s
  obtain ⟨hpool, next, free, hline⟩ := h
  obtain rfl : p = .ofKind k := hpool
  rw [perform_ofKind]
  exact ⟨rfl, hline.serve (Pool.ofKind_regular k) call⟩

/-! ## Histories -/

/-- Every history keeps the state in line with its log. -/
theorem Kept.performAll (h : Kept k [] s) (calls : List PoolCall) :
    Kept k (s.performAll calls).1 (s.performAll calls).2 := by
  induction calls with
  | nil => exact h
  | cons call earlier ih => exact ih.perform call

/-- What stands in the log of a history came from a call in the state that the calls before it
left. -/
theorem performAll_split {calls : List PoolCall} {later earlier : List PoolEvent} {event : PoolEvent}
    (h : (s.performAll calls).1 = later ++ event :: earlier) :
    ∃ before call, (s.performAll before).1 = earlier ∧
      ((s.performAll before).2.perform call).1 = event := by
  induction calls generalizing later with
  | nil => cases later <;> cases h
  | cons call calls ih =>
    cases later with
    | nil =>
      obtain ⟨hevent, hearlier⟩ := List.cons.inj h
      exact ⟨calls, call, hearlier, hevent⟩
    | cons first later => exact ih (List.cons.inj h).2

/-- What goes out is an address of the layout that is not outstanding. -/
theorem Kept.allocated (h : Kept k log s) {call : PoolCall} {address : String}
    (hcall : (s.perform call).1 = .allocated (.ok address)) :
    (∃ v, k.layout.Allocatable v ∧ address = Codec.render v k.family) ∧
      ∀ other, IpAddress.denoted? other = IpAddress.denoted? address → ¬Outstanding other log := by
  obtain ⟨p, r⟩ := s
  obtain ⟨hpool, next, free, hline⟩ := h
  obtain rfl : p = .ofKind k := hpool
  have hp := Pool.ofKind_regular k
  have hshows := hline.shows
  -- an outstanding address is neither free nor at the counter or behind it
  have hnew : ∀ v, k.layout.Allocatable v → v ∈ free ∨ next ≤ v →
      ∀ other, IpAddress.denoted? other = IpAddress.denoted? (Codec.render v k.family) →
        ¬Outstanding other log := by
    intro v hv hwhere other hsame hold
    obtain ⟨w, rfl, hw, hlt, hfree⟩ := hline.outstanding hold
    have heq : w = v :=
      (Codec.spells_render (hp.lt_size hw)).unique (Codec.spells_of_denoted? (hp.lt_size hv) hsame)
    subst heq
    rcases hwhere with hm | hle
    · exact hfree hm
    · omega
  cases call with
  | allocate =>
    have hcases := Pool.allocate_cases hp hshows
    simp only [PoolInUse.perform] at hcall
    injection hcall with hcall
    rw [hcall] at hcases
    generalize ((Pool.ofKind k).allocate r).2 = r' at hcases
    cases hcases with
    | @reused front v _ hfree hafter =>
      have hv := (hshows.free_ok v (by simp [hfree])).1
      exact ⟨⟨v, hv, rfl⟩, hnew v hv (.inl (by simp [hfree]))⟩
    | @counted v _ hfree hv hle => exact ⟨⟨v, hv, rfl⟩, hnew v hv (.inr hle)⟩
  | release text => cases hcall
  | checkRelease text => cases hcall
  | reopen => cases hcall
  | setJobs jobs => cases hcall

/-- A spelling of an outstanding address is taken back. -/
theorem Kept.release_ok (h : Kept k log s) {address text : String} (hout : Outstanding address log)
    (ht : IpAddress.denoted? text = IpAddress.denoted? address) :
    (s.pool.release text s.registry).1 = .ok () := by
  obtain ⟨hpool, next, free, hline⟩ := h
  rw [hpool]
  exact hline.release_ok (Pool.ofKind_regular k) hout ht

/-! ## The result -/

/-- What holds of a pool after a history with a log. -/
structure Exclusive (k : PoolKind) (log : List PoolEvent) (s : PoolInUse) : Prop where
  /-- The counter rests on an address of the layout or on its limit, and what is free lies below. -/
  rests : ∃ next, s.pool.next s.registry = .ok next ∧
    (k.layout.Allocatable next ∨ next = k.layout.limit) ∧
    ∀ bytes ∈ (s.registry.pool k.name).free,
      ∃ v, bytes = Codec.ofValue v k.family ∧ k.layout.Allocatable v ∧ v < next
  /-- Nothing is free twice. -/
  nodup : (s.registry.pool k.name).free.Nodup
  /-- What went out is an address of the layout. -/
  inLayout : ∀ address, .allocated (.ok address) ∈ log →
    ∃ v, k.layout.Allocatable v ∧ address = Codec.render v k.family
  /-- Between two times that an address goes out it is taken back. -/
  once : ∀ later between earlier first second,
    log = later ++ .allocated (.ok second) :: (between ++ .allocated (.ok first) :: earlier) →
    IpAddress.denoted? second = IpAddress.denoted? first →
    ∃ text, IpAddress.denoted? text = IpAddress.denoted? first ∧ .released text (.ok ()) ∈ between
  /-- What is outstanding is taken back, whatever its spelling. -/
  comesBack : ∀ address, Outstanding address log →
    ∀ text, IpAddress.denoted? text = IpAddress.denoted? address →
      (s.pool.release text s.registry).1 = .ok ()
  /-- What is refused changes nothing. -/
  refused : ∀ text e, (s.pool.release text s.registry).1 = .error e →
    (s.pool.release text s.registry).2 = s.registry

/-- The counter and the free list of a pool that is in line with a log. -/
theorem Kept.rests (h : Kept k log s) : (∃ next, s.pool.next s.registry = .ok next ∧
    (k.layout.Allocatable next ∨ next = k.layout.limit) ∧
    ∀ bytes ∈ (s.registry.pool k.name).free,
      ∃ v, bytes = Codec.ofValue v k.family ∧ k.layout.Allocatable v ∧ v < next) ∧
    (s.registry.pool k.name).free.Nodup := by
  obtain ⟨hpool, next, free, hline⟩ := h
  have hp := Pool.ofKind_regular k
  have hshows := hline.shows
  have hfree : (s.registry.pool k.name).free = free.map (Codec.ofValue · k.family) := hshows.free_eq
  rw [hpool, hfree]
  refine ⟨⟨next, hshows.next_eq, hshows.next_ok, fun bytes hb => ?_⟩, ?_⟩
  · obtain ⟨v, hv, rfl⟩ := List.mem_map.1 hb
    exact ⟨v, rfl, hshows.free_ok v hv⟩
  · rw [List.Nodup, List.pairwise_map]
    refine hshows.nodup.imp_of_mem fun {v w} hv hw hne heq => hne ?_
    exact (Codec.ofValue_inj (hp.lt_size (hshows.free_ok v hv).1)
      (hp.lt_size (hshows.free_ok w hw).1)).1 heq

/-- **Exclusive hands.** After every history of calls on a pool that was unused before, its counter
and free list stay within the layout, no outstanding address has gone out again, and every
outstanding address is taken back in whatever spelling. -/
theorem exclusive (k : PoolKind) (r : Registry) (hunused : r.pool k.name = .unused)
    (calls : List PoolCall) :
    Exclusive k ((mk (.ofKind k) r).performAll calls).1 ((mk (.ofKind k) r).performAll calls).2 := by
  have hkept := (kept_unused hunused).performAll
  constructor
  case rests => exact (hkept calls).rests.1
  case nodup => exact (hkept calls).rests.2
  case inLayout =>
    intro address hmem
    obtain ⟨later, earlier, hlog⟩ := List.append_of_mem hmem
    obtain ⟨before, call, -, hcall⟩ := performAll_split hlog
    exact ((hkept before).allocated hcall).1
  case once =>
    intro later between earlier first second hlog hsame
    obtain ⟨before, call, hbefore, hcall⟩ := performAll_split hlog
    -- without such a text the first address was outstanding when the second one went out
    refine Classical.byContradiction fun hnone => ?_
    have hout : Outstanding first ((mk (.ofKind k) r).performAll before).1 :=
      ⟨between, earlier, hbefore, fun text ht hmem => hnone ⟨text, ht, hmem⟩⟩
    exact ((hkept before).allocated hcall).2 first hsame.symm hout
  case comesBack => exact fun address hout text ht => (hkept calls).release_ok hout ht
  case refused =>
    intro text e he
    rw [Pool.release] at he ⊢
    split
    · next hrel =>
      rw [hrel] at he
      cases he
    · rfl

/-- The pool of instance addresses hands an address out, takes it back in another spelling and hands
it out again. -/
theorem exclusive_reused : (∅ : Registry).pool "service_ip" = .unused ∧
    Exclusive ⟨.oneInstance, .v4⟩
      [.allocated (.ok "172.30.0.0"), .released " 172.30.0.0 " (.ok ()),
        .allocated (.ok "172.30.0.0")]
      ((mk (.ofKind ⟨.oneInstance, .v4⟩) ∅).performAll
        [.allocate, .release " 172.30.0.0 ", .allocate]).2 := by
  refine ⟨rfl, ?_⟩
  exact exclusive ⟨.oneInstance, .v4⟩ ∅ rfl [.allocate, .release " 172.30.0.0 ", .allocate]

end PoolInUse

end Overlay
