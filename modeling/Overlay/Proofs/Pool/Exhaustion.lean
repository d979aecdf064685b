import Overlay.Proofs.Pool.Runs

/-!
# Exhausted pools

Once the last address of its layout went out, the counter of a pool should rest on the layout's
limit: nothing goes out any more but what came back, and everything that is out can come back
(`Pool.Spent`). The counter is stored in the width of an address, and higher bits are dropped. So
this holds of a regular layout inside the addresses of the family exactly if its limit, the number
behind its last block, is itself an address of the family (`Pool.staysExhausted_iff`).

The limit of a layout whose last block ends with the last IPv4 address is not: the counter is back
at zero, the addresses go out a second time, and what is out is refused as never handed out
(`Pool.not_staysExhausted_halves`). A block of IPv6 addresses cannot end there, since
`Block.network` stops one number before.
-/

namespace Overlay

/-- The last address that a layout hands out. -/
def Layout.Last (l : Layout) (v : Nat) : Prop :=
  l.Allocatable v ∧ ∀ w, l.Allocatable w → w ≤ v

/-- What follows on the last address is the limit. -/
theorem Layout.Last.successor_eq {l : Layout} {v : Nat} (h : l.Last v) (hl : l.Regular) :
    l.successor v = l.limit := by
  have hfollows := hl.follows h.1
  refine hfollows.cases.resolve_left fun hs => ?_
  have hle := h.2 _ hs
  have hlt := hfollows.lt
  omega

namespace Pool

open PoolEvent

variable {p : Pool} {r : Registry} {next v : Nat} {free : List Nat} {log : List PoolEvent}

/-- What should hold after a run in which the last address `v` went out. -/
structure Spent (p : Pool) (v : Nat) (log : List PoolEvent) (r : Registry) : Prop where
  /-- The counter rests on the limit. -/
  rests : p.next r = .ok p.layout.limit
  /-- While nothing comes back, nothing goes out but what is free already. -/
  ends : ∀ calls, (∀ text, .released text (.ok ()) ∉ (p.serveAll r calls).1) →
    ∀ answer, .allocated answer ∈ (p.serveAll r calls).1 →
      answer = .error (.exhausted p.name) ∨
        ∃ bytes ∈ (r.pool p.name).free, answer = (Codec.stringify bytes).mapError .malformed
  /-- Nothing is free when the last address goes out, unless it had come back before. -/
  emptied : ∀ earlier, log = .allocated (.ok (Codec.render v p.family)) :: earlier →
    (∀ text, Codec.Spells text p.family v → .released text (.ok ()) ∉ earlier) →
    (r.pool p.name).free = []
  /-- What is outstanding is taken back, whatever its spelling. -/
  comesBack : ∀ address, Outstanding address log →
    ∀ text, IpAddress.denoted? text = IpAddress.denoted? address →
      (p.release text r).1 = .ok ()

/-- The pool stays exhausted after every run in which the last address went out. -/
def StaysExhausted (p : Pool) : Prop :=
  ∀ r calls v, r.pool p.name = .unused → p.layout.Last v →
    .allocated (.ok (Codec.render v p.family)) ∈ (p.serveAll r calls).1 →
    p.Spent v (p.serveAll r calls).1 (p.serveAll r calls).2

/-! ## Where the limit is an address -/

/-- The counter has passed what went out, so behind the last address it is at the limit. -/
theorem InLine.next_eq_limit (hp : p.Regular) (h : p.InLine log r next free)
    (hlast : p.layout.Last v) (hmem : .allocated (.ok (Codec.render v p.family)) ∈ log) :
    next = p.layout.limit := by
  obtain ⟨w, hrender, hw, hlt⟩ := h.below _ hmem
  obtain rfl := (Codec.render_inj (hp.lt_size hlast.1) (hp.lt_size hw)).1 hrender
  refine h.shows.next_ok.resolve_left fun hnext => ?_
  have := hlast.2 _ hnext
  omega

/-- One call to a pool whose counter is at the limit, if nothing comes back. -/
theorem Shows.serve_limit (hp : p.Regular) (h : p.Shows r p.layout.limit free) {call : PoolCall}
    (hnone : ∀ text, (p.serve r call).1 ≠ .released text (.ok ())) :
    ∃ free', p.Shows (p.serve r call).2 p.layout.limit free' ∧ free' ⊆ free ∧
      ∀ answer, (p.serve r call).1 = .allocated answer →
        answer = .error (.exhausted p.name) ∨
          ∃ w ∈ free, answer = .ok (Codec.render w p.family) := by
  cases call with
  | allocate =>
    simp only [serve, allocated.injEq, forall_eq']
    have hcases := allocate_cases hp h
    generalize p.allocate r = out at hcases
    obtain ⟨answer, r'⟩ := out
    cases hcases with
    | @reused front w _ hfree hafter =>
      subst hfree
      exact ⟨front, hafter, List.subset_append_left .., .inr ⟨w, by simp, rfl⟩⟩
    | counted _ hw hle =>
      have := hp.layout.lt_limit hw
      omega
    | exhausted _ _ hafter => exact ⟨[], hafter, List.nil_subset _, .inl rfl⟩
  | release text =>
    simp only [serve] at hnone ⊢
    have hcases := release_cases hp h text
    generalize p.release text r = out at hcases hnone
    obtain ⟨answer, r'⟩ := out
    cases hcases with
    | taken => exact absurd rfl (hnone text)
    | refused => exact ⟨free, h, List.Subset.refl _, fun answer hanswer => by cases hanswer⟩
  | checkRelease text =>
    exact ⟨free, h, List.Subset.refl _, fun answer hanswer => by cases hanswer⟩
  | reopen => exact ⟨free, h, List.Subset.refl _, fun answer hanswer => by cases hanswer⟩
  | setJobs jobs =>
    exact ⟨free, h.congr rfl, List.Subset.refl _, fun answer hanswer => by cases hanswer⟩

/-- A run of a pool whose counter is at the limit, if nothing comes back. -/
theorem Shows.serveAll_limit (hp : p.Regular) (h : p.Shows r p.layout.limit free)
    {calls : List PoolCall}
    (hnone : ∀ text, .released text (.ok ()) ∉ (p.serveAll r calls).1) :
    ∃ free', p.Shows (p.serveAll r calls).2 p.layout.limit free' ∧ free' ⊆ free ∧
      ∀ answer, .allocated answer ∈ (p.serveAll r calls).1 →
        answer = .error (.exhausted p.name) ∨
          ∃ w ∈ free, answer = .ok (Codec.render w p.family) := by
  induction calls with
  | nil => exact ⟨free, h, List.Subset.refl _, nofun⟩
  | cons call earlier ih =>
    simp only [serveAll, List.mem_cons, not_or] at hnone ⊢
    obtain ⟨free', hshows, hsub, hold⟩ := ih fun text => (hnone text).2
    obtain ⟨free'', hshows', hsub', hnew⟩ := hshows.serve_limit hp fun text => ((hnone text).1 ·.symm)
    refine ⟨free'', hshows', fun w hw => hsub (hsub' hw), fun answer hmem => ?_⟩
    rcases hmem with heq | hmem
    · refine (hnew answer heq.symm).imp_right ?_
      rintro ⟨w, hw, rfl⟩
      exact ⟨w, hsub hw, rfl⟩
    · exact hold answer hmem

/-- If the last address goes out and had not come back before, nothing is free. -/
theorem InLine.free_eq_nil (hp : p.Regular) (h : p.InLine log r next free)
    (hv : p.layout.Allocatable v)
    (hout : (p.allocate r).1 = .ok (Codec.render v p.family))
    (hnone : ∀ text, Codec.Spells text p.family v → .released text (.ok ()) ∉ log) :
    ((p.allocate r).2.pool p.name).free = [] := by
  have hcases := allocate_cases hp h.shows
  generalize p.allocate r = out at hcases hout
  obtain ⟨answer, r'⟩ := out
  cases hcases with
  | @reused front w _ hfree =>
    subst hfree
    have hw := (h.shows.free_ok w (by simp)).1
    obtain rfl := (Codec.render_inj (hp.lt_size hw) (hp.lt_size hv)).1 (Except.ok.inj hout)
    obtain ⟨text, hspell, hmem⟩ := h.cameBack w (by simp)
    exact absurd hmem (hnone text hspell)
  | counted _ _ _ _ _ hafter => simp [hafter.free_eq]
  | exhausted => cases hout

/-- A pool whose limit is an address stays exhausted. -/
theorem Regular.staysExhausted (hp : p.Regular) : p.StaysExhausted := by
  intro r calls v hunused hlast hmem
  obtain ⟨next, free, hline⟩ := inLine_serveAll hp hunused calls
  obtain rfl := hline.next_eq_limit hp hlast hmem
  constructor
  case rests => exact hline.shows.next_eq
  case ends =>
    intro more hnone answer hanswer
    obtain ⟨-, -, -, hall⟩ := hline.shows.serveAll_limit hp hnone
    refine (hall answer hanswer).imp_right ?_
    rintro ⟨w, hw, rfl⟩
    refine ⟨_, ?_, by rw [Codec.stringify_ofValue]; rfl⟩
    rw [hline.shows.free_eq]
    exact List.mem_map_of_mem hw
  case emptied =>
    intro earlier hlog hnone
    cases calls with
    | nil => cases hlog
    | cons call calls =>
      obtain ⟨hevent, hearlier⟩ := List.cons.inj hlog
      obtain ⟨_, _, hbefore⟩ := inLine_serveAll hp hunused calls
      rw [hearlier] at hbefore
      cases call with
      | allocate => exact hbefore.free_eq_nil hp hlast.1 (allocated.inj hevent) hnone
      | release text => cases hevent
      | checkRelease text => cases hevent
      | reopen => cases hevent
      | setJobs jobs => cases hevent
  case comesBack => exact fun address hout text ht => hline.release_ok hp hout ht

/-! ## Where it is not -/

/-- A pool that only counted so far: its counter is at an address, and nothing is free. -/
structure Counting (p : Pool) (r : Registry) (v : Nat) : Prop where
  jobs : r.jobs = ∅
  next_eq : p.next r = .ok v
  free_eq : (r.pool p.name).free = []
  allocatable : p.layout.Allocatable v

/-- A pool that only counted so far hands out the address at its counter. -/
theorem Counting.allocate (h : p.Counting r v) : p.allocate r = (.ok (Codec.render v p.family),
    r.setNext p.name (Codec.ofValue (p.layout.successor v) p.family)) := by
  have hfree : (r.setNext p.name (Codec.ofValue (p.layout.successor v) p.family)).jobs = ∅ :=
    (Registry.SameBut.setNext r ..).jobs.trans h.jobs
  have htaken : p.taken (r.setNext p.name (Codec.ofValue (p.layout.successor v) p.family)) v =
      false := by
    rw [taken, Registry.jobByAddress?, hfree]
    exact Bool.and_false _
  simp [Pool.allocate, Registry.popFree, h.free_eq, advance, h.next_eq, h.allocatable.1, htaken]

/-- A pool of which nothing was called yet only counted so far. -/
theorem counting_empty (hl : p.layout.Regular) : p.Counting ∅ p.layout.start :=
  ⟨rfl, rfl, rfl, hl.start_spec.1⟩

/-- A pool goes on counting as long as there is a next address. -/
theorem Counting.serve (hl : p.layout.Regular) (hle : p.layout.limit ≤ p.family.size)
    (h : p.Counting r v) (hs : p.layout.Allocatable (p.layout.successor v)) :
    p.Counting (p.serve r .allocate).2 (p.layout.successor v) := by
  have hlt : p.layout.successor v < p.family.size := by
    have := hl.lt_limit hs
    omega
  simp only [Pool.serve, h.allocate]
  refine ⟨(Registry.SameBut.setNext r ..).jobs.trans h.jobs, ?_, ?_, hs⟩
  · simp [Pool.next, Codec.toValue_ofValue hlt]
  · simp [h.free_eq]

/-- A pool that only counted so far comes to its last address. -/
theorem exists_counting_last (hl : p.layout.Regular) (hle : p.layout.limit ≤ p.family.size)
    {calls : List PoolCall} (h : p.Counting (p.serveAll ∅ calls).2 v) :
    ∃ calls w, p.layout.Last w ∧ p.Counting (p.serveAll ∅ calls).2 w := by
  -- by induction on the distance of the address at the counter from the limit
  generalize hdist : p.layout.limit - v = distance
  induction distance using Nat.strongRecOn generalizing calls v with
  | ind distance ih =>
    have hfollows := hl.follows h.allocatable
    have hlt := hfollows.lt
    have hlimit := hl.lt_limit h.allocatable
    rcases hfollows.cases with hs | hs
    · have hnext : p.Counting (p.serveAll ∅ (.allocate :: calls)).2 (p.layout.successor v) :=
        h.serve hl hle hs
      exact ih _ (by omega) hnext rfl
    · refine ⟨calls, v, ⟨h.allocatable, fun w hw => Nat.not_lt.1 fun hvw => ?_⟩, h⟩
      have := hfollows.le w hw hvw
      have := hl.lt_limit hw
      omega

/-- A limit that is not an address is stored as zero. -/
theorem toValue_ofValue_size (family : Family) :
    Codec.toValue (Codec.ofValue family.size family) = 0 := by
  rw [← Codec.ofValue_mod, Nat.mod_self, Codec.toValue_ofValue (by cases family <;> decide)]

/-- A pool whose limit is not an address does not stay exhausted. -/
theorem not_staysExhausted (hl : p.layout.Regular) (hlimit : p.layout.limit = p.family.size) :
    ¬p.StaysExhausted := by
  intro hstays
  have hstart : p.Counting (p.serveAll ∅ []).2 p.layout.start := counting_empty hl
  obtain ⟨calls, v, hlast, hcounting⟩ := exists_counting_last hl (Nat.le_of_eq hlimit) hstart
  have hspent := hstays ∅ (.allocate :: calls) v rfl hlast
    (by simp [serveAll, serve, hcounting.allocate])
  have hrests := hspent.rests
  simp only [serveAll, serve, hcounting.allocate, hlast.successor_eq hl, hlimit] at hrests
  have hpos := hl.lt_limit hlast.1
  simp [Pool.next, toValue_ofValue_size] at hrests
  omega

/-- **Exhaustion.** A pool with a regular layout inside the addresses of its family stays exhausted
exactly if the limit of the layout is an address as well. -/
theorem staysExhausted_iff (hl : p.layout.Regular) (hle : p.layout.limit ≤ p.family.size) :
    p.StaysExhausted ↔ p.layout.limit < p.family.size := by
  refine ⟨fun hstays => ?_, fun hlt => Regular.staysExhausted ⟨hl, hlt⟩⟩
  exact Nat.lt_of_le_of_ne hle fun heq => not_staysExhausted hl heq hstays

/-- The pool of IPv4 subnets stays exhausted. -/
theorem staysExhausted_subnets : (subnets .v4).layout.Regular ∧
    (subnets .v4).layout.limit ≤ Family.v4.size ∧ (subnets .v4).StaysExhausted := by
  have hp := ofKind_regular ⟨.subnet, .v4⟩
  have hle := Nat.le_of_lt hp.limit_lt
  exact ⟨hp.layout, hle, (staysExhausted_iff hp.layout hle).2 hp.limit_lt⟩

/-- A pool of subnets that are the two halves of all IPv4 addresses. -/
def halves : Pool :=
  ⟨⟨.subnet, .v4⟩, ⟨.v4, [.network .v4 0 0], .stride 2147483648⟩⟩

/-- Both halves go out, and the third call gives the first half again. The second half cannot come
back. -/
theorem not_staysExhausted_halves :
    halves.layout.Regular ∧ halves.layout.limit = Family.v4.size ∧
      (halves.serveAll ∅ [.release "128.0.0.0", .allocate, .allocate, .allocate]).1 =
        [.released "128.0.0.0" (.error (.aheadOfNext "128.0.0.0" "subnet_ip" "128.0.0.0")),
          .allocated (.ok "0.0.0.0"), .allocated (.ok "128.0.0.0"), .allocated (.ok "0.0.0.0")] ∧
      ¬halves.StaysExhausted := by
  have hregular : halves.layout.Regular :=
    ⟨by decide, by decide, by decide, Nat.succ_pos _⟩
  have hlimit : halves.layout.limit = Family.v4.size := by decide
  exact ⟨hregular, hlimit, rfl, not_staysExhausted hregular hlimit⟩

end Pool

end Overlay
