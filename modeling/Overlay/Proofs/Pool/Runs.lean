import Overlay.Proofs.Pool.Basic

/-!
# Runs of a pool

A pool is called in any order, while the jobs of its registry change. The answers make a log, the
latest event first. An address that went out is *outstanding* until some spelling of it is taken
back (`PoolEvent.Outstanding`).

The stored state of a pool is always in line with the log (`Pool.InLine`, kept by every call, so
`Pool.inLine_serveAll`): what went out lies below the counter, no outstanding number is free, and
what is free was taken back. So every spelling of an outstanding address is taken back
(`Pool.InLine.release_ok`).
-/

namespace Overlay

/-- What happens to a pool, and around it. -/
inductive PoolCall where
  | allocate
  | release (text : String)
  | checkRelease (text : String)
  /-- The pool is opened again over its registry. -/
  | reopen
  /-- The jobs of the registry become any others. -/
  | setJobs (jobs : Table Job)

/-- A call with its answer. -/
inductive PoolEvent where
  | allocated (answer : Except PoolError String)
  | released (text : String) (answer : Except PoolError Unit)
  | checked (text : String) (answer : Except PoolError Unit)
  | reopened
  | jobsSet

/-- The address went out, and since then no spelling of it was taken back. The latest event of a log
stands first. -/
def PoolEvent.Outstanding (address : String) (log : List PoolEvent) : Prop :=
  ∃ since earlier, log = since ++ .allocated (.ok address) :: earlier ∧
    ∀ text, IpAddress.denoted? text = IpAddress.denoted? address →
      PoolEvent.released text (.ok ()) ∉ since

/-! ## Outstanding addresses -/

namespace PoolEvent

variable {address : String} {log : List PoolEvent} {event : PoolEvent}

/-- An event makes its own address outstanding, or leaves the ones outstanding that it does not
take back. -/
theorem Outstanding.of_cons (h : Outstanding address (event :: log)) :
    event = .allocated (.ok address) ∨
      Outstanding address log ∧ ∀ text, IpAddress.denoted? text = IpAddress.denoted? address →
        event ≠ .released text (.ok ()) := by
  obtain ⟨since, earlier, hlog, hnot⟩ := h
  cases since with
  | nil => exact .inl (List.cons.inj hlog).1
  | cons first since =>
    obtain ⟨rfl, rfl⟩ := List.cons.inj hlog
    refine .inr ⟨⟨since, earlier, rfl, fun text ht hmem => ?_⟩, fun text ht heq => ?_⟩
    · exact hnot text ht (List.mem_cons_of_mem _ hmem)
    · exact hnot text ht (heq ▸ List.mem_cons_self)

/-- What is outstanding went out. -/
theorem Outstanding.mem (h : Outstanding address log) : .allocated (.ok address) ∈ log := by
  obtain ⟨since, earlier, rfl, -⟩ := h
  simp

end PoolEvent

/-- The address of a family with the number that a text spells. -/
theorem Codec.Spells.denoted? {text : String} {family : Family} {v : Nat}
    (h : Spells text family v) :
    IpAddress.denoted? text = IpAddress.denoted? (render v family) := by
  obtain ⟨a, ha, rfl, rfl⟩ := h
  rw [ha, denoted?_render, IpAddress.ofValue_value]

/-- A text spells a number of a family if it denotes the address that the rendered number does. -/
theorem Codec.spells_of_denoted? {text : String} {family : Family} {v : Nat} (hv : v < family.size)
    (h : IpAddress.denoted? text = IpAddress.denoted? (render v family)) : Spells text family v := by
  obtain ⟨a, ha, hf, hav⟩ := spells_render hv
  exact ⟨a, h.trans ha, hf, hav⟩

/-! ## Calls -/

namespace Pool

open PoolEvent

/-- Serves one call. A pool that is opened again finds the state that it stored. -/
def serve (p : Pool) (r : Registry) : PoolCall → PoolEvent × Registry
  | .allocate =>
    let out := p.allocate r
    (.allocated out.1, out.2)
  | .release text =>
    let out := p.release text r
    (.released text out.1, out.2)
  | .checkRelease text =>
    let out := p.checkRelease text r
    (.checked text out.1, out.2)
  | .reopen => (.reopened, r)
  | .setJobs jobs => (.jobsSet, { r with jobs })

/-- Serves calls, the last one of the list first. Gives the log of their answers, the latest one
first, and the registry afterwards. -/
def serveAll (p : Pool) (r : Registry) : List PoolCall → List PoolEvent × Registry
  | [] => ([], r)
  | call :: earlier =>
    let (log, r) := p.serveAll r earlier
    let (event, r) := p.serve r call
    (event :: log, r)

/-- What the stored state of a pool, read as numbers, has to do with the log of its calls. -/
structure InLine (p : Pool) (log : List PoolEvent) (r : Registry) (next : Nat) (free : List Nat) :
    Prop where
  shows : p.Shows r next free
  /-- What went out lies below the counter. -/
  below : ∀ address, .allocated (.ok address) ∈ log →
    ∃ v, address = Codec.render v p.family ∧ p.layout.Allocatable v ∧ v < next
  /-- What is outstanding is not free. -/
  notFree : ∀ v, p.layout.Allocatable v → Outstanding (Codec.render v p.family) log → v ∉ free
  /-- What is free was taken back. -/
  cameBack : ∀ v ∈ free, ∃ text, Codec.Spells text p.family v ∧ .released text (.ok ()) ∈ log

variable {p : Pool} {r : Registry} {log : List PoolEvent} {next : Nat} {free : List Nat}

/-- An unused pool is in line with an empty log. -/
theorem inLine_unused (hp : p.Regular) (h : r.pool p.name = .unused) :
    p.InLine [] r p.layout.start [] where
  shows := shows_unused hp h
  below := nofun
  notFree _ _ _ := List.not_mem_nil
  cameBack := nofun

/-- An outstanding address has a number below the counter that is not free. -/
theorem InLine.outstanding (h : p.InLine log r next free) {address : String}
    (hout : Outstanding address log) : ∃ v, address = Codec.render v p.family ∧
      p.layout.Allocatable v ∧ v < next ∧ v ∉ free := by
  obtain ⟨v, rfl, hv, hlt⟩ := h.below address hout.mem
  exact ⟨v, rfl, hv, hlt, h.notFree v hv hout⟩

/-- A call that hands nothing out keeps the state in line with the log, if it leaves the state of
the pool as it is. -/
theorem InLine.quiet (h : p.InLine log r next free) {event : PoolEvent} {r' : Registry}
    (hr : r'.pool p.name = r.pool p.name)
    (hevent : ∀ address, event ≠ .allocated (.ok address)) :
    p.InLine (event :: log) r' next free where
  shows := h.shows.congr hr
  below address hmem :=
    h.below address ((List.mem_cons.1 hmem).resolve_left (hevent address ·.symm))
  notFree v hv hout := by
    rcases hout.of_cons with heq | ⟨hold, -⟩
    · exact absurd heq (hevent _)
    · exact h.notFree v hv hold
  cameBack v hv := by
    obtain ⟨text, hspell, hmem⟩ := h.cameBack v hv
    exact ⟨text, hspell, List.mem_cons_of_mem _ hmem⟩

/-- Handing out keeps the state in line with the log. -/
theorem InLine.allocate (hp : p.Regular) (h : p.InLine log r next free) :
    ∃ next' free',
      p.InLine (.allocated (p.allocate r).1 :: log) (p.allocate r).2 next' free' := by
  have hcases := allocate_cases hp h.shows
  generalize p.allocate r = out at hcases
  obtain ⟨answer, r'⟩ := out
  cases hcases with
  | @reused front v _ hfree hafter =>
    subst hfree
    have hold := h.shows.free_ok v (by simp)
    have hfront : v ∉ front := fun hm =>
      (List.nodup_append.1 h.shows.nodup).2.2 v hm v (by simp) rfl
    refine ⟨next, front, hafter, fun address hmem => ?_, fun w hw hout hm => ?_, fun w hw => ?_⟩
    · rcases List.mem_cons.1 hmem with heq | hmem
      · injection heq with heq
        exact ⟨v, Except.ok.inj heq, hold⟩
      · exact h.below address hmem
    · rcases hout.of_cons with heq | ⟨hout, -⟩
      · injection heq with heq
        have hvw := (Codec.render_inj (hp.lt_size hold.1) (hp.lt_size hw)).1 (Except.ok.inj heq)
        exact hfront (hvw ▸ hm)
      · exact h.notFree w hw hout (List.mem_append_left _ hm)
    · obtain ⟨text, hspell, hmem⟩ := h.cameBack w (List.mem_append_left _ hw)
      exact ⟨text, hspell, List.mem_cons_of_mem _ hmem⟩
  | @counted v _ hfree hv hle hfresh hskipped hafter =>
    have hlt := (hp.layout.follows hv).lt
    refine ⟨_, _, hafter, fun address hmem => ?_, fun _ _ _ => List.not_mem_nil, nofun⟩
    rcases List.mem_cons.1 hmem with heq | hmem
    · injection heq with heq
      exact ⟨v, Except.ok.inj heq, hv, hlt⟩
    · obtain ⟨w, rfl, hw, hwlt⟩ := h.below address hmem
      exact ⟨w, rfl, hw, by omega⟩
  | @exhausted _ hfree hskipped hafter =>
    have hle := h.shows.next_le hp
    refine ⟨_, _, hafter, fun address hmem => ?_, fun _ _ _ => List.not_mem_nil, nofun⟩
    rcases List.mem_cons.1 hmem with heq | hmem
    · injection heq with heq
      cases heq
    · obtain ⟨w, rfl, hw, hwlt⟩ := h.below address hmem
      exact ⟨w, rfl, hw, by omega⟩

/-- Taking back keeps the state in line with the log. -/
theorem InLine.release (hp : p.Regular) (h : p.InLine log r next free) (text : String) :
    ∃ next' free',
      p.InLine (.released text (p.release text r).1 :: log) (p.release text r).2 next' free' := by
  have hcases := release_cases hp h.shows text
  generalize p.release text r = out at hcases
  obtain ⟨answer, r'⟩ := out
  cases hcases with
  | @taken v _ hspell hv hlt hfree hafter =>
    refine ⟨_, _, hafter, fun address hmem => ?_, fun w hw hout hm => ?_, fun w hw => ?_⟩
    · exact h.below address ((List.mem_cons.1 hmem).resolve_left nofun)
    · rcases hout.of_cons with heq | ⟨hout, hother⟩
      · cases heq
      · rcases List.mem_append.1 hm with hm | hm
        · exact h.notFree w hw hout hm
        · obtain rfl := List.mem_singleton.1 hm
          exact hother text hspell.denoted? rfl
    · rcases List.mem_append.1 hw with hw | hw
      · obtain ⟨other, hother, hmem⟩ := h.cameBack w hw
        exact ⟨other, hother, List.mem_cons_of_mem _ hmem⟩
      · obtain rfl := List.mem_singleton.1 hw
        exact ⟨text, hspell, List.mem_cons_self⟩
  | refused hrefused => exact ⟨_, _, h.quiet rfl nofun⟩

/-- Every call keeps the state in line with the log. -/
theorem InLine.serve (hp : p.Regular) (h : p.InLine log r next free) (call : PoolCall) :
    ∃ next' free', p.InLine ((p.serve r call).1 :: log) (p.serve r call).2 next' free' := by
  cases call with
  | allocate =>
    simp only [Pool.serve]
    exact h.allocate hp
  | release text =>
    simp only [Pool.serve]
    exact h.release hp text
  | checkRelease text => exact ⟨_, _, h.quiet rfl nofun⟩
  | reopen => exact ⟨_, _, h.quiet rfl nofun⟩
  | setJobs jobs => exact ⟨_, _, h.quiet rfl nofun⟩

/-- **Runs.** Every run of an unused pool keeps the state in line with its log. -/
theorem inLine_serveAll (hp : p.Regular) (hunused : r.pool p.name = .unused)
    (calls : List PoolCall) :
    ∃ next free, p.InLine (p.serveAll r calls).1 (p.serveAll r calls).2 next free := by
  induction calls with
  | nil => exact ⟨_, _, inLine_unused hp hunused⟩
  | cons call earlier ih =>
    obtain ⟨next, free, h⟩ := ih
    exact h.serve hp call

/-- A spelling of an outstanding address is taken back. -/
theorem InLine.release_ok (hp : p.Regular) (h : p.InLine log r next free) {address text : String}
    (hout : Outstanding address log)
    (ht : IpAddress.denoted? text = IpAddress.denoted? address) :
    (p.release text r).1 = .ok () := by
  obtain ⟨v, rfl, hv, hlt, hfree⟩ := h.outstanding hout
  exact (release_of_spells hp h.shows (Codec.spells_of_denoted? (hp.lt_size hv) ht) hv hlt hfree).1

end Pool

end Overlay
