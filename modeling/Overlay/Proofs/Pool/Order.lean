import Overlay.Proofs.Pool.Runs
import Overlay.Proofs.Registry.Jobs

/-!
# The order in which a pool hands out

Whatever was called before, and whatever the jobs of the registry are, handing out ends, and what it
gives is determined (`Pool.HandsOut`):

* the address that came back last, if one is free, and then the counter stays;
* otherwise the least *vacant* address from the counter on, one that no job has
  (`Pool.Vacant`), and then the counter moves to the address of the layout that follows;
* otherwise nothing, and then the counter rests on the limit.

So an unused pool over a registry without jobs hands out all addresses of its layout, each once and
in increasing order, before it is exhausted (`Pool.HandsOutAll`).

The loop that passes by taken addresses is described without a bound on its steps
(`Pool.Searches`): each step leaves fewer addresses ahead, so the loop comes to an end
(`Pool.searches_advance`).
-/

namespace Overlay

/-- A text spells a number of a family if it denotes the address with the number. -/
theorem Codec.spells_iff {text : String} {family : Family} {v : Nat} (hv : v < family.size) :
    Spells text family v ↔ IpAddress.denoted? text = some (IpAddress.ofValue family v) := by
  constructor
  · rintro ⟨a, ha, rfl, rfl⟩
    rw [ha, IpAddress.ofValue_value]
  · exact fun h => ⟨_, h, rfl, Nat.mod_eq_of_lt hv⟩

namespace Pool

variable {p : Pool} {r r' : Registry} {next v : Nat} {free : List Nat} {text : String}

/-! ## Vacant addresses -/

/-- An address of the layout that, in a pool of instance or round-robin addresses, no job has in any
spelling. -/
def Vacant (p : Pool) (r : Registry) (v : Nat) : Prop :=
  p.layout.Allocatable v ∧ (p.kind.purpose ≠ .subnet →
    ∀ job ∈ r.jobs.values, ∀ text ∈ job.addressTexts, ¬Codec.Spells text p.family v)

/-- The vacant addresses are those that a search does not pass by. -/
theorem vacant_iff (hp : p.Regular) :
    p.Vacant r v ↔ p.layout.Allocatable v ∧ p.taken r v = false := by
  refine and_congr_right fun hv => ?_
  simp only [taken, Codec.render, Bool.and_eq_false_iff, Option.isSome_eq_false_iff,
    Option.isNone_iff_eq_none, Registry.jobByAddress?_eq_none, PoolKind.checksJobs,
    bne_eq_false_iff_eq, Codec.spells_iff (hp.lt_size hv)]
  exact (or_iff_not_imp_left).symm

theorem not_vacant_of_taken (hp : p.Regular) (h : p.taken r v = true) : ¬p.Vacant r v := by
  rw [vacant_iff hp, h]
  exact nofun

/-- Which addresses are vacant depends on the jobs alone. -/
theorem vacant_congr (hp : p.Regular) (h : r'.jobs = r.jobs) : p.Vacant r' v ↔ p.Vacant r v := by
  rw [vacant_iff hp, vacant_iff hp, taken_congr h]

/-! ## The search -/

/-- A run of the loop that looks for an address, from where it starts to where it ends. The counter
moves on before the jobs are asked. -/
inductive Searches (p : Pool) : Registry → Except PoolError String → Registry → Prop
  /-- The stored counter cannot be read. -/
  | malformed {r : Registry} {e : PoolError} : p.next r = .error e → Searches p r (.error e) r
  /-- The counter stands outside the layout. -/
  | ends {r : Registry} {v : Nat} : p.next r = .ok v → p.layout.contains v = false →
      Searches p r (.error (.exhausted p.name)) r
  /-- No job has the address at the counter. -/
  | finds {r : Registry} {v : Nat} : p.next r = .ok v → p.layout.contains v = true →
      p.taken (r.setNext p.name (Codec.ofValue (p.layout.successor v) p.family)) v = false →
      Searches p r (.ok (Codec.render v p.family))
        (r.setNext p.name (Codec.ofValue (p.layout.successor v) p.family))
  /-- A job has the address at the counter, and the loop goes on behind it. -/
  | skips {r r' : Registry} {v : Nat} {answer : Except PoolError String} :
      p.next r = .ok v → p.layout.contains v = true →
      p.taken (r.setNext p.name (Codec.ofValue (p.layout.successor v) p.family)) v = true →
      Searches p (r.setNext p.name (Codec.ofValue (p.layout.successor v) p.family)) answer r' →
      Searches p r answer r'

/-- The loop ends: each step leaves fewer addresses ahead. -/
theorem searches_advance (hp : p.Regular) {steps : Nat} (h : p.Shows r next [])
    (hsteps : p.layout.remaining next < steps) :
    p.Searches r (p.advance steps r).1 (p.advance steps r).2 := by
  induction steps generalizing r next with
  | zero => omega
  | succ steps ih =>
    simp only [advance, h.next_eq]
    split
    · next hcontains =>
      split
      · next htaken =>
        -- only the limit is no address of the layout, and the blocks do not hold it
        have hnext : p.layout.Allocatable next := by
          refine h.next_ok.resolve_right fun hlimit => ?_
          rw [Layout.contains, Bool.and_eq_true] at hcontains
          have := hp.layout.lt_limit_of_covers hcontains.1
          omega
        have hfollows := hp.layout.follows hnext
        have hless := Layout.remaining_lt hnext.covers hfollows.lt
        exact .skips h.next_eq hcontains htaken
          (ih (h.setNext hp (Nat.le_of_lt hfollows.lt) hfollows.cases) (by omega))
      · next hfree => exact .finds h.next_eq hcontains (by simpa using hfree)
    · next hout => exact .ends h.next_eq (by simpa using hout)

/-- Where nothing is free, a pool that hands out searches. -/
theorem allocate_of_nil (h : (r.pool p.name).free = []) :
    p.allocate r = p.advance (p.layout.size + 1) r := by
  simp [allocate, Registry.popFree, h]

/-- The number that came back last goes out, and nothing else changes. -/
theorem allocate_of_append {front : List (List UInt8)} {bytes : List UInt8}
    (h : (r.pool p.name).free = front ++ [bytes]) :
    p.allocate r = ((Codec.stringify bytes).mapError .malformed,
      r.setPool p.name { r.pool p.name with free := front }) := by
  simp [allocate, Registry.popFree, h]

/-! ## One call -/

/-- What handing out gives in a registry in which the counter stands at `next`, and how it leaves
the registry. -/
structure HandsOut (p : Pool) (r : Registry) (next : Nat) : Prop where
  counter : p.next r = .ok next
  /-- The search comes to an end. -/
  ends : (r.pool p.name).free = [] → p.Searches r (p.allocate r).1 (p.allocate r).2
  /-- The last free address goes out. The counter and everything else stay. -/
  reused : ∀ front bytes, (r.pool p.name).free = front ++ [bytes] →
    ∃ address, Codec.stringify bytes = .ok address ∧ p.allocate r =
      (.ok address, r.setPool p.name { r.pool p.name with free := front })
  /-- What comes back goes out next. -/
  latest : ∀ text, (p.release text r).1 = .ok () →
    (p.allocate (p.release text r).2).1 = .ok (canonicalAddress text)
  /-- Where nothing is free, the least vacant address from the counter on goes out, and the counter
  moves to the address that follows, or to the limit. -/
  counted : (r.pool p.name).free = [] → ∀ v, p.Vacant r v → next ≤ v →
    (∀ w, p.Vacant r w → next ≤ w → v ≤ w) →
    (p.allocate r).1 = .ok (Codec.render v p.family) ∧
      ∃ s, p.layout.Follows v s ∧ p.next (p.allocate r).2 = .ok s
  /-- The pool is exhausted exactly if nothing is free and nothing vacant lies ahead. -/
  exhausted : (p.allocate r).1 = .error (.exhausted p.name) ↔
    (r.pool p.name).free = [] ∧ ∀ v, p.Vacant r v → v < next
  /-- Nothing else goes wrong, and then the counter rests on the limit. -/
  spent : ∀ e, (p.allocate r).1 = .error e →
    e = .exhausted p.name ∧ p.next (p.allocate r).2 = .ok p.layout.limit
  /-- Nothing but the state of the pool changes. -/
  rest : Registry.SameBut p.name r (p.allocate r).2

/-- A stored state that shows a counter and free numbers determines what is handed out. -/
theorem Shows.handsOut (hp : p.Regular) (h : p.Shows r next free) : p.HandsOut r next := by
  have hcases := allocate_cases hp h
  have hnil : (r.pool p.name).free = [] → free = [] := by
    intro hr
    rw [h.free_eq] at hr
    exact List.map_eq_nil_iff.1 hr
  constructor
  case counter => exact h.next_eq
  case ends =>
    intro hr
    obtain rfl := hnil hr
    rw [allocate_of_nil hr]
    exact searches_advance hp h (Nat.lt_succ_of_le (p.layout.remaining_le_size next))
  case reused =>
    intro front bytes hr
    obtain ⟨v, hv, rfl⟩ : ∃ v ∈ free, Codec.ofValue v p.family = bytes := by
      rw [← List.mem_map, ← h.free_eq, hr]
      simp
    rw [allocate_of_append hr, Codec.stringify_ofValue]
    exact ⟨_, rfl, rfl⟩
  case latest =>
    intro text hok
    have hback := release_cases hp h text
    generalize p.release text r = out at hback hok
    obtain ⟨answer, r'⟩ := out
    cases hback with
    | @taken v _ hspell hv hlt hfree hafter =>
      have hlast : (r'.pool p.name).free =
          free.map (Codec.ofValue · p.family) ++ [Codec.ofValue v p.family] := by
        simp [hafter.free_eq]
      rw [allocate_of_append hlast, Codec.stringify_ofValue,
        canonicalAddress_of_some ((Codec.spells_iff hspell.lt_size).1 hspell)]
      rfl
    | refused => cases hok
  case counted =>
    intro hr v hv hle hleast
    obtain rfl := hnil hr
    generalize p.allocate r = out at hcases
    obtain ⟨answer, r'⟩ := out
    cases hcases with
    | reused hfree => simp at hfree
    | @counted w _ _ hw hnext hfresh hskipped hafter =>
      have hvw : v ≤ w := hleast w ((vacant_iff hp).2 ⟨hw, hfresh⟩) hnext
      obtain rfl : v = w := by
        refine Nat.le_antisymm hvw (Nat.not_lt.1 fun hlt => ?_)
        exact not_vacant_of_taken hp (hskipped v hv.1 hle hlt) hv
      exact ⟨rfl, _, hp.layout.follows hw, hafter.next_eq⟩
    | exhausted _ hskipped =>
      exact absurd hv (not_vacant_of_taken hp (hskipped v hv.1 hle))
  case exhausted =>
    generalize p.allocate r = out at hcases
    obtain ⟨answer, r'⟩ := out
    cases hcases with
    | reused hfree =>
      refine ⟨nofun, fun hr => ?_⟩
      simp [hnil hr.1] at hfree
    | counted hfree hw hnext hfresh =>
      refine ⟨nofun, fun hr => ?_⟩
      have := hr.2 _ ((vacant_iff hp).2 ⟨hw, hfresh⟩)
      omega
    | exhausted hfree hskipped =>
      refine ⟨fun _ => ⟨by simp [h.free_eq, hfree], fun v hv => ?_⟩, fun _ => rfl⟩
      refine Nat.not_le.1 fun hle => ?_
      exact absurd hv (not_vacant_of_taken hp (hskipped v hv.1 hle))
  case spent =>
    intro e he
    generalize p.allocate r = out at hcases he
    obtain ⟨answer, r'⟩ := out
    cases hcases with
    | reused => cases he
    | counted => cases he
    | exhausted _ _ hafter => exact ⟨(Except.error.inj he).symm, hafter.next_eq⟩
  case rest => exact p.allocate_sameBut r

/-! ## All addresses -/

/-- An unused pool hands out all addresses of its layout, each once and in increasing order, and is
exhausted after that. -/
def HandsOutAll (p : Pool) (r : Registry) : Prop :=
  ∃ vs : List Nat, vs.Pairwise (· < ·) ∧ (∀ v, v ∈ vs ↔ p.layout.Allocatable v) ∧
    (∀ n ≤ vs.length,
      (p.allocateMany n r).1 = .ok ((vs.take n).map (Codec.render · p.family))) ∧
    ∀ n > vs.length, (p.allocateMany n r).1 = .error (.exhausted p.name)

/-- What a pool hands out first stands before what it hands out then. -/
theorem allocateMany_of_ok {address : String} (h : p.allocate r = (.ok address, r')) (n : Nat) :
    (p.allocateMany (n + 1) r).1 = (p.allocateMany n r').1.map (address :: ·) := by
  rw [allocateMany, Action.bind_of_ok h]
  rcases hrest : p.allocateMany n r' with ⟨e | rest, r''⟩
  · rw [Action.bind_of_error hrest]
    rfl
  · rw [Action.bind_of_ok hrest]
    rfl

/-- The first failure ends it. -/
theorem allocateMany_of_error {e : PoolError} (h : p.allocate r = (.error e, r')) (n : Nat) :
    (p.allocateMany (n + 1) r).1 = .error e := by
  rw [allocateMany, Action.bind_of_error h]

/-- Where nothing is free, a pool hands out the vacant addresses from the counter on, each once and
in increasing order. -/
theorem Shows.allocateMany (hp : p.Regular) (h : p.Shows r next []) :
    ∃ vs : List Nat, vs.Pairwise (· < ·) ∧ (∀ v, v ∈ vs ↔ p.Vacant r v ∧ next ≤ v) ∧
      (∀ n ≤ vs.length,
        (p.allocateMany n r).1 = .ok ((vs.take n).map (Codec.render · p.family))) ∧
      ∀ n > vs.length, (p.allocateMany n r).1 = .error (.exhausted p.name) := by
  -- by induction on the distance of the counter from the limit
  generalize hdist : p.layout.limit - next = distance
  induction distance using Nat.strongRecOn generalizing r next with
  | ind distance ih =>
    have hcases := allocate_cases hp h
    have hjobs := (p.allocate_sameBut r).jobs
    rcases hout : p.allocate r with ⟨answer, r'⟩
    rw [hout] at hcases hjobs
    cases hcases with
    | reused hfree => simp at hfree
    | @counted v _ _ hv hnext hfresh hskipped hafter =>
      have hfollows := hp.layout.follows hv
      have hlt := hfollows.lt
      have hle := hafter.next_le hp
      obtain ⟨vs, hsorted, hmem, hok, herror⟩ := ih _ (by omega) hafter rfl
      have hvacant : p.Vacant r v := (vacant_iff hp).2 ⟨hv, hfresh⟩
      refine ⟨v :: vs, ?_, fun w => ?_, fun n hn => ?_, fun n hn => ?_⟩
      · refine List.pairwise_cons.2 ⟨fun w hw => ?_, hsorted⟩
        have := ((hmem w).1 hw).2
        omega
      · rw [List.mem_cons, hmem, vacant_congr hp hjobs]
        constructor
        · rintro (rfl | ⟨hw, hle⟩)
          · exact ⟨hvacant, hnext⟩
          · exact ⟨hw, by omega⟩
        · rintro ⟨hw, hnw⟩
          -- a vacant number before the one that goes out was not passed by
          rcases Nat.lt_trichotomy w v with hwv | rfl | hvw
          · exact absurd hw (not_vacant_of_taken hp (hskipped w hw.1 hnw hwv))
          · exact .inl rfl
          · exact .inr ⟨hw, hfollows.le w hw.1 hvw⟩
      · cases n with
        | zero => rfl
        | succ n =>
          rw [allocateMany_of_ok hout, hok n (Nat.le_of_succ_le_succ hn)]
          rfl
      · cases n with
        | zero => cases hn
        | succ n =>
          rw [allocateMany_of_ok hout, herror n (Nat.lt_of_succ_lt_succ hn)]
          rfl
    | exhausted _ hskipped =>
      refine ⟨[], .nil, fun w => ⟨nofun, fun ⟨hw, hle⟩ => ?_⟩, fun n hn => ?_, fun n hn => ?_⟩
      · exact absurd hw (not_vacant_of_taken hp (hskipped w hw.1 hle))
      · obtain rfl : n = 0 := Nat.le_zero.1 hn
        rfl
      · cases n with
        | zero => cases hn
        | succ n => exact allocateMany_of_error hout n

/-- **Order.** After every run of a pool that was unused, whatever the jobs of the registry became,
handing out ends and gives what it should; and the unused pool hands out its whole layout if the
registry has no jobs. -/
theorem hands_out_in_order (hp : p.Regular) (hunused : r.pool p.name = .unused)
    (calls : List PoolCall) :
    (∃ next, p.HandsOut (p.serveAll r calls).2 next) ∧ (r.jobs = ∅ → p.HandsOutAll r) := by
  constructor
  · obtain ⟨next, free, hline⟩ := inLine_serveAll hp hunused calls
    exact ⟨next, hline.shows.handsOut hp⟩
  · intro hjobs
    obtain ⟨vs, hsorted, hmem, hok, herror⟩ := (shows_unused hp hunused).allocateMany hp
    refine ⟨vs, hsorted, fun v => ?_, hok, herror⟩
    rw [hmem]
    refine ⟨fun h => h.1.1, fun hv => ⟨⟨hv, fun _ job hjob => ?_⟩, hp.layout.start_spec.2 v hv⟩⟩
    rw [hjobs] at hjob
    cases hjob

/-- The pool of round-robin addresses over an empty registry, after one address went out and came
back. -/
theorem hands_out_in_order_roundRobin :
    ((roundRobin .v4).Regular ∧ (∅ : Registry).pool (roundRobin .v4).name = .unused) ∧
      (∃ next, (roundRobin .v4).HandsOut
        ((roundRobin .v4).serveAll ∅ [.release "10.30.0.0", .allocate]).2 next) ∧
      (roundRobin .v4).HandsOutAll ∅ := by
  obtain ⟨hone, hall⟩ := hands_out_in_order (ofKind_regular ⟨.roundRobin, .v4⟩)
    (rfl : (∅ : Registry).pool (roundRobin .v4).name = .unused) [.release "10.30.0.0", .allocate]
  exact ⟨⟨ofKind_regular _, rfl⟩, hone, hall rfl⟩

end Pool

end Overlay
