import Overlay.Proofs.Pool.Basic

/-!
# What a pool has out

Which of its addresses has a pool handed out and not taken back? `Pool.Ledger p r texts` says that a
list of texts is the answer: the numbers of the texts together with the free numbers are exactly the
numbers of the layout below the counter, each once. Whoever keeps such a list can rely on two things:

* `Pool.Ledger.allocate`: an address that is handed out joins the list, and no number is skipped;
* `Pool.Ledger.release`: what is in the list is always taken back, and leaves it.
-/

namespace Overlay

/-! ## Numbers below a counter -/

/-- The numbers of a layout below a counter, each of them once. -/
def Layout.AllBelow (l : Layout) (next : Nat) (nums : List Nat) : Prop :=
  nums.Nodup ∧ ∀ v, v ∈ nums ↔ l.Allocatable v ∧ v < next

namespace Layout.AllBelow

variable {l : Layout} {next : Nat} {nums nums' : List Nat}

theorem perm (h : l.AllBelow next nums) (hp : nums'.Perm nums) : l.AllBelow next nums' :=
  ⟨hp.nodup_iff.2 h.1, fun v => hp.mem_iff.trans (h.2 v)⟩

/-- Nothing lies below the first address. -/
theorem start (hl : l.Regular) : l.AllBelow l.start [] := by
  refine ⟨.nil, fun v => ⟨nofun, fun ⟨hv, hlt⟩ => ?_⟩⟩
  have := hl.start_spec.2 v hv
  omega

/-- The counter moves on by one address. -/
theorem successor (hl : l.Regular) (h : l.AllBelow next nums) (hnext : l.Allocatable next) :
    l.AllBelow (l.successor next) (next :: nums) := by
  have hfollows := hl.follows hnext
  refine ⟨List.nodup_cons.2 ⟨fun hm => ?_, h.1⟩, fun v => ?_⟩
  · have := ((h.2 next).1 hm).2
    omega
  · rw [List.mem_cons, h.2]
    constructor
    · rintro (rfl | ⟨hv, hlt⟩)
      · exact ⟨hnext, hfollows.lt⟩
      · exact ⟨hv, Nat.lt_trans hlt hfollows.lt⟩
    · rintro ⟨hv, hlt⟩
      rcases Nat.lt_trichotomy v next with hvn | hvn | hvn
      · exact .inr ⟨hv, hvn⟩
      · exact .inl hvn
      · have := hfollows.le v hv hvn
        omega

end Layout.AllBelow

/-! ## Ledgers -/

namespace Pool

variable {p : Pool} {r r' : Registry} {texts texts' : List String} {text : String}

/-- The free numbers of a pool and the numbers of the texts that are out are exactly the numbers
below its counter. -/
def Ledger (p : Pool) (r : Registry) (texts : List String) : Prop :=
  ∃ next free out, p.Shows r next free ∧ texts.Perm (out.map (Codec.render · p.family)) ∧
    p.layout.AllBelow next (free ++ out)

namespace Ledger

/-- An unused pool has nothing out. -/
theorem unused (hp : p.Regular) (h : r.pool p.name = .unused) : p.Ledger r [] :=
  ⟨_, _, [], shows_unused hp h, .refl _, .start hp.layout⟩

/-- The ledger depends on the pool's state, and not on the order of the texts. -/
theorem congr (h : p.Ledger r texts) (hpool : r'.pool p.name = r.pool p.name)
    (htexts : texts'.Perm texts) : p.Ledger r' texts' := by
  obtain ⟨next, free, out, hshows, hout, hall⟩ := h
  exact ⟨next, free, out, hshows.congr hpool, htexts.trans hout, hall⟩

/-- What is out is a rendered number that was handed out and is not free. -/
theorem mem (h : p.Ledger r texts) (htext : text ∈ texts) :
    ∃ next free v, p.Shows r next free ∧ text = Codec.render v p.family ∧
      p.layout.Allocatable v ∧ v < next ∧ v ∉ free := by
  obtain ⟨next, free, out, hshows, hout, hall⟩ := h
  obtain ⟨v, hv, hrender⟩ := List.mem_map.1 (hout.mem_iff.1 htext)
  obtain ⟨hok, hlt⟩ := (hall.2 v).1 (List.mem_append_right _ hv)
  refine ⟨next, free, v, hshows, hrender.symm, hok, hlt, fun hfree => ?_⟩
  exact (List.nodup_append.1 hall.1).2.2 v hfree v hv rfl

/-- No text is out twice. -/
theorem nodup (hp : p.Regular) (h : p.Ledger r texts) : texts.Nodup := by
  obtain ⟨next, free, out, -, hout, hall⟩ := h
  have hlt : ∀ v ∈ out, v < p.family.size := fun v hv =>
    hp.lt_size ((hall.2 v).1 (List.mem_append_right _ hv)).1
  refine hout.nodup_iff.2 (List.pairwise_map.2 ?_)
  refine (List.nodup_append.1 hall.1).2.1.imp_of_mem fun hv hw hne heq => hne ?_
  exact (Codec.render_inj (hlt _ hv) (hlt _ hw)).1 heq

/-- What is out is what was handed out and is not free. -/
theorem mem_render_iff (hp : p.Regular) (h : p.Ledger r texts) :
    ∃ next free, p.Shows r next free ∧ ∀ v, v < p.family.size →
      (Codec.render v p.family ∈ texts ↔ p.layout.Allocatable v ∧ v < next ∧ v ∉ free) := by
  obtain ⟨next, free, out, hshows, hout, hall⟩ := h
  refine ⟨next, free, hshows, fun v hv => ?_⟩
  have hmem : Codec.render v p.family ∈ texts ↔ v ∈ out := by
    rw [hout.mem_iff, List.mem_map]
    constructor
    · rintro ⟨w, hw, heq⟩
      have hlt := hp.lt_size ((hall.2 w).1 (List.mem_append_right _ hw)).1
      exact (Codec.render_inj hlt hv).1 heq ▸ hw
    · exact fun hv => ⟨v, hv, rfl⟩
  rw [hmem, ← and_assoc, ← hall.2, List.mem_append]
  constructor
  · exact fun hv => ⟨.inr hv, fun hfree => (List.nodup_append.1 hall.1).2.2 v hfree v hv rfl⟩
  · exact fun ⟨hv, hfree⟩ => hv.resolve_left hfree

/-- **Taking.** While nobody has a number from the counter on, an address that is handed out joins
what is out, and no number is skipped. -/
theorem allocate (hp : p.Regular) (h : p.Ledger r texts)
    (hfree : ∀ next free v, p.Shows r next free → p.layout.Allocatable v → next ≤ v →
      p.taken r v = false) :
    (∀ text, (p.allocate r).1 = .ok text → p.Ledger (p.allocate r).2 (text :: texts)) ∧
    (∀ e, (p.allocate r).1 = .error e → p.Ledger (p.allocate r).2 texts) := by
  obtain ⟨next, free, out, hshows, hout, hall⟩ := h
  have hcases := allocate_cases hp hshows
  generalize p.allocate r = result at hcases
  obtain ⟨answer, r'⟩ := result
  have hjoin : ∀ v, (Codec.render v p.family :: texts).Perm
      ((v :: out).map (Codec.render · p.family)) := by
    intro v
    rw [List.map_cons]
    exact hout.cons _
  cases hcases with
  | @reused front v _ hfront hafter =>
    subst hfront
    refine ⟨fun text htext => ?_, nofun⟩
    obtain rfl := Except.ok.inj htext
    refine ⟨next, front, v :: out, hafter, hjoin v, hall.perm ?_⟩
    rw [List.append_assoc]
    exact .refl _
  | @counted v _ hnil hv hle hfresh hskipped hafter =>
    subst hnil
    refine ⟨fun text htext => ?_, nofun⟩
    obtain rfl := Except.ok.inj htext
    -- the number at the counter is free to go, so it is the one that went out
    have hv_eq : v = next := by
      refine Decidable.byContradiction fun hne => ?_
      rcases hshows.next_ok with hnext | hlimit
      · have htaken := hskipped next hnext (Nat.le_refl _) (by omega)
        rw [hfree next [] next hshows hnext (Nat.le_refl _)] at htaken
        cases htaken
      · have := hp.layout.lt_limit hv
        omega
    subst hv_eq
    exact ⟨_, [], v :: out, hafter, hjoin v, hall.successor hp.layout hv⟩
  | @exhausted _ hnil hskipped hafter =>
    subst hnil
    refine ⟨nofun, fun e _ => ?_⟩
    have hnext : next = p.layout.limit := by
      refine hshows.next_ok.resolve_left fun hnext => ?_
      have htaken := hskipped next hnext (Nat.le_refl _)
      rw [hfree next [] next hshows hnext (Nat.le_refl _)] at htaken
      cases htaken
    exact ⟨_, [], out, hafter, hout, hnext ▸ hall⟩

/-- **Giving back.** What is out is taken back, and then it is free. -/
theorem release (hp : p.Regular) (h : p.Ledger r (text :: texts)) :
    (p.release text r).1 = .ok () ∧ p.Ledger (p.release text r).2 texts := by
  obtain ⟨next, free, out, hshows, hout, hall⟩ := h
  obtain ⟨v, hv, rfl⟩ := List.mem_map.1 (hout.mem_iff.1 List.mem_cons_self)
  obtain ⟨before, after, rfl⟩ := List.append_of_mem hv
  obtain ⟨hok, hlt⟩ := (hall.2 v).1 (List.mem_append_right _ hv)
  have hnot : v ∉ free := fun hfree =>
    (List.nodup_append.1 hall.1).2.2 v hfree v hv rfl
  obtain ⟨hresult, hafter⟩ := release_of_spells hp hshows
    (Codec.spells_render (hp.lt_size hok)) hok hlt hnot
  refine ⟨hresult, next, free ++ [v], before ++ after, hafter, ?_, hall.perm ?_⟩
  · rw [List.map_append, List.map_cons] at hout
    rw [List.map_append]
    exact (hout.trans List.perm_middle).cons_inv
  · rw [List.append_assoc, List.singleton_append]
    exact List.perm_middle.symm.append_left free

end Ledger

end Pool

end Overlay
