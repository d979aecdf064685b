import Overlay.Pool.Basic

/-!
# The order in which a layout is handed out

A layout is `Regular` if its blocks are filled and lie one behind the other, and if its stepping
moves. In a regular layout the addresses that a pool may hand out (`Allocatable`) have a first one
(`Regular.start_spec`), and what follows on each is the next larger one, or the limit behind the last
one (`Follows`, `Regular.follows`). Every step takes numbers off those ahead (`remaining_lt`), so the
counter of a pool comes to its end. The layouts of the six pools are regular
(`PoolKind.layout_regular`), and their limits are addresses of their families
(`PoolKind.layout_limit_lt`).
-/

namespace Overlay

theorem Block.contains_iff {b : Block} {v : Nat} :
    b.contains v = true ↔ b.start ≤ v ∧ v < b.stop := by
  simp [Block.contains]

namespace Layout

variable {l : Layout} {v w : Nat}

/-- The addresses that a pool with the layout hands out. -/
def Allocatable (l : Layout) (v : Nat) : Prop :=
  l.contains v = true ∧ l.aligned v = true

instance (l : Layout) (v : Nat) : Decidable (l.Allocatable v) :=
  inferInstanceAs (Decidable (_ ∧ _))

/-- A layout whose blocks are filled and lie one behind the other, with a stride that moves, or
octets that count inside one network of 65536 addresses. -/
structure Regular (l : Layout) : Prop where
  nonempty : l.blocks ≠ []
  filled : ∀ b ∈ l.blocks, b.start < b.stop
  increasing : l.blocks.Pairwise fun a b => a.stop ≤ b.start
  moves : match l.stepping with
    | .stride n => 0 < n
    | .octetWrap m =>
      0 < m.toNat ∧ ∃ net, l.blocks = [⟨net * 65536, net * 65536 + 65536⟩]

/-! ## Blocks -/

/-- A covered number has a first block that holds it, and the search stops there. -/
theorem exists_block (h : l.covers v = true) :
    ∃ before b after, l.blocks = before ++ b :: after ∧ l.blocksFrom v = b :: after ∧
      b.start ≤ v ∧ v < b.stop := by
  rw [covers] at h
  rw [blocksFrom]
  generalize l.blocks = blocks at h
  induction blocks with
  | nil => cases h
  | cons c rest ih =>
    by_cases hc : c.contains v = true
    · exact ⟨[], c, rest, rfl, by simp [hc], Block.contains_iff.1 hc⟩
    · rw [List.any_cons, Bool.or_eq_true] at h
      obtain ⟨before, b, after, heq, hfrom, hb⟩ := ih (h.resolve_left hc)
      exact ⟨c :: before, b, after, by rw [heq]; rfl, by simpa [hc] using hfrom, hb⟩

/-- The search for a block stops at the one that holds the number. -/
theorem Regular.blocksFrom_eq (h : l.Regular) {before after : List Block} {b : Block}
    (hl : l.blocks = before ++ b :: after) (hs : b.start ≤ v) (he : v < b.stop) :
    l.blocksFrom v = b :: after := by
  have hbefore : ∀ c ∈ before, (!c.contains v) = true := by
    intro c hc
    have hcb : c.stop ≤ b.start := by
      have hinc := h.increasing
      rw [hl, List.pairwise_append] at hinc
      exact hinc.2.2 c hc b List.mem_cons_self
    have hout : ¬(c.start ≤ v ∧ v < c.stop) := by omega
    simpa [← Block.contains_iff] using hout
  have hb : b.contains v = true := Block.contains_iff.2 ⟨hs, he⟩
  rw [blocksFrom, hl, List.dropWhile_append_of_pos hbefore]
  simp [hb]

/-- The last block of a layout ends at its limit. -/
theorem limit_of_append {before : List Block} {b : Block} (hl : l.blocks = before ++ [b]) :
    l.limit = b.stop := by
  simp [limit, hl]

/-- A block that is not the last one ends where the next one starts, or before. -/
theorem Regular.stop_le (h : l.Regular) {before after : List Block} {b c : Block}
    (hl : l.blocks = before ++ b :: after) (hc : c ∈ after) : b.stop ≤ c.start := by
  have hinc := h.increasing
  rw [hl, List.pairwise_append, List.pairwise_cons] at hinc
  exact hinc.2.1.1 c hc

/-- A block ends at the limit of the layout or before. -/
theorem Regular.stop_le_limit (h : l.Regular) {b : Block} (hb : b ∈ l.blocks) :
    b.stop ≤ l.limit := by
  obtain ⟨front, last, hl⟩ : ∃ front last, l.blocks = front ++ [last] :=
    ⟨_, _, (List.dropLast_concat_getLast h.nonempty).symm⟩
  rw [limit_of_append hl]
  rw [hl, List.mem_append, List.mem_singleton] at hb
  rcases hb with hb | rfl
  · have hinc := h.increasing
    rw [hl, List.pairwise_append] at hinc
    have hstop := hinc.2.2 b hb last List.mem_cons_self
    have hlast := h.filled last (by simp [hl])
    omega
  · exact Nat.le_refl _

/-- A covered number lies below the limit. -/
theorem Regular.lt_limit_of_covers (h : l.Regular) (hv : l.covers v = true) : v < l.limit := by
  obtain ⟨before, b, after, hl, -, -, hlt⟩ := exists_block hv
  exact Nat.lt_of_lt_of_le hlt (h.stop_le_limit (by simp [hl]))

theorem Allocatable.covers (hv : l.Allocatable v) : l.covers v = true := by
  have := hv.1
  rw [contains, Bool.and_eq_true] at this
  exact this.1

theorem Regular.lt_limit (h : l.Regular) (hv : l.Allocatable v) : v < l.limit :=
  h.lt_limit_of_covers hv.covers

/-- Between the block of a number and the block of a larger number there is none that ends
earlier. -/
theorem Regular.mem_tail (h : l.Regular) {before after : List Block} {b : Block}
    (hl : l.blocks = before ++ b :: after) (hs : b.start ≤ v) (hvw : v < w)
    (hw : l.covers w = true) :
    (l.blocksFrom w = b :: after ∧ w < b.stop) ∨ ∃ c ∈ after, c.start ≤ w := by
  obtain ⟨before', c, after', hl', hfrom, hcs, hce⟩ := exists_block hw
  have hc : c ∈ before ++ b :: after := hl ▸ hl' ▸ by simp
  rcases List.mem_append.1 hc with hc | hc
  · have hinc := h.increasing
    rw [hl, List.pairwise_append] at hinc
    have := hinc.2.2 c hc b List.mem_cons_self
    omega
  · rcases List.mem_cons.1 hc with rfl | hc
    · exact .inl ⟨h.blocksFrom_eq hl hcs hce, hce⟩
    · exact .inr ⟨c, hc, hcs⟩

/-! ## Successors -/

/-- What a successor has to be: the next allocatable number, or the limit if there is none. -/
structure Follows (l : Layout) (v s : Nat) : Prop where
  lt : v < s
  cases : l.Allocatable s ∨ s = l.limit
  le : ∀ w, l.Allocatable w → v < w → s ≤ w

/-- With a stride, the successor stays in the block or goes to the start of the next one. -/
theorem Regular.follows_of_stride (h : l.Regular) {n : Nat} (hn : l.stepping = .stride n)
    (hv : l.Allocatable v) : l.Follows v (l.successor v) := by
  have hpos : 0 < n := by simpa [hn] using h.moves
  have hlim := h.lt_limit hv
  obtain ⟨before, b, after, hl, hfrom, hs, he⟩ := exists_block hv.covers
  have halign : (v - b.start) % n = 0 := by
    have := hv.2
    rw [aligned, hfrom, hn] at this
    simpa using this
  -- an aligned number of the same block that is larger is at least one stride larger
  have hstep : ∀ w, l.Allocatable w → l.blocksFrom w = b :: after → v < w → v + n ≤ w := by
    intro w hw hwb hvw
    have hwalign := hw.2
    rw [aligned, hwb, hn] at hwalign
    obtain ⟨j, hj⟩ := Nat.dvd_of_mod_eq_zero halign
    obtain ⟨k, hk⟩ := Nat.dvd_of_mod_eq_zero (beq_iff_eq.1 hwalign)
    have hjk : j < k := by
      refine Nat.lt_of_mul_lt_mul_left (a := n) ?_
      omega
    have := Nat.mul_le_mul_left n (Nat.succ_le_of_lt hjk)
    rw [Nat.mul_succ] at this
    omega
  have hcontains : ∀ w, l.covers w = true → l.contains w = true := by
    intro w hw
    simp [contains, hw, hn]
  rw [successor, hfrom, hn]
  simp only
  split
  · next hin =>
    have hfrom' := h.blocksFrom_eq hl (by omega : b.start ≤ v + n) hin
    have hcov : l.covers (v + n) = true := by
      rw [covers, hl, List.any_eq_true]
      exact ⟨b, by simp, Block.contains_iff.2 ⟨by omega, hin⟩⟩
    refine ⟨by omega, .inl ⟨hcontains _ hcov, ?_⟩, fun w hw hvw => ?_⟩
    · rw [aligned, hfrom', hn]
      simp [Nat.sub_add_comm hs, halign]
    · rcases h.mem_tail hl hs hvw hw.covers with ⟨hwb, -⟩ | ⟨c, hc, hcw⟩
      · exact hstep w hw hwb hvw
      · have := h.stop_le hl hc
        omega
  · next hout =>
    cases after with
    | nil =>
      refine ⟨hlim, .inr rfl, fun w hw hvw => ?_⟩
      rcases h.mem_tail hl hs hvw hw.covers with ⟨hwb, hwe⟩ | ⟨c, hc, -⟩
      · have := hstep w hw hwb hvw
        omega
      · cases hc
    | cons c rest =>
      have hbc : b.stop ≤ c.start := h.stop_le hl List.mem_cons_self
      have hfilled : c.start < c.stop := h.filled c (by simp [hl])
      have hl' : l.blocks = (before ++ [b]) ++ c :: rest := by simp [hl]
      have hcov : l.covers c.start = true := by
        rw [covers, hl, List.any_eq_true]
        exact ⟨c, by simp, Block.contains_iff.2 ⟨Nat.le_refl _, hfilled⟩⟩
      refine ⟨by simp; omega, .inl ⟨hcontains _ hcov, ?_⟩, fun w hw hvw => ?_⟩
      · have hfrom' := h.blocksFrom_eq hl' (Nat.le_refl c.start) hfilled
        simp [aligned, hfrom', hn]
      · rcases h.mem_tail hl hs hvw hw.covers with ⟨hwb, hwe⟩ | ⟨d, hd, hdw⟩
        · have := hstep w hw hwb hvw
          omega
        · rcases List.mem_cons.1 hd with rfl | hd
          · simpa using hdw
          · have hcd := h.stop_le hl' hd
            simp
            omega

/-- What is allocatable where octets are counted: both octets stay below the modulus. -/
theorem allocatable_of_octets {m : UInt8} {net : Nat} (hm : l.stepping = .octetWrap m)
    (hl : l.blocks = [⟨net * 65536, net * 65536 + 65536⟩]) :
    l.Allocatable w ↔ w / 65536 = net ∧ w % 256 < m.toNat ∧ w / 256 % 256 < m.toNat := by
  by_cases hin : net * 65536 ≤ w ∧ w < net * 65536 + 65536
  · have hb : (⟨net * 65536, net * 65536 + 65536⟩ : Block).contains w = true :=
      Block.contains_iff.2 hin
    have hnet : w / 65536 = net := by omega
    simp [Allocatable, contains, covers, aligned, blocksFrom, hl, hm, hb, hnet]
  · have hb : (⟨net * 65536, net * 65536 + 65536⟩ : Block).contains w = false := by
      rw [Bool.eq_false_iff, ne_eq, Block.contains_iff]
      exact hin
    have hnet : w / 65536 ≠ net := by omega
    simp [Allocatable, contains, covers, hl, hb, hnet]

/-- What is covered where there is one block. -/
theorem covers_of_single {b : Block} (hl : l.blocks = [b]) :
    l.covers w = true ↔ b.start ≤ w ∧ w < b.stop := by
  simp [covers, hl, Block.contains_iff]

/-- What is allocatable where there is one block with a stride. -/
theorem allocatable_of_stride {b : Block} {n : Nat} (hn : l.stepping = .stride n)
    (hl : l.blocks = [b]) :
    l.Allocatable w ↔ b.start ≤ w ∧ w < b.stop ∧ (w - b.start) % n = 0 := by
  by_cases hin : b.contains w = true
  · have hbounds := Block.contains_iff.1 hin
    simp [Allocatable, contains, covers, aligned, blocksFrom, hl, hn, hin, hbounds]
  · have hbounds := hin
    rw [Block.contains_iff] at hbounds
    simp only [Allocatable, contains, covers, hl, hin, List.any_cons, List.any_nil, Bool.or_false,
      Bool.false_and, Bool.false_eq_true, false_and, false_iff]
    omega

/-- Where octets are counted, the successor is the next number or starts the next third octet. -/
theorem Regular.follows_of_octets (h : l.Regular) {m : UInt8} (hm : l.stepping = .octetWrap m)
    (hv : l.Allocatable v) : l.Follows v (l.successor v) := by
  have hmoves := h.moves
  rw [hm] at hmoves
  obtain ⟨hpos, net, hl⟩ := hmoves
  have hlim := h.lt_limit hv
  have hlt : m.toNat < 256 := m.toNat_lt
  have hlimit : l.limit = net * 65536 + 65536 := @limit_of_append l [] _ hl
  have hfrom : l.blocksFrom v ≠ [] := by
    obtain ⟨_, b, after, -, hfrom, -⟩ := exists_block hv.covers
    simp [hfrom]
  simp only [allocatable_of_octets hm hl] at hv
  obtain ⟨hnet, hfour, hthree⟩ := hv
  have hfour' : (v + 1) % 256 = v % 256 + 1 := by omega
  rw [successor, hm]
  split
  · next hnil => exact absurd hnil hfrom
  · next heq =>
    obtain rfl : m = _ := Stepping.octetWrap.inj heq
    simp only [hfour']
    by_cases hfits : v % 256 + 1 < m.toNat
    · rw [if_pos (by rw [Nat.mod_eq_of_lt hfits]; omega)]
      refine ⟨by omega, .inl ?_, fun w hw hvw => ?_⟩
      · rw [allocatable_of_octets hm hl]
        omega
      · rw [allocatable_of_octets hm hl] at hw
        omega
    · have hfull : v % 256 + 1 = m.toNat := by omega
      rw [if_neg (by rw [hfull, Nat.mod_self]; simp)]
      by_cases hcarry : v / 256 % 256 + 1 < m.toNat
      · rw [Nat.mod_eq_of_lt hcarry, if_neg (by omega)]
        refine ⟨by omega, .inl ?_, fun w hw hvw => ?_⟩
        · rw [allocatable_of_octets hm hl]
          omega
        · rw [allocatable_of_octets hm hl] at hw
          omega
      · have hlast : v / 256 % 256 + 1 = m.toNat := by omega
        rw [hlast, Nat.mod_self, if_pos rfl]
        refine ⟨hlim, .inr rfl, fun w hw hvw => ?_⟩
        rw [allocatable_of_octets hm hl] at hw
        omega
  · next heq => cases heq

/-- **Successors.** The successor of an allocatable number is the next one, or the limit. -/
theorem Regular.follows (h : l.Regular) (hv : l.Allocatable v) : l.Follows v (l.successor v) := by
  cases hs : l.stepping with
  | octetWrap m => exact h.follows_of_octets hs hv
  | stride n => exact h.follows_of_stride hs hv

/-- The first number of a layout is allocatable, and no other one is smaller. -/
theorem Regular.start_spec (h : l.Regular) :
    l.Allocatable l.start ∧ ∀ w, l.Allocatable w → l.start ≤ w := by
  obtain ⟨b, rest, hl⟩ := List.exists_cons_of_ne_nil h.nonempty
  have hfilled : b.start < b.stop := h.filled b (by simp [hl])
  have hstart : l.start = b.start := by simp [start, hl]
  have hfirst : l.blocks = [] ++ b :: rest := hl
  have hfrom : l.blocksFrom b.start = b :: rest :=
    h.blocksFrom_eq hfirst (Nat.le_refl _) hfilled
  have hcov : l.covers b.start = true := by
    rw [covers, hl, List.any_eq_true]
    exact ⟨b, by simp, Block.contains_iff.2 ⟨Nat.le_refl _, hfilled⟩⟩
  rw [hstart]
  refine ⟨?_, fun w hw => ?_⟩
  · cases hs : l.stepping with
    | stride n => simp [Allocatable, contains, aligned, hcov, hs, hfrom]
    | octetWrap m =>
      have hmoves := h.moves
      rw [hs] at hmoves
      obtain ⟨hpos, net, hl'⟩ := hmoves
      obtain rfl : b = ⟨net * 65536, net * 65536 + 65536⟩ := by
        rw [hl] at hl'
        exact (List.cons.inj hl').1
      rw [allocatable_of_octets hs hl']
      simp only
      omega
  · obtain ⟨before, c, after, hl', -, hcs, -⟩ := exists_block hw.covers
    have hc : c ∈ b :: rest := by rw [← hl, hl']; simp
    rcases List.mem_cons.1 hc with rfl | hc
    · exact hcs
    · have := h.stop_le hfirst hc
      omega

/-! ## How many numbers are ahead -/

/-- The number of covered numbers that are not below a number. -/
def remaining (l : Layout) (v : Nat) : Nat :=
  l.blocks.foldr (fun b rest => b.stop - max b.start v + rest) 0

/-- No more numbers are ahead than the layout has. -/
theorem remaining_le_size (l : Layout) (v : Nat) : l.remaining v ≤ l.size := by
  rw [remaining, size]
  induction l.blocks with
  | nil => exact Nat.le_refl _
  | cons b rest ih =>
    simp only [List.foldr_cons]
    omega

/-- Going on from a covered number leaves fewer numbers ahead. -/
theorem remaining_lt (hv : l.covers v = true) (hvw : v < w) : l.remaining w < l.remaining v := by
  have hle : ∀ blocks : List Block,
      blocks.foldr (fun b rest => b.stop - max b.start w + rest) 0 ≤
        blocks.foldr (fun b rest => b.stop - max b.start v + rest) 0 := by
    intro blocks
    induction blocks with
    | nil => exact Nat.le_refl _
    | cons b rest ih =>
      simp only [List.foldr_cons]
      omega
  rw [covers] at hv
  rw [remaining, remaining]
  generalize l.blocks = blocks at hv
  induction blocks with
  | nil => cases hv
  | cons b rest ih =>
    simp only [List.foldr_cons]
    rw [List.any_cons, Bool.or_eq_true, Block.contains_iff] at hv
    rcases hv with ⟨hs, he⟩ | hv
    · have := hle rest
      omega
    · have := ih hv
      omega

end Layout

/-! ## The pools of a tier -/

/-- The layouts of the six pools are regular. -/
theorem PoolKind.layout_regular (k : PoolKind) : k.layout.Regular := by
  obtain ⟨purpose, family⟩ := k
  cases purpose <;> cases family
  case oneInstance.v4 => exact ⟨by decide, by decide, by decide, by decide, 0xAC1E, by decide⟩
  case roundRobin.v4 => exact ⟨by decide, by decide, by decide, by decide, 0x0A1E, by decide⟩
  all_goals exact ⟨by decide, by decide, by decide, Nat.succ_pos _⟩

/-- The limits of the six pools fit their families. -/
theorem PoolKind.layout_limit_lt (k : PoolKind) : k.layout.limit < k.family.size := by
  obtain ⟨purpose, family⟩ := k
  cases purpose <;> cases family <;> decide

end Overlay
