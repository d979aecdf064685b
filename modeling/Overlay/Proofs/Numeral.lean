import Mathlib.Algebra.Group.Nat.Defs
import Overlay.Numeral

/-!
# Digits read back

`read?_digits`: the digits of a number, in a base from two to sixteen, read back as the number.
The texts of addresses need three more facts about digits: which characters they are
(`mem_digits`), that they do not start with a zero (`head?_digits`), and how many there are
(`length_digits_le`).
-/

namespace Overlay.Numeral

/-- A digit has its own value. -/
theorem digitValue_digitChar {d : Nat} (h : d < 16) : digitValue d.digitChar = some d := by
  have key : ∀ d < 16, digitValue d.digitChar = some d := by decide
  exact key d h

/-- Reading a digit appends it to the number read so far. -/
theorem readStep_digitChar {base d : Nat} (hb : base ≤ 16) (hd : d < base) (acc : Nat) :
    readStep base acc d.digitChar = some (acc * base + d) := by
  rw [readStep, digitValue_digitChar (by omega)]
  simp only [hd, if_true]

/-- A number of one digit. -/
theorem digits_of_lt {base n : Nat} (h : n < base) : digits base n = [n.digitChar] :=
  Nat.toDigits_of_lt_base h

/-- A number of more digits: the last one stands after those of the rest. -/
theorem digits_of_le {base n : Nat} (hb : 1 < base) (h : base ≤ n) :
    digits base n = digits base (n / base) ++ [(n % base).digitChar] :=
  Nat.toDigits_of_base_le hb h

/-- A number has digits. -/
theorem digits_ne_nil (base n : Nat) : digits base n ≠ [] :=
  Nat.toDigits_ne_nil

/-- Digits read after other digits go on with the number, one place for each. -/
theorem foldlM_digits {base : Nat} (hb : 1 < base) (hb' : base ≤ 16) (n : Nat) :
    (digits base n).foldlM (readStep base) 0 = some n := by
  -- the induction takes the last digit off, so the number read so far is always `n / base`
  induction n using Nat.strongRecOn with
  | _ n ih =>
    by_cases h : n < base
    · simp [digits_of_lt h, readStep_digitChar hb' h]
    · have hlt : n / base < n := Nat.div_lt_self (by omega) hb
      have hstep := readStep_digitChar hb' (Nat.mod_lt n (by omega : 0 < base)) (n / base)
      rw [digits_of_le hb (by omega), List.foldlM_append, ih _ hlt]
      simp [hstep, Nat.div_add_mod' n base]

/-- The digits of a number read back as the number. -/
theorem read?_digits {base : Nat} (hb : 1 < base) (hb' : base ≤ 16) (n : Nat) :
    read? base (digits base n) = some n := by
  rw [read?, if_neg (by simpa using digits_ne_nil base n), foldlM_digits hb hb']

/-- Every character of a number is a digit. -/
theorem mem_digits {base n : Nat} {c : Char} (hb : 1 < base) (h : c ∈ digits base n) :
    ∃ d < base, c = d.digitChar := by
  induction n using Nat.strongRecOn with
  | _ n ih =>
    by_cases hn : n < base
    · rw [digits_of_lt hn, List.mem_singleton] at h
      exact ⟨n, hn, h⟩
    · rw [digits_of_le hb (by omega), List.mem_append, List.mem_singleton] at h
      rcases h with h | h
      · exact ih _ (Nat.div_lt_self (by omega) hb) h
      · exact ⟨n % base, Nat.mod_lt n (by omega), h⟩

/-- Only the number zero starts with a zero. -/
theorem head?_digits {base n : Nat} (hb : 1 < base) (hb' : base ≤ 16) (hn : n ≠ 0) :
    (digits base n).head? ≠ some '0' := by
  induction n using Nat.strongRecOn with
  | _ n ih =>
    by_cases h : n < base
    · have hchar : ∀ d < 16, d ≠ 0 → d.digitChar ≠ '0' := by decide
      rw [digits_of_lt h]
      simpa using hchar n (by omega) hn
    · have hq : n / base ≠ 0 := Nat.ne_of_gt (Nat.div_pos (by omega) (by omega))
      have hrest := ih _ (Nat.div_lt_self (by omega) hb) hq
      rw [digits_of_le hb (by omega), List.head?_append]
      cases hd : digits base (n / base) with
      | nil => exact absurd hd (digits_ne_nil _ _)
      | cons d ds => rw [hd] at hrest; simpa using hrest

/-- A number below a power of the base has at most as many digits. -/
theorem length_digits_le {base count n : Nat} (hb : 1 < base) (hc : 0 < count)
    (h : n < base ^ count) : (digits base n).length ≤ count :=
  (Nat.length_toDigits_le_iff hb hc).2 h

/-- Something that is no digit does not read as a number. -/
theorem read?_eq_none {base : Nat} {cs : List Char} {c : Char} (hc : c ∈ cs)
    (h : digitValue c = none) : read? base cs = none := by
  have key : ∀ (cs : List Char) (acc : Nat), c ∈ cs → cs.foldlM (readStep base) acc = none := by
    intro cs
    induction cs with
    | nil => intro _ hc; cases hc
    | cons x xs ih =>
      intro acc hc
      rw [List.foldlM_cons]
      rcases List.mem_cons.1 hc with rfl | hc
      · simp [readStep, h]
      · cases readStep base acc x with
        | none => rfl
        | some acc' => exact ih acc' hc
  rw [read?, key cs 0 hc]
  split <;> rfl

end Overlay.Numeral
