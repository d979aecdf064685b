/-!
# Numerals

Natural numbers as digits: as characters in bases up to sixteen (`Numeral.digits`,
`Numeral.read?`), and as a fixed number of words of a base, most significant first
(`Numeral.words`, `Numeral.value`). A number below `Nat.pow base count` is the value of its `count`
words (`Numeral.value_words`), and words below the base are the words of their value
(`Numeral.words_value`).
-/

namespace Overlay.Numeral

/-! ## Characters -/

/-- The value of a digit; letters count from ten, in either case. -/
def digitValue (c : Char) : Option Nat :=
  if '0' ≤ c ∧ c ≤ '9' then some (c.toNat - '0'.toNat)
  else if 'a' ≤ c ∧ c ≤ 'f' then some (c.toNat - 'a'.toNat + 10)
  else if 'A' ≤ c ∧ c ≤ 'F' then some (c.toNat - 'A'.toNat + 10)
  else none

/-- The digits of a number in a base, without leading zeros and in lower case. -/
def digits (base n : Nat) : List Char :=
  Nat.toDigits base n

/-- The next digit is appended to the number read so far. -/
def readStep (base acc : Nat) (c : Char) : Option Nat :=
  match digitValue c with
  | some d => if d < base then some (acc * base + d) else none
  | none => none

/-- The number that a list of digits stands for; none if it is empty or holds something else. -/
def read? (base : Nat) (cs : List Char) : Option Nat :=
  if cs.isEmpty then none else cs.foldlM (readStep base) 0

/-- The decimal text of a number. -/
def decimal (n : Nat) : String :=
  String.ofList (digits 10 n)

/-! ## Words -/

/-- The last `count` words of a number in a base, most significant first. -/
def words (base : Nat) : Nat → Nat → List Nat
  | 0, _ => []
  | count + 1, n => words base count (n / base) ++ [n % base]

/-- The number with the given words, most significant first. -/
def value (base : Nat) (ws : List Nat) : Nat :=
  ws.foldl (fun acc w => acc * base + w) 0

@[simp] theorem length_words (base count n : Nat) : (words base count n).length = count := by
  induction count generalizing n with
  | zero => rfl
  | succ count ih => simp [words, ih]

theorem lt_of_mem_words {base : Nat} (hb : 0 < base) {count n w : Nat}
    (h : w ∈ words base count n) : w < base := by
  induction count generalizing n with
  | zero => cases h
  | succ count ih =>
    rcases List.mem_append.1 h with h | h
    · exact ih h
    · rw [List.mem_singleton.1 h]
      exact Nat.mod_lt _ hb

theorem value_append_singleton (base : Nat) (ws : List Nat) (w : Nat) :
    value base (ws ++ [w]) = value base ws * base + w := by
  simp [value]

/-- The last `count` words of a number stand for the number without its higher part. -/
theorem value_words (base count n : Nat) :
    value base (words base count n) = n % Nat.pow base count := by
  induction count generalizing n with
  | zero => simp [words, value, Nat.mod_one]
  | succ count ih =>
    have hpow : Nat.pow base (count + 1) = base * Nat.pow base count :=
      Nat.mul_comm (Nat.pow base count) base
    rw [words, value_append_singleton, ih, hpow, Nat.mod_mul, Nat.mul_comm, Nat.add_comm]

/-- Words below the base are the words of the number they stand for. -/
theorem words_value {base : Nat} {ws : List Nat} (h : ∀ w ∈ ws, w < base) :
    words base ws.length (value base ws) = ws := by
  obtain ⟨rs, rfl⟩ : ∃ rs, ws = rs.reverse := ⟨ws.reverse, by simp⟩
  induction rs with
  | nil => rfl
  | cons w rs ih =>
    have hw : w < base := h w (by simp)
    have hb : 0 < base := Nat.lt_of_le_of_lt (Nat.zero_le w) hw
    rw [List.reverse_cons, List.length_append, List.length_singleton, words,
      value_append_singleton, Nat.mul_add_mod_self_right, Nat.mod_eq_of_lt hw,
      Nat.mul_comm, Nat.mul_add_div hb, Nat.div_eq_of_lt hw, Nat.add_zero,
      ih fun w' hw' => h w' (by simpa using .inl (by simpa using hw'))]

end Overlay.Numeral
