/-!
# Blank characters

The characters with the Unicode property White_Space, and texts without them at either end. Every
place that forgives stray blanks (addresses, selectors, descriptors, header values) forgives
exactly these. A text that is trimmed once has no blank left at its ends, so trimming it again
changes nothing (`trimBlanks_trimBlanks`).
-/

namespace Overlay

/-- Whether a character has the Unicode property White_Space. -/
def isBlank (c : Char) : Bool :=
  let n := c.toNat
  (9 ≤ n && n ≤ 13) || n == 0x20 || n == 0x85 || n == 0xA0 || n == 0x1680 ||
    (0x2000 ≤ n && n ≤ 0x200A) || n == 0x2028 || n == 0x2029 || n == 0x202F || n == 0x205F ||
    n == 0x3000

/-- The characters without the blanks at the end. -/
def trimBlanksEnd (cs : List Char) : List Char :=
  (cs.reverse.dropWhile isBlank).reverse

/-- The characters without the blanks at both ends. -/
def trimBlanks (cs : List Char) : List Char :=
  trimBlanksEnd (cs.dropWhile isBlank)

/-- The text without the blanks at both ends. -/
def trimmed (s : String) : String :=
  String.ofList (trimBlanks s.toList)

/-- The text without the blanks at both ends, if anything is left. -/
def nonblank? (s : String) : Option String :=
  let t := trimmed s
  if t.isEmpty then none else some t

/-- Whether nothing is left of the text without its blanks. -/
def isBlankText (s : String) : Bool :=
  s.toList.all isBlank

/-! ## Trimming again -/

theorem isBlank_head?_dropWhile (cs : List Char) {c : Char}
    (h : (cs.dropWhile isBlank).head? = some c) : isBlank c = false := by
  induction cs with
  | nil => simp at h
  | cons d ds ih =>
    rw [List.dropWhile_cons] at h
    split at h
    · exact ih h
    · obtain rfl : d = c := by simpa using h
      simp_all

theorem dropWhile_isBlank_of_head? {cs : List Char}
    (h : ∀ c, cs.head? = some c → isBlank c = false) : cs.dropWhile isBlank = cs := by
  cases cs with
  | nil => rfl
  | cons c cs => rw [List.dropWhile_cons, h c rfl]; rfl

theorem trimBlanksEnd_trimBlanksEnd (cs : List Char) :
    trimBlanksEnd (trimBlanksEnd cs) = trimBlanksEnd cs := by
  rw [trimBlanksEnd, trimBlanksEnd, List.reverse_reverse,
    dropWhile_isBlank_of_head? fun _ => isBlank_head?_dropWhile _]

/-- What is left after trimming the end is the start of the text. -/
theorem trimBlanksEnd_isPrefix (cs : List Char) : trimBlanksEnd cs <+: cs := by
  rw [trimBlanksEnd, ← List.reverse_suffix, List.reverse_reverse]
  exact List.dropWhile_suffix _

theorem dropWhile_isBlank_trimBlanks (cs : List Char) :
    (trimBlanks cs).dropWhile isBlank = trimBlanks cs := by
  refine dropWhile_isBlank_of_head? fun c hc => isBlank_head?_dropWhile cs ?_
  obtain ⟨tail, htail⟩ := trimBlanksEnd_isPrefix (cs.dropWhile isBlank)
  rw [trimBlanks] at hc
  rw [← htail, List.head?_append, hc, Option.some_or]

/-- Trimming a text again changes nothing. -/
theorem trimBlanks_trimBlanks (cs : List Char) : trimBlanks (trimBlanks cs) = trimBlanks cs := by
  rw [trimBlanks, dropWhile_isBlank_trimBlanks, trimBlanks, trimBlanksEnd_trimBlanksEnd]

@[simp] theorem trimmed_trimmed (s : String) : trimmed (trimmed s) = trimmed s := by
  simp only [trimmed, String.toList_ofList, trimBlanks_trimBlanks]

end Overlay
