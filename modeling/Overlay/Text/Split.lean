/-!
# Splitting and joining

Texts cut at a character or at the first occurrence of a pattern, and put together again. Parts
without the separator come back from the joined text (`splitOn_joinWith`).
-/

namespace Overlay

/-- The parts between the occurrences of a character; at least one. -/
def splitOn (sep : Char) : List Char → List (List Char)
  | [] => [[]]
  | c :: cs =>
    if c = sep then [] :: splitOn sep cs
    else match splitOn sep cs with
      | part :: parts => (c :: part) :: parts
      | [] => [[c]]

/-- The parts with the separator between them. -/
def joinWith (sep : List Char) : List (List Char) → List Char
  | [] => []
  | [part] => part
  | part :: parts => part ++ sep ++ joinWith sep parts

/-- What stands before and after the first occurrence of a pattern. -/
def breakOn? (pattern : List Char) : List Char → Option (List Char × List Char)
  | [] => if pattern.isEmpty then some ([], []) else none
  | c :: cs =>
    match pattern.isPrefixOf? (c :: cs) with
    | some rest => some ([], rest)
    | none => (breakOn? pattern cs).map fun (before, rest) => (c :: before, rest)

theorem splitOn_ne_nil (sep : Char) (cs : List Char) : splitOn sep cs ≠ [] := by
  cases cs with
  | nil => simp [splitOn]
  | cons c cs =>
    rw [splitOn]
    split
    · simp
    · split <;> simp

theorem splitOn_of_not_mem {sep : Char} {part : List Char} (h : sep ∉ part) :
    splitOn sep part = [part] := by
  induction part with
  | nil => rfl
  | cons c cs ih =>
    have hc : c ≠ sep := fun hc => h (hc ▸ List.mem_cons_self)
    rw [splitOn, if_neg hc, ih fun hm => h (List.mem_cons_of_mem _ hm)]

theorem splitOn_append {sep : Char} {part : List Char} (h : sep ∉ part) (cs : List Char) :
    splitOn sep (part ++ sep :: cs) = part :: splitOn sep cs := by
  induction part with
  | nil => simp [splitOn]
  | cons c part ih =>
    have hc : c ≠ sep := fun hc => h (hc ▸ List.mem_cons_self)
    rw [List.cons_append, splitOn, if_neg hc, ih fun hm => h (List.mem_cons_of_mem _ hm)]

/-- Parts without the separator are the parts of the text that joins them. -/
theorem splitOn_joinWith {sep : Char} {parts : List (List Char)} {part : List Char}
    (h : ∀ p ∈ part :: parts, sep ∉ p) :
    splitOn sep (joinWith [sep] (part :: parts)) = part :: parts := by
  obtain ⟨hpart, hparts⟩ := List.forall_mem_cons.1 h
  induction parts generalizing part with
  | nil => exact splitOn_of_not_mem hpart
  | cons next rest ih =>
    have hjoin : joinWith [sep] (part :: next :: rest) =
        part ++ sep :: joinWith [sep] (next :: rest) := by simp [joinWith]
    rw [hjoin, splitOn_append hpart, ih hparts (hparts next List.mem_cons_self)]
    exact fun p hp => hparts p (List.mem_cons_of_mem _ hp)

end Overlay
