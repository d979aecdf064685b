import Mathlib.Data.List.Basic
import Overlay.Text.Blank
import Overlay.Text.Split

/-!
# Where a text is cut

Two facts about cutting a text at a character (`mem_splitOn`, `mem_joinWith`); that a text is put
together again from where it breaks at a pattern (`append_of_breakOn?`, `breakOn?_of_not_mem`); and
where a text breaks at a doubled character: not at all if it is joined from non-empty parts with single
ones (`breakOn?_joinWith`), and right behind such a text if the doubled one follows it
(`breakOn?_joinWith_append`).
-/

namespace Overlay

/-! ## Cutting -/

/-- A character that is no separator is in one of the parts. -/
theorem mem_splitOn {sep c : Char} {cs : List Char} (hc : c ∈ cs) (hne : c ≠ sep) :
    ∃ part ∈ splitOn sep cs, c ∈ part := by
  induction cs with
  | nil => cases hc
  | cons d ds ih =>
    rw [splitOn]
    split
    · next hd =>
      rcases List.mem_cons.1 hc with rfl | hc
      · exact absurd hd hne
      · obtain ⟨part, hp, hm⟩ := ih hc
        exact ⟨part, List.mem_cons_of_mem _ hp, hm⟩
    · split
      · next part parts hsplit =>
        rcases List.mem_cons.1 hc with rfl | hc
        · exact ⟨_, List.mem_cons_self, List.mem_cons_self⟩
        · obtain ⟨p, hp, hm⟩ := ih hc
          rw [hsplit] at hp
          rcases List.mem_cons.1 hp with rfl | hp
          · exact ⟨_, List.mem_cons_self, List.mem_cons_of_mem _ hm⟩
          · exact ⟨p, List.mem_cons_of_mem _ hp, hm⟩
      · next hsplit => exact absurd hsplit (splitOn_ne_nil sep ds)

/-- A character of joined parts is the separator or in one of the parts. -/
theorem mem_joinWith {sep c : Char} {parts : List (List Char)} (hc : c ∈ joinWith [sep] parts) :
    c = sep ∨ ∃ part ∈ parts, c ∈ part := by
  induction parts with
  | nil => cases hc
  | cons part parts ih =>
    cases parts with
    | nil => exact .inr ⟨part, List.mem_cons_self, hc⟩
    | cons next rest =>
      have hjoin : joinWith [sep] (part :: next :: rest) =
          part ++ sep :: joinWith [sep] (next :: rest) := by simp [joinWith]
      rw [hjoin, List.mem_append, List.mem_cons] at hc
      rcases hc with hc | hc | hc
      · exact .inr ⟨part, List.mem_cons_self, hc⟩
      · exact .inl hc
      · refine (ih hc).imp_right ?_
        rintro ⟨p, hp, hm⟩
        exact ⟨p, List.mem_cons_of_mem _ hp, hm⟩

/-! ## Breaking at a pattern -/

/-- What stands before and after a pattern is put together with it to the text. -/
theorem append_of_breakOn? {pattern cs before rest : List Char}
    (h : breakOn? pattern cs = some (before, rest)) : cs = before ++ (pattern ++ rest) := by
  induction cs generalizing before rest with
  | nil =>
    rw [breakOn?] at h
    split at h
    · next hempty =>
      obtain ⟨rfl, rfl⟩ := Prod.mk.inj (Option.some.inj h)
      simpa using hempty
    · cases h
  | cons c cs ih =>
    rw [breakOn?] at h
    split at h
    · next hfront =>
      obtain ⟨rfl, rfl⟩ := Prod.mk.inj (Option.some.inj h)
      exact (List.isPrefixOf?_eq_some_iff_append_eq.1 hfront).symm
    · obtain ⟨⟨before', rest'⟩, hbreak, hcons⟩ := Option.map_eq_some_iff.1 h
      obtain ⟨rfl, rfl⟩ := Prod.mk.inj hcons
      rw [ih hbreak, List.cons_append]

/-- A text does not break before the first character of the pattern. -/
theorem breakOn?_append {sep : Char} {pattern part : List Char} (h : sep ∉ part) (cs : List Char) :
    breakOn? (sep :: pattern) (part ++ cs) =
      (breakOn? (sep :: pattern) cs).map fun (before, rest) => (part ++ before, rest) := by
  induction part with
  | nil => simp
  | cons c part ih =>
    have hc : (sep == c) = false := by
      simpa using fun hc : sep = c => h (hc ▸ List.mem_cons_self)
    rw [List.cons_append, breakOn?, List.isPrefixOf?, hc,
      ih fun hm => h (List.mem_cons_of_mem _ hm)]
    cases breakOn? (sep :: pattern) cs <;> simp

/-- A text breaks at a pattern if nothing before it has the pattern's first character. -/
theorem breakOn?_of_not_mem {sep : Char} {pattern part : List Char} (h : sep ∉ part)
    (cs : List Char) :
    breakOn? (sep :: pattern) (part ++ (sep :: pattern ++ cs)) = some (part, cs) := by
  have hfront : (sep :: pattern).isPrefixOf? (sep :: (pattern ++ cs)) = some cs :=
    List.isPrefixOf?_eq_some_iff_append_eq.2 rfl
  rw [breakOn?_append h, List.cons_append, breakOn?, hfront]
  simp

/-! ## Breaking at a doubled character -/

/-- A text does not break at a single separator. -/
theorem breakOn?_single {sep c : Char} (h : c ≠ sep) (cs : List Char) :
    breakOn? [sep, sep] (sep :: c :: cs) =
      (breakOn? [sep, sep] (c :: cs)).map fun (before, rest) => (sep :: before, rest) := by
  have hc : (sep == c) = false := by simpa using h.symm
  rw [breakOn?]
  simp [List.isPrefixOf?, hc]

/-- A text breaks at its start if it starts with the doubled separator. -/
theorem breakOn?_double (sep : Char) (cs : List Char) :
    breakOn? [sep, sep] (sep :: sep :: cs) = some ([], cs) := by
  simp [breakOn?, List.isPrefixOf?]

/-- Non-empty parts without the separator, with single separators between them, hold no doubled
one: the text breaks where what follows it does. -/
theorem breakOn?_joinWith_append {sep : Char} {parts : List (List Char)}
    (hne : ∀ p ∈ parts, p ≠ []) (hsep : ∀ p ∈ parts, sep ∉ p) (cs : List Char) :
    breakOn? [sep, sep] (joinWith [sep] parts ++ cs) =
      (breakOn? [sep, sep] cs).map fun (before, rest) =>
        (joinWith [sep] parts ++ before, rest) := by
  induction parts with
  | nil => simp [joinWith]
  | cons part parts ih =>
    have hpart := hsep part List.mem_cons_self
    cases parts with
    | nil => exact breakOn?_append hpart cs
    | cons next rest =>
      have ih := ih (fun p hp => hne p (List.mem_cons_of_mem _ hp))
        fun p hp => hsep p (List.mem_cons_of_mem _ hp)
      obtain ⟨c, ds, hds⟩ : ∃ c ds, joinWith [sep] (next :: rest) = c :: ds ∧ c ≠ sep := by
        obtain ⟨c, tail, rfl⟩ := List.exists_cons_of_ne_nil (hne next (by simp))
        have hcs : c ≠ sep := fun h => hsep (c :: tail) (by simp) (h ▸ List.mem_cons_self)
        cases rest with
        | nil => exact ⟨c, tail, rfl, hcs⟩
        | cons => exact ⟨c, _, rfl, hcs⟩
      have hjoin : joinWith [sep] (part :: next :: rest) = part ++ sep :: c :: ds := by
        rw [← hds.1]; simp [joinWith]
      rw [hds.1] at ih
      rw [hjoin, List.append_assoc, breakOn?_append hpart, List.cons_append, List.cons_append,
        breakOn?_single hds.2, ← List.cons_append, ih]
      cases breakOn? [sep, sep] cs <;> simp

/-- Non-empty parts without the separator, with single separators between them, do not break. -/
theorem breakOn?_joinWith {sep : Char} {parts : List (List Char)}
    (hne : ∀ p ∈ parts, p ≠ []) (hsep : ∀ p ∈ parts, sep ∉ p) :
    breakOn? [sep, sep] (joinWith [sep] parts) = none := by
  have h := breakOn?_joinWith_append hne hsep []
  rw [List.append_nil] at h
  rw [h]
  rfl

/-! ## Blanks -/

/-- A text without blanks has none at its ends. -/
theorem trimmed_of_no_blank {s : String} (h : ∀ c ∈ s.toList, isBlank c = false) :
    trimmed s = s := by
  have hid : ∀ cs : List Char, (∀ c ∈ cs, isBlank c = false) → cs.dropWhile isBlank = cs :=
    fun cs hcs => dropWhile_isBlank_of_head? fun c hc => hcs c (List.mem_of_mem_head? hc)
  rw [trimmed, trimBlanks, trimBlanksEnd, hid _ h, hid, List.reverse_reverse, String.ofList_toList]
  exact fun c hc => h c (List.mem_reverse.1 hc)

end Overlay
