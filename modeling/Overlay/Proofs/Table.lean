import Overlay.Table

/-!
# The values of a table

What a table holds, as a list in which each key counts once: storing a value adds it and drops the
one that was stored under the key before (`Table.values_insert`). A table with another view of its
values (`Table.map`) has the same keys.
-/

namespace Overlay.Table

variable {α β γ : Type}

/-! ## Values as a whole -/

/-- Placing an entry adds its value and drops the one of its key. -/
theorem perm_place {k : String} {v : α} {entries : List (String × α)}
    (h : entries.Pairwise (fun a b => a.1 < b.1)) :
    ((lookup k entries).toList ++ (place k v entries).map (·.2)).Perm
      (v :: entries.map (·.2)) := by
  induction entries with
  | nil => exact .refl _
  | cons e rest ih =>
    obtain ⟨k', v'⟩ := e
    have hrest := List.pairwise_cons.1 h
    simp only [place, lookup]
    by_cases hlt : k < k'
    · have hne : k ≠ k' := fun heq => String.lt_irrefl _ (heq ▸ hlt : k' < k')
      have hnone : lookup k rest = none :=
        lookup_eq_none_of_lt fun e he => String.lt_trans hlt (hrest.1 e he)
      rw [if_pos hlt, if_neg hne, hnone]
      exact .refl _
    · by_cases heq : k = k'
      · rw [if_neg hlt, if_pos heq, if_pos heq]
        exact .swap ..
      · rw [if_neg hlt, if_neg heq, if_neg heq]
        exact (List.perm_middle.trans ((ih hrest.2).cons v')).trans (.swap ..)

/-- **Storing.** The value is added, and the one that was stored under its key is dropped. -/
theorem values_insert (t : Table α) (k : String) (v : α) :
    ((t.get? k).toList ++ (t.insert k v).values).Perm (v :: t.values) :=
  perm_place t.sorted

/-- What is gathered from the values after one of them was stored. -/
theorem flatMap_values_insert (f : α → List β) (t : Table α) (k : String) (v : α) :
    ((t.get? k).toList.flatMap f ++ (t.insert k v).values.flatMap f).Perm
      (f v ++ t.values.flatMap f) := by
  have h := (t.values_insert k v).flatMap_right f
  rwa [List.flatMap_append, List.flatMap_cons] at h

/-- **Removing.** The values are those that are left and the one that goes. -/
theorem values_erase {t : Table α} {k : String} {v : α} (h : t.get? k = some v) :
    t.values.Perm (v :: (t.erase k).values) := by
  have hback : (t.erase k).insert k v = t := by
    refine ext_get? fun k' => ?_
    rw [get?_insert, get?_erase]
    split
    · next hk => rw [hk, h]
    · rfl
  have hinsert := (t.erase k).values_insert k v
  rw [hback, get?_erase_self, Option.toList_none, List.nil_append] at hinsert
  exact hinsert

/-- What was stored under a key goes with the key. -/
theorem erase_insert (t : Table α) (k : String) (v : α) : (t.insert k v).erase k = t.erase k := by
  refine ext_get? fun k' => ?_
  rw [get?_erase, get?_erase]
  split
  · rfl
  · next hne => exact get?_insert_of_ne t hne v

/-! ## Searching -/

theorem find?_place {p : α → Bool} {k : String} {v : α} {entries : List (String × α)}
    (hv : p v = true) (h : ∀ e, entries.find? (fun e => p e.2) = some e → e.1 = k) :
    (place k v entries).find? (fun e => p e.2) = some (k, v) := by
  induction entries with
  | nil => simp [place, hv]
  | cons e rest ih =>
    obtain ⟨k', v'⟩ := e
    simp only [place]
    split
    · simp [hv]
    · split
      · simp [hv]
      · next hne =>
        have hmiss : p v' = false := by
          rw [Bool.eq_false_iff]
          intro hhit
          exact hne (h (k', v') (by simp [hhit])).symm
        rw [List.find?_cons, hmiss]
        refine ih fun e he => h e ?_
        rw [List.find?_cons, hmiss]
        exact he

/-- **Searching.** A value that is searched for is found once it was stored, unless another one comes
first. -/
theorem find?_values_insert {p : α → Bool} {t : Table α} {k : String} {v : α} (hv : p v = true)
    (h : ∀ k' w, t.get? k' = some w → t.values.find? p = some w → k' = k) :
    (t.insert k v).values.find? p = some v := by
  have hvalues : ∀ t : Table α,
      t.values.find? p = (t.entries.find? fun e => p e.2).map (·.2) := by
    intro t
    rw [values, List.find?_map]
    rfl
  rw [hvalues, insert, find?_place hv fun e he => ?_]
  · rfl
  · refine h e.1 e.2 (mem_entries_iff.1 (List.mem_of_find?_eq_some he)) ?_
    rw [hvalues, he]
    rfl

/-! ## Another view of the values -/

/-- The table with each value seen through a function. -/
def map (f : α → β) (t : Table α) : Table β where
  entries := t.entries.map fun e => (e.1, f e.2)
  sorted := List.pairwise_map.2 t.sorted

theorem lookup_map (f : α → β) (k : String) (entries : List (String × α)) :
    lookup k (entries.map fun e => (e.1, f e.2)) = (lookup k entries).map f := by
  induction entries with
  | nil => rfl
  | cons e rest ih =>
    simp only [List.map_cons, lookup]
    split
    · rfl
    · exact ih

@[simp] theorem get?_map (f : α → β) (t : Table α) (k : String) :
    (t.map f).get? k = (t.get? k).map f :=
  lookup_map f k t.entries

@[simp] theorem values_map (f : α → β) (t : Table α) : (t.map f).values = t.values.map f := by
  simp [values, map, Function.comp_def]

/-- Storing a value that looks the same as the one stored under its key. -/
theorem map_insert_of_get? {f : α → β} {t : Table α} {k : String} {v w : α}
    (h : t.get? k = some v) (hvw : f w = f v) : (t.insert k w).map f = t.map f := by
  refine ext_get? fun k' => ?_
  rw [get?_map, get?_map, get?_insert]
  split
  · next hk => rw [hk, h, Option.map_some, Option.map_some, hvw]
  · rfl

end Overlay.Table
