/-!
# Tables

A `Table α` holds one value per text key, and lists its values in the order of the keys' bytes
(which is the order of their characters). Two tables with the same look-ups are equal
(`Table.ext_get?`), so what was written in which order does not show.

* `get?_insert`: what a look-up finds after a value was stored;
* `get?_erase`: what a look-up finds after a key was removed.
-/

namespace Overlay

/-- A value for each of finitely many keys, in the order of the keys. -/
structure Table (α : Type) where
  entries : List (String × α)
  sorted : entries.Pairwise (fun a b => a.1 < b.1)

namespace Table

variable {α β : Type}

/-- The table without keys. -/
def empty : Table α := ⟨[], .nil⟩

instance : EmptyCollection (Table α) := ⟨empty⟩

instance : Inhabited (Table α) := ⟨empty⟩

/-! ## Sorted lists of entries -/

/-- The value of a key in a list of entries. -/
def lookup (k : String) : List (String × α) → Option α
  | [] => none
  | (k', v) :: rest => if k = k' then some v else lookup k rest

/-- Puts an entry at its place, in place of the one with its key. -/
def place (k : String) (v : α) : List (String × α) → List (String × α)
  | [] => [(k, v)]
  | (k', v') :: rest =>
    if k < k' then (k, v) :: (k', v') :: rest
    else if k = k' then (k, v) :: rest
    else (k', v') :: place k v rest

/-- The entries with other keys. -/
def without (k : String) (entries : List (String × α)) : List (String × α) :=
  entries.filter (fun e => e.1 ≠ k)

theorem lt_of_not_lt_of_ne {a b : String} (h : ¬a < b) (hne : a ≠ b) : b < a := by
  refine Decidable.byContradiction fun hlt => hne ?_
  exact String.le_antisymm (String.not_lt.1 hlt) (String.not_lt.1 h)

theorem mem_place {k : String} {v : α} {entries : List (String × α)} {e : String × α}
    (h : e ∈ place k v entries) : e = (k, v) ∨ e ∈ entries := by
  induction entries with
  | nil => simpa [place] using h
  | cons e' rest ih =>
    simp only [place] at h
    split at h
    · simpa using h
    · split at h
      · rcases List.mem_cons.1 h with h | h
        · exact .inl h
        · exact .inr (List.mem_cons_of_mem _ h)
      · rcases List.mem_cons.1 h with h | h
        · exact .inr (h ▸ List.mem_cons_self)
        · exact (ih h).imp id (List.mem_cons_of_mem _)

theorem pairwise_place {k : String} {v : α} {entries : List (String × α)}
    (h : entries.Pairwise (fun a b => a.1 < b.1)) :
    (place k v entries).Pairwise (fun a b => a.1 < b.1) := by
  induction entries with
  | nil => simp [place]
  | cons e rest ih =>
    obtain ⟨k', v'⟩ := e
    have hrest := List.pairwise_cons.1 h
    simp only [place]
    split
    · next hlt =>
      refine List.pairwise_cons.2 ⟨fun e he => ?_, h⟩
      rcases List.mem_cons.1 he with rfl | he
      · exact hlt
      · exact String.lt_trans hlt (hrest.1 e he)
    · next hnlt =>
      split
      · next heq =>
        subst heq
        exact List.pairwise_cons.2 ⟨hrest.1, hrest.2⟩
      · next hne =>
        refine List.pairwise_cons.2 ⟨fun e he => ?_, ih hrest.2⟩
        rcases mem_place he with rfl | he
        · exact lt_of_not_lt_of_ne hnlt hne
        · exact hrest.1 e he

theorem lookup_place_self (k : String) (v : α) (entries : List (String × α)) :
    lookup k (place k v entries) = some v := by
  induction entries with
  | nil => simp [place, lookup]
  | cons e rest ih =>
    simp only [place]
    split
    · simp [lookup]
    · split
      · simp [lookup]
      · next hne => simp [lookup, hne, ih]

theorem lookup_place_of_ne {k k' : String} (h : k' ≠ k) (v : α) (entries : List (String × α)) :
    lookup k' (place k v entries) = lookup k' entries := by
  induction entries with
  | nil => simp [place, lookup, h]
  | cons e rest ih =>
    simp only [place]
    split
    · simp [lookup, h]
    · split
      · next heq => subst heq; simp [lookup, h]
      · simp [lookup, ih]

theorem lookup_without_self (k : String) (entries : List (String × α)) :
    lookup k (without k entries) = none := by
  induction entries with
  | nil => rfl
  | cons e rest ih =>
    by_cases h : e.1 = k
    · simpa [without, h] using ih
    · have : k ≠ e.1 := fun h' => h h'.symm
      simpa [without, h, lookup, this] using ih

theorem lookup_without_of_ne {k k' : String} (h : k' ≠ k) (entries : List (String × α)) :
    lookup k' (without k entries) = lookup k' entries := by
  induction entries with
  | nil => rfl
  | cons e rest ih =>
    by_cases he : e.1 = k
    · simpa [without, he, lookup, h] using ih
    · simp only [without, ne_eq, he, not_false_eq_true, decide_true, List.filter_cons_of_pos,
        lookup]
      split
      · rfl
      · exact ih

theorem lookup_eq_none_of_lt {k : String} {entries : List (String × α)}
    (h : ∀ e ∈ entries, k < e.1) : lookup k entries = none := by
  induction entries with
  | nil => rfl
  | cons e rest ih =>
    have hne : k ≠ e.1 := fun heq =>
      String.lt_irrefl _ (heq ▸ h e List.mem_cons_self : e.1 < e.1)
    simp [lookup, hne, ih fun e' he' => h e' (List.mem_cons_of_mem _ he')]

theorem mem_of_lookup {k : String} {v : α} {entries : List (String × α)}
    (h : lookup k entries = some v) : (k, v) ∈ entries := by
  induction entries with
  | nil => simp [lookup] at h
  | cons e rest ih =>
    simp only [lookup] at h
    split at h
    · next heq =>
      subst heq
      obtain rfl := Option.some.inj h
      exact List.mem_cons_self
    · exact List.mem_cons_of_mem _ (ih h)

theorem lookup_of_mem {k : String} {v : α} {entries : List (String × α)}
    (hs : entries.Pairwise (fun a b => a.1 < b.1)) (h : (k, v) ∈ entries) :
    lookup k entries = some v := by
  induction entries with
  | nil => cases h
  | cons e rest ih =>
    have hrest := List.pairwise_cons.1 hs
    rcases List.mem_cons.1 h with rfl | h
    · simp [lookup]
    · have hne : k ≠ e.1 := fun heq => by
        have hlt := hrest.1 _ h
        rw [← heq] at hlt
        exact String.lt_irrefl _ hlt
      simp [lookup, hne, ih hrest.2 h]

theorem eq_of_lookup {xs ys : List (String × α)} (hx : xs.Pairwise (fun a b => a.1 < b.1))
    (hy : ys.Pairwise (fun a b => a.1 < b.1)) (h : ∀ k, lookup k xs = lookup k ys) : xs = ys := by
  induction xs generalizing ys with
  | nil =>
    cases ys with
    | nil => rfl
    | cons e rest => simpa [lookup] using h e.1
  | cons e rest ih =>
    obtain ⟨k, v⟩ := e
    cases ys with
    | nil => simpa [lookup] using h k
    | cons e' rest' =>
      obtain ⟨k', v'⟩ := e'
      have hrest := List.pairwise_cons.1 hx
      have hrest' := List.pairwise_cons.1 hy
      have hk : k = k' := by
        refine Decidable.byContradiction fun hne => ?_
        have h1 := h k
        have h2 := h k'
        simp only [lookup, hne, if_true, if_false, (Ne.symm hne : k' ≠ k)] at h1 h2
        have m1 := hrest'.1 _ (mem_of_lookup h1.symm)
        have m2 := hrest.1 _ (mem_of_lookup h2)
        exact String.lt_asymm m1 m2
      subst hk
      have hv : v = v' := by simpa [lookup] using h k
      subst hv
      congr 1
      refine ih hrest.2 hrest'.2 fun j => ?_
      by_cases hj : j = k
      · subst hj
        rw [lookup_eq_none_of_lt hrest.1, lookup_eq_none_of_lt hrest'.1]
      · simpa [lookup, hj] using h j

/-! ## Operations -/

/-- The value stored under a key. -/
def get? (t : Table α) (k : String) : Option α :=
  lookup k t.entries

/-- Stores a value under a key, in place of the one stored there. -/
def insert (t : Table α) (k : String) (v : α) : Table α :=
  ⟨place k v t.entries, pairwise_place t.sorted⟩

/-- Removes a key. -/
def erase (t : Table α) (k : String) : Table α :=
  ⟨without k t.entries, t.sorted.sublist List.filter_sublist⟩

/-- Whether a key has a value. -/
def contains (t : Table α) (k : String) : Bool :=
  (t.get? k).isSome

/-- The values in the order of their keys. -/
def values (t : Table α) : List α :=
  t.entries.map (·.2)

/-- The keys in order. -/
def keys (t : Table α) : List String :=
  t.entries.map (·.1)

@[simp] theorem get?_empty (k : String) : (∅ : Table α).get? k = none := rfl

@[simp] theorem get?_insert_self (t : Table α) (k : String) (v : α) :
    (t.insert k v).get? k = some v := lookup_place_self k v t.entries

theorem get?_insert_of_ne (t : Table α) {k k' : String} (h : k' ≠ k) (v : α) :
    (t.insert k v).get? k' = t.get? k' := lookup_place_of_ne h v t.entries

theorem get?_insert (t : Table α) (k k' : String) (v : α) :
    (t.insert k v).get? k' = if k' = k then some v else t.get? k' := by
  split
  · next h => rw [h, get?_insert_self]
  · next h => exact get?_insert_of_ne t h v

@[simp] theorem get?_erase_self (t : Table α) (k : String) : (t.erase k).get? k = none :=
  lookup_without_self k t.entries

theorem get?_erase_of_ne (t : Table α) {k k' : String} (h : k' ≠ k) :
    (t.erase k).get? k' = t.get? k' := lookup_without_of_ne h t.entries

theorem get?_erase (t : Table α) (k k' : String) :
    (t.erase k).get? k' = if k' = k then none else t.get? k' := by
  split
  · next h => rw [h, get?_erase_self]
  · next h => exact get?_erase_of_ne t h

/-- **Extensionality.** Tables with the same look-ups are equal. -/
theorem ext_get? {t u : Table α} (h : ∀ k, t.get? k = u.get? k) : t = u := by
  obtain ⟨xs, hx⟩ := t
  obtain ⟨ys, hy⟩ := u
  obtain rfl : xs = ys := eq_of_lookup hx hy h
  rfl

theorem mem_entries_iff {t : Table α} {k : String} {v : α} :
    (k, v) ∈ t.entries ↔ t.get? k = some v :=
  ⟨lookup_of_mem t.sorted, mem_of_lookup⟩

theorem mem_values_iff {t : Table α} {v : α} : v ∈ t.values ↔ ∃ k, t.get? k = some v := by
  simp only [values, List.mem_map, Prod.exists, ← mem_entries_iff]
  exact ⟨fun ⟨k, _, h, rfl⟩ => ⟨k, h⟩, fun ⟨k, h⟩ => ⟨k, v, h, rfl⟩⟩

/-- Storing what is there changes nothing. -/
theorem insert_of_get? {t : Table α} {k : String} {v : α} (h : t.get? k = some v) :
    t.insert k v = t := by
  refine ext_get? fun k' => ?_
  rw [get?_insert]
  split
  · next hk => rw [hk, h]
  · rfl

end Table

end Overlay
