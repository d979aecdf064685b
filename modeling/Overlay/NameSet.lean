import Overlay.Table

/-!
# Sets of names

A finite set of texts, listed in the order of their bytes and without repetition: the interested
parties of a job. Sets with the same members are equal (`NameSet.ext`).
-/

namespace Overlay

/-- A finite set of names. -/
structure NameSet where
  table : Table Unit

namespace NameSet

/-- The set without members. -/
def empty : NameSet := ⟨∅⟩

instance : EmptyCollection NameSet := ⟨empty⟩

instance : Inhabited NameSet := ⟨empty⟩

/-- Whether a name is a member. -/
def contains (s : NameSet) (name : String) : Bool :=
  s.table.contains name

instance : Membership String NameSet := ⟨fun s name => s.contains name = true⟩

instance (s : NameSet) (name : String) : Decidable (name ∈ s) :=
  inferInstanceAs (Decidable (s.contains name = true))

/-- Adds a member. -/
def insert (s : NameSet) (name : String) : NameSet :=
  ⟨s.table.insert name ()⟩

/-- Removes a member. -/
def erase (s : NameSet) (name : String) : NameSet :=
  ⟨s.table.erase name⟩

/-- The members in order. -/
def toList (s : NameSet) : List String :=
  s.table.keys

/-- The number of members. -/
def size (s : NameSet) : Nat :=
  s.toList.length

/-- Whether there is no member. -/
def isEmpty (s : NameSet) : Bool :=
  s.toList.isEmpty

/-- The set of the names of a list. -/
def ofList (names : List String) : NameSet :=
  names.foldl insert ∅

/-! ## Members -/

theorem mem_iff {s : NameSet} {name : String} : name ∈ s ↔ s.table.get? name = some () := by
  change s.table.contains name = true ↔ _
  rw [Table.contains]
  cases s.table.get? name <;> simp

@[simp] theorem not_mem_empty (name : String) : name ∉ (∅ : NameSet) := by
  rw [mem_iff]
  exact nofun

@[simp] theorem mem_insert {s : NameSet} {a b : String} : a ∈ s.insert b ↔ a = b ∨ a ∈ s := by
  rw [mem_iff, mem_iff, insert, Table.get?_insert]
  split <;> simp_all

@[simp] theorem mem_erase {s : NameSet} {a b : String} : a ∈ s.erase b ↔ a ≠ b ∧ a ∈ s := by
  rw [mem_iff, mem_iff, erase, Table.get?_erase]
  split <;> simp_all

@[simp] theorem mem_toList {s : NameSet} {name : String} : name ∈ s.toList ↔ name ∈ s := by
  rw [mem_iff, ← Table.mem_entries_iff, toList, Table.keys, List.mem_map]
  exact ⟨fun ⟨⟨_, ()⟩, h, rfl⟩ => h, fun h => ⟨_, h, rfl⟩⟩

/-- **Extensionality.** Sets with the same members are equal. -/
theorem ext {s t : NameSet} (h : ∀ name, name ∈ s ↔ name ∈ t) : s = t := by
  obtain ⟨x⟩ := s
  obtain ⟨y⟩ := t
  congr 1
  refine Table.ext_get? fun k => ?_
  have := h k
  rw [mem_iff, mem_iff] at this
  dsimp only at this
  revert this
  cases x.get? k <;> cases y.get? k <;> simp

/-- A member is not added again. -/
theorem insert_of_mem {s : NameSet} {name : String} (h : name ∈ s) : s.insert name = s := by
  refine ext fun other => ?_
  rw [mem_insert, or_iff_right_of_imp]
  intro heq
  exact heq ▸ h

/-- Who is not a member cannot be removed. -/
theorem erase_of_not_mem {s : NameSet} {name : String} (h : name ∉ s) : s.erase name = s := by
  refine ext fun other => ?_
  rw [mem_erase, and_iff_right_of_imp]
  rintro hother rfl
  exact h hother

theorem isEmpty_iff {s : NameSet} : s.isEmpty = true ↔ ∀ name, name ∉ s := by
  simp only [isEmpty, List.isEmpty_iff, List.eq_nil_iff_forall_not_mem, mem_toList]

/-- The last member is removed if there was no other one. -/
theorem isEmpty_erase_iff {s : NameSet} {name : String} (h : name ∈ s) :
    (s.erase name).isEmpty = true ↔ ∀ other, other ∈ s ↔ other = name := by
  simp only [isEmpty_iff, mem_erase, not_and]
  constructor
  · intro hnone other
    refine ⟨fun hother => Decidable.byContradiction fun hne => hnone other hne hother, ?_⟩
    rintro rfl
    exact h
  · exact fun honly other hne hother => hne ((honly other).1 hother)

/-- The members are listed without repetition. -/
theorem nodup_toList (s : NameSet) : s.toList.Nodup := by
  rw [toList, Table.keys, List.nodup_iff_pairwise_ne, List.pairwise_map]
  refine s.table.sorted.imp fun {a b} h (heq : a.1 = b.1) => ?_
  rw [heq] at h
  exact String.lt_irrefl _ h

end NameSet

end Overlay
