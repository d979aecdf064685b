import Overlay.Proofs.Hierarchy.Changes
import Overlay.Proofs.Job.Turns

/-!
# Networks of instances

What becomes of the network of one instance when a registry changes. A copy of a job replaces each
instance that it lists, its network included (`Registry.network?_mergeJob_of_mem`), and leaves the
others alone. A report fills an empty network in and changes nothing else
(`Registry.Recorded.network?_cases`).
-/

namespace Overlay

namespace Registry

variable {r r' : Registry} {name key : String} {n : UInt32} {job copy : Job}

/-- The network of an instance of the job of a name. -/
def network? (r : Registry) (name : String) (n : UInt32) : Option Network :=
  ((r.job? name).bind (·.instance? n)).map (·.network)

theorem network?_eq_some {network : Network} : r.network? name n = some network ↔
    ∃ job i, r.job? name = some job ∧ job.instance? n = some i ∧ i.network = network := by
  simp only [network?, Option.map_eq_some_iff, Option.bind_eq_some_iff]
  exact ⟨fun ⟨i, ⟨job, hjob, hi⟩, hn⟩ => ⟨job, i, hjob, hi, hn⟩,
    fun ⟨job, i, hjob, hi, hn⟩ => ⟨i, ⟨job, hjob, hi⟩, hn⟩⟩

theorem network?_congr (h : r'.job? name = r.job? name) :
    r'.network? name n = r.network? name n := by
  rw [network?, network?, h]

/-- Another job is stored. -/
theorem network?_insert_of_ne (hjobs : r'.jobs = r.jobs.insert key job) (hne : name ≠ key) :
    r'.network? name n = r.network? name n :=
  network?_congr (by rw [job?, job?, hjobs, Table.get?_insert_of_ne _ hne])

/-- A job is stored with the same instance. -/
theorem network?_insert {new : Job} (hjob : r.job? name = some job)
    (hjobs : r'.jobs = r.jobs.insert name new) (hsame : new.instance? n = job.instance? n) :
    r'.network? name n = r.network? name n := by
  rw [network?, network?, hjob, job?, hjobs, Table.get?_insert_self]
  simp only [Option.bind_some, hsame]

/-- Who is interested in a job does not matter for its networks. -/
theorem SameBooks.network? (h : r.SameBooks r') (name : String) (n : UInt32) :
    r'.network? name n = r.network? name n := by
  have hinstance : ∀ found : Option Job, found.bind (·.instance? n) =
      (found.map Job.withoutParties).bind (·.instance? n) := by
    rintro (_ | _) <;> rfl
  rw [Registry.network?, Registry.network?, hinstance, h.job? name, ← hinstance]

/-! ## Copies of the parent -/

/-- The registry once a copy of a job was taken over, if there is one. -/
def withCopy (r : Registry) : Option Job → Registry
  | none => r
  | some copy => (r.mergeJob copy).2

/-- Instances of other jobs are left alone. -/
theorem network?_mergeJob_of_ne (hne : name ≠ copy.name) :
    (r.mergeJob copy).2.network? name n = r.network? name n :=
  network?_insert_of_ne rfl hne

/-- An instance that the copy does not list is left alone. -/
theorem network?_mergeJob_of_not_mem (hjob : r.job? copy.name = some job)
    (hn : n ∉ copy.instances.map (·.number)) :
    (r.mergeJob copy).2.network? copy.name n = r.network? copy.name n := by
  have hjobs : (r.mergeJob copy).2.jobs = r.jobs.insert copy.name (merged (some job) copy) := by
    rw [mergeJob, hjob]
  refine network?_insert hjob hjobs ?_
  exact instance?_foldl_mergeInstance_of_not_mem _ hn

/-- An instance of which the copies say nothing has no network afterwards. -/
theorem isEmpty_foldl_mergeInstance {is : List Instance}
    (hempty : ∀ i ∈ is, i.number = n → i.network.isEmpty = true)
    (h : n ∈ is.map (·.number) ∨ ∃ i, job.instance? n = some i ∧ i.network.isEmpty = true) :
    ∃ i, (is.foldl mergeInstance job).instance? n = some i ∧ i.network.isEmpty = true := by
  induction is generalizing job with
  | nil => exact h.resolve_left List.not_mem_nil
  | cons first rest ih =>
    obtain ⟨hfirst, hrest⟩ := List.forall_mem_cons.1 hempty
    refine ih hrest ?_
    rw [mergeInstance, Job.instance?_upsert]
    by_cases hn : n = first.number
    · exact .inr ⟨_, if_pos hn, hfirst hn.symm⟩
    · rw [if_neg hn]
      refine h.imp_left fun hmem => ?_
      exact (List.mem_cons.1 (List.map_cons .. ▸ hmem)).resolve_left hn

/-- An instance that the copy lists without a network loses its network. -/
theorem network?_mergeJob_of_mem (hjob : r.job? copy.name = some job)
    (hn : n ∈ copy.instances.map (·.number))
    (hempty : ∀ i ∈ copy.instances, i.number = n → i.network.isEmpty = true) :
    ∃ blank, (r.mergeJob copy).2.network? copy.name n = some blank ∧ blank.isEmpty = true := by
  obtain ⟨i, hi, hnetwork⟩ : ∃ i, (merged (some job) copy).instance? n = some i ∧
      i.network.isEmpty = true := isEmpty_foldl_mergeInstance hempty (.inl hn)
  refine ⟨i.network, network?_eq_some.2 ⟨merged (some job) copy, i, ?_, hi, rfl⟩, hnetwork⟩
  rw [mergeJob, hjob]
  exact Table.get?_insert_self ..

/-! ## Instances that are gone -/

/-- The registry without an instance of the job of a name, if there is such a job. -/
def without (r : Registry) (name : String) (number : UInt32) : Registry :=
  match r.job? name with
  | none => r
  | some job => { r with jobs := r.jobs.insert name (job.remove number) }

/-- The other instances stay as they are. -/
theorem network?_without {number : UInt32} (hne : name ≠ key ∨ n ≠ number) :
    (r.without key number).network? name n = r.network? name n := by
  rw [without]
  cases hjob : r.job? key with
  | none => rfl
  | some job =>
    by_cases hname : name = key
    · subst hname
      have hn : n ≠ number := hne.resolve_left fun hne => hne rfl
      exact network?_insert hjob rfl (Job.instance?_remove_of_ne hn)
    · exact network?_insert_of_ne rfl hname

/-- A job is deleted, and it is not this one. -/
theorem network?_deleteJob (hthere : ((r.deleteJob key).job? name).isSome = true) :
    (r.deleteJob key).network? name n = r.network? name n := by
  refine network?_congr (Table.get?_erase_of_ne _ fun hname => ?_)
  subst hname
  rw [deleteJob, job?, Table.get?_erase_self] at hthere
  cases hthere

/-- Nothing happens to a job that is still there after a party has left it. -/
theorem network?_removeParty {party : String} {dropUnused : Bool}
    (hthere : ((r.removeParty key party dropUnused).2.job? name).isSome = true) :
    (r.removeParty key party dropUnused).2.network? name n = r.network? name n := by
  rw [removeParty] at hthere ⊢
  cases hjob : r.job? key with
  | none => rfl
  | some job =>
    rw [hjob] at hthere
    dsimp only at hthere ⊢
    split
    · next hdeleted =>
      rw [if_pos hdeleted] at hthere
      exact network?_deleteJob hthere
    · split
      · exact (SameBooks.putParties hjob _).network? name n
      · rfl

/-! ## Reports -/

/-- **One report.** It fills a network in that was empty, or changes nothing. -/
theorem Recorded.network?_cases {one : InstanceReport} {reporter : Option String}
    {outcomes : List (UInt32 × ReportOutcome)} (hr : r.Recorded name [one] reporter outcomes r') :
    (outcomes.head?.map (·.2) = some .applied ∧ one.network.isEmpty = false ∧
      (∃ before, r.network? name one.number = some before ∧ before.isEmpty = true) ∧
      r'.network? name one.number = some one.network ∧
      ∀ key n, key ≠ name ∨ n ≠ one.number → r'.network? key n = r.network? key n) ∨
    (outcomes.head?.map (·.2) = some .unchanged ∧ r' = r) := by
  obtain ⟨hjob, hnetworks, happlied⟩ := hr
  rename_i job job'
  obtain ⟨outcome, next, others, hone, hrest, rfl⟩ := Job.applyReports_cons.1 happlied
  obtain ⟨-, rfl⟩ := Prod.mk.inj (Except.ok.inj hrest)
  cases outcome with
  | unchanged =>
    obtain rfl := Job.applyReport_unchanged hone
    exact .inr ⟨rfl, by rw [Table.insert_of_get? hjob]⟩
  | applied =>
    obtain ⟨i, hi, hempty, rfl⟩ := Job.applyReport_applied_iff.1 hone
    have hnumber := (Job.mem_of_instance? hi).2
    refine .inl ⟨rfl, hnetworks one List.mem_cons_self, ?_, ?_, fun key n hne => ?_⟩
    · exact ⟨i.network, network?_eq_some.2 ⟨job, i, hjob, hi, rfl⟩, hempty⟩
    · exact network?_eq_some.2 ⟨_, _, Table.get?_insert_self ..,
        (Job.instance?_upsert ..).trans (if_pos hnumber.symm), rfl⟩
    · by_cases hkey : key = name
      · subst hkey
        refine network?_insert hjob rfl ((Job.instance?_upsert ..).trans (if_neg ?_))
        rw [hnumber]
        exact hne.resolve_left fun hne => hne rfl
      · exact network?_insert_of_ne rfl hkey

/-- A report that contradicts a network is refused. -/
theorem applyReports_conflict {network other : Network} {reporter : Option String}
    (h : r.network? name n = some network) (hnetwork : network.isEmpty = false)
    (hother : other.isEmpty = false) (hne : other ≠ network) :
    applyReports name [⟨n, other⟩] reporter r = (.error (.conflictingReport name n), r) := by
  obtain ⟨job, i, hjob, hi, rfl⟩ := network?_eq_some.1 h
  have hone : Job.applyReport name reporter job ⟨n, other⟩ =
      .error (.conflictingReport name n) := by
    simp [Job.applyReport, hi, hnetwork, Ne.symm hne]
  have hupdate : updateJob name (Job.applyReports name reporter [⟨n, other⟩]) r =
      (.error (.conflictingReport name n), r) := by
    simp [updateJob, hjob, Job.applyReports, hone, bind, Except.bind]
  simp [applyReports, hother, Action.bind_apply, hupdate]

end Registry

end Overlay
