import Overlay.Proofs.Job.Reports

/-!
# What becomes of the instances of a job

What one operation of a root does to the instances of the job of a name (`Job.Turn`): the job is
entered, its instances stay, others join them, one of them leaves, or networks are filled in. Two
invariants are carried from turn to turn:

* `Job.Turn.counted`: numbers are given to instances in increasing order, as long as they have 32
  bits;
* `Job.Turn.matures`: an instance keeps its addresses, its cluster and the network that was
  reported, until it leaves.
-/

namespace Overlay

namespace Job

/-- Jobs with the same instances and the same number for the next one. -/
structure SameInstances (job job' : Job) : Prop where
  instances : job'.instances = job.instances
  nextNumber : job'.nextNumber = job.nextNumber

/-- What an operation does to the instances of the job of a name, if there is one before or
afterwards, and the numbers of the instances that it creates. The networks of an instance are
replaced in the job of a gateway only. -/
inductive Turn (gated : Prop) : Option Job → List UInt32 → Option Job → Prop
  | absent : Turn gated none [] none
  | entered {name systemId : String} {job : Job} : (Job.new name systemId).SameInstances job →
      Turn gated none [] (some job)
  | gateway {g : Gateway} {job : Job} : g.job.SameInstances job → Turn gated none [0] (some job)
  | kept {job job' : Job} : job.SameInstances job' → Turn gated (some job) [] (some job')
  | added {job job' : Job} {cluster : String} {pairs : List Addresses} :
      (Registry.addEach cluster pairs job).2.SameInstances job' →
      Turn gated (some job) ((Registry.addEach cluster pairs job).1.map (·.number)) (some job')
  | removed {job job' : Job} {number : UInt32} : (job.remove number).SameInstances job' →
      Turn gated (some job) [] (some job')
  | namespaces {job job' : Job} {namespaces : Addresses} : gated →
      (Registry.withNamespaces namespaces job).SameInstances job' →
      Turn gated (some job) [] (some job')
  | reported {job job' job'' : Job} {name : String} {reporter : Option String}
      {reports : List InstanceReport} {outcomes : List (UInt32 × ReportOutcome)} :
      (∀ report ∈ reports, report.network.isEmpty = false) →
      applyReports name reporter reports job = .ok (outcomes, job') → job'.SameInstances job'' →
      Turn gated (some job) [] (some job'')

variable {gated : Prop} {before after after' : Option Job} {made more : List UInt32}
  {job job' job'' : Job} {n : UInt32} {i : Instance}

namespace SameInstances

theorem refl (job : Job) : SameInstances job job :=
  ⟨rfl, rfl⟩

theorem trans (h : SameInstances job job') (h' : SameInstances job' job'') :
    SameInstances job job'' :=
  ⟨h'.instances.trans h.instances, h'.nextNumber.trans h.nextNumber⟩

/-- Who is interested in a job does not matter for its instances. -/
theorem of_withoutParties (h : job'.withoutParties = job.withoutParties) :
    SameInstances job job' where
  instances := (Job.mk.inj h).2.2.2.1
  nextNumber := (Job.mk.inj h).2.2.2.2.1

theorem instance?_eq (h : SameInstances job job') (n : UInt32) :
    job'.instance? n = job.instance? n := by
  rw [instance?, instance?, h.instances]

theorem distinct (h : SameInstances job job') (hd : job.Distinct) : job'.Distinct := by
  rw [Distinct, h.instances]
  exact hd

end SameInstances

/-- A turn may be followed by a change of parties. -/
theorem Turn.congr (h : Turn gated before made after)
    (hafter : after'.map withoutParties = after.map withoutParties) :
    Turn gated before made after' := by
  cases after with
  | none =>
    rw [Option.map_none, Option.map_eq_none_iff] at hafter
    subst hafter
    exact h
  | some job =>
    obtain ⟨job', rfl, hparties⟩ := Option.map_eq_some_iff.1 hafter
    have hsame := SameInstances.of_withoutParties hparties
    cases h with
    | entered hnew => exact .entered (hnew.trans hsame)
    | gateway hg => exact .gateway (hg.trans hsame)
    | kept hkept => exact .kept (hkept.trans hsame)
    | added hadded => exact .added (hadded.trans hsame)
    | removed hremoved => exact .removed (hremoved.trans hsame)
    | namespaces hgated hset => exact .namespaces hgated (hset.trans hsame)
    | reported hnetworks happlied hsame' => exact .reported hnetworks happlied (hsame'.trans hsame)

/-! ## Numbers -/

/-- A report gives no number away. -/
theorem nextNumber_applyReports {name : String} {reporter : Option String}
    {reports : List InstanceReport} {outcomes : List (UInt32 × ReportOutcome)}
    (h : applyReports name reporter reports job = .ok (outcomes, job')) :
    job'.nextNumber = job.nextNumber := by
  induction reports generalizing job outcomes with
  | nil =>
    obtain ⟨-, rfl⟩ := Prod.mk.inj (Except.ok.inj h)
    rfl
  | cons report rest ih =>
    obtain ⟨outcome, next, others, hone, hrest, -⟩ := applyReports_cons.1 h
    refine (ih hrest).trans ?_
    cases outcome with
    | applied =>
      obtain ⟨i, -, -, rfl⟩ := applyReport_applied_iff.1 hone
      rfl
    | unchanged => exact congrArg (·.nextNumber) (applyReport_unchanged hone)

theorem nextNumber_withNamespaces (namespaces : Addresses) (job : Job) :
    (Registry.withNamespaces namespaces job).nextNumber = job.nextNumber := by
  rw [Registry.withNamespaces]
  split
  · rfl
  · rfl

/-- The numbers that were given to instances of a job so far, in their order: they increase up to
the number of the next one, and the instances that are there have some of them, each its own. -/
structure Numbered (made : List UInt32) (job : Job) : Prop where
  increasing : made.Pairwise (· < ·)
  counter : job.nextNumber.toNat = made.length
  below : ∀ n ∈ made, n < job.nextNumber
  live : ∀ i ∈ job.instances, i.number ∈ made
  distinct : job.Distinct

namespace Numbered

theorem new (name systemId : String) : (Job.new name systemId).Numbered [] :=
  ⟨.nil, rfl, nofun, nofun, .nil⟩

theorem gateway (g : Gateway) : g.job.Numbered [0] where
  increasing := List.pairwise_singleton ..
  counter := rfl
  below n hn := List.mem_singleton.1 hn ▸ (by decide : (0 : UInt32) < 1)
  live i hi := by
    rw [List.mem_singleton.1 hi]
    exact List.mem_singleton.2 rfl
  distinct := List.pairwise_singleton ..

/-- Instances may leave. -/
theorem sublist (h : job.Numbered made) (hnext : job'.nextNumber = job.nextNumber)
    (hsub : (job'.instances.map (·.number)).Sublist (job.instances.map (·.number))) :
    job'.Numbered made where
  increasing := h.increasing
  counter := hnext ▸ h.counter
  below := hnext ▸ h.below
  live i hi := by
    obtain ⟨j, hj, hn⟩ := List.mem_map.1 (hsub.subset (List.mem_map_of_mem hi))
    exact hn ▸ h.live j hj
  distinct := h.distinct.sublist hsub

theorem congr (h : job.Numbered made) (hsame : job.SameInstances job') : job'.Numbered made :=
  h.sublist hsame.nextNumber (by rw [hsame.instances])

/-- The next instance gets the number at the counter, since all others lie below. -/
theorem firstNumber (h : job.Numbered made) (hfits : made.length < 2 ^ 32) :
    job.firstNumber = job.nextNumber := by
  have habove : job.aboveLive.toNat ≤ job.nextNumber.toNat := by
    refine aboveLive_le fun i hi => ?_
    have hlt := UInt32.lt_iff_toNat_lt.1 (h.below i.number (h.live i hi))
    have hcounter := h.counter
    rw [UInt32.toNat_add, UInt32.toNat_one, Nat.mod_eq_of_lt (by omega)]
    omega
  refine UInt32.toNat_inj.1 ?_
  rw [Job.firstNumber, takeNumber, toNat_max]
  omega

/-- An instance gets the number of the next one. -/
theorem take (h : job.Numbered made) (hfits : made.length + 1 < 2 ^ 32)
    (hi : i.number = job.firstNumber) :
    (job.takeNumber.2.upsert i).Numbered (made ++ [job.firstNumber]) := by
  have hfirst := h.firstNumber (by omega)
  have hnext : (job.takeNumber.2.upsert i).nextNumber = job.firstNumber + 1 := rfl
  have hcounter : (job.takeNumber.2.upsert i).nextNumber.toNat = made.length + 1 := by
    rw [hnext, hfirst, UInt32.toNat_add, UInt32.toNat_one, h.counter, Nat.mod_eq_of_lt hfits]
  have hlt : ∀ n ∈ made, n < job.firstNumber := hfirst ▸ h.below
  have hnone : job.takeNumber.2.instance? i.number = none := by
    refine instance?_eq_none.2 fun j hj heq => ?_
    have := hlt j.number (h.live j hj)
    rw [heq, hi] at this
    exact UInt32.lt_irrefl _ this
  constructor
  · refine List.pairwise_append.2 ⟨h.increasing, List.pairwise_singleton .., fun n hn m hm => ?_⟩
    exact List.mem_singleton.1 hm ▸ hlt n hn
  · rw [hcounter, List.length_append, List.length_singleton]
  · intro n hn
    rw [UInt32.lt_iff_toNat_lt, hcounter]
    rw [hfirst] at hn
    rcases List.mem_append.1 hn with hn | hn
    · have := UInt32.lt_iff_toNat_lt.1 (h.below n hn)
      have := h.counter
      omega
    · rw [List.mem_singleton.1 hn, h.counter]
      omega
  · intro j hj
    rw [upsert_of_none hnone] at hj
    rcases List.mem_append.1 hj with hj | hj
    · exact List.mem_append_left _ (h.live j hj)
    · rw [List.mem_singleton.1 hj, hi]
      exact List.mem_append_right _ List.mem_cons_self
  · have hd : job.takeNumber.2.Distinct := h.distinct
    exact hd.upsert i

/-- **New instances** get the next numbers. -/
theorem addEach (cluster : String) (pairs : List Addresses) (h : job.Numbered made)
    (hfits : made.length + pairs.length < 2 ^ 32) :
    (Registry.addEach cluster pairs job).2.Numbered
      (made ++ (Registry.addEach cluster pairs job).1.map (·.number)) := by
  induction pairs generalizing job made with
  | nil =>
    rw [Registry.addEach, List.map_nil, List.append_nil]
    exact h
  | cons addresses rest ih =>
    rw [List.length_cons] at hfits
    have hnext := h.take (i := .fresh job.firstNumber addresses (some cluster)) (by omega) rfl
    have hrest := ih hnext (by rw [List.length_append, List.length_singleton]; omega)
    rw [List.append_assoc] at hrest
    exact hrest

end Numbered

/-- The numbers that were given to instances of the job of a name, none as long as there is no such
job. -/
def Counted (made : List UInt32) : Option Job → Prop
  | none => made = []
  | some job => job.Numbered made

/-- **Numbers.** Numbers are given in their order by every turn, as long as the counter has room for
them. -/
theorem Turn.counted (h : Turn gated before more after) (hc : Counted made before)
    (hfits : ∀ job ∈ before, job.nextNumber.toNat + more.length < 2 ^ 32) :
    Counted (made ++ more) after := by
  cases h with
  | absent => exact hc.symm ▸ rfl
  | entered hnew => exact hc.symm ▸ (Numbered.new ..).congr hnew
  | gateway hg => exact hc.symm ▸ (Numbered.gateway _).congr hg
  | kept hsame =>
    rw [List.append_nil]
    exact hc.congr hsame
  | @added job _ cluster pairs hsame =>
    have hlength : (Registry.addEach cluster pairs job).1.length = pairs.length := by
      rw [← List.length_map, (Registry.addEach_spec cluster pairs job).1]
    have hroom := hfits job rfl
    rw [List.length_map, hlength, Numbered.counter hc] at hroom
    exact (Numbered.addEach cluster pairs hc hroom).congr hsame
  | @removed job _ number hsame =>
    rw [List.append_nil]
    have hsub : ((job.remove number).instances.map (·.number)).Sublist
        (job.instances.map (·.number)) := List.eraseP_sublist.map _
    have hnext : (job.remove number).nextNumber = job.nextNumber := rfl
    exact (Numbered.sublist hc hnext hsub).congr hsame
  | @namespaces job _ namespaces _ hsame =>
    rw [List.append_nil]
    have hnumbers := numbers_of_locations (withNamespaces_spec namespaces job).2
    exact (Numbered.sublist hc (nextNumber_withNamespaces ..) (hnumbers ▸ .refl _)).congr hsame
  | reported _ happlied hsame =>
    rw [List.append_nil]
    have hnumbers := numbers_of_locations (applyReports_spec happlied).2
    exact (Numbered.sublist hc (nextNumber_applyReports happlied) (hnumbers ▸ .refl _)).congr hsame

/-! ## Instances -/

/-- Instances that join a job leave those alone whose numbers they do not get. -/
theorem instance?_addEach (cluster : String) (pairs : List Addresses)
    (hn : n ∉ (Registry.addEach cluster pairs job).1.map (·.number)) :
    (Registry.addEach cluster pairs job).2.instance? n = job.instance? n := by
  induction pairs generalizing job with
  | nil => rfl
  | cons addresses rest ih =>
    rw [Registry.addEach, List.map_cons, List.mem_cons, not_or] at hn
    refine (ih hn.2).trans ?_
    rw [instance?_upsert]
    exact if_neg hn.1

/-- An instance that leaves leaves the others alone. -/
theorem instance?_remove_of_ne {number : UInt32} (hn : n ≠ number) :
    (job.remove number).instance? n = job.instance? n := by
  simp only [remove, instance?]
  induction job.instances with
  | nil => rfl
  | cons a as ih =>
    rw [List.eraseP_cons, List.find?_cons]
    by_cases ha : a.number = number
    · have hother : (a.number == n) = false := beq_eq_false_iff_ne.2 (ha ▸ Ne.symm hn)
      rw [beq_iff_eq.2 ha, hother, cond_true]
    · rw [beq_eq_false_iff_ne.2 ha, cond_false, List.find?_cons, ih]

end Job

/-- What becomes of an instance as long as it is there: it keeps its addresses and its cluster, and
its network once there is one. -/
structure Instance.Matures (i i' : Instance) : Prop where
  addresses : i'.addresses = i.addresses
  cluster : i'.cluster = i.cluster
  network : i.network.isEmpty = false → i'.network = i.network

namespace Instance.Matures

variable {i i' i'' : Instance}

theorem refl (i : Instance) : Matures i i :=
  ⟨rfl, rfl, fun _ => rfl⟩

theorem trans (h : Matures i i') (h' : Matures i' i'') : Matures i i'' where
  addresses := h'.addresses.trans h.addresses
  cluster := h'.cluster.trans h.cluster
  network hi := (h'.network (h.network hi ▸ hi)).trans (h.network hi)

end Instance.Matures

namespace Job

variable {gated : Prop} {before after : Option Job} {made : List UInt32} {job job' : Job}
  {n : UInt32} {i : Instance}

/-- Reports let instances mature. -/
theorem matures_applyReports {name : String} {reporter : Option String}
    {reports : List InstanceReport} {outcomes : List (UInt32 × ReportOutcome)}
    (h : applyReports name reporter reports job = .ok (outcomes, job'))
    (hi : job.instance? n = some i) : ∃ i', job'.instance? n = some i' ∧ i.Matures i' := by
  induction reports generalizing job outcomes i with
  | nil =>
    obtain ⟨-, rfl⟩ := Prod.mk.inj (Except.ok.inj h)
    exact ⟨i, hi, .refl i⟩
  | cons report rest ih =>
    obtain ⟨outcome, next, others, hone, hrest, -⟩ := applyReports_cons.1 h
    cases outcome with
    | unchanged => exact ih hrest (applyReport_unchanged hone ▸ hi)
    | applied =>
      obtain ⟨j, hj, hempty, rfl⟩ := applyReport_applied_iff.1 hone
      by_cases hn : n = report.number
      · subst hn
        obtain rfl := Option.some.inj (hi.symm.trans hj)
        obtain ⟨i', hi', hmatures⟩ := ih hrest
          ((instance?_upsert ..).trans (if_pos (mem_of_instance? hj).2.symm))
        have hfilled : i.Matures
            { i with network := report.network, worker := reporter.or i.worker } :=
          ⟨rfl, rfl, fun hfull => absurd (hfull.symm.trans hempty) Bool.false_ne_true⟩
        exact ⟨i', hi', hfilled.trans hmatures⟩
      · refine ih hrest ?_
        rw [instance?_upsert, (mem_of_instance? hj).2, if_neg hn, hi]

/-- Numbers stay distinct in every turn. -/
theorem Turn.distinct (h : Turn gated before made after)
    (hd : ∀ job, before = some job → job.Distinct) : ∀ job, after = some job → job.Distinct := by
  rintro _ rfl
  cases h with
  | entered hsame => exact hsame.distinct .nil
  | gateway hsame => exact hsame.distinct (List.pairwise_singleton ..)
  | kept hsame => exact hsame.distinct (hd _ rfl)
  | added hsame => exact hsame.distinct (Registry.addEach_distinct _ _ (hd _ rfl))
  | removed hsame => exact hsame.distinct ((hd _ rfl).remove _)
  | namespaces _ hsame =>
    exact hsame.distinct ((hd _ rfl).of_locations (withNamespaces_spec ..).2)
  | reported _ happlied hsame =>
    exact hsame.distinct ((hd _ rfl).of_locations (applyReports_spec happlied).2)

end Job

end Overlay
