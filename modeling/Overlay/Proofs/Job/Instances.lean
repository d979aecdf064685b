import Mathlib.Algebra.Group.Nat.Defs
import Mathlib.Data.List.Nodup
import Overlay.Tier.Gateways
import Overlay.Tier.Registration
import Overlay.Tier.Reports

/-!
# The instances of a job

Storing, removing and renumbering instances, each as one statement about the whole list:

* `Job.perm_upsert`: an instance is added, and the one that had its number is dropped;
* `Job.perm_remove`: the instance of a number is dropped;
* `Registry.addEach_spec`: one instance per pair of addresses is added, those whose numbers are given
  again are dropped (`Job.displacedBy`), and there are none as long as the numbers of the job fit into
  32 bits (`Job.Fits`).
-/

namespace Overlay

namespace Job

variable {job : Job} {i : Instance} {n : UInt32} {α : Type}

/-! ## Replacing the first element -/

theorem replaceFirst_eq_none {p : α → Bool} {f : α → α} {as : List α} :
    replaceFirst p f as = none ↔ as.find? p = none := by
  induction as with
  | nil => simp [replaceFirst]
  | cons a as ih =>
    rw [replaceFirst, List.find?_cons]
    cases p a with
    | true => simp
    | false => simpa using ih

/-- The element is dropped and its replacement added. -/
theorem perm_replaceFirst {p : α → Bool} {b : α} {as bs : List α}
    (h : replaceFirst p (fun _ => b) as = some bs) :
    ((as.find? p).toList ++ bs).Perm (b :: as) := by
  induction as generalizing bs with
  | nil => cases h
  | cons a as ih =>
    rw [replaceFirst] at h
    rw [List.find?_cons]
    cases hp : p a with
    | true =>
      rw [hp, if_pos rfl] at h
      obtain rfl := Option.some.inj h
      exact .swap ..
    | false =>
      rw [hp, if_neg Bool.false_ne_true] at h
      obtain ⟨cs, hcs, rfl⟩ := Option.map_eq_some_iff.1 h
      exact (List.perm_middle.trans ((ih hcs).cons a)).trans (.swap ..)

/-- What is the same for the element and its replacement stays as it is. -/
theorem map_replaceFirst {β : Type} {p : α → Bool} {f : α → α} {g : α → β} {as bs : List α}
    (h : replaceFirst p f as = some bs) (hg : ∀ a, as.find? p = some a → g (f a) = g a) :
    bs.map g = as.map g := by
  induction as generalizing bs with
  | nil => cases h
  | cons a as ih =>
    rw [replaceFirst] at h
    rw [List.find?_cons] at hg
    cases hp : p a with
    | true =>
      rw [hp, if_pos rfl] at h
      rw [hp] at hg
      obtain rfl := Option.some.inj h
      simp [hg a rfl]
    | false =>
      rw [hp, if_neg Bool.false_ne_true] at h
      rw [hp] at hg
      obtain ⟨cs, hcs, rfl⟩ := Option.map_eq_some_iff.1 h
      simp [ih hcs hg]

/-! ## Storing and removing -/

theorem mem_of_instance? (h : job.instance? n = some i) : i ∈ job.instances ∧ i.number = n :=
  ⟨List.mem_of_find?_eq_some h, by simpa using List.find?_some h⟩

theorem instance?_eq_none : job.instance? n = none ↔ ∀ i ∈ job.instances, i.number ≠ n := by
  simp [instance?]

/-- **Storing.** The instance is added, and the one that had its number is dropped. -/
theorem perm_upsert (job : Job) (i : Instance) :
    ((job.instance? i.number).toList ++ (job.upsert i).instances).Perm (i :: job.instances) := by
  rw [upsert, instance?]
  cases h : replaceFirst (fun j => j.number == i.number) (fun _ => i) job.instances with
  | none =>
    rw [replaceFirst_eq_none.1 h]
    exact List.perm_append_singleton ..
  | some bs => exact perm_replaceFirst h

/-- **Removing.** The instance of the number is dropped. -/
theorem perm_remove (job : Job) (n : UInt32) :
    ((job.instance? n).toList ++ (job.remove n).instances).Perm job.instances := by
  simp only [remove, instance?]
  induction job.instances with
  | nil => exact .refl _
  | cons a as ih =>
    rw [List.find?_cons, List.eraseP_cons]
    cases a.number == n with
    | true => exact .refl _
    | false => exact List.perm_middle.trans (ih.cons a)

/-- Jobs that agree on everything but their instances and the number of the next one. -/
structure SameService (job job' : Job) : Prop where
  name : job'.name = job.name
  systemId : job'.systemId = job.systemId
  serviceAddresses : job'.serviceAddresses = job.serviceAddresses
  parties : job'.parties = job.parties

namespace SameService

theorem refl (job : Job) : SameService job job :=
  ⟨rfl, rfl, rfl, rfl⟩

theorem trans {job job' job'' : Job} (h : SameService job job') (h' : SameService job' job'') :
    SameService job job'' :=
  ⟨h'.name.trans h.name, h'.systemId.trans h.systemId,
    h'.serviceAddresses.trans h.serviceAddresses, h'.parties.trans h.parties⟩

theorem upsert (job : Job) (i : Instance) : SameService job (job.upsert i) :=
  ⟨rfl, rfl, rfl, rfl⟩

theorem remove (job : Job) (n : UInt32) : SameService job (job.remove n) :=
  ⟨rfl, rfl, rfl, rfl⟩

theorem takeNumber (job : Job) : SameService job job.takeNumber.2 :=
  ⟨rfl, rfl, rfl, rfl⟩

end SameService

/-- An instance with a new number goes to the end of the list. -/
theorem upsert_of_none (h : job.instance? i.number = none) :
    (job.upsert i).instances = job.instances ++ [i] := by
  rw [upsert, replaceFirst_eq_none.2 h, Option.getD_none]

/-- An instance with a number in use takes the place of the first one that has it. -/
theorem map_upsert {β : Type} {g : Instance → β} {j : Instance}
    (h : job.instance? i.number = some j) (hg : g i = g j) :
    (job.upsert i).instances.map g = job.instances.map g := by
  cases hr : replaceFirst (fun j => j.number == i.number) (fun _ => i) job.instances with
  | none =>
    rw [instance?, replaceFirst_eq_none.1 hr] at h
    cases h
  | some bs =>
    rw [upsert, hr, Option.getD_some]
    refine map_replaceFirst hr fun k hk => ?_
    obtain rfl := Option.some.inj (h.symm.trans hk)
    exact hg

/-! ## Numbers -/

/-- The number of the next instance. -/
def firstNumber (job : Job) : UInt32 :=
  job.takeNumber.1

/-- The numbers of so many more instances, and the counter behind them, fit into 32 bits. -/
def Fits (job : Job) (count : Nat) : Prop :=
  job.firstNumber.toNat + count < 2 ^ 32

instance (job : Job) (count : Nat) : Decidable (job.Fits count) :=
  inferInstanceAs (Decidable (_ < _))

theorem toNat_max (a b : UInt32) : (max a b).toNat = max a.toNat b.toNat := by
  change (if a ≤ b then b else a).toNat = _
  split
  · next h => rw [UInt32.le_iff_toNat_le] at h; omega
  · next h => rw [UInt32.le_iff_toNat_le] at h; omega

/-- The greatest of some numbers is at least each of them. -/
theorem le_foldl_max (is : List Instance) (top : UInt32) :
    top.toNat ≤ (is.foldl (fun top i => max top (i.number + 1)) top).toNat ∧
      ∀ i ∈ is, (i.number + 1).toNat ≤
        (is.foldl (fun top i => max top (i.number + 1)) top).toNat := by
  induction is generalizing top with
  | nil => exact ⟨Nat.le_refl _, nofun⟩
  | cons i is ih =>
    obtain ⟨htop, hall⟩ := ih (max top (i.number + 1))
    rw [toNat_max] at htop
    rw [List.foldl_cons]
    refine ⟨by omega, fun j hj => ?_⟩
    rcases List.mem_cons.1 hj with rfl | hj
    · omega
    · exact hall j hj

/-- The number above all live instances is no larger than what lies above each of them. -/
theorem aboveLive_le {bound : Nat} (h : ∀ i ∈ job.instances, (i.number + 1).toNat ≤ bound) :
    job.aboveLive.toNat ≤ bound := by
  have hfold : ∀ (is : List Instance) (top : UInt32), top.toNat ≤ bound →
      (∀ i ∈ is, (i.number + 1).toNat ≤ bound) →
      (is.foldl (fun top i => max top (i.number + 1)) top).toNat ≤ bound := by
    intro is
    induction is with
    | nil => exact fun _ htop _ => htop
    | cons i is ih =>
      intro top htop hall
      obtain ⟨hi, hall⟩ := List.forall_mem_cons.1 hall
      refine ih _ ?_ hall
      rw [toNat_max]
      omega
  exact hfold job.instances 0 (Nat.zero_le _) h

/-- The first number of a job that fits is new. -/
theorem instance?_firstNumber {count : Nat} (h : job.Fits (count + 1)) :
    job.instance? job.firstNumber = none := by
  rw [instance?_eq_none]
  intro i hi heq
  have habove : (i.number + 1).toNat ≤ job.aboveLive.toNat := (le_foldl_max job.instances 0).2 i hi
  have hfirst : job.firstNumber.toNat = max job.nextNumber.toNat job.aboveLive.toNat :=
    toNat_max ..
  have hno : (i.number + 1).toNat = i.number.toNat + 1 := by
    rw [Fits, ← heq] at h
    rw [UInt32.toNat_add]
    exact Nat.mod_eq_of_lt (by simp only [UInt32.toNat_one]; omega)
  rw [← heq] at hfirst
  omega

/-- Behind the first number there is room for the others. -/
theorem fits_takeNumber {count : Nat} (h : job.Fits (count + 1)) (i : Instance)
    (hi : i.number = job.firstNumber) : (job.takeNumber.2.upsert i).Fits count := by
  have hno : (job.firstNumber + 1).toNat = job.firstNumber.toNat + 1 := by
    rw [Fits] at h
    rw [UInt32.toNat_add]
    exact Nat.mod_eq_of_lt (by simp only [UInt32.toNat_one]; omega)
  have hnone : job.takeNumber.2.instance? i.number = none := hi ▸ instance?_firstNumber h
  have habove : (job.takeNumber.2.upsert i).aboveLive = max job.aboveLive (job.firstNumber + 1) := by
    rw [aboveLive, upsert_of_none hnone, List.foldl_append, List.foldl_cons, List.foldl_nil, hi]
    rfl
  have hfirst : job.firstNumber.toNat = max job.nextNumber.toNat job.aboveLive.toNat :=
    toNat_max ..
  have hsecond : (job.takeNumber.2.upsert i).firstNumber.toNat = job.firstNumber.toNat + 1 := by
    have hmax : (job.takeNumber.2.upsert i).firstNumber =
        max (job.firstNumber + 1) (job.takeNumber.2.upsert i).aboveLive := rfl
    rw [hmax, habove, toNat_max, toNat_max, hno]
    omega
  rw [Fits] at h ⊢
  omega

/-- Instances with numbers of their own. -/
def Distinct (job : Job) : Prop :=
  (job.instances.map (·.number)).Nodup

theorem Distinct.upsert (h : job.Distinct) (i : Instance) : (job.upsert i).Distinct := by
  rw [Distinct]
  cases hi : job.instance? i.number with
  | none =>
    rw [upsert_of_none hi, List.map_append, List.map_singleton, List.nodup_append]
    refine ⟨h, by simp, fun n hn m hm hnm => ?_⟩
    obtain ⟨j, hj, rfl⟩ := List.mem_map.1 hn
    exact instance?_eq_none.1 hi j hj (hnm.trans (List.mem_singleton.1 hm))
  | some j =>
    rw [map_upsert hi (mem_of_instance? hi).2.symm]
    exact h

theorem Distinct.remove (h : job.Distinct) (n : UInt32) : (job.remove n).Distinct :=
  List.Nodup.sublist (List.eraseP_sublist.map _) h

/-- Where numbers are distinct, removing one leaves the instances with other numbers. -/
theorem Distinct.mem_remove (h : job.Distinct) :
    i ∈ (job.remove n).instances ↔ i ∈ job.instances ∧ i.number ≠ n := by
  rw [Distinct] at h
  simp only [Job.remove]
  generalize job.instances = is at h ⊢
  induction is with
  | nil => simp
  | cons a as ih =>
    rw [List.map_cons, List.nodup_cons] at h
    rw [List.eraseP_cons]
    by_cases ha : a.number = n
    · have hrest : ∀ j ∈ as, j.number ≠ n := fun j hj hjn =>
        h.1 (List.mem_map.2 ⟨j, hj, hjn.trans ha.symm⟩)
      simp only [ha, beq_self_eq_true, cond_true, List.mem_cons]
      constructor
      · exact fun hi => ⟨.inr hi, hrest i hi⟩
      · rintro ⟨rfl | hi, hn⟩
        · exact absurd ha hn
        · exact hi
    · simp only [beq_eq_false_iff_ne.2 ha, cond_false, List.mem_cons, ih h.2]
      constructor
      · rintro (rfl | ⟨hi, hn⟩)
        · exact ⟨.inl rfl, ha⟩
        · exact ⟨.inr hi, hn⟩
      · rintro ⟨rfl | hi, hn⟩
        · exact .inl rfl
        · exact .inr ⟨hi, hn⟩

end Job

/-! ## Displaced instances -/

namespace Job

variable {job job' : Job} {i : Instance} {n : UInt32} {is : List Instance}

/-- The instances of a job whose places others take that are stored one after the other. -/
def displacedBy : List Instance → Job → List Instance
  | [], _ => []
  | i :: rest, job => (job.instance? i.number).toList ++ displacedBy rest (job.upsert i)

/-- Which instances are displaced depends on those that are there. -/
theorem displacedBy_congr (h : job'.instances = job.instances) (is : List Instance) :
    job'.displacedBy is = job.displacedBy is := by
  induction is generalizing job job' with
  | nil => rfl
  | cons i rest ih =>
    have hupsert : (job'.upsert i).instances = (job.upsert i).instances := by
      simp only [upsert, h]
    rw [displacedBy, displacedBy, ih hupsert, instance?, instance?, h]

end Job

/-! ## New instances -/

namespace Registry

open scoped List

/-- The instance of the first pair takes the place of the one that has its number. -/
theorem displacedBy_addEach {cluster : String} {addresses : Addresses} {rest : List Addresses}
    {job next : Job}
    (hnext : job.takeNumber.2.upsert (.fresh job.firstNumber addresses (some cluster)) = next) :
    job.displacedBy (addEach cluster (addresses :: rest) job).1 =
      (job.instance? job.firstNumber).toList ++ next.displacedBy (addEach cluster rest next).1 := by
  have hinstances : next.instances =
      (job.upsert (.fresh job.firstNumber addresses (some cluster))).instances := hnext ▸ rfl
  rw [Job.displacedBy_congr hinstances, ← hnext]
  rfl

/-- **New instances.** There is one for each pair of addresses. They join those of the job, and those
whose places they take are dropped. While numbers fit, there are none of these. -/
theorem addEach_spec (cluster : String) (pairs : List Addresses) (job : Job) :
    (addEach cluster pairs job).1.map (·.addresses) = pairs ∧
      job.SameService (addEach cluster pairs job).2 ∧
      (job.displacedBy (addEach cluster pairs job).1 ++
        (addEach cluster pairs job).2.instances).Perm
          ((addEach cluster pairs job).1 ++ job.instances) ∧
      (job.Fits pairs.length → job.displacedBy (addEach cluster pairs job).1 = []) := by
  induction pairs generalizing job with
  | nil => exact ⟨rfl, .refl job, .refl _, fun _ => rfl⟩
  | cons addresses rest ih =>
    let i := Instance.fresh job.firstNumber addresses (some cluster)
    let next := job.takeNumber.2.upsert i
    obtain ⟨haddresses, hsame, hperm, hfits⟩ := ih next
    have hold : job.takeNumber.2.instance? i.number = job.instance? job.firstNumber := rfl
    have hfirst : job.displacedBy (addEach cluster (addresses :: rest) job).1 =
        (job.instance? job.firstNumber).toList ++
          next.displacedBy (addEach cluster rest next).1 := displacedBy_addEach rfl
    rw [hfirst]
    refine ⟨congrArg (addresses :: ·) haddresses,
      ((Job.SameService.takeNumber job).trans (.upsert _ i)).trans hsame, ?_, fun h => ?_⟩
    · have hstep := Job.perm_upsert job.takeNumber.2 i
      rw [hold] at hstep
      calc
        ((job.instance? job.firstNumber).toList ++
            next.displacedBy (addEach cluster rest next).1) ++
            (addEach cluster rest next).2.instances
        _ ~ (job.instance? job.firstNumber).toList ++
            ((addEach cluster rest next).1 ++ next.instances) := by
          rw [List.append_assoc]
          exact hperm.append_left _
        _ ~ (addEach cluster rest next).1 ++
            ((job.instance? job.firstNumber).toList ++ next.instances) := by
          rw [← List.append_assoc, ← List.append_assoc]
          exact List.perm_append_comm.append_right _
        _ ~ (addEach cluster rest next).1 ++ (i :: job.instances) := hstep.append_left _
        _ ~ (i :: (addEach cluster rest next).1) ++ job.instances := List.perm_middle
    · have hnext : next.Fits rest.length := Job.fits_takeNumber h i rfl
      rw [Job.instance?_firstNumber h, hfits hnext]
      rfl

/-- New instances get numbers of their own. -/
theorem addEach_distinct (cluster : String) (pairs : List Addresses) {job : Job}
    (h : job.Distinct) : (addEach cluster pairs job).2.Distinct := by
  induction pairs generalizing job with
  | nil => exact h
  | cons addresses rest ih =>
    have htaken : job.takeNumber.2.Distinct := h
    exact ih (htaken.upsert (.fresh job.firstNumber addresses (some cluster)))

end Registry

/-! ## Networks -/

/-- What others go by to reach an instance: its number and its addresses. -/
def Instance.location (i : Instance) : UInt32 × Addresses :=
  (i.number, i.addresses)

namespace Job

/-- The locations of all instances. -/
def locations (job : Job) : List (UInt32 × Addresses) :=
  job.instances.map Instance.location

/-- The numbers are part of the locations. -/
theorem numbers_of_locations {job job' : Job} (hl : job'.locations = job.locations) :
    job'.instances.map (·.number) = job.instances.map (·.number) := by
  have hn := congrArg (List.map Prod.fst) hl
  rwa [locations, locations, List.map_map, List.map_map] at hn

/-- Jobs with the same locations have distinct numbers or not alike. -/
theorem Distinct.of_locations {job job' : Job} (h : job.Distinct)
    (hl : job'.locations = job.locations) : job'.Distinct := by
  rw [Distinct, numbers_of_locations hl]
  exact h

/-- Where numbers are distinct, a number has one location. -/
theorem Distinct.location_eq {job : Job} (h : job.Distinct) {l l' : UInt32 × Addresses}
    (hl : l ∈ job.locations) (hl' : l' ∈ job.locations) (hn : l.1 = l'.1) : l = l' := by
  obtain ⟨i, hi, rfl⟩ := List.mem_map.1 hl
  obtain ⟨j, hj, rfl⟩ := List.mem_map.1 hl'
  exact congrArg Instance.location (List.inj_on_of_nodup_map h hi hj hn)

/-- Where numbers are distinct, removing one leaves the locations with other numbers. -/
theorem Distinct.mem_locations_remove {job : Job} (h : job.Distinct) {n : UInt32}
    {l : UInt32 × Addresses} :
    l ∈ (job.remove n).locations ↔ l ∈ job.locations ∧ l.1 ≠ n := by
  constructor
  · intro hl
    obtain ⟨i, hi, rfl⟩ := List.mem_map.1 hl
    obtain ⟨hi, hn⟩ := h.mem_remove.1 hi
    exact ⟨List.mem_map_of_mem hi, hn⟩
  · rintro ⟨hl, hn⟩
    obtain ⟨i, hi, rfl⟩ := List.mem_map.1 hl
    exact List.mem_map_of_mem (h.mem_remove.2 ⟨hi, hn⟩)

/-- Storing an instance under its number and addresses moves nothing. -/
theorem locations_upsert {job : Job} {i j : Instance} (h : job.instance? i.number = some j)
    (ha : i.addresses = j.addresses) : (job.upsert i).locations = job.locations :=
  map_upsert h (Prod.ext (mem_of_instance? h).2.symm ha)

/-- A report changes a network and moves nothing. -/
theorem applyReport_spec {job job' : Job} {name : String} {reporter : Option String}
    {report : InstanceReport} {outcome : ReportOutcome}
    (h : applyReport name reporter job report = .ok (outcome, job')) :
    job.SameService job' ∧ job'.locations = job.locations := by
  rw [applyReport] at h
  split at h
  · cases h
  · next i hi =>
    have hn := (mem_of_instance? hi).2
    split at h
    · obtain ⟨-, rfl⟩ := Prod.mk.inj (Except.ok.inj h)
      refine ⟨.upsert .., locations_upsert (j := i) ?_ rfl⟩
      rw [← hi, ← hn]
    · split at h
      · obtain ⟨-, rfl⟩ := Prod.mk.inj (Except.ok.inj h)
        exact ⟨.refl job, rfl⟩
      · cases h

/-- Reports change networks and move nothing. -/
theorem applyReports_spec {name : String} {reporter : Option String}
    {reports : List InstanceReport} {job job' : Job} {outcomes : List (UInt32 × ReportOutcome)}
    (h : applyReports name reporter reports job = .ok (outcomes, job')) :
    job.SameService job' ∧ job'.locations = job.locations := by
  induction reports generalizing job outcomes with
  | nil =>
    obtain ⟨-, rfl⟩ := Prod.mk.inj (Except.ok.inj h)
    exact ⟨.refl job, rfl⟩
  | cons report rest ih =>
    rw [applyReports] at h
    cases hone : applyReport name reporter job report with
    | error e => simp [hone, bind, Except.bind] at h
    | ok first =>
      obtain ⟨outcome, next⟩ := first
      cases hrest : applyReports name reporter rest next with
      | error e => simp [hone, hrest, bind, Except.bind] at h
      | ok others =>
        obtain ⟨outcomes', last⟩ := others
        simp only [hone, hrest, bind, Except.bind, pure, Except.pure] at h
        obtain ⟨-, rfl⟩ := Prod.mk.inj (Except.ok.inj h)
        obtain ⟨hsame, hl⟩ := applyReport_spec hone
        obtain ⟨hsame', hl'⟩ := ih hrest
        exact ⟨hsame.trans hsame', hl'.trans hl⟩

/-- The namespace addresses of a gateway job are no location. -/
theorem withNamespaces_spec (namespaces : Addresses) (job : Job) :
    job.SameService (Registry.withNamespaces namespaces job) ∧
      (Registry.withNamespaces namespaces job).locations = job.locations := by
  rw [Registry.withNamespaces]
  cases hi : job.instance? 0 with
  | none => exact ⟨.refl job, rfl⟩
  | some i =>
    refine ⟨.upsert .., locations_upsert (j := i) ?_ rfl⟩
    rw [← hi, ← (mem_of_instance? hi).2]

end Job

end Overlay
