import Overlay.Proofs.Action
import Overlay.Proofs.Address.Canonical
import Overlay.Proofs.Job.Instances
import Overlay.Proofs.Table

/-!
# The jobs of a registry

Jobs are stored under their names (`Registry.Named`), found by name, by address and by the
identifier of the scheduler. A job holds the addresses of its instances (`Job.held`) and shares
those that all its instances answer to (`Job.shared`).
-/

namespace Overlay

/-! ## Addresses of a job -/

namespace Dual

variable {α : Type} {d : Dual (Option α)} {f : Family} {a : α}

/-- What is present of a family. -/
theorem mem_present : (f, a) ∈ d.present ↔ d.get f = some a := by
  cases f <;> simp [present, get]

end Dual

namespace Job

variable {job job' : Job} {f : Family} {text : String}

/-- The addresses of the instances, each with its family. -/
def held (job : Job) : List (Family × String) :=
  job.instances.flatMap fun i => i.addresses.present

/-- The addresses that all instances share, each with its family. -/
def shared (job : Job) : List (Family × String) :=
  job.serviceAddresses.flatMap fun a => a.addresses.present

/-- All address texts are shared or held by an instance. -/
theorem addressTexts_eq (job : Job) : job.addressTexts = (job.shared ++ job.held).map (·.2) := by
  simp [addressTexts, shared, held, List.map_append, List.map_flatMap]

theorem mem_addressTexts :
    text ∈ job.addressTexts ↔ ∃ f, (f, text) ∈ job.shared ∨ (f, text) ∈ job.held := by
  simp [addressTexts_eq, exists_or]

/-- What is held depends on the locations only. -/
theorem held_eq (job : Job) : job.held = job.locations.flatMap fun l => l.2.present := by
  rw [held, locations, List.flatMap_map]
  rfl

theorem held_congr (h : job'.locations = job.locations) : job'.held = job.held := by
  rw [held_eq, held_eq, h]

theorem shared_congr (h : job.SameService job') : job'.shared = job.shared := by
  rw [shared, shared, h.serviceAddresses]

end Job

namespace Registry

variable {ε α : Type} {r r' s : Registry} {name : String} {job job' : Job}

/-! ## Edits -/

/-- An edit finds no job, or is written, or is refused and changes nothing. -/
theorem updateJob_spec {P : Registry → Prop} {Q : Option α → Registry → Prop}
    {E : ε → Registry → Prop} {edit : Job → Except ε (α × Job)}
    (hnone : ∀ s, P s → s.job? name = none → Q none s)
    (hok : ∀ s job a job', P s → s.job? name = some job → edit job = .ok (a, job') →
      Q (some a) { s with jobs := s.jobs.insert name job' })
    (herror : ∀ s job e, P s → s.job? name = some job → edit job = .error e → E e s) :
    Action.Triple P (updateJob name edit) Q E := by
  refine .of_match fun s hs => ?_
  cases hjob : s.job? name with
  | none =>
    simp only [updateJob, hjob]
    exact hnone s hs hjob
  | some job =>
    rcases hedit : edit job with e | ⟨a, job'⟩
    · simp only [updateJob, hjob, hedit]
      exact herror s job e hs hjob hedit
    · simp only [updateJob, hjob, hedit]
      exact hok s job a job' hs hjob hedit

/-- An edit of a gateway, likewise. -/
theorem updateGateway_spec {P : Registry → Prop} {Q : Option α → Registry → Prop}
    {E : ε → Registry → Prop} {id : String} {edit : Gateway → Except ε (α × Gateway)}
    (hnone : ∀ s, P s → s.gateway? id = none → Q none s)
    (hok : ∀ s g a g', P s → s.gateway? id = some g → edit g = .ok (a, g') →
      Q (some a) { s with gateways := s.gateways.insert id g' })
    (herror : ∀ s g e, P s → s.gateway? id = some g → edit g = .error e → E e s) :
    Action.Triple P (updateGateway id edit) Q E := by
  refine .of_match fun s hs => ?_
  cases hg : s.gateway? id with
  | none =>
    simp only [updateGateway, hg]
    exact hnone s hs hg
  | some g =>
    rcases hedit : edit g with e | ⟨a, g'⟩
    · simp only [updateGateway, hg, hedit]
      exact herror s g e hs hg hedit
    · simp only [updateGateway, hg, hedit]
      exact hok s g a g' hs hg hedit

theorem job?_congr (h : r'.jobs = r.jobs) (name : String) : r'.job? name = r.job? name := by
  rw [job?, job?, h]

/-! ## Names -/

/-- Every job is stored under its name. -/
def Named (r : Registry) : Prop :=
  ∀ name job, r.job? name = some job → job.name = name

theorem Named.congr (h : r.Named) (hj : r'.jobs = r.jobs) : r'.Named := by
  rw [Named] at h ⊢
  simpa only [job?_congr hj] using h

/-- A job that is stored under its name keeps jobs under their names. -/
theorem Named.insert (h : r.Named) (hj : r'.jobs = r.jobs.insert name job)
    (hn : job.name = name) : r'.Named := by
  intro other found hfound
  rw [job?, hj, Table.get?_insert] at hfound
  split at hfound
  · next heq =>
    obtain rfl := Option.some.inj hfound
    exact hn.trans heq.symm
  · exact h other found hfound

/-- A job among all jobs is the one of its name. -/
theorem Named.job?_of_mem (h : r.Named) (hj : job ∈ r.jobs.values) :
    r.job? job.name = some job := by
  obtain ⟨name, hname⟩ := Table.mem_values_iff.1 hj
  exact (h name job hname).symm ▸ hname

/-- A job that is new is taken over, and nobody is interested in it yet. -/
theorem mergeJob_of_none (h : r.job? job.name = none) : r.mergeJob job =
    (job.withoutParties, { r with jobs := r.jobs.insert job.name job.withoutParties }) := by
  rw [mergeJob, h]
  rfl

theorem mem_of_job? (h : r.job? name = some job) : job ∈ r.jobs.values :=
  Table.mem_values_iff.2 ⟨name, h⟩

/-! ## Distinct numbers -/

/-- All jobs have instances with numbers of their own. -/
def Distinct (r : Registry) : Prop :=
  ∀ name job, r.job? name = some job → job.Distinct

namespace Distinct

theorem ofJobs (h : r.Distinct) (hj : r'.jobs = r.jobs) : r'.Distinct :=
  fun name job hjob => h name job (job?_congr hj name ▸ hjob)

theorem insert (h : r.Distinct) {name : String} {new : Job}
    (hj : r'.jobs = r.jobs.insert name new) (hnew : new.Distinct) : r'.Distinct := by
  intro key job hjob
  rw [job?, hj, Table.get?_insert] at hjob
  split at hjob
  · obtain rfl := Option.some.inj hjob
    exact hnew
  · exact h key job hjob

end Distinct

/-! ## Other ways to find a job -/

theorem mem_of_jobBySystemId? {id : String} (h : r.jobBySystemId? id = some job) :
    job ∈ r.jobs.values :=
  List.mem_of_find?_eq_some h

theorem mem_of_jobByAddress? {text : String} (h : r.jobByAddress? text = some job) :
    job ∈ r.jobs.values ∧ job.hasAddress text = true := by
  rw [jobByAddress?] at h
  have hfound := List.find?_some h
  exact ⟨List.mem_of_find?_eq_some h, hfound⟩

/-- An address belongs to nobody if no job has it. -/
theorem jobByAddress?_eq_none {a : IpAddress} : r.jobByAddress? a.text = none ↔
    ∀ job ∈ r.jobs.values, ∀ t ∈ job.addressTexts, IpAddress.denoted? t ≠ some a := by
  simp only [jobByAddress?, List.find?_eq_none, Job.hasAddress_text, not_exists, not_and]

/-- A job that has an address is found by it once it was stored, unless another one comes first. -/
theorem jobByAddress?_insert {text : String} (hj : r'.jobs = r.jobs.insert name job)
    (hhas : job.hasAddress text = true)
    (hfirst : ∀ key owner, r.job? key = some owner → r.jobByAddress? text = some owner →
      key = name) : r'.jobByAddress? text = some job := by
  rw [jobByAddress?, hj]
  exact Table.find?_values_insert hhas hfirst

/-- All spellings of an address find the same job. -/
theorem jobByAddress?_spelling {text text' : String}
    (h : canonicalAddress text' = canonicalAddress text) (r : Registry) :
    r.jobByAddress? text' = r.jobByAddress? text := by
  simp only [jobByAddress?, Job.hasAddress, h]

/-! ## What all jobs hold -/

/-- The instance addresses of all jobs, each with its family. -/
def held (r : Registry) : List (Family × String) :=
  r.jobs.values.flatMap Job.held

theorem held_congr (h : r'.jobs.map Job.withoutParties = r.jobs.map Job.withoutParties) :
    r'.held = r.held := by
  have hvalues := congrArg Table.values h
  rw [Table.values_map, Table.values_map] at hvalues
  have hheld : ∀ jobs : List Job,
      jobs.flatMap Job.held = (jobs.map Job.withoutParties).flatMap Job.held := by
    intro jobs
    rw [List.flatMap_map]
    rfl
  rw [held, held, hheld, hvalues, ← hheld]

/-- What is held once a job was stored: what was held, without what the job under that name held
before, and with what it holds now. -/
theorem held_insert (hj : s.jobs = r.jobs.insert name job) :
    ((r.job? name).toList.flatMap Job.held ++ s.held).Perm (job.held ++ r.held) := by
  rw [held, held, hj]
  exact Table.flatMap_values_insert Job.held r.jobs name job

/-- What is held once a new job was stored. -/
theorem held_insert_of_none (hj : s.jobs = r.jobs.insert name job) (h : r.job? name = none) :
    s.held.Perm (job.held ++ r.held) := by
  have hperm := held_insert hj
  rwa [h] at hperm

/-- What is held once a job took the place of another one. -/
theorem held_insert_of_some (hj : s.jobs = r.jobs.insert name job') (h : r.job? name = some job) :
    (job.held ++ s.held).Perm (job'.held ++ r.held) := by
  have hperm := held_insert hj
  rwa [h, Option.toList_some, List.flatMap_singleton] at hperm

/-- A job that holds what it held before leaves what is held as it is. -/
theorem held_insert_of_same (hj : s.jobs = r.jobs.insert name job') (h : r.job? name = some job)
    (hheld : job'.held = job.held) : s.held.Perm r.held := by
  have hperm := held_insert_of_some hj h
  rw [hheld] at hperm
  exact (List.perm_append_left_iff _).1 hperm

end Registry

end Overlay
