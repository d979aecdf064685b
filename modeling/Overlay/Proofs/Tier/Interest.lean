import Overlay.Proofs.Cluster.Reports

/-!
# Who is interested

Parties join jobs and leave them, in whatever order. What counts is what each of them has said last:
`Surroundings.tracks` says so for every run of such calls, from any registry. A call edits the record
of one job, and in it the place of one party (`InterestCall.edit`); what it answers depends on that
record alone. So calls about different jobs do not concern each other.

A cluster drops a record with the last party, and withdraws its interest at the parent in the same
step. Then the job is gone: those who join it later are not noted. At the root records stay.
-/

namespace Overlay

/-! ## Calls -/

/-- A call about who is interested in a job. -/
inductive InterestCall where
  | add (jobName party : String)
  | remove (jobName party : String)

namespace InterestCall

variable {σ : Type}

/-- The job that a call is about. -/
def jobName : InterestCall → String
  | add name _ | remove name _ => name

/-- The party that calls. -/
def party : InterestCall → String
  | add _ party | remove _ party => party

/-- Whether the party joins. -/
def isAdd : InterestCall → Bool
  | add _ _ => true
  | remove _ _ => false

/-- The job and the party of a call are named. -/
def Named (call : InterestCall) : Prop :=
  call.jobName ≠ "" ∧ call.party ≠ ""

/-- What a call answers. -/
abbrev Answer : InterestCall → Type
  | add _ _ => Bool
  | remove _ _ => InterestChange

/-- The call at a tier. -/
def perform (t : Tier σ) : (call : InterestCall) → Action σ TierError call.Answer
  | add name party => t.addInterest name party
  | remove name party => t.removeInterest name party

/-- What is left of the record of the job. Where unused records are dropped, it goes with the last
party. -/
def edit (dropUnused : Bool) : InterestCall → Job → Option Job
  | add _ party, job => some { job with parties := job.parties.insert party }
  | remove _ party, job =>
    if job.parties.contains party && dropUnused && (job.parties.erase party).isEmpty then none
    else some { job with parties := job.parties.erase party }

/-- What the call answers, given the record of the job. -/
def answer (dropUnused : Bool) : (call : InterestCall) → Option Job → Except TierError call.Answer
  | add _ party, found => .ok ((found.map fun job => !job.parties.contains party).getD false)
  | remove name _, none => .error (.jobNotFound name)
  | remove name party, some job => .ok ⟨job.parties.contains party, (job.parties.erase party).size,
      ((remove name party).edit dropUnused job).isNone⟩

/-- The only party that is interested in a job leaves it. -/
def TakesLast (call : InterestCall) (name : String) (job : Job) : Prop :=
  call.isAdd = false ∧ call.jobName = name ∧ ∀ party, party ∈ job.parties ↔ party = call.party

/-- What a party has said last about a job, if it has said anything. -/
def lastWord (name party : String) (calls : List InterestCall) : Option InterestCall :=
  calls.find? fun call => call.jobName == name && call.party == party

variable {dropUnused : Bool} {call : InterestCall} {job new : Job}

theorem lastWord_cons (name party : String) (call : InterestCall) (earlier : List InterestCall) :
    lastWord name party (call :: earlier) =
      if call.jobName = name ∧ call.party = party then some call
      else lastWord name party earlier := by
  rw [lastWord, List.find?_cons]
  split
  · next h => rw [if_pos (by simpa using h)]
  · next h => rw [if_neg (by simpa using h), lastWord]

/-- An edit changes the place of one party. -/
theorem edit_eq_some (h : call.edit dropUnused job = some new) :
    new.withoutParties = job.withoutParties ∧
      ∀ party, party ∈ new.parties ↔
        if call.party = party then call.isAdd = true else party ∈ job.parties := by
  cases call with
  | add name joining =>
    obtain rfl := Option.some.inj h
    refine ⟨rfl, fun party => ?_⟩
    by_cases heq : joining = party
    · simp [InterestCall.party, isAdd, heq]
    · simp [InterestCall.party, heq, Ne.symm heq]
  | remove name leaving =>
    simp only [edit] at h
    split at h
    · cases h
    obtain rfl := Option.some.inj h
    refine ⟨rfl, fun party => ?_⟩
    by_cases heq : leaving = party
    · simp [InterestCall.party, isAdd, heq]
    · simp [InterestCall.party, heq, Ne.symm heq]

/-- A record goes when its only party leaves. -/
theorem edit_eq_none_iff : call.edit dropUnused job = none ↔ dropUnused = true ∧
    call.isAdd = false ∧ ∀ other, other ∈ job.parties ↔ other = call.party := by
  cases call with
  | add name joining => simp [edit, isAdd]
  | remove name leaving =>
    have hedit : (remove name leaving).edit dropUnused job = none ↔
        (leaving ∈ job.parties ∧ dropUnused = true) ∧
          (job.parties.erase leaving).isEmpty = true := by
      simp only [edit, Membership.mem, ite_eq_left_iff, reduceCtorEq, imp_false, not_not,
        Bool.and_eq_true]
    rw [hedit]
    constructor
    · rintro ⟨⟨hmem, hdrop⟩, hempty⟩
      exact ⟨hdrop, rfl, (NameSet.isEmpty_erase_iff hmem).1 hempty⟩
    · rintro ⟨hdrop, -, honly⟩
      have hmem : leaving ∈ job.parties := (honly leaving).2 rfl
      exact ⟨⟨hmem, hdrop⟩, (NameSet.isEmpty_erase_iff hmem).2 honly⟩

end InterestCall

namespace Registry

variable {r : Registry} {call other : InterestCall} {dropUnused : Bool} {name : String}

/-- The registry after a call. -/
def heed (dropUnused : Bool) (call : InterestCall) (r : Registry) : Registry :=
  match call with
  | .add name party => (r.addParty name party).2
  | .remove name party => (r.removeParty name party dropUnused).2

/-- Only jobs change. -/
theorem OnlyJobs.heed (dropUnused : Bool) (call : InterestCall) (r : Registry) :
    r.OnlyJobs (r.heed dropUnused call) := by
  cases call with
  | add name party => exact .addParty r name party
  | remove name party => exact .removeParty r name party dropUnused

/-- What a party is told that joins. -/
theorem addParty_fst (r : Registry) (name party : String) : (r.addParty name party).1 =
    (r.job? name).map fun job => !job.parties.contains party := by
  rw [addParty]
  cases r.job? name <;> rfl

/-- What a party is told that leaves. -/
theorem removeParty_fst {job : Job} (hjob : r.job? name = some job)
    (party : String) (dropUnused : Bool) : (r.removeParty name party dropUnused).1 =
      some ⟨job.parties.contains party, (job.parties.erase party).size,
        ((InterestCall.remove name party).edit dropUnused job).isNone⟩ := by
  rw [removeParty, hjob, InterestCall.edit]
  dsimp only
  split
  · next hlast => rw [hlast]; rfl
  · next hkept =>
    rw [Bool.not_eq_true] at hkept
    rw [hkept]
    split <;> rfl

theorem heed_of_none (dropUnused : Bool) (hjob : r.job? call.jobName = none) :
    r.heed dropUnused call = r := by
  cases call with
  | add name party =>
    have hnone : r.job? name = none := hjob
    rw [heed, addParty, hnone]
  | remove name party =>
    have hnone : r.job? name = none := hjob
    rw [heed, removeParty, hnone]

theorem heed_of_some (dropUnused : Bool) {job : Job} (hjob : r.job? call.jobName = some job) :
    (r.heed dropUnused call).jobs = match call.edit dropUnused job with
      | none => r.jobs.erase call.jobName
      | some new => r.jobs.insert call.jobName new := by
  cases call with
  | add name party =>
    have hsome : r.job? name = some job := hjob
    rw [heed, addParty, hsome]
    rfl
  | remove name party =>
    have hsome : r.job? name = some job := hjob
    rw [heed, removeParty, hsome, InterestCall.edit]
    dsimp only
    split
    · rfl
    split
    · rfl
    · next hstranger =>
      have hsame : { job with parties := job.parties.erase party } = job := by
        rw [NameSet.erase_of_not_mem hstranger]
      rw [hsame]
      exact (Table.insert_of_get? hsome).symm

/-- **One call.** It edits the record of the job that it is about, and no other one. -/
theorem job?_heed (dropUnused : Bool) (call : InterestCall) (r : Registry) (name : String) :
    (r.heed dropUnused call).job? name =
      if call.jobName = name then (r.job? name).bind (call.edit dropUnused) else r.job? name := by
  cases hjob : r.job? call.jobName with
  | none =>
    rw [heed_of_none dropUnused hjob]
    split
    · next heq => rw [← heq, hjob, Option.bind_none]
    · rfl
  | some job =>
    rw [job?, heed_of_some dropUnused hjob]
    by_cases heq : call.jobName = name
    · rw [if_pos heq, ← heq, hjob, Option.bind_some]
      cases call.edit dropUnused job with
      | none => exact Table.get?_erase_self ..
      | some new => exact Table.get?_insert_self ..
    · rw [if_neg heq]
      cases call.edit dropUnused job with
      | none => exact Table.get?_erase_of_ne _ (Ne.symm heq)
      | some new => exact Table.get?_insert_of_ne _ (Ne.symm heq) new

/-- Registries with the same jobs that are the same otherwise. -/
theorem OnlyJobs.eq_of_jobs {r' r'' : Registry} (h : r.OnlyJobs r') (h' : r.OnlyJobs r'')
    (hjobs : ∀ name, r'.job? name = r''.job? name) : r' = r'' := by
  obtain ⟨jobs', pools', clusters', nodes', gateways'⟩ := r'
  obtain ⟨jobs'', pools'', clusters'', nodes'', gateways''⟩ := r''
  obtain rfl : jobs' = jobs'' := Table.ext_get? hjobs
  obtain ⟨rfl, rfl, rfl, rfl⟩ := h
  obtain ⟨rfl, rfl, rfl, rfl⟩ := h'
  rfl

/-- **Swapping.** Calls about different jobs can be made in any order. -/
theorem heed_comm (hne : call.jobName ≠ other.jobName) (dropUnused : Bool) (r : Registry) :
    (r.heed dropUnused call).heed dropUnused other =
      (r.heed dropUnused other).heed dropUnused call := by
  refine OnlyJobs.eq_of_jobs (r := r) ((OnlyJobs.heed ..).trans (.heed ..))
    ((OnlyJobs.heed ..).trans (.heed ..)) fun name => ?_
  simp only [job?_heed]
  by_cases hcall : call.jobName = name
  · have hother : other.jobName ≠ name := fun hother => hne (hcall.trans hother.symm)
    simp only [if_pos hcall, if_neg hother]
  · simp only [if_neg hcall]

end Registry

namespace InterestCall

/-- Whether the record of the job goes with a call. -/
def drops (dropUnused : Bool) (call : InterestCall) (r : Registry) : Bool :=
  (r.job? call.jobName).any fun job => (call.edit dropUnused job).isNone

theorem drops_iff {dropUnused : Bool} {call : InterestCall} {r : Registry} :
    call.drops dropUnused r = true ↔ (r.job? call.jobName).isSome = true ∧
      (r.heed dropUnused call).job? call.jobName = none := by
  rw [drops, Registry.job?_heed, if_pos rfl]
  cases r.job? call.jobName <;> simp

end InterestCall

namespace Surroundings

variable {ε : Type} {S : Surroundings ε} {cluster : Option String} {s : Observed ε}
  {call : InterestCall}

theorem isSome_parent? (S : Surroundings ε) (cluster : Option String) :
    (S.tierAt cluster).parent?.isSome = cluster.isSome := by
  cases cluster <;> rfl

/-- A party joins a job. -/
theorem perform_add {name party : String} (hname : name ≠ "") (hparty : party ≠ "")
    (S : Surroundings ε) (cluster : Option String) (s : Observed ε) :
    (S.tierAt cluster).addInterest name party s =
      ((InterestCall.add name party).answer cluster.isSome (s.registry.job? name),
        { s with registry := s.registry.heed cluster.isSome (.add name party) }) := by
  simp only [Tier.addInterest, String.isEmpty_iff, hname, hparty, if_false]
  rw [InterestCall.answer, ← Registry.addParty_fst]
  rfl

/-- A party leaves a job. If the record goes with it, the parent is told, whose answer does not
matter. -/
theorem perform_remove (S : Surroundings ε) (cluster : Option String) (s : Observed ε)
    (name party : String) :
    ∃ outside, (S.tierAt cluster).removeInterest name party s =
      ((InterestCall.remove name party).answer cluster.isSome (s.registry.job? name),
        { registry := s.registry.heed cluster.isSome (.remove name party)
          asked := s.asked ++ if (InterestCall.remove name party).drops cluster.isSome s.registry
            then [.removeInterest name] else []
          outside }) := by
  have hrecord : ((S.tierAt cluster).record fun r =>
        r.removeParty name party (S.tierAt cluster).parent?.isSome :
      Action (Observed ε) TierError (Option InterestChange)) s =
      (.ok (s.registry.removeParty name party cluster.isSome).1,
        { s with registry := s.registry.heed cluster.isSome (.remove name party) }) := by
    rw [isSome_parent?]
    rfl
  rw [Tier.removeInterest, Action.bind_of_ok hrecord]
  have hdrops : (InterestCall.remove name party).drops cluster.isSome s.registry =
      (s.registry.job? name).any fun job =>
        ((InterestCall.remove name party).edit cluster.isSome job).isNone := rfl
  rw [hdrops]
  cases hjob : s.registry.job? name with
  | none =>
    rw [Registry.removeParty, hjob]
    refine ⟨s.outside, ?_⟩
    simp only [Option.any_none, Bool.false_eq_true, if_false, List.append_nil]
    rfl
  | some job =>
  rw [Registry.removeParty_fst hjob, Option.any_some]
  cases hgoes : ((InterestCall.remove name party).edit cluster.isSome job).isNone with
  | false =>
    refine ⟨s.outside, ?_⟩
    simp only [InterestCall.answer, hgoes, Bool.false_eq_true, if_false, List.append_nil]
    rfl
  | true =>
    cases cluster with
    | none =>
      have hdrop := (InterestCall.edit_eq_none_iff.1 (Option.isNone_iff_eq_none.1 hgoes)).1
      cases hdrop
    | some id =>
      refine ⟨(S.answer (.removeInterest name) s.outside).2, ?_⟩
      simp only [InterestCall.answer, hgoes, if_true]
      rfl

/-- **One call.** What it answers and what becomes of the record depend on the record alone. The
parent hears of the call if the record goes. -/
theorem perform_eq (hcall : call.Named) (S : Surroundings ε) (cluster : Option String)
    (s : Observed ε) :
    ∃ outside, call.perform (S.tierAt cluster) s =
      (call.answer cluster.isSome (s.registry.job? call.jobName),
        { registry := s.registry.heed cluster.isSome call
          asked := s.asked ++ if call.drops cluster.isSome s.registry
            then [.removeInterest call.jobName] else []
          outside }) := by
  cases call with
  | add name party =>
    refine ⟨s.outside, (perform_add hcall.1 hcall.2 S cluster s).trans ?_⟩
    have hkeeps : (InterestCall.add name party).drops cluster.isSome s.registry = false := by
      rw [InterestCall.drops]
      cases s.registry.job? (InterestCall.add name party).jobName <;> rfl
    rw [hkeeps]
    simp only [Bool.false_eq_true, if_false, List.append_nil]
    rfl
  | remove name party => exact perform_remove S cluster s name party

/-! ## Runs of calls -/

/-- A tier after a run of calls, of which the last one stands first. -/
def heard (S : Surroundings ε) (cluster : Option String) (s : Observed ε) :
    List InterestCall → Observed ε
  | [] => s
  | call :: earlier => (call.perform (S.tierAt cluster) (S.heard cluster s earlier)).2

section Runs

variable {calls earlier : List InterestCall} {name : String}

theorem registry_heard_cons (hcall : call.Named) :
    (S.heard cluster s (call :: earlier)).registry =
      (S.heard cluster s earlier).registry.heed cluster.isSome call := by
  obtain ⟨outside, hrun⟩ := perform_eq hcall S cluster (S.heard cluster s earlier)
  rw [heard, hrun]

theorem asked_heard_cons (hcall : call.Named) :
    (S.heard cluster s (call :: earlier)).asked = (S.heard cluster s earlier).asked ++
      if call.drops cluster.isSome (S.heard cluster s earlier).registry
        then [.removeInterest call.jobName] else [] := by
  obtain ⟨outside, hrun⟩ := perform_eq hcall S cluster (S.heard cluster s earlier)
  rw [heard, hrun]

/-- The registry after a run is that of the calls one after the other. -/
theorem registry_heard (hcalls : ∀ call ∈ calls, call.Named) :
    (S.heard cluster s calls).registry =
      calls.foldr (fun call r => r.heed cluster.isSome call) s.registry := by
  induction calls with
  | nil => rfl
  | cons call earlier ih =>
    obtain ⟨hcall, hearlier⟩ := List.forall_mem_cons.1 hcalls
    rw [registry_heard_cons hcall, ih hearlier, List.foldr_cons]

/-- What a job that is there after a run has to do with the record before the run. -/
theorem members_heard (hcalls : ∀ call ∈ calls, call.Named) {job : Job}
    (hjob : (S.heard cluster s calls).registry.job? name = some job) :
    ∃ old, s.registry.job? name = some old ∧ job.withoutParties = old.withoutParties ∧
      ∀ party, party ∈ job.parties ↔ match InterestCall.lastWord name party calls with
        | some call => call.isAdd = true
        | none => party ∈ old.parties := by
  induction calls generalizing job with
  | nil => exact ⟨job, hjob, rfl, fun _ => .rfl⟩
  | cons call earlier ih =>
    obtain ⟨hcall, hearlier⟩ := List.forall_mem_cons.1 hcalls
    rw [registry_heard_cons hcall, Registry.job?_heed] at hjob
    -- The last call decides about its own party; all others are as the calls before have left them.
    by_cases hname : call.jobName = name
    · rw [if_pos hname] at hjob
      obtain ⟨before, hbefore, hedit⟩ := Option.bind_eq_some_iff.1 hjob
      obtain ⟨hsame, hparties⟩ := InterestCall.edit_eq_some hedit
      obtain ⟨old, hold, hrest, hmembers⟩ := ih hearlier hbefore
      refine ⟨old, hold, hsame.trans hrest, fun party => ?_⟩
      rw [hparties, InterestCall.lastWord_cons]
      by_cases hparty : call.party = party
      · simp [hname, hparty]
      · simp [hparty, hmembers]
    · rw [if_neg hname] at hjob
      obtain ⟨old, hold, hrest, hmembers⟩ := ih hearlier hjob
      refine ⟨old, hold, hrest, fun party => ?_⟩
      rw [hmembers, InterestCall.lastWord_cons]
      simp [hname]

/-- A job that is gone stays away. -/
theorem gone_heard (hcalls : ∀ call ∈ calls, call.Named) (hsuffix : earlier <:+ calls)
    (hgone : (S.heard cluster s earlier).registry.job? name = none) :
    (S.heard cluster s calls).registry.job? name = none := by
  obtain ⟨later, rfl⟩ := hsuffix
  induction later with
  | nil => exact hgone
  | cons call later ih =>
    obtain ⟨hcall, hlater⟩ := List.forall_mem_cons.1 hcalls
    rw [List.cons_append, registry_heard_cons hcall, Registry.job?_heed, ih hlater]
    simp

end Runs

/-! ## What counts -/

/-- What becomes of the records of a tier in a run of calls. -/
structure Tracks (S : Surroundings ε) (cluster : Option String) (s : Observed ε)
    (calls : List InterestCall) : Prop where
  /-- Of a job that is there, the parties are interested that have joined it last, and those that
  were and have said nothing. Nothing else in the record changes. -/
  members : ∀ name job, (S.heard cluster s calls).registry.job? name = some job →
    ∃ old, s.registry.job? name = some old ∧ job.withoutParties = old.withoutParties ∧
      ∀ party, party ∈ job.parties ↔ match InterestCall.lastWord name party calls with
        | some call => call.isAdd = true
        | none => party ∈ old.parties
  /-- An answer depends on the record of the job alone, and not on the parent. -/
  answers : ∀ call earlier, call :: earlier <:+ calls →
    (call.perform (S.tierAt cluster) (S.heard cluster s earlier)).1 =
      call.answer cluster.isSome ((S.heard cluster s earlier).registry.job? call.jobName)
  /-- A cluster drops the record of a job when its only party leaves, and in no other step. -/
  dropped : ∀ call earlier name job, call :: earlier <:+ calls →
    (S.heard cluster s earlier).registry.job? name = some job →
    ((S.heard cluster s (call :: earlier)).registry.job? name = none ↔
      cluster.isSome = true ∧ call.TakesLast name job)
  /-- In that step, and in no other one, the parent is called, once. -/
  asked : ∀ call earlier, call :: earlier <:+ calls →
    (S.heard cluster s (call :: earlier)).asked = (S.heard cluster s earlier).asked ++
      if ((S.heard cluster s earlier).registry.job? call.jobName).isSome = true ∧
          (S.heard cluster s (call :: earlier)).registry.job? call.jobName = none
        then [.removeInterest call.jobName] else []
  /-- Then the job is gone, and a party that joins is not noted. -/
  gone : ∀ earlier name, earlier <:+ calls →
    (S.heard cluster s earlier).registry.job? name = none →
    (S.heard cluster s calls).registry.job? name = none ∧
      ∀ party, party ≠ "" → (S.tierAt cluster).addInterest name party (S.heard cluster s calls) =
        (.ok false, S.heard cluster s calls)
  /-- The root keeps all records, and has nobody to call. -/
  root : cluster = none → (S.heard cluster s calls).asked = s.asked ∧
    ∀ name, ((S.heard cluster s calls).registry.job? name).isSome = (s.registry.job? name).isSome
  /-- Calls about different jobs that follow each other can be swapped. -/
  swaps : ∀ later second first earlier, calls = later ++ second :: first :: earlier →
    first.jobName ≠ second.jobName →
    (S.heard cluster s (later ++ first :: second :: earlier)).registry =
        (S.heard cluster s calls).registry ∧
      (first.perform (S.tierAt cluster) (S.heard cluster s (second :: earlier))).1 =
        (first.perform (S.tierAt cluster) (S.heard cluster s earlier)).1 ∧
      (second.perform (S.tierAt cluster) (S.heard cluster s earlier)).1 =
        (second.perform (S.tierAt cluster) (S.heard cluster s (first :: earlier))).1

section Tracking

variable {calls earlier : List InterestCall} {name : String} {other : InterestCall}

theorem answer_perform (hcall : call.Named) : (call.perform (S.tierAt cluster) s).1 =
    call.answer cluster.isSome (s.registry.job? call.jobName) := by
  obtain ⟨outside, hrun⟩ := perform_eq hcall S cluster s
  rw [hrun]

/-- A record is dropped when the only party leaves. -/
theorem dropped_heard (hcall : call.Named) {job : Job}
    (hjob : (S.heard cluster s earlier).registry.job? name = some job) :
    (S.heard cluster s (call :: earlier)).registry.job? name = none ↔
      cluster.isSome = true ∧ call.TakesLast name job := by
  rw [registry_heard_cons hcall, Registry.job?_heed, hjob]
  by_cases hname : call.jobName = name
  · rw [if_pos hname, Option.bind_some, InterestCall.edit_eq_none_iff, InterestCall.TakesLast]
    simp only [hname, true_and]
  · rw [if_neg hname]
    exact ⟨nofun, fun h => absurd h.2.2.1 hname⟩

/-- A party that joins a job that is not there is not noted. -/
theorem addInterest_of_none (hjob : s.registry.job? name = none) {party : String}
    (hparty : party ≠ "") : (S.tierAt cluster).addInterest name party s = (.ok false, s) := by
  by_cases hname : name = ""
  · subst hname
    rfl
  · rw [perform_add hname hparty, hjob, Registry.heed_of_none cluster.isSome hjob]
    rfl

/-- The root keeps its records. -/
theorem root_heard (hcalls : ∀ call ∈ calls, call.Named) :
    (S.heard none s calls).asked = s.asked ∧
      ∀ name, ((S.heard none s calls).registry.job? name).isSome =
        (s.registry.job? name).isSome := by
  induction calls with
  | nil => exact ⟨rfl, fun _ => rfl⟩
  | cons call earlier ih =>
    obtain ⟨hcall, hearlier⟩ := List.forall_mem_cons.1 hcalls
    obtain ⟨hasked, hrecords⟩ := ih hearlier
    have hkept : ∀ name job, (S.heard none s earlier).registry.job? name = some job →
        (S.heard none s (call :: earlier)).registry.job? name ≠ none :=
      fun name job hjob hnone => Bool.false_ne_true ((dropped_heard hcall hjob).1 hnone).1
    refine ⟨?_, fun name => ?_⟩
    · have hdrops :
          call.drops (none : Option String).isSome (S.heard none s earlier).registry = false := by
        rw [Bool.eq_false_iff, Ne, InterestCall.drops_iff, ← registry_heard_cons hcall]
        rintro ⟨hsome, hnone⟩
        obtain ⟨job, hjob⟩ := Option.isSome_iff_exists.1 hsome
        exact hkept _ job hjob hnone
      rw [asked_heard_cons hcall, hdrops, hasked]
      exact List.append_nil _
    · rw [← hrecords name]
      cases hjob : (S.heard none s earlier).registry.job? name with
      | none => rw [gone_heard hcalls (List.suffix_cons ..) hjob]
      | some job => exact Option.isSome_iff_ne_none.2 (hkept name job hjob)

/-- The answer to a call does not depend on a call about another job before it. -/
theorem answer_heard_cons (hcall : call.Named) (hother : other.Named)
    (hne : call.jobName ≠ other.jobName) :
    (call.perform (S.tierAt cluster) (S.heard cluster s (other :: earlier))).1 =
      (call.perform (S.tierAt cluster) (S.heard cluster s earlier)).1 := by
  rw [answer_perform hcall, answer_perform hcall, registry_heard_cons hother,
    Registry.job?_heed, if_neg (Ne.symm hne)]

end Tracking

/-- **Interest.** Whoever joins and leaves jobs in whatever order, at the root or at a cluster: the
parties of a job are those that want it. -/
theorem tracks (S : Surroundings ε) (cluster : Option String) (s : Observed ε)
    (calls : List InterestCall) (hcalls : ∀ call ∈ calls, call.Named) :
    S.Tracks cluster s calls where
  members name job hjob := members_heard hcalls hjob
  answers call earlier hsuffix :=
    answer_perform (hcalls call (hsuffix.subset List.mem_cons_self))
  dropped call earlier name job hsuffix hjob :=
    dropped_heard (hcalls call (hsuffix.subset List.mem_cons_self)) hjob
  asked call earlier hsuffix := by
    have hcall := hcalls call (hsuffix.subset List.mem_cons_self)
    simp only [asked_heard_cons hcall, InterestCall.drops_iff, registry_heard_cons hcall]
  gone earlier name hsuffix hjob := by
    have hgone := gone_heard hcalls hsuffix hjob
    exact ⟨hgone, fun party hparty => addInterest_of_none hgone hparty⟩
  root hcluster := by
    subst hcluster
    exact root_heard hcalls
  swaps later second first earlier hsplit hne := by
    subst hsplit
    have hfirst : first.Named := hcalls first (by simp)
    have hsecond : second.Named := hcalls second (by simp)
    have hperm : (later ++ first :: second :: earlier).Perm (later ++ second :: first :: earlier) :=
      .append_left later (.swap ..)
    have hswapped : ∀ call ∈ later ++ first :: second :: earlier, call.Named :=
      fun call hcall => hcalls call (hperm.mem_iff.1 hcall)
    refine ⟨?_, answer_heard_cons hfirst hsecond hne,
      (answer_heard_cons hsecond hfirst (Ne.symm hne)).symm⟩
    rw [registry_heard hswapped, registry_heard hcalls, List.foldr_append, List.foldr_append]
    simp only [List.foldr_cons]
    rw [Registry.heed_comm (Ne.symm hne)]

/-- A parent that cannot be reached. -/
def cutOff : Surroundings Unit where
  answer _ := throw (.unreachable "no answer")
  deliver _ _ := pure ()

/-- A worker joins a job and leaves it again, while another one leaves that never joined. A third
one comes too late. -/
def joinedAndLeft : List InterestCall :=
  [.add "a.n.s.n" "w3", .remove "a.n.s.n" "w1", .remove "a.n.s.n" "w2", .add "a.n.s.n" "w1"]

theorem tracks_joinedAndLeft : (∀ call ∈ joinedAndLeft, call.Named) ∧
    cutOff.Tracks (some "c1") ⟨(∅ : Registry).putJob ClusterTier.single, [], ()⟩ joinedAndLeft := by
  have hnamed : ∀ call ∈ joinedAndLeft, call.Named := by
    simp only [InterestCall.Named]
    decide
  exact ⟨hnamed, tracks cutOff (some "c1") _ joinedAndLeft hnamed⟩

example : (cutOff.heard (some "c1") ⟨(∅ : Registry).putJob ClusterTier.single, [], ()⟩
    joinedAndLeft).asked = [.removeInterest "a.n.s.n"] := by decide

end Surroundings

end Overlay
