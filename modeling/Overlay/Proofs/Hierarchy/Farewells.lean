import Overlay.Proofs.Hierarchy.Callbacks

/-!
# Farewells

When the root has undeployed an instance, the locations of the instance are stale wherever it is
cached. The root tells all interested parties, one after the other, and with each message one cache
becomes fresh (`Hierarchy.Told.coherent`), as long as the caches that have the instance belong to
clusters where somebody is interested in the job (`Hierarchy.Heeded`). A cluster that does not
listen keeps what it has (`Hierarchy.tell_unheard`).
-/

namespace Overlay

/-! ## Being told -/

namespace Registry

variable {r : Registry} {jobName : String} {number : UInt32}

/-- Each job once the tier was told of an undeployment. -/
theorem job?_heard (key : String) : (r.heard jobName number).job? key =
    (r.job? key).map fun job =>
      if key = jobName ∧ job.parties.isEmpty = false then job.remove number else job := by
  rw [heard]
  cases hjob : r.job? jobName with
  | none =>
    dsimp only
    cases hkey : r.job? key with
    | none => rfl
    | some job =>
      rw [Option.map_some, if_neg]
      rintro ⟨rfl, -⟩
      rw [hjob] at hkey
      cases hkey
  | some old =>
    dsimp only
    cases hempty : old.parties.isEmpty with
    | true =>
      rw [if_pos rfl]
      cases hkey : r.job? key with
      | none => rfl
      | some job =>
        rw [Option.map_some, if_neg]
        rintro ⟨rfl, hsome⟩
        obtain rfl := Option.some.inj (hjob.symm.trans hkey)
        rw [hempty] at hsome
        cases hsome
    | false =>
      rw [if_neg Bool.false_ne_true, job?, Table.get?_insert]
      split
      · next heq =>
        subst heq
        rw [hjob, Option.map_some, if_pos ⟨rfl, hempty⟩]
      · next hne =>
        have hsame : (fun job : Job => if key = jobName ∧ job.parties.isEmpty = false then
            job.remove number else job) = id := by
          funext job
          rw [if_neg fun h => hne h.1]
          rfl
        rw [hsame, Option.map_id]
        rfl

end Registry

namespace Hierarchy

variable {n : Nat} {ids : Fin n ↪ String} {i : Fin n} {w w' : World n}

/-! ## One message -/

/-- What is stale while the root is still telling some recipients that an instance is gone. -/
def Awaiting (ids : Fin n ↪ String) (recipients : List String) (jobName : String) (number : UInt32)
    (i : Fin n) (name : String) (l : UInt32 × Addresses) : Prop :=
  name = jobName ∧ l.1 = number ∧ ids i ∈ recipients

/-- Wherever an instance of a job is cached, somebody is interested in the job. -/
def Heeded (jobName : String) (number : UInt32) (w : World n) : Prop :=
  ∀ (i : Fin n) (job : Job), w.clusters[i].job? jobName = some job →
    (∃ l ∈ job.locations, l.1 = number) → job.parties.isEmpty = false

section

variable {recipient jobName : String} {number : UInt32} {rest : List String}
  (ht : Told ids [recipient] ⟨jobName, number, .undeployment⟩ (·.heard jobName number) w w')

include ht

/-- A cached record is as it was before the message, or the instance was removed from it. -/
theorem Told.cached {k : Fin n} {name : String} {job : Job}
    (hjob : w'.clusters[k].job? name = some job) :
    ∃ old, w.clusters[k].job? name = some old ∧
      (job = old.remove number ∧ old.parties.isEmpty = false ∨
        job = old ∧ (ids k = recipient → (w.root.cluster? (ids k)).isSome = true →
          name = jobName → old.parties.isEmpty = true)) := by
  rw [ht.clusters k] at hjob
  split at hjob
  · next htold =>
    rw [Registry.job?_heard] at hjob
    obtain ⟨old, hold, hnew⟩ := Option.map_eq_some_iff.1 hjob
    refine ⟨old, hold, ?_⟩
    split at hnew
    · next hheard => exact .inl ⟨hnew.symm, hheard.2⟩
    · next hunheard =>
      refine .inr ⟨hnew.symm, fun _ _ hname => ?_⟩
      rw [← Bool.not_eq_false]
      exact fun hempty => hunheard ⟨hname, hempty⟩
  · next hother =>
    refine ⟨job, hjob, .inr ⟨rfl, fun hk hregistered _ => absurd ⟨?_, hregistered⟩ hother⟩⟩
    exact List.mem_singleton.2 hk

/-- Once the message was sent, its recipient has nothing stale any more. -/
theorem Told.coherent (h : Coherent ids (Awaiting ids (recipient :: rest) jobName number) w)
    (hheeded : Heeded jobName number w) :
    Coherent ids (Awaiting ids rest jobName number) w' := by
  refine ⟨ht.sound, fun k name job hjob => ?_⟩
  obtain ⟨old, hold, hcases⟩ := ht.cached hjob
  obtain ⟨hname, hd, hregistered, known, hknown, hparty, hlocations⟩ := h.cached k name old hold
  have hregistered' : (w'.root.cluster? (ids k)).isSome = true := by
    rw [ht.registered k]
    exact hregistered
  have hknown' : w'.root.job? name = some known := (Registry.job?_congr ht.jobs name).trans hknown
  rcases hcases with ⟨rfl, -⟩ | ⟨rfl, hkept⟩
  · refine ⟨hname, hd.remove number, hregistered', known, hknown', hparty, fun l hl => ?_⟩
    obtain ⟨hl, hn⟩ := hd.mem_locations_remove.1 hl
    exact (hlocations l hl).imp id fun hstale => absurd hstale.2.1 hn
  · refine ⟨hname, hd, hregistered', known, hknown', hparty, fun l hl => ?_⟩
    refine (hlocations l hl).imp id fun hstale => ?_
    obtain ⟨rfl, hn, hrecipient⟩ := hstale
    refine ⟨rfl, hn, (List.mem_cons.1 hrecipient).resolve_left fun hk => ?_⟩
    have hempty := hkept hk hregistered rfl
    rw [hheeded k job hold ⟨l, hl, hn⟩] at hempty
    cases hempty

theorem Told.heeded (hheeded : Heeded jobName number w) : Heeded jobName number w' := by
  rintro k job hjob ⟨l, hl, hn⟩
  obtain ⟨old, hold, hcases⟩ := ht.cached hjob
  rcases hcases with ⟨rfl, hsome⟩ | ⟨rfl, -⟩
  · exact hsome
  · exact hheeded k job hold ⟨l, hl, hn⟩

end

/-! ## All messages -/

/-- **Farewells.** When all parties were told, nothing is stale. -/
theorem tell_farewells {recipients : List String} {jobName : String} {number : UInt32}
    (h : Coherent ids (Awaiting ids recipients jobName number) w)
    (hheeded : Heeded jobName number w) :
    Fresh ids ((directRoot ids).tell
      (recipients.map (·, .update ⟨jobName, number, .undeployment⟩)) w) := by
  induction recipients generalizing w with
  | nil => exact h.weaken fun _ _ _ _ _ _ hstale => nomatch hstale.2.2
  | cons recipient rest ih =>
    have ht := callBack_heard h.sound recipient jobName number
    exact ih (ht.coherent h hheeded) (ht.heeded hheeded)

/-- A cluster where nobody is interested keeps what it has cached. -/
theorem tell_unheard {jobName : String} {cached : Job} (h : Sound ids w.root)
    (hcached : w.clusters[i].job? jobName = some cached) (hempty : cached.parties.isEmpty = true)
    (recipients : List String) (number : UInt32) :
    ((directRoot ids).tell (recipients.map (·, .update ⟨jobName, number, .undeployment⟩))
        w).root.jobs = w.root.jobs ∧
      ((directRoot ids).tell (recipients.map (·, .update ⟨jobName, number, .undeployment⟩))
        w).clusters[i] = w.clusters[i] := by
  induction recipients generalizing w with
  | nil => exact ⟨rfl, rfl⟩
  | cons recipient rest ih =>
    have ht := callBack_heard h recipient jobName number
    have hsame : (callBack ids recipient (.update ⟨jobName, number, .undeployment⟩)
        w).2.clusters[i] = w.clusters[i] := by
      have hnobody : (w.clusters[i].parties jobName).isEmpty = true := by
        rw [Registry.parties, hcached]
        exact hempty
      rw [ht.clusters i, Registry.heard_of_isEmpty hnobody, ite_self]
    obtain ⟨hjobs, hcluster⟩ := ih ht.sound (hsame ▸ hcached)
    exact ⟨hjobs.trans ht.jobs, hcluster.trans hsame⟩

end Hierarchy

end Overlay
