import Overlay.Proofs.Hierarchy.Callbacks

/-!
# Announcements

The root announces a change of a job to the parties that are interested in it, one after the other.
It lists every cluster that has cached the job, in every state of every run
(`Hierarchy.linked_after`). So each cluster where somebody is interested hears of the change, and it
hears of it once, because the parties of a job are distinct; what it does about the change then
depends on nothing that the announcement to another cluster has changed (`Hierarchy.announce_spec`).
-/

namespace Overlay.Hierarchy

open Overlay.Action (Triple)

variable {n : Nat} {ids : Fin n ↪ String} {w w' w'' : World n}

/-! ## The root lists who has cached a job -/

section

variable {recipients : List String} {update : JobUpdate} {f : Registry → Registry}

/-- Recipients that only lose something leave the caches linked. -/
theorem Told.linked (ht : Told ids recipients update f w w') (hf : ∀ r : Registry, r.Shrinks (f r))
    (h : Linked ids w) : Linked ids w' := by
  refine ⟨ht.sound, fun k name job hjob => ?_⟩
  have hshrinks : w.clusters[k].Shrinks w'.clusters[k] := by
    rw [ht.clusters k]
    split
    · exact hf _
    · exact .refl _
  obtain ⟨old, hold, hname, hdistinct, hlocations⟩ := hshrinks name job hjob
  obtain ⟨hnamed, hd, hregistered, known, hknown, hparty, -⟩ := h.cached k name old hold
  refine ⟨hname.trans hnamed, hdistinct hd, ?_, known, ?_, hparty, fun _ _ => .inr trivial⟩
  · rw [ht.registered k]
    exact hregistered
  · exact (Registry.job?_congr ht.jobs name).trans hknown

end

/-- What a tier forgets when it is told of an undeployment. -/
theorem shrinks_heard (r : Registry) (jobName : String) (number : UInt32) :
    r.Shrinks (r.heard jobName number) := by
  rw [Registry.heard]
  split
  · next job hjob =>
    split
    · exact .refl r
    · exact .removed hjob
  · exact .refl r

/-- Calling back leaves the caches linked, whatever the change is. -/
theorem callBack_linked (h : Linked ids w) (recipient : String) (update : JobUpdate) :
    Linked ids (callBack ids recipient (.update update) w).2 := by
  obtain ⟨jobName, number, change⟩ := update
  cases change with
  | deployment => exact callBack_coherent recipient _ w rfl h
  | undeployment =>
    exact (callBack_heard h.sound recipient jobName number).linked (shrinks_heard · _ _) h

/-- Calls from outside leave the caches linked. -/
theorem perform_linked {call : RootCall} (outside : call.forChild = false) (h : Linked ids w) :
    Linked ids ((directRoot ids).perform call w).2 := by
  obtain ⟨lost, hb⟩ := h.sound.books
  obtain ⟨r', messages, hstep, hw'⟩ := Tier.perform_spec (t := directRoot ids) rfl hb call
  obtain ⟨hsound, hclusters⟩ := h.sound.step hb hstep fun _ => Tier.perform_identifies rfl
  have hcall : ∀ name party, call ≠ .removeInterest name party := by
    intro name party heq
    subst heq
    cases outside
  rw [hw']
  refine Tier.tell_keeps (h.retain hsound (hstep.retains hb hcall) hclusters) fun m hm w hw => ?_
  obtain ⟨update, hupdate⟩ := hstep.updates m hm
  rw [hupdate]
  exact callBack_linked hw m.1 update

theorem Linked.run (h : Linked ids w) (step : Step n) : Linked ids (step.run ids w) := by
  cases step with
  | root call outside => exact perform_linked outside h
  | join i address port => exact (registerWithParent_coherent callBack_coherent address port).after h
  | request i client wanted => exact (handle_coherent callBack_coherent client wanted).after h

/-- **Interest.** After every run, whatever is stale, the root knows each job that is cached and
lists the clusters that have cached it. -/
theorem linked_after (ids : Fin n ↪ String) (steps : List (Step n)) :
    Linked ids (after ids steps) := by
  induction steps with
  | nil => exact Coherent.empty
  | cons step earlier ih => exact ih.run step

/-! ## One announcement -/

/-- The root knows a job and lists every cluster where somebody is interested in it. -/
structure Listed (ids : Fin n ↪ String) (known : Job) (w : World n) : Prop where
  sound : Sound ids w.root
  found : w.root.job? known.name = some known
  listed : ∀ i, (w.clusters[i].parties known.name).isEmpty = false →
    (w.root.cluster? (ids i)).isSome = true ∧ ids i ∈ known.parties

theorem Linked.listed (h : Linked ids w) {name : String} {known : Job}
    (hknown : w.root.job? name = some known) : Listed ids known w := by
  obtain ⟨lost, hb⟩ := h.sound.books
  obtain rfl : known.name = name := hb.named name known hknown
  refine ⟨h.sound, hknown, fun i hi => ?_⟩
  obtain ⟨job, hjob, -⟩ := Registry.job?_of_parties hi
  obtain ⟨-, -, hregistered, known', hknown', hparty, -⟩ := h.cached i known.name job hjob
  obtain rfl := Option.some.inj (hknown.symm.trans hknown')
  exact ⟨hregistered, hparty⟩

/-- Every cluster that is called back because of a change of a job relays it: it changes its registry
in some way, unless nobody there is interested, and tells its interested workers. -/
structure Relays (ids : Fin n ↪ String) (known : Job) (update : JobUpdate)
    (f : Registry → Registry) : Prop where
  about : update.jobName = known.name
  parties : ∀ r : Registry, (f r).parties known.name = r.parties known.name
  idle : ∀ r : Registry, (r.parties known.name).isEmpty = true → f r = r
  relay : ∀ (w : World n) (i : Fin n), Listed ids known w →
    Triple (· = w) ((calledBack ids i).applyUpdate update)
      (fun _ w' => w' = w.announcedAt i update f) (fun _ _ => False)

theorem relays_undeployment (ids : Fin n ↪ String) (known : Job) (number : UInt32) :
    Relays ids known ⟨known.name, number, .undeployment⟩ (·.heard known.name number) where
  about := rfl
  parties _ := Registry.parties_heard known.name number
  idle _ hempty := Registry.heard_of_isEmpty hempty
  relay _ _ _ := applyUpdate_heard rfl

theorem relays_deployment (ids : Fin n ↪ String) (known : Job) (number : UInt32) :
    Relays ids known ⟨known.name, number, .deployment⟩ (·.refreshed known) where
  about := rfl
  parties _ := Registry.parties_refreshed known
  idle _ hempty := if_pos hempty
  relay _ i h := applyUpdate_refreshed rfl h.sound h.found (h.listed i)

section

variable {known : Job} {update : JobUpdate} {f : Registry → Registry}

/-- Recipients that relay a change do not change who is interested in the job. -/
theorem Listed.told {recipients : List String} (h : Listed ids known w)
    (hrelays : Relays ids known update f) (ht : Told ids recipients update f w w') :
    Listed ids known w' := by
  have hparties : ∀ i : Fin n, w'.clusters[i].parties known.name = w.clusters[i].parties known.name := by
    intro i
    rw [ht.clusters i]
    split
    · exact hrelays.parties _
    · rfl
  refine ⟨ht.sound, (Registry.job?_congr ht.jobs _).trans h.found, fun i hi => ?_⟩
  rw [ht.registered i]
  exact h.listed i (hparties i ▸ hi)

/-- One more recipient was told before the others. -/
theorem Told.cons {recipient : String} {rest : List String}
    (ht : Told ids [recipient] update f w w') (hrest : Told ids rest update f w' w'')
    (hnew : recipient ∉ rest) : Told ids (recipient :: rest) update f w w'' := by
  have hother : ∀ i, ids i ∈ rest → ids i ≠ recipient := by
    rintro i hi rfl
    exact hnew hi
  refine ⟨hrest.sound, hrest.jobs.trans ht.jobs, fun i => ?_, fun i => ?_, fun i => ?_⟩
  · exact (hrest.registered i).trans (ht.registered i)
  · rw [hrest.clusters i, ht.clusters i, ht.registered i]
    by_cases hi : ids i ∈ rest
    · simp [hi, hother i hi]
    · simp [hi]
  · rw [hrest.sent i, ht.sent i, ht.clusters i, ht.registered i, List.append_assoc]
    by_cases hi : ids i ∈ rest
    · simp [hi, hother i hi]
    · simp [hi]

/-- **Several recipients.** Each of them is told as if it were the only one. -/
theorem tell_told (hrelays : Relays ids known update f) {recipients : List String}
    (hnodup : recipients.Nodup) (h : Listed ids known w) : Told ids recipients update f w
      ((directRoot ids).tell (recipients.map (·, .update update)) w) := by
  induction recipients generalizing w with
  | nil =>
    refine ⟨h.sound, rfl, fun _ => rfl, fun i => ?_, fun i => ?_⟩
    · simp [Tier.tell]
    · simp [Tier.tell]
  | cons recipient rest ih =>
    obtain ⟨hnew, hnodup⟩ := List.nodup_cons.1 hnodup
    have ht : Told ids [recipient] update f w (callBack ids recipient (.update update) w).2 :=
      callBack_told h.sound fun i _ _ => hrelays.relay w i h
    exact ht.cons (ih hnodup (h.told hrelays ht)) hnew

/-- Changes of a job were announced: the root has the same jobs and the same clusters of the
hierarchy, every cluster has changed its registry, and what it has published since is one message for
each change and each of its workers that is interested in the job. -/
structure Announced (ids : Fin n ↪ String) (jobName : String) (updates : List JobUpdate)
    (f : Registry → Registry) (w w' : World n) : Prop where
  sound : Sound ids w'.root
  jobs : w'.root.jobs = w.root.jobs
  registered : ∀ i, w'.root.cluster? (ids i) = w.root.cluster? (ids i)
  clusters : ∀ i : Fin n, w'.clusters[i] = f w.clusters[i]
  sent : ∀ i, w'.sent i = w.sent i ++
    updates.flatMap fun update => (w.clusters[i].parties jobName).map (notice update)

/-- **One announcement.** Every cluster hears of it, except those where nobody is interested. -/
theorem announce_spec (hrelays : Relays ids known update f) (h : Listed ids known w) :
    Announced ids known.name [update] f w ((directRoot ids).announce update w) := by
  have hrecipients : Tier.announcements w.root update =
      known.parties.toList.map (·, .update update) := by
    rw [Tier.announcements, hrelays.about, Registry.parties, h.found]
  have ht : Told ids known.parties.toList update f w ((directRoot ids).announce update w) := by
    have htold := tell_told hrelays known.parties.nodup_toList h
    rw [← hrecipients] at htold
    exact htold
  have hidle : ∀ i, ¬(ids i ∈ known.parties.toList ∧ (w.root.cluster? (ids i)).isSome = true) →
      (w.clusters[i].parties known.name).isEmpty = true := by
    intro i hi
    rw [← Bool.not_eq_false]
    intro hsome
    obtain ⟨hregistered, hparty⟩ := h.listed i hsome
    exact hi ⟨NameSet.mem_toList.2 hparty, hregistered⟩
  refine ⟨ht.sound, ht.jobs, ht.registered, fun i => ?_, fun i => ?_⟩
  · rw [ht.clusters i]
    split
    · rfl
    · next hi => exact (hrelays.idle _ (hidle i hi)).symm
  · rw [ht.sent i, hrelays.about, List.flatMap_singleton]
    split
    · rfl
    · next hi => rw [List.isEmpty_iff.1 (hidle i hi), List.map_nil]

end

/-! ## Several announcements -/

section

variable {known : Job} {f g : Registry → Registry} {updates updates' : List JobUpdate}

theorem Listed.announced (h : Listed ids known w)
    (hf : ∀ r : Registry, (f r).parties known.name = r.parties known.name)
    (ha : Announced ids known.name updates f w w') : Listed ids known w' := by
  refine ⟨ha.sound, (Registry.job?_congr ha.jobs _).trans h.found, fun i hi => ?_⟩
  rw [ha.clusters i, hf] at hi
  rw [ha.registered i]
  exact h.listed i hi

/-- Announcements one after the other, if the first ones do not change who is interested. -/
theorem Announced.append {jobName : String} (ha : Announced ids jobName updates f w w')
    (hf : ∀ r : Registry, (f r).parties jobName = r.parties jobName)
    (ha' : Announced ids jobName updates' g w' w'') :
    Announced ids jobName (updates ++ updates') (g ∘ f) w w'' := by
  refine ⟨ha'.sound, ha'.jobs.trans ha.jobs, fun i => ?_, fun i => ?_, fun i => ?_⟩
  · exact (ha'.registered i).trans (ha.registered i)
  · rw [ha'.clusters i, ha.clusters i, Function.comp_apply]
  · rw [ha'.sent i, ha.sent i, ha.clusters i, hf, List.flatMap_append, List.append_assoc]

/-- **Deployments.** Several of them are announced one after the other, and each of them makes the
clusters where somebody is interested take the job over again. -/
theorem announceAll_spec (h : Listed ids known w) (numbers : List UInt32) :
    Announced ids known.name (numbers.map (⟨known.name, ·, .deployment⟩))
      (fun r => numbers.foldl (fun r _ => r.refreshed known) r) w
      ((directRoot ids).announceAll known.name numbers w) := by
  induction numbers generalizing w with
  | nil =>
    refine ⟨h.sound, rfl, fun _ => rfl, fun _ => rfl, fun i => ?_⟩
    exact (List.append_nil _).symm
  | cons number rest ih =>
    have ha := announce_spec (relays_deployment ids known number) h
    have hparties : ∀ r : Registry, (r.refreshed known).parties known.name =
        r.parties known.name := fun _ => Registry.parties_refreshed known
    exact ha.append hparties (ih (h.announced hparties ha))

end

end Overlay.Hierarchy
