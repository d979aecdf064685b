import Overlay.Proofs.Cluster.Reports

/-!
# Table queries

A party below asks where a job runs. The tier answers whatever happens: from its registry, or with a
copy that its parent sends and that it keeps, or with nothing (`Surroundings.Found`). The answer, the
record and the interest set agree in each case (`Surroundings.Answered`,
`Surroundings.query_answered`): an answer that names a job shows the record that is stored
afterwards, the party is interested in that job, and an empty answer has changed nothing.

What a party sees of an instance is its record, the addresses of the job and, if the instance has
an address, an entry with its own addresses behind them. The entry is part of the answer only: an
answer from the registry leaves all records as they are, but for who is interested.
-/

namespace Overlay

open Overlay.Action (Triple)

/-- The entry with the addresses of an instance itself, if it has one. -/
def Instance.ownEntry (i : Instance) : List ServiceAddress :=
  if i.addresses.isEmpty then [] else [⟨.oneInstance, i.addresses⟩]

/-- What a requester sees of an instance. -/
theorem ResolvedInstance.ofInstance_eq (shared : List ServiceAddress) (i : Instance) :
    ofInstance shared i = ⟨i, shared ++ i.ownEntry⟩ := by
  rw [ofInstance, Instance.ownEntry]
  split
  · rw [List.append_nil]
  · rfl

namespace Registry

variable {r : Registry} {name : String} {job : Job}

/-- The record of a job that a party has joined. -/
theorem job?_addParty (hjob : r.job? name = some job) (party : String) :
    (r.addParty name party).2.job? name =
      some { job with parties := job.parties.insert party } := by
  rw [addParty, hjob]
  exact Table.get?_insert_self ..

/-- A party that joins leaves the records as they are, but for the interest set. -/
theorem withoutParties_addParty (r : Registry) (name party other : String) :
    ((r.addParty name party).2.job? other).map Job.withoutParties =
      (r.job? other).map Job.withoutParties := by
  rw [addParty]
  split
  · rfl
  next job hjob =>
  rw [job?, Table.get?_insert]
  split
  · next heq =>
    rw [heq, hjob]
    rfl
  · rfl

/-- A copy of the parent is stored under its name. -/
theorem Named.job?_mergeJob (h : r.Named) (copy : Job) :
    (r.mergeJob copy).1.name = copy.name ∧
      (r.mergeJob copy).2.job? copy.name = some (r.mergeJob copy).1 :=
  ⟨name_merged fun old hold => h _ old hold, Table.get?_insert_self ..⟩

end Registry

namespace Surroundings

variable {ε : Type} {S : Surroundings ε} {cluster : Option String} {s : Observed ε}
  {selector : Selector} {client : String} {query : TableQuery}

/-! ## Look-ups -/

/-- What a look-up finds, and the state that it leaves. -/
inductive Found (S : Surroundings ε) (cluster : Option String) (s : Observed ε)
    (selector : Selector) : Resolution → Observed ε → Prop
  /-- The registry has the job. -/
  | here {job : Job} : s.registry.select selector = some job →
      Found S cluster s selector ⟨.ofJob job, true⟩ s
  /-- The parent sends a copy, which is kept. -/
  | fetched {copy : Job} {s' : Observed ε} : s.registry.select selector = none →
      S.copy? selector s.outside = some copy → copy.name ≠ "" →
      s'.registry = (s.registry.mergeJob copy).2 →
      Found S cluster s selector ⟨.ofJob (s.registry.mergeJob copy).1, false⟩ s'
  /-- Nobody knows the job. -/
  | nowhere {s' : Observed ε} : s.registry.select selector = none →
      (cluster.isSome = true → ∀ copy, S.copy? selector s.outside = some copy → copy.name = "") →
      s'.registry = s.registry → Found S cluster s selector ⟨.unknown, false⟩ s'

/-- A look-up finds something, or the parent could not be asked. -/
theorem resolve_found (S : Surroundings ε) (cluster : Option String) (selector : Selector)
    (s : Observed ε) : Triple (· = s) ((S.tierAt cluster).resolve selector)
      (Found S cluster s selector)
      (fun _ s' => s.registry.select selector = none ∧ S.copy? selector s.outside = none ∧
        s'.registry = s.registry) := by
  refine Tier.look_bind ?_
  have hsite : (S.tierAt cluster).site.get s = s.registry := rfl
  rw [hsite]
  cases hselect : s.registry.select selector with
  | some job =>
    refine .pure fun s' hs => ?_
    subst hs
    exact .here hselect
  | none =>
  cases cluster with
  | none => exact .pure fun _ hs => .nowhere hselect nofun (hs ▸ rfl)
  | some id =>
  refine .bind (.mapError ((ClusterTier.fetch_spec selector s).mono (fun _ _ hs => hs) ?_)) ?_
  · exact fun _ s' hs => ⟨rfl, hs.2, hs.1⟩
  rintro (_ | copy)
  · refine .pure fun s' hs => .nowhere hselect (fun _ copy hcopy => ?_) hs.1
    rw [hs.2] at hcopy
    cases hcopy
  dsimp only
  split
  · next hempty =>
    refine .pure fun s' hs => .nowhere hselect (fun _ other hother => ?_) hs.1
    obtain rfl := Option.some.inj (hs.2.symm.trans hother)
    simpa using hempty
  · next hname =>
    refine .bind (R := fun job s' => job = (s.registry.mergeJob copy).1 ∧
      s'.registry = (s.registry.mergeJob copy).2 ∧ S.copy? selector s.outside = some copy)
      (Tier.record_spec fun s' hs => ?_) fun job => ?_
    · have hget : (S.tierAt (some id)).site.get s' = s.registry := hs.1
      rw [hget]
      exact ⟨rfl, rfl, hs.2⟩
    · refine .pure fun s' hs => ?_
      obtain ⟨rfl, hregistry, hcopy⟩ := hs
      exact .fetched hselect hcopy (by simpa using hname) hregistry

/-! ## Answers -/

/-- What the answer to a table query has to do with the registry before it, with what the parent
sends and with the registry afterwards. -/
structure Answered (S : Surroundings ε) (cluster : Option String) (s : Observed ε)
    (client : String) (query : TableQuery) (answer : TableAnswer) (r' : Registry) : Prop where
  /-- The answer says what was asked for. -/
  key : answer.key = (query.selector?.map Selector.key).getD ""
  /-- A job that is named is stored as it is shown, and the party is interested in it. -/
  stored : answer.jobName ≠ "" → ∃ job, r'.job? answer.jobName = some job ∧
    client ∈ job.parties ∧
    answer.instances = job.instances.map fun i => ⟨i, job.serviceAddresses ++ i.ownEntry⟩
  /-- If no job is named, nothing is shown and nothing has changed. -/
  nothing : answer.jobName = "" → answer.instances = [] ∧ r' = s.registry
  /-- A job of the registry is named, and all records are as they were but for who is
  interested. -/
  here : ∀ selector job, query.selector? = some selector →
    s.registry.select selector = some job → answer.jobName = job.name ∧
      ∀ name, (r'.job? name).map Job.withoutParties =
        (s.registry.job? name).map Job.withoutParties
  /-- Otherwise the job of the copy is named that the parent sends. -/
  fetched : ∀ selector copy, query.selector? = some selector →
    s.registry.select selector = none → cluster.isSome = true →
    S.copy? selector s.outside = some copy → answer.jobName = copy.name

/-- An answer that names no job. -/
theorem answered_nothing (hselector : query.selector? = some selector)
    (hselect : s.registry.select selector = none) (hcopy : cluster.isSome = true →
      ∀ copy, S.copy? selector s.outside = some copy → copy.name = "") :
    Answered S cluster s client query (.nothing selector.key) s.registry where
  key := by rw [hselector]; rfl
  stored h := absurd rfl h
  nothing _ := ⟨rfl, rfl⟩
  here other job hother hjob := by
    obtain rfl := Option.some.inj (hselector.symm.trans hother)
    rw [hselect] at hjob
    cases hjob
  fetched other copy hother _ hcluster hsent := by
    obtain rfl := Option.some.inj (hselector.symm.trans hother)
    exact (hcopy hcluster copy hsent).symm

/-- An answer that shows a job which the party has joined. -/
theorem answered_joined {r : Registry} {job : Job} (hselector : query.selector? = some selector)
    (hjob : r.job? job.name = some job) (hname : job.name ≠ "")
    (hhere : ∀ found, s.registry.select selector = some found → found = job ∧ r = s.registry)
    (hcopy : s.registry.select selector = none →
      ∀ copy, S.copy? selector s.outside = some copy → job.name = copy.name) :
    Answered S cluster s client query
      ⟨job.name, (ResolvedJob.ofJob job).instances, selector.key⟩
      (r.addParty job.name client).2 where
  key := by rw [hselector]; rfl
  stored _ := by
    refine ⟨_, Registry.job?_addParty hjob client, NameSet.mem_insert.2 (.inl rfl), ?_⟩
    exact List.map_congr_left fun i _ => ResolvedInstance.ofInstance_eq job.serviceAddresses i
  nothing h := absurd h hname
  here other found hother hfound := by
    obtain rfl := Option.some.inj (hselector.symm.trans hother)
    obtain ⟨rfl, rfl⟩ := hhere found hfound
    exact ⟨rfl, s.registry.withoutParties_addParty found.name client⟩
  fetched other copy hother hselect _ hsent := by
    obtain rfl := Option.some.inj (hselector.symm.trans hother)
    exact hcopy hselect copy hsent

/-- A party joins a job that is stored. -/
theorem addInterest_spec {name : String} {P : Observed ε → Prop} {E : TierError → Observed ε → Prop}
    {r : Registry} (hname : name ≠ "") (hclient : client ≠ "") (hs : ∀ s, P s → s.registry = r) :
    Triple P ((S.tierAt cluster).addInterest name client)
      (fun _ s' => s'.registry = (r.addParty name client).2) E := by
  simp only [Tier.addInterest, String.isEmpty_iff, hname, hclient, if_false]
  refine .bind (R := fun _ s' => s'.registry = (r.addParty name client).2)
    (Tier.record_spec fun s h => ?_) fun _ => .pure fun _ h => h
  have hget : (S.tierAt cluster).site.get s = r := hs s h
  rw [hget]
  rfl

/-- A table query gives an answer. -/
theorem tableQuery_answered (hnamed : s.registry.Named) (hempty : s.registry.job? "" = none)
    (hclient : client ≠ "") : Triple (· = s) ((S.tierAt cluster).tableQuery client query)
      (fun answer s' => Answered S cluster s client query answer s'.registry)
      (fun _ _ => False) := by
  simp only [Tier.tableQuery]
  cases hselector : query.selector? with
  | none =>
    refine .pure fun s' hs => ?_
    subst hs
    refine ⟨by rw [hselector]; rfl, fun h => absurd rfl h, fun _ => ⟨rfl, rfl⟩, ?_, ?_⟩
    · intro selector job hother
      rw [hselector] at hother
      cases hother
    · intro selector copy hother
      rw [hselector] at hother
      cases hother
  | some selector =>
  refine .attempt_bind (resolve_found S cluster selector s) (fun found => .of_forall ?_)
    fun _ => .pure fun s' hs => ?_
  · rintro s₁ hfound
    cases hfound with
    | @here job hselect =>
      have hjob := Tier.job?_of_select hnamed hselect
      have hname : job.name ≠ "" := by
        intro hname
        rw [hname, hempty] at hjob
        cases hjob
      refine .attempt_bind (addInterest_spec (E := fun _ _ => False) hname hclient
        fun _ hs => congrArg Observed.registry hs) (fun _ => .pure fun s' hs => ?_) fun _ => .of_false
      rw [hs]
      refine answered_joined hselector hjob hname (fun found hfound => ?_) fun hnone => ?_
      · exact ⟨Option.some.inj (hfound.symm.trans hselect), rfl⟩
      · rw [hselect] at hnone
        cases hnone
    | @fetched copy _ hselect hcopy hname hregistry =>
      obtain ⟨hmerged, hjob⟩ := hnamed.job?_mergeJob copy
      rw [← hmerged] at hname hjob
      refine .attempt_bind (addInterest_spec (E := fun _ _ => False) hname hclient
        fun _ hs => (congrArg Observed.registry hs).trans hregistry)
        (fun _ => .pure fun s' hs => ?_) fun _ => .of_false
      rw [hs]
      refine answered_joined hselector hjob hname (fun found hfound => ?_) fun _ other hother => ?_
      · rw [hselect] at hfound
        cases hfound
      · obtain rfl := Option.some.inj (hcopy.symm.trans hother)
        exact hmerged
    | nowhere hselect hcopy hregistry =>
      refine .attempt_bind (R := fun _ s' => s' = s₁) (F := fun _ _ => False)
        (.pure fun _ hs => hs) (fun _ => .pure fun s' hs => ?_) fun _ => .of_false
      rw [hs, hregistry]
      exact answered_nothing hselector hselect hcopy
  · obtain ⟨hselect, hcopy, hregistry⟩ := hs
    rw [hregistry]
    refine answered_nothing hselector hselect fun _ copy hother => ?_
    rw [hcopy] at hother
    cases hother

/-- **Table queries.** At the root and at a cluster, whatever the parent does and whoever can be
reached, a query of a named party is answered. The answer shows what is stored. -/
theorem query_answered (S : Surroundings ε) (cluster : Option String) (s : Observed ε)
    (client : String) (query : TableQuery) (hnamed : s.registry.Named)
    (hempty : s.registry.job? "" = none) (hclient : client ≠ "") :
    ∃ answer s', (S.tierAt cluster).handle client (.tableQuery query) s =
        (.ok (some (.tableAnswer answer)), s') ∧
      Answered S cluster s client query answer s'.registry := by
  have hquery : Triple (· = s) ((S.tierAt cluster).tableQuery client query) _ _ :=
    tableQuery_answered hnamed hempty hclient
  obtain ⟨answer, s', hanswer, hspec⟩ := hquery.exists_ok rfl
  have hreply : (S.tierAt cluster).answer? client (.tableQuery query) s =
      (.ok (some (.tableAnswer answer)), s') := by
    rw [Tier.answer?, Action.bind_of_ok hanswer]
    rfl
  refine ⟨answer, ((S.tierAt cluster).notify client (.tableAnswer answer) s').2, ?_, hspec⟩
  simp only [Tier.handle, String.isEmpty_iff, hclient, if_false]
  exact Action.bind_of_ok hreply _

/-- A worker asks for a job that its cluster does not have yet. -/
theorem query_answered_fetched :
    ((∅ : Registry).Named ∧ (∅ : Registry).job? "" = none ∧ "w1" ≠ "") ∧
      ∃ answer s', ((ClusterTier.knowing settled).tierAt (some "c1")).handle "w1"
          (.tableQuery ⟨some "a.n.s.n", none⟩) ⟨∅, [], ()⟩ =
        (.ok (some (.tableAnswer answer)), s') ∧
      Answered (ClusterTier.knowing settled) (some "c1") ⟨∅, [], ()⟩ "w1"
        ⟨some "a.n.s.n", none⟩ answer s'.registry := by
  have hnamed : (∅ : Registry).Named := nofun
  exact ⟨⟨hnamed, rfl, by decide⟩, query_answered (ClusterTier.knowing settled) (some "c1")
    ⟨∅, [], ()⟩ "w1" ⟨some "a.n.s.n", none⟩ hnamed rfl (by decide)⟩

end Surroundings

end Overlay
