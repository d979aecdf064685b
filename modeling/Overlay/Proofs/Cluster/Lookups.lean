import Overlay.Proofs.Cluster.Queries
import Overlay.Proofs.Registry.Merging

/-!
# Repeated look-ups

A cluster that misses a job asks its parent once and takes the answer over. The next look-up finds
the job in the registry: under its name, since that is where the copy was put, and under its
addresses in any spelling, since taking a copy over drops no address of the copy
(`Registry.hasAddress_merged`) and before that nobody had the address that was asked for
(`Registry.jobByAddress?_insert`). `Surroundings.resolve_remembers` puts this together. What could not
be fetched leaves no trace in the registry.
-/

namespace Overlay

open Overlay.Action (Triple)

namespace Selector

/-- A job is what a selector asks for. -/
def Asks : Selector → Job → Prop
  | name text, job => job.name = text
  | address text, job => job.hasAddress text = true

/-- Selectors that ask for the same thing: an address may be written in another way. -/
inductive Alike : Selector → Selector → Prop
  | name (text : String) : Alike (.name text) (.name text)
  | address {text text' : String} : IpAddress.denoted? text' = IpAddress.denoted? text →
      (IpAddress.denoted? text' = none → trimmed text' = trimmed text) →
      Alike (.address text) (.address text')

end Selector

namespace Registry

variable {r : Registry} {selector again : Selector} {job copy : Job}

/-- Selectors that ask for the same thing find the same job. -/
theorem select_alike (h : selector.Alike again) (r : Registry) :
    r.select again = r.select selector := by
  cases h with
  | name => rfl
  | address hdenoted htrimmed =>
    exact jobByAddress?_spelling (canonicalAddress_eq_iff.2 ⟨hdenoted, htrimmed⟩) r

/-- A copy of a job that was missing is found once it was taken over. -/
theorem select_mergeJob (hmissing : r.select selector = none) (hasks : selector.Asks copy)
    (hd : copy.Distinct) : (r.mergeJob copy).2.select selector = some (r.mergeJob copy).1 := by
  cases selector with
  | name text =>
    obtain rfl : copy.name = text := hasks
    exact Table.get?_insert_self ..
  | address text =>
    refine jobByAddress?_insert rfl (hasAddress_merged hd hasks) fun key owner _ howner => ?_
    -- Nobody has the address yet, so nobody comes first.
    have hnone : r.jobByAddress? text = none := hmissing
    rw [hnone] at howner
    cases howner

end Registry

namespace Tier

variable {σ : Type} {t : Tier σ} {s : σ} {selector : Selector} {job : Job}

/-- A job of the registry is found there. -/
theorem resolve_of_select (h : (t.site.get s).select selector = some job) :
    t.resolve selector s = (.ok ⟨.ofJob job, true⟩, s) := by
  simp only [resolve, look, Action.bind_apply, Action.inspect_apply, h, Action.pure_apply]

end Tier

namespace ResolvedJob

/-- A job that has an address is seen. -/
theorem ofJob_ne_unknown {job : Job} {text : String} (h : job.hasAddress text = true) :
    ofJob job ≠ unknown := by
  intro hunknown
  have hinstances := congrArg ResolvedJob.instances hunknown
  have haddresses : job.serviceAddresses = [] := congrArg ResolvedJob.serviceAddresses hunknown
  have hnone : job.addressTexts = [] := by
    rw [Job.addressTexts, haddresses, List.map_eq_nil_iff.1 hinstances]
    rfl
  rw [Job.hasAddress, hnone] at h
  cases h

end ResolvedJob

namespace Surroundings

variable {ε : Type} {S : Surroundings ε} {id : String} {s : Observed ε} {selector : Selector}
  {copy : Job}

/-- A job that the parent sends is what was asked for, with instances that have numbers of their
own. -/
def Matches (S : Surroundings ε) (selector : Selector) (outside : ε) : Prop :=
  ∀ copy, S.copy? selector outside = some copy → copy.name ≠ "" →
    selector.Asks copy ∧ copy.Distinct

/-- A job that is missing is fetched from the parent and taken over. -/
theorem resolve_of_copy (id : String) (hmissing : s.registry.select selector = none)
    (hcopy : S.copy? selector s.outside = some copy) (hname : copy.name ≠ "") :
    (S.tier id).resolve selector s =
      (.ok ⟨.ofJob (s.registry.mergeJob copy).1, false⟩, S.asking selector s) := by
  have hlook : ((S.tier id).look fun r => r.select selector :
      Action (Observed ε) TierError (Option Job)) s = (.ok none, s) :=
    Prod.ext (congrArg Except.ok hmissing) rfl
  have hparent : (S.tier id).parent? = some S.parent := rfl
  have hask : (S.parent (.fetchJob selector)).mapError TierError.resolutionFailed s =
      ((S.answer (.fetchJob selector) s.outside).1.mapError .resolutionFailed,
        { s with
          asked := s.asked ++ [.fetchJob selector]
          outside := (S.answer (.fetchJob selector) s.outside).2 }) := rfl
  rw [Surroundings.asking, hcopy]
  rw [Surroundings.copy?] at hcopy
  simp only [Tier.resolve, hparent]
  rw [Action.bind_of_ok hlook]
  dsimp only
  rcases hanswer : S.answer (.fetchJob selector) s.outside with ⟨e | found, outside⟩
  · rw [hanswer] at hcopy
    cases hcopy
  · rw [hanswer] at hcopy hask
    obtain rfl : found = some copy := hcopy
    rw [Action.bind_of_ok hask]
    dsimp only
    rw [if_neg (by simpa using hname)]
    rfl

/-- A record that was taken over is seen by whoever has asked for it. -/
theorem ofJob_mergeJob_ne_unknown (hmissing : s.registry.select selector = none)
    (hasks : selector.Asks copy) (hd : copy.Distinct) (hname : copy.name ≠ "") :
    ResolvedJob.ofJob (s.registry.mergeJob copy).1 ≠ .unknown := by
  cases selector with
  | address text => exact ResolvedJob.ofJob_ne_unknown (Registry.hasAddress_merged hd hasks)
  | name text =>
    obtain rfl : copy.name = text := hasks
    rw [Registry.mergeJob_of_none hmissing]
    exact fun hunknown => hname (congrArg ResolvedJob.name hunknown)

/-- A look-up changes the registry only if it has found a job that the parent has sent. -/
theorem Found.unchanged {cluster : Option String} {found : Resolution} {s' : Observed ε}
    (h : Found S cluster s selector found s')
    (hcopy : ∀ copy, s.registry.select selector = none → S.copy? selector s.outside = some copy →
      copy.name ≠ "" → found ≠ ⟨.ofJob (s.registry.mergeJob copy).1, false⟩) :
    s'.registry = s.registry := by
  cases h with
  | here => rfl
  | nowhere _ _ hregistry => exact hregistry
  | @fetched copy _ hmissing hsent hname => exact absurd rfl (hcopy copy hmissing hsent hname)

/-! ## Remembering -/

/-- What a cluster remembers of a look-up. -/
structure Remembers (S : Surroundings ε) (id : String) (s : Observed ε) (selector : Selector) :
    Prop where
  /-- A job that is missing is asked for once. From then on it is found in the registry, in whatever
  spelling it is asked for. -/
  fetched : ∀ copy, s.registry.select selector = none →
    S.copy? selector s.outside = some copy → copy.name ≠ "" →
    ∃ s', (S.tier id).resolve selector s =
        (.ok ⟨.ofJob (s.registry.mergeJob copy).1, false⟩, s') ∧
      s'.asked = s.asked ++ [.fetchJob selector] ∧
      ∀ again, selector.Alike again → (S.tier id).resolve again s' =
        (.ok ⟨.ofJob (s.registry.mergeJob copy).1, true⟩, s')
  /-- A parent that cannot be asked leaves no trace. -/
  failed : ∀ e s', (S.tier id).resolve selector s = (.error e, s') → s'.registry = s.registry
  /-- Nor does the answer that nobody knows the job. -/
  nothing : ∀ found s', (S.tier id).resolve selector s = (.ok found, s') →
    found.job = .unknown → s'.registry = s.registry
  /-- Where records stand under their names, the name alone says that nobody knows the job. -/
  nameless : s.registry.Named → ∀ found s', (S.tier id).resolve selector s = (.ok found, s') →
    found.job.isUnknown = true → s'.registry = s.registry

/-- **Remembering.** Whatever a cluster has in its registry, a job that it had to fetch stays there
for the next look-up, and a look-up in vain changes nothing. -/
theorem resolve_remembers (S : Surroundings ε) (id : String) (s : Observed ε) (selector : Selector)
    (hmatches : S.Matches selector s.outside) : S.Remembers id s selector := by
  have hspec : Triple (· = s) ((S.tier id).resolve selector) _ _ :=
    resolve_found S (some id) selector s
  refine ⟨fun copy hmissing hcopy hname => ?_, fun e s' hrun => ?_, fun found s' hrun hunknown => ?_,
    fun hnamed found s' hrun hunknown => ?_⟩
  · obtain ⟨hasks, hd⟩ := hmatches copy hcopy hname
    refine ⟨_, resolve_of_copy id hmissing hcopy hname, rfl, fun again halike => ?_⟩
    refine Tier.resolve_of_select (t := S.tier id) ?_
    have hregistry : (S.asking selector s).registry = (s.registry.mergeJob copy).2 := by
      rw [asking, hcopy]
      rfl
    calc (S.asking selector s).registry.select again
        = (s.registry.mergeJob copy).2.select selector := by
          rw [hregistry, Registry.select_alike halike]
      _ = some (s.registry.mergeJob copy).1 := Registry.select_mergeJob hmissing hasks hd
  · exact (hspec.of_error rfl hrun).2.2
  · refine (hspec.of_ok rfl hrun).unchanged fun copy hmissing hcopy hname hfound => ?_
    obtain ⟨hasks, hd⟩ := hmatches copy hcopy hname
    rw [hfound] at hunknown
    exact ofJob_mergeJob_ne_unknown hmissing hasks hd hname hunknown
  · refine (hspec.of_ok rfl hrun).unchanged fun copy hmissing hcopy hname hfound => ?_
    have hmerged := (hnamed.job?_mergeJob copy).1
    rw [hfound] at hunknown
    exact hname (hmerged.symm.trans (String.isEmpty_iff.1 hunknown))

/-- A cluster has a record of the job, but without the address that is asked for. -/
theorem resolve_remembers_elsewhere :
    ((ClusterTier.knowing Registry.elsewhere).Matches (.address "172.30.0.9") () ∧
      ((∅ : Registry).putJob Registry.hosting).select (.address "172.30.0.9") = none ∧
      (Selector.address "172.30.0.9").Alike (.address " 172.30.0.9\n")) ∧
    (ClusterTier.knowing Registry.elsewhere).Remembers "c1"
      ⟨(∅ : Registry).putJob Registry.hosting, [], ()⟩ (.address "172.30.0.9") := by
  have hmatches :
      (ClusterTier.knowing Registry.elsewhere).Matches (.address "172.30.0.9") () := by
    rintro _ ⟨⟩ _
    have hasks : Registry.elsewhere.hasAddress "172.30.0.9" = true := by decide +kernel
    have hd : Registry.elsewhere.Distinct := by
      simp only [Job.Distinct]
      decide
    exact ⟨hasks, hd⟩
  refine ⟨⟨hmatches, by decide +kernel, ?_⟩, resolve_remembers _ "c1" _ _ hmatches⟩
  exact .address (by decide +kernel) (by decide +kernel)

end Surroundings

end Overlay
