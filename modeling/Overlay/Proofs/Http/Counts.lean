import Mathlib.Data.Set.Card
import Overlay.Proofs.Http.Callbacks
import Overlay.Proofs.Root.Runs
import Overlay.Proofs.Tier.Changes

/-!
# How many parties are counted

The answer to an undeployment says how many of the interested parties were told. A root that calls
its clusters back has told a party if a callback of the change was sent to it and answered with
success (`Http.Reaches`). But a cluster that is marked is skipped without a fault, and it counts as
well. So the number is that of the parties that were reached and that of the marked ones together,
and it is right exactly if no interested party is a marked cluster (`Http.Wire.countsReached_iff`).

The parties are told one after the other, and what comes of one turn (`Http.Notified.isOk_iff`)
leaves alone what the root remembers of the other parties.
-/

namespace Overlay

/-- The cluster is marked, so that it is not called back. -/
def Registry.Skips (r : Registry) (id : String) : Prop :=
  ∃ cluster, r.cluster? id = some cluster ∧ cluster.status = .failed

namespace Http

variable {W : Wire} {l l' : Line} {id party : String} {update : JobUpdate}
  {result : Except DeliveryFault Unit} {parties : List String}

/-! ## One turn -/

/-- Between the two lines, the party was called back about the change, and has answered with
success. -/
def Reaches (l l' : Line) (id : String) (update : JobUpdate) : Prop :=
  ∃ cluster attempts reply, l.registry.cluster? id = some cluster ∧
    l'.sent = l.sent ++ attempts ∧ CallsBack l cluster update attempts (.ok reply) ∧
    reply.status.isSuccess = true

/-- Without an attempt nobody answers. -/
theorem not_ends_nil {cluster : Cluster} {reply : Reply} : ¬ Ends cluster [] (.ok reply) := by
  generalize hnil : ([] : List Exchange) = attempts
  intro h
  generalize hended : (Except.ok reply : Except TransportFault Reply) = ended at h
  cases h with
  | unsendable => cases hended
  | last before x => simp at hnil

namespace Notified

/-- A cluster that is skipped is not reached. -/
theorem not_skips_of_reaches (h : Notified l id update result l')
    (hreaches : Reaches l l' id update) : ¬ l.registry.Skips id := by
  rintro ⟨marked, hmarked, hfailed⟩
  obtain ⟨_, attempts, reply, -, hsent, hcalls, -⟩ := hreaches
  rcases h.sent_cases with ⟨cluster, _, _, hcluster, hactive, -⟩ | ⟨-, hnothing⟩
  · obtain rfl := Option.some.inj (hmarked.symm.trans hcluster)
    cases hfailed.symm.trans hactive
  · obtain rfl : attempts = [] := List.self_eq_append_right.1 (hnothing.symm.trans hsent)
    exact not_ends_nil hcalls.ends

/-- **One turn.** A notification goes well if the party is reached, or skipped. -/
theorem isOk_iff (h : Notified l id update result l') :
    result.isOk = true ↔ Reaches l l' id update ∨ l.registry.Skips id := by
  cases h with
  | unregistered hunknown =>
    refine iff_of_false Bool.false_ne_true ?_
    rintro (⟨cluster, _, _, hcluster, -⟩ | ⟨cluster, hcluster, -⟩)
    · cases hunknown.symm.trans hcluster
    · cases hunknown.symm.trans hcluster
  | skipped hcluster hfailed => exact iff_of_true rfl (.inr ⟨_, hcluster, hfailed⟩)
  | @delivered cluster attempts ended hcluster hactive hcalls hended =>
    refine iff_of_true rfl (.inl ?_)
    cases ended with
    | error fault => exact absurd trivial hended
    | ok reply =>
      have hsuccess : reply.status.isSuccess = true := by simpa [Fails] using hended
      exact ⟨cluster, attempts, reply, hcluster, rfl, hcalls, hsuccess⟩
  | @failed cluster attempts ended hcluster hactive hcalls hended fault =>
    refine iff_of_false Bool.false_ne_true ?_
    rintro (⟨other, attempts', reply, hother, hsent, hcalls', hsuccess⟩ | ⟨other, hother, hfailed⟩)
    · obtain rfl := Option.some.inj (hcluster.symm.trans hother)
      obtain rfl := List.append_cancel_left hsent
      obtain rfl := hcalls.ends.unique hcalls'.ends
      exact Bool.false_ne_true (hended.symm.trans hsuccess)
    · obtain rfl := Option.some.inj (hcluster.symm.trans hother)
      cases hfailed.symm.trans hactive

end Notified

/-! ## One turn after the other -/

/-- The parties that are skipped. -/
def Line.skipped (l : Line) (parties : List String) : Set String :=
  {id | id ∈ parties ∧ l.registry.Skips id}

/-- As many as are in a set, and one more that is not, if it counts. -/
theorem ncard_insert_if {counted : Set String} (hid : id ∉ counted) (hfinite : counted.Finite)
    (counts : Bool) : {party | party = id ∧ counts = true ∨ party ∈ counted}.ncard =
      counted.ncard + if counts then 1 else 0 := by
  cases counts with
  | true =>
    simp only [and_true, if_true]
    exact Set.ncard_insert_of_notMem hid hfinite
  | false => simp

namespace Wire

/-- The line once the parties were told of a change, one after the other. -/
def told (W : Wire) (update : JobUpdate) (parties : List String) (l : Line) : Line :=
  W.root.tell (parties.map (·, .update update)) l

/-- The parties that are reached, each in its turn. -/
def reached (W : Wire) (update : JobUpdate) (parties : List String) (l : Line) : Set String :=
  {id | ∃ before after, parties = before ++ id :: after ∧
    Reaches (W.told update before l) (W.told update (before ++ [id]) l) id update}

theorem mem_of_mem_reached (h : party ∈ W.reached update parties l) : party ∈ parties := by
  obtain ⟨before, after, rfl, -⟩ := h
  exact List.mem_append_right _ List.mem_cons_self

/-- A party is reached in the first turn or later. -/
theorem mem_reached_cons : party ∈ W.reached update (id :: parties) l ↔
    party = id ∧ Reaches l (W.perform (.notify id update) l) id update ∨
      party ∈ W.reached update parties (W.perform (.notify id update) l) := by
  constructor
  · rintro ⟨before, after, hsplit, hreaches⟩
    cases before with
    | nil =>
      obtain ⟨rfl, rfl⟩ := List.cons.inj hsplit
      exact .inl ⟨rfl, hreaches⟩
    | cons first before =>
      obtain ⟨rfl, rfl⟩ := List.cons.inj hsplit
      exact .inr ⟨before, after, rfl, hreaches⟩
  · rintro (⟨rfl, hreaches⟩ | ⟨before, after, rfl, hreaches⟩)
    · exact ⟨[], parties, rfl, hreaches⟩
    · exact ⟨id :: before, after, rfl, hreaches⟩

/-- Whether a party is skipped later does not depend on the first turn. -/
theorem mem_skipped_cons (W : Wire) (update : JobUpdate) (hid : id ∉ parties) :
    party ∈ l.skipped (id :: parties) ↔
      party = id ∧ l.registry.Skips id ∨
        party ∈ (W.perform (.notify id update) l).skipped parties := by
  obtain ⟨result, hturn⟩ := W.perform_notified l id update
  by_cases hparty : party = id
  · subst hparty
    simp [Line.skipped, hid]
  · simp [Line.skipped, Registry.Skips, hparty, hturn.cluster?_of_ne hparty]

/-- No party is both reached and skipped. -/
theorem not_mem_skipped_of_mem_reached (hnodup : parties.Nodup)
    (hreached : party ∈ W.reached update parties l) : party ∉ l.skipped parties := by
  induction parties generalizing l with
  | nil => exact absurd (mem_of_mem_reached hreached) List.not_mem_nil
  | cons id rest ih =>
    obtain ⟨hid, hrest⟩ := List.nodup_cons.1 hnodup
    obtain ⟨result, hturn⟩ := W.perform_notified l id update
    rw [mem_skipped_cons W update hid]
    rcases mem_reached_cons.1 hreached with ⟨rfl, hreaches⟩ | hlater
    · rintro (⟨-, hskips⟩ | hskipped)
      · exact hturn.not_skips_of_reaches hreaches hskips
      · exact hid hskipped.1
    · rintro (⟨rfl, -⟩ | hskipped)
      · exact hid (mem_of_mem_reached hlater)
      · exact ih hrest hlater hskipped

theorem finite_skipped (l : Line) (parties : List String) : (l.skipped parties).Finite :=
  parties.finite_toSet.subset fun _ h => h.1

theorem finite_reached (W : Wire) (update : JobUpdate) (parties : List String) (l : Line) :
    (W.reached update parties l).Finite :=
  parties.finite_toSet.subset fun _ => mem_of_mem_reached

theorem ncard_reached_union_skipped (W : Wire) (update : JobUpdate) (hnodup : parties.Nodup)
    (l : Line) : (W.reached update parties l ∪ l.skipped parties).ncard =
      (W.reached update parties l).ncard + (l.skipped parties).ncard :=
  Set.ncard_union_eq (Set.disjoint_left.2 fun _ => not_mem_skipped_of_mem_reached hnodup)
    (finite_reached ..) (finite_skipped ..)

/-- **Counting.** Those are counted that are reached or skipped. -/
theorem notifyAll_counts (W : Wire) (update : JobUpdate) (hnodup : parties.Nodup) (l : Line) :
    (W.root.notifyAll (.update update) parties : Action Line TierError ℕ) l =
      (.ok (W.reached update parties l ∪ l.skipped parties).ncard, W.told update parties l) := by
  induction parties generalizing l with
  | nil =>
    have hnobody : W.reached update [] l ∪ l.skipped [] = ∅ := by
      refine Set.eq_empty_of_forall_notMem ?_
      rintro party (h | h)
      · exact absurd (mem_of_mem_reached h) List.not_mem_nil
      · exact absurd h.1 List.not_mem_nil
    rw [hnobody, Set.ncard_empty]
    rfl
  | cons id rest ih =>
    obtain ⟨hid, hrest⟩ := List.nodup_cons.1 hnodup
    have hturn := W.notify_notified l id update
    let counted := W.reached update rest (W.perform (.notify id update) l) ∪
      (W.perform (.notify id update) l).skipped rest
    have hsubset : ∀ party ∈ counted, party ∈ rest := by
      rintro party (h | h)
      · exact mem_of_mem_reached h
      · exact h.1
    have hcons : W.reached update (id :: rest) l ∪ l.skipped (id :: rest) =
        {party | party = id ∧ (W.root.notify id (.update update) l).1.isOk = true ∨
          party ∈ counted} := by
      ext party
      rw [Set.mem_union, mem_reached_cons, mem_skipped_cons W update hid,
        Set.mem_ofPred_eq, hturn.isOk_iff, or_or_or_comm, ← and_or_left]
      rfl
    have hfinite : counted.Finite := rest.finite_toSet.subset hsubset
    rw [hcons, ncard_insert_if (fun h => hid (hsubset id h)) hfinite, Tier.notifyAll,
      Action.bind_of_ok (Action.attempt_apply ..), Action.bind_of_ok (ih hrest _)]
    rfl

end Wire

/-! ## Undeployments -/

variable {selector : Selector} {number : UInt32} {u : Undeployment}

/-- The line once the instance is gone, before anybody is told. -/
def Line.withdrawn (l : Line) (selector : Selector) (number : UInt32) : Line :=
  { l with registry := (Registry.withdrawInstance true selector number l.registry).2 }

namespace Wire

/-- The parties of a job that are reached when an instance of it is undeployed. -/
def answered (W : Wire) (l : Line) (selector : Selector) (number : UInt32) (jobName : String) :
    Set String :=
  W.reached ⟨jobName, number, .undeployment⟩ (l.registry.parties jobName)
    (l.withdrawn selector number)

/-- An undeployment and its answer: the parties were told of it in turn, and those that were reached
are counted together with those that were skipped. -/
structure Counts (W : Wire) (l : Line) (selector : Selector) (number : UInt32) (u : Undeployment)
    (l' : Line) : Prop where
  told : l' = W.told ⟨u.jobName, number, .undeployment⟩ (l.registry.parties u.jobName)
    (l.withdrawn selector number)
  notified : u.notified = (W.answered l selector number u.jobName).ncard +
    (l.skipped (l.registry.parties u.jobName)).ncard

/-- An undeployment that succeeds counts the parties that were reached. -/
def CountsReached (W : Wire) (l : Line) (selector : Selector) (number : UInt32) : Prop :=
  ∀ u l', W.root.undeploy selector number l = (.ok u, l') →
    u.notified = (W.answered l selector number u.jobName).ncard

/-- Who is skipped depends on the clusters. -/
theorem skipped_congr (h : l'.registry.clusters = l.registry.clusters) (parties : List String) :
    l'.skipped parties = l.skipped parties := by
  simp only [Line.skipped, Registry.Skips, Registry.cluster?, h]

/-- **One undeployment.** The answer counts the parties that were reached and those that were
skipped. -/
theorem undeploy_counts (h : W.root.undeploy selector number l = (.ok u, l')) :
    W.Counts l selector number u l' := by
  rw [Tier.undeploy_eq] at h
  obtain ⟨⟨outcome, parties⟩, l₁, hwithdraw, hrest⟩ := Action.bind_eq_ok_iff.1 h
  obtain ⟨hresult, rfl⟩ := Prod.mk.inj hwithdraw
  obtain ⟨job, known, -, -, -, hname, rfl, -, hclusters⟩ :=
    (Registry.withdrawInstance_spec true selector number).of_ok rfl (Prod.ext hresult rfl)
  obtain ⟨notified, l₂, hnotify, hanswer⟩ := Action.bind_eq_ok_iff.1 hrest
  rw [← hname] at hnotify
  have hcount := W.notifyAll_counts ⟨outcome.jobName, number, .undeployment⟩
    (l.registry.nodup_parties outcome.jobName) (l.withdrawn selector number)
  obtain ⟨hnotified, rfl⟩ := Prod.mk.inj (hcount.symm.trans hnotify)
  obtain ⟨hu, rfl⟩ := Prod.mk.inj hanswer
  obtain rfl := Except.ok.inj hu
  refine ⟨rfl, (Except.ok.inj hnotified).symm.trans ?_⟩
  rw [ncard_reached_union_skipped _ _ (l.registry.nodup_parties _), skipped_congr hclusters]
  rfl

/-- **Counting parties.** Whatever the root remembers, and whatever comes of its callbacks, the
answer to an undeployment counts the parties that were reached together with those that were
skipped. So it counts those that were reached exactly if no interested party is a marked cluster. -/
theorem countsReached_iff (W : Wire) (l : Line) (selector : Selector) (number : UInt32) :
    (∀ u l', W.root.undeploy selector number l = (.ok u, l') → W.Counts l selector number u l') ∧
      (W.CountsReached l selector number ↔
        ∀ u l', W.root.undeploy selector number l = (.ok u, l') →
          ∀ id ∈ l.registry.parties u.jobName, ¬ l.registry.Skips id) := by
  refine ⟨fun _ _ => undeploy_counts, forall₃_congr fun u l' h => ?_⟩
  have hempty : l.skipped (l.registry.parties u.jobName) = ∅ ↔
      ∀ id ∈ l.registry.parties u.jobName, ¬ l.registry.Skips id := by
    simp [Line.skipped, Set.eq_empty_iff_forall_notMem]
  rw [(undeploy_counts h).notified, Nat.add_eq_left, Set.ncard_eq_zero (finite_skipped ..), hempty]

/-- Nobody answers. -/
def deaf : Wire :=
  ⟨.standard, fun _ url _ => .error (.unreachable url.text)⟩

/-- A cluster that is interested in a service misses that the first of its two instances is gone. -/
def missing : List RootCall :=
  [.undeployInstance "J" 0, .childLookup "c1" (.name "a.n.s.n"), .addInstances "J" 2 "c1",
    .register ⟨"a", "n", "s", "n", ⟨none, none⟩⟩ "J", .registerCluster ⟨"c1", "127.0.0.1", 9⟩]

/-- The line after calls, of which the last one stands first. -/
def missed : Line :=
  missing.foldr (fun call => (deaf.root.perform call).after) ⟨∅, []⟩

/-- The cluster is marked now. Nothing is sent to it when the second instance goes, and still it
counts. -/
theorem countsReached_skipped : ¬ deaf.CountsReached missed (.name "a.n.s.n") 1 := by
  intro hcounts
  have hjob : (deaf.root.undeploy (.name "a.n.s.n") 1 missed).1.toOption.map (·.jobName) =
      some "a.n.s.n" := by decide +kernel
  rcases hrun : deaf.root.undeploy (.name "a.n.s.n") 1 missed with ⟨e | u, l'⟩
  · rw [hrun] at hjob
    cases hjob
  rw [hrun] at hjob
  have hname : u.jobName = "a.n.s.n" := Option.some.inj hjob
  have hmarked : "c1" ∈ missed.skipped (missed.registry.parties u.jobName) := by
    refine ⟨hname ▸ by decide +kernel, ⟨"c1", "127.0.0.1", 9, .failed⟩, by decide +kernel, rfl⟩
  have hnotified := (undeploy_counts hrun).notified
  rw [← hcounts u l' hrun, left_eq_add, Set.ncard_eq_zero (finite_skipped ..)] at hnotified
  exact Set.notMem_empty _ (hnotified ▸ hmarked)

end Wire

end Http

end Overlay
