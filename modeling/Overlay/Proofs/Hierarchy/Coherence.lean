import Overlay.Proofs.Hierarchy.Changes
import Overlay.Proofs.Hierarchy.Direct
import Overlay.Proofs.Root.Identifiers

/-!
# Caches that agree with the root

What a cluster has cached of a job is backed by the root (`Hierarchy.Backed`): the cluster is
registered, the root knows the job and counts the cluster among its interested parties, and the
locations of all cached instances are locations that the root knows. In between, while the root is
still telling its clusters of an instance that is gone, some locations are stale
(`Hierarchy.Coherent`).

The root backs what it has backed before as long as its registry grows, and a cluster may drop what
it likes. Whatever else happens, the root knows each job that is cached and the clusters that have
cached it (`Hierarchy.Linked`).
-/

namespace Overlay

/-! ## The caches of a hierarchy -/

namespace Hierarchy

variable {n : Nat} {ids : Fin n ↪ String} {w : World n} {root root' : Registry}
  {stale stale' : Fin n → String → UInt32 × Addresses → Prop}

/-- What can always be said about the root: its books are kept, numbers are distinct, jobs have
identifiers, and a cluster of the hierarchy that has registered can be called. -/
structure Sound (ids : Fin n ↪ String) (root : Registry) : Prop where
  books : ∃ lost, root.Books lost
  distinct : root.Distinct
  identified : root.Identified
  active : ∀ i c, root.cluster? (ids i) = some c → c.status = .active ∧ (ids i).isEmpty = false

/-- A record that a cluster has cached is backed by the root, but for some stale locations. -/
structure Backed (root : Registry) (id : String) (stale : UInt32 × Addresses → Prop) (name : String)
    (job : Job) : Prop where
  named : job.name = name
  distinct : job.Distinct
  registered : (root.cluster? id).isSome
  known : ∃ known, root.job? name = some known ∧ id ∈ known.parties ∧
    ∀ l ∈ job.locations, l ∈ known.locations ∨ stale l

/-- Whatever a cluster has cached is backed by the root, but for some stale locations. -/
structure Coherent (ids : Fin n ↪ String) (stale : Fin n → String → UInt32 × Addresses → Prop)
    (w : World n) : Prop where
  sound : Sound ids w.root
  cached : ∀ i name job, w.clusters[i].job? name = some job →
    Backed w.root (ids i) (stale i name) name job

/-- Nothing is stale. -/
def Fresh (ids : Fin n ↪ String) (w : World n) : Prop :=
  Coherent ids (fun _ _ _ => False) w

/-- The root knows each job that is cached, and counts the cluster among its interested parties;
anything may be stale. -/
def Linked (ids : Fin n ↪ String) (w : World n) : Prop :=
  Coherent ids (fun _ _ _ => True) w

/-- The registry of one cluster is replaced. -/
theorem clusters_set (i k : Fin n) (r : Registry) (w : World n) :
    ((clusterPart i).set r w).clusters[k] = if k = i then r else w.clusters[k] := by
  simp only [clusterPart, getElem_number, Vector.getElem_set, Fin.ext_iff, eq_comm]

theorem Sound.empty : Sound ids ∅ where
  books := ⟨[], .empty⟩
  distinct := nofun
  identified := .empty
  active := nofun

/-- Every call of the root keeps what can be said about it. -/
theorem Sound.step {hand : List (Family × String)} {call : RootCall}
    {result : Except TierError call.Answer} {messages : List (String × ChildMessage)}
    (h : Sound ids root) (hb : root.Books hand)
    (hstep : RootStep root hand call result messages root')
    (hcall : ∀ a, result = .ok a → call.Identifies) : Sound ids root' ∧
      ∀ i, (root.cluster? (ids i)).isSome → (root'.cluster? (ids i)).isSome := by
  obtain ⟨hbooks, -⟩ := hstep.books hb
  have hdistinct := hstep.distinct hb h.distinct
  have hidentified := hstep.identified hb h.identified hcall
  rcases hstep.clusters with hc | ⟨new, hactive, hid, hc⟩
  · have hsame : ∀ i, root'.cluster? (ids i) = root.cluster? (ids i) := by
      intro i
      rw [Registry.cluster?, Registry.cluster?, hc]
    exact ⟨⟨⟨_, hbooks⟩, hdistinct, hidentified, fun i c hi => h.active i c (hsame i ▸ hi)⟩,
      fun i hi => (hsame i).symm ▸ hi⟩
  · have hsame : ∀ i, root'.cluster? (ids i) =
        if ids i = new.id then some new else root.cluster? (ids i) := by
      intro i
      rw [Registry.cluster?, hc, Table.get?_insert]
      rfl
    refine ⟨⟨⟨_, hbooks⟩, hdistinct, hidentified, fun i c hi => ?_⟩, fun i hi => ?_⟩
    · rw [hsame] at hi
      split at hi
      · next heq =>
        obtain rfl := Option.some.inj hi
        exact ⟨hactive, heq ▸ hid⟩
      · exact h.active i c hi
    · rw [hsame]
      split
      · rfl
      · exact hi

/-- A stranger may be marked as failed. -/
theorem Sound.mark {id : String} (h : Sound ids root) (hstranger : ∀ i, ids i ≠ id) :
    Sound ids (root.setClusterStatus id .failed).2 ∧
      (root.setClusterStatus id .failed).2.jobs = root.jobs ∧
      ∀ i, (root.setClusterStatus id .failed).2.cluster? (ids i) = root.cluster? (ids i) := by
  rw [Registry.setClusterStatus]
  split
  · exact ⟨h, rfl, fun _ => rfl⟩
  · next cluster hcluster =>
    have hsame : ∀ i, (root.clusters.insert id { cluster with status := .failed }).get? (ids i) =
        root.cluster? (ids i) :=
      fun i => Table.get?_insert_of_ne _ (hstranger i) _
    obtain ⟨lost, hb⟩ := h.books
    have hbooks : root.SameBooks
        { root with clusters := root.clusters.insert id { cluster with status := .failed } } :=
      ⟨rfl, rfl, fun _ _ => rfl⟩
    exact ⟨⟨⟨lost, hbooks.books hb⟩, h.distinct, h.identified,
      fun i c hi => h.active i c (hsame i ▸ hi)⟩, rfl, hsame⟩

/-- What is backed but for some stale locations is backed but for more of them. -/
theorem Backed.weaken {id name : String} {job : Job} {less more : UInt32 × Addresses → Prop}
    (h : Backed root id less name job) (himp : ∀ l, less l → more l) :
    Backed root id more name job := by
  obtain ⟨hname, hd, hregistered, known, hknown, hparty, hlocations⟩ := h
  exact ⟨hname, hd, hregistered, known, hknown, hparty,
    fun l hl => (hlocations l hl).imp_right (himp l)⟩

theorem Coherent.empty : Coherent ids stale (.empty n) where
  sound := .empty
  cached i name job hjob := by
    simp only [World.empty, Vector.getElem_replicate, getElem_number] at hjob
    cases hjob

namespace Coherent

/-- The registry of the root is replaced. -/
theorem replaceRoot (h : Coherent ids stale w) (hsound : Sound ids root)
    (hclusters : ∀ i, (w.root.cluster? (ids i)).isSome → (root.cluster? (ids i)).isSome)
    (hjobs : ∀ i name job known, w.clusters[i].job? name = some job →
      w.root.job? name = some known → ids i ∈ known.parties →
      ∃ known', root.job? name = some known' ∧ ids i ∈ known'.parties ∧
        ∀ l ∈ job.locations, l ∈ known.locations ∨ stale i name l →
          l ∈ known'.locations ∨ stale' i name l) :
    Coherent ids stale' { w with root } where
  sound := hsound
  cached i name job hjob := by
    obtain ⟨hname, hd, hregistered, known, hknown, hparty, hlocations⟩ := h.cached i name job hjob
    obtain ⟨known', hknown', hparty', hmore⟩ := hjobs i name job known hjob hknown hparty
    exact ⟨hname, hd, hclusters i hregistered, known', hknown', hparty',
      fun l hl => hmore l hl (hlocations l hl)⟩

/-- The registry of the root may grow. -/
theorem grow (h : Coherent ids stale w) (hsound : Sound ids root) (hjobs : w.root.Grows root)
    (hclusters : ∀ i, (w.root.cluster? (ids i)).isSome → (root.cluster? (ids i)).isSome) :
    Coherent ids stale { w with root } := by
  refine h.replaceRoot hsound hclusters fun i name job known _ hknown hparty => ?_
  obtain ⟨known', hknown', hparties, hmore⟩ := hjobs name known hknown
  exact ⟨known', hknown', hparties _ hparty, fun l _ hl => hl.imp (hmore l) id⟩

/-- One job of the root is replaced. It matters to the clusters that have cached the job. -/
theorem replaceJob (h : Coherent ids stale w) (hsound : Sound ids root)
    (hclusters : ∀ i, (w.root.cluster? (ids i)).isSome → (root.cluster? (ids i)).isSome)
    {name : String} {known known' : Job} (hknown : w.root.job? name = some known)
    (hj : root.jobs = w.root.jobs.insert name known')
    (hstale : ∀ i name l, stale i name l → stale' i name l)
    (hcached : ∀ i job, w.clusters[i].job? name = some job → ids i ∈ known.parties →
      ids i ∈ known'.parties ∧
        ∀ l ∈ job.locations, l ∈ known.locations → l ∈ known'.locations ∨ stale' i name l) :
    Coherent ids stale' { w with root } := by
  refine h.replaceRoot hsound hclusters fun i key job old hjob hold hparty => ?_
  by_cases hkey : key = name
  · subst hkey
    obtain rfl := Option.some.inj (hknown.symm.trans hold)
    have hknown' : root.job? key = some known' := by
      rw [Registry.job?, hj, Table.get?_insert_self]
    obtain ⟨hparty', hlocations⟩ := hcached i job hjob hparty
    exact ⟨known', hknown', hparty', fun l hl hl' =>
      hl'.elim (hlocations l hl) fun hs => .inr (hstale i key l hs)⟩
  · refine ⟨old, ?_, hparty, fun l _ hl' => hl'.imp id (hstale i key l)⟩
    rw [Registry.job?, hj, Table.get?_insert_of_ne _ hkey]
    exact hold

/-- A cluster may drop what it likes. -/
theorem shrink (h : Coherent ids stale w) {i : Fin n} {r : Registry}
    (hr : w.clusters[i].Shrinks r) : Coherent ids stale ((clusterPart i).set r w) where
  sound := h.sound
  cached k name job hjob := by
    rw [clusters_set] at hjob
    split at hjob
    · next heq =>
      obtain rfl : i = k := heq.symm
      obtain ⟨old, hold, hname, hdistinct, hsub⟩ := hr name job hjob
      obtain ⟨hname', hd, hregistered, known, hknown, hparty, hlocations⟩ :=
        h.cached i name old hold
      exact ⟨hname.trans hname', hdistinct hd, hregistered, known, hknown, hparty,
        fun l hl => hlocations l (hsub l hl)⟩
    · exact h.cached k name job hjob

/-- A cluster may take over what is backed. -/
theorem merge (h : Coherent ids stale w) {i : Fin n} {incoming : Job}
    (hb : Backed w.root (ids i) (stale i incoming.name) incoming.name incoming) :
    Coherent ids stale ((clusterPart i).set (w.clusters[i].mergeJob incoming).2 w) where
  sound := h.sound
  cached k name job hjob := by
    rw [clusters_set] at hjob
    split at hjob
    · next heq =>
      obtain rfl : i = k := heq.symm
      rw [Registry.mergeJob, Registry.job?, Table.get?_insert] at hjob
      split at hjob
      · next hkey =>
        subst hkey
        obtain rfl := Option.some.inj hjob
        obtain ⟨hname, hd, hlocations⟩ := Registry.merged_spec hb.distinct fun old hold =>
          ⟨(h.cached i _ old hold).named, (h.cached i _ old hold).distinct⟩
        obtain ⟨known, hknown, hparty, hin⟩ := hb.known
        refine ⟨hname, hd, hb.registered, known, hknown, hparty, fun l hl => ?_⟩
        rcases hlocations l hl with hl | ⟨old, hold, hl⟩
        · exact hin l hl
        · obtain ⟨known', hknown', -, hold'⟩ := (h.cached i _ old hold).known
          obtain rfl := Option.some.inj (hknown.symm.trans hknown')
          exact hold' l hl
      · exact h.cached i name job hjob
    · exact h.cached k name job hjob

/-- What is published for workers does not matter. -/
theorem publish (h : Coherent ids stale w) (published : List (Fin n × Publication)) :
    Coherent ids stale { w with published } :=
  ⟨h.sound, h.cached⟩

/-- What is stale for one reason may be stale for another one. -/
theorem weaken (h : Coherent ids stale w) (himp : ∀ i name job, w.clusters[i].job? name = some job →
    ∀ l ∈ job.locations, stale i name l → stale' i name l) : Coherent ids stale' w where
  sound := h.sound
  cached i name job hjob := by
    obtain ⟨hname, hd, hregistered, known, hknown, hparty, hlocations⟩ := h.cached i name job hjob
    refine ⟨hname, hd, hregistered, known, hknown, hparty, fun l hl => ?_⟩
    exact (hlocations l hl).imp id (himp i name job hjob l hl)

end Coherent

namespace Linked

/-- The root may forget instances, but neither jobs nor their parties. -/
theorem retain (h : Linked ids w) (hsound : Sound ids root) (hjobs : w.root.Retains root)
    (hclusters : ∀ i, (w.root.cluster? (ids i)).isSome → (root.cluster? (ids i)).isSome) :
    Linked ids { w with root } := by
  refine h.replaceRoot hsound hclusters fun i name job known _ hknown hparty => ?_
  obtain ⟨known', hknown', hparties⟩ := hjobs name known hknown
  exact ⟨known', hknown', hparties _ hparty, fun _ _ _ => .inr trivial⟩

end Linked

end Hierarchy

end Overlay
