import Mathlib.Data.List.Basic
import Overlay.Http.Client
import Overlay.Proofs.Action
import Overlay.Tier.Membership

/-!
# Which clusters are called back

The root tells its clusters of changes by calling them back. A callback is a request that is sent as
often as the policy allows, and ends as its last attempt does. A cluster whose callback fails is marked,
and left alone until it registers again.

For every run of registrations and notifications, from any registry and whatever comes of each request,
a cluster is marked exactly if a callback to it has failed since it was registered last, no request goes
to a marked one, and a notification changes nothing but that mark (`Http.Wire.tracks_failures`).

`Http.Notified` has one case for each way to end a notification. What a run makes of the record of a
cluster follows from what one call makes of it (`Http.Wire.cluster?_perform`).
-/

namespace Overlay

namespace Http

/-! ## Requests that were sent -/

/-- A request that was sent. -/
structure Exchange where
  /-- What the root remembered at that time. -/
  registry : Registry
  url : Url
  request : Request
  outcome : Except TransportFault Reply

/-- The root, and what it has sent so far. -/
structure Line where
  registry : Registry
  sent : List Exchange

/-- The registry as a part of the line. -/
def Line.site : Part Line Registry where
  get := registry
  set r l := { l with registry := r }

/-- How often the root tries, and what comes of a request, given those that were sent before. -/
structure Wire where
  policy : RetryPolicy
  outcome : List Exchange → Url → Request → Except TransportFault Reply

variable {W : Wire} {l l' : Line} {id : String} {update : JobUpdate} {cluster : Cluster}
  {attempts : List Exchange} {ended ended' : Except TransportFault Reply}

namespace Wire

/-- A request that is sent now. -/
def exchange (W : Wire) (url : Url) (request : Request) (l : Line) : Exchange :=
  ⟨l.registry, url, request, W.outcome l.sent url request⟩

/-- Sends a request and keeps it. -/
def transport (W : Wire) : Transport Line := fun url request l =>
  ((W.exchange url request l).outcome, { l with sent := l.sent ++ [W.exchange url request l] })

/-- The root on the line. -/
def root (W : Wire) : Tier Line :=
  ⟨.root, Line.site, clusterNotifier Line.site W.policy W.transport⟩

end Wire

/-! ## Callbacks -/

/-- The request that tells of a change. -/
def tellingRequest (url : Url) (update : JobUpdate) : Request :=
  ⟨"POST", url.target, [("content-type", "application/json")],
    some (JobUpdate.form.write update).write⟩

/-- The request tells the cluster of the change. -/
def Exchange.Tells (x : Exchange) (cluster : Cluster) (update : JobUpdate) : Prop :=
  Url.ofText? (callbackUrl cluster) = some x.url ∧ x.request = tellingRequest x.url update

/-- A callback ends as its last attempt does. If there is no URL for the cluster, it fails without an
attempt. -/
inductive Ends (cluster : Cluster) : List Exchange → Except TransportFault Reply → Prop
  | unsendable (h : Url.ofText? (callbackUrl cluster) = none) : Ends cluster [] (.error .unsendable)
  | last (before : List Exchange) (x : Exchange) : Ends cluster (before ++ [x]) x.outcome

/-- A callback ends in a response that is no success, or in none. -/
def Fails : Except TransportFault Reply → Prop
  | .ok reply => reply.status.isSuccess = false
  | .error _ => True

/-- These are the attempts of a callback that was made on the line, and so it ended. -/
structure CallsBack (l : Line) (cluster : Cluster) (update : JobUpdate) (attempts : List Exchange)
    (ended : Except TransportFault Reply) : Prop where
  tells : ∀ x ∈ attempts, x.registry = l.registry ∧ x.Tells cluster update
  ends : Ends cluster attempts ended

/-- A callback ends in one way. -/
theorem Ends.unique (h : Ends cluster attempts ended) (h' : Ends cluster attempts ended') :
    ended = ended' := by
  cases h with
  | unsendable =>
    generalize hnil : ([] : List Exchange) = attempts at h'
    cases h' with
    | unsendable => rfl
    | last before x => simp at hnil
  | last before x =>
    generalize hlast : before ++ [x] = attempts at h'
    cases h' with
    | unsendable => simp at hlast
    | last before' x' =>
      obtain ⟨-, hx⟩ := List.append_inj' hlast rfl
      obtain rfl := List.singleton_inj.1 hx
      rfl

/-- One more attempt came before. -/
theorem CallsBack.cons {x : Exchange} (h : CallsBack l' cluster update attempts ended)
    (hsame : l'.registry = l.registry) (hregistry : x.registry = l.registry)
    (htells : x.Tells cluster update) : CallsBack l cluster update (x :: attempts) ended where
  tells := List.forall_mem_cons.2
    ⟨⟨hregistry, htells⟩, fun y hy => ⟨(h.tells y hy).1.trans hsame, (h.tells y hy).2⟩⟩
  ends := by
    cases h.ends with
    | unsendable hnone => cases hnone.symm.trans htells.1
    | last before y => exact .last (x :: before) y

/-- The attempt to call back a cluster without a URL. -/
theorem callBack_of_none {σ : Type} (hurl : Url.ofText? (callbackUrl cluster) = none)
    (transport : Transport σ) (update : JobUpdate) :
    callBack transport cluster update = throw .unsendable := by
  unfold callBack
  rw [hurl]

/-- An attempt to call back a cluster that has a URL. -/
theorem callBack_of_some {σ : Type} {url : Url}
    (hurl : Url.ofText? (callbackUrl cluster) = some url) (transport : Transport σ)
    (update : JobUpdate) :
    callBack transport cluster update = transport url (tellingRequest url update) := by
  unfold callBack
  rw [hurl, tellingRequest]

/-- An action that sends a request which tells the cluster of the change. -/
def Sends (cluster : Cluster) (update : JobUpdate) (try_ : Action Line TransportFault Reply) : Prop :=
  ∀ l, ∃ x : Exchange, try_ l = (x.outcome, { l with sent := l.sent ++ [x] }) ∧
    x.registry = l.registry ∧ x.Tells cluster update

/-- Attempts that each send a request, as many as are left. The registry stays the same between them,
so they all tell the same. -/
theorem Sends.sendLeft {try_ : Action Line TransportFault Reply} (h : Sends cluster update try_)
    (left : Nat) (l : Line) : ∃ attempts ended, RetryPolicy.sendLeft (·.status) try_ left l =
      (ended, { l with sent := l.sent ++ attempts }) ∧ CallsBack l cluster update attempts ended := by
  induction left generalizing l with
  | zero =>
    obtain ⟨x, htry, hregistry, htells⟩ := h l
    exact ⟨[x], x.outcome, htry, List.forall_mem_singleton.2 ⟨hregistry, htells⟩, .last [] x⟩
  | succ left ih =>
    obtain ⟨x, htry, hregistry, htells⟩ := h l
    have hattempt : (try_.attempt : Action Line TransportFault _) l =
        (.ok x.outcome, { l with sent := l.sent ++ [x] }) := by
      rw [Action.attempt_apply, htry]
    rw [RetryPolicy.sendLeft, Action.bind_of_ok hattempt]
    by_cases hpassing : RetryPolicy.isPassing (·.status) x.outcome = true
    · obtain ⟨attempts, ended, hrun, hcalls⟩ := ih { l with sent := l.sent ++ [x] }
      refine ⟨x :: attempts, ended, ?_, hcalls.cons rfl hregistry htells⟩
      rw [if_pos hpassing, hrun, List.append_assoc, List.singleton_append]
    · refine ⟨[x], x.outcome, ?_, List.forall_mem_singleton.2 ⟨hregistry, htells⟩, .last [] x⟩
      rw [if_neg hpassing, Action.ofExcept_apply]

/-- An attempt that cannot be made is not made again. -/
theorem sendLeft_throw (left : Nat) (l : Line) : RetryPolicy.sendLeft (Reply.status ·)
    (throw .unsendable) left l = (.error .unsendable, l) := by
  cases left <;> rfl

/-- **Callbacks.** A cluster is called back with attempts that all tell it of the change. -/
theorem Wire.send_callBack (W : Wire) (l : Line) (cluster : Cluster) (update : JobUpdate) :
    ∃ attempts ended, W.policy.send (·.status) (callBack W.transport cluster update) l =
      (ended, { l with sent := l.sent ++ attempts }) ∧ CallsBack l cluster update attempts ended := by
  cases hurl : Url.ofText? (callbackUrl cluster) with
  | none =>
    rw [callBack_of_none hurl]
    refine ⟨[], .error .unsendable, ?_, nofun, .unsendable hurl⟩
    rw [RetryPolicy.send, sendLeft_throw, List.append_nil]
  | some url =>
    have hsends : Sends cluster update (callBack W.transport cluster update) := fun l => by
      rw [callBack_of_some hurl]
      exact ⟨W.exchange url (tellingRequest url update) l, rfl, rfl, hurl, rfl⟩
    exact hsends.sendLeft (W.policy.attempts - 1) l

/-! ## One notification -/

/-- The registry in which a cluster is marked. -/
def marked (r : Registry) (id : String) (cluster : Cluster) : Registry :=
  { r with clusters := r.clusters.insert id { cluster with status := .failed } }

theorem cluster?_marked (r : Registry) (id : String) (cluster : Cluster) :
    (marked r id cluster).cluster? id = some { cluster with status := .failed } :=
  Table.get?_insert_self ..

/-- What comes of telling a cluster of a change. -/
inductive Notified (l : Line) (id : String) (update : JobUpdate) :
    Except DeliveryFault Unit → Line → Prop
  | unregistered (hunknown : l.registry.cluster? id = none) :
      Notified l id update (.error (.notRegistered id)) l
  | skipped {cluster : Cluster} (hcluster : l.registry.cluster? id = some cluster)
      (hfailed : cluster.status = .failed) : Notified l id update (.ok ()) l
  | delivered {cluster : Cluster} {attempts : List Exchange} {ended : Except TransportFault Reply}
      (hcluster : l.registry.cluster? id = some cluster) (hactive : cluster.status = .active)
      (hcalls : CallsBack l cluster update attempts ended) (hended : ¬ Fails ended) :
      Notified l id update (.ok ()) { l with sent := l.sent ++ attempts }
  | failed {cluster : Cluster} {attempts : List Exchange} {ended : Except TransportFault Reply}
      (hcluster : l.registry.cluster? id = some cluster) (hactive : cluster.status = .active)
      (hcalls : CallsBack l cluster update attempts ended) (hended : Fails ended)
      (fault : DeliveryFault) :
      Notified l id update (.error fault) ⟨marked l.registry id cluster, l.sent ++ attempts⟩

/-- **One notification.** A cluster that is not marked is called back, and marked if this fails. -/
theorem Wire.notify_notified (W : Wire) (l : Line) (id : String) (update : JobUpdate) :
    Notified l id update (W.root.notify id (.update update) l).1
      (W.root.notify id (.update update) l).2 := by
  have hlook : (Action.inspect fun l => (Line.site.get l).cluster? id :
      Action Line DeliveryFault _) l = (.ok (l.registry.cluster? id), l) := rfl
  have hrun : W.root.notify id (.update update) l =
      clusterNotifier Line.site W.policy W.transport id (.update update) l := rfl
  rw [hrun, clusterNotifier, Action.bind_of_ok hlook]
  cases hcluster : l.registry.cluster? id with
  | none => exact .unregistered hcluster
  | some cluster =>
    cases hstatus : cluster.status with
    | failed =>
      simp only [hstatus, if_true]
      exact .skipped hcluster hstatus
    | active =>
      obtain ⟨attempts, ended, hsend, hcalls⟩ := W.send_callBack l cluster update
      have hattempt : ((W.policy.send (·.status) (callBack W.transport cluster update)).attempt :
          Action Line DeliveryFault _) l = (.ok ended, { l with sent := l.sent ++ attempts }) := by
        rw [Action.attempt_apply, hsend]
      have hmark : ((Action.step fun r : Registry => r.setClusterStatus id .failed).zoom Line.site :
          Action Line DeliveryFault Bool) { l with sent := l.sent ++ attempts } =
          (.ok true, ⟨marked l.registry id cluster, l.sent ++ attempts⟩) := by
        simp only [Action.zoom_apply, Action.step_apply, Line.site, Registry.setClusterStatus,
          hcluster]
        rfl
      simp only [hstatus, reduceCtorEq, if_false]
      rw [Action.bind_of_ok hattempt]
      cases ended with
      | error fault =>
        dsimp only
        rw [Action.bind_of_ok hmark]
        exact .failed hcluster hstatus hcalls trivial _
      | ok reply =>
        cases hsuccess : reply.status.isSuccess with
        | true =>
          simp only [hsuccess, if_true]
          exact .delivered hcluster hstatus hcalls (by simp [Fails, hsuccess])
        | false =>
          simp only [hsuccess, Bool.false_eq_true, if_false]
          rw [Action.bind_of_ok hmark]
          exact .failed hcluster hstatus hcalls hsuccess _

/-- Between the two lines, a callback of the change was made to the cluster and has failed. -/
def FailsBack (l l' : Line) (id : String) (update : JobUpdate) : Prop :=
  ∃ cluster attempts ended, l.registry.cluster? id = some cluster ∧ cluster.status = .active ∧
    l'.sent = l.sent ++ attempts ∧ CallsBack l cluster update attempts ended ∧ Fails ended

namespace Notified

variable {result : Except DeliveryFault Unit} {other : String}

/-- The clusters that are not told stay as they are. -/
theorem cluster?_of_ne (h : Notified l id update result l') (hne : other ≠ id) :
    l'.registry.cluster? other = l.registry.cluster? other := by
  cases h with
  | failed => exact Table.get?_insert_of_ne _ hne _
  | _ => rfl

/-- Of the cluster that is told only the status may change. -/
theorem exists_status (h : Notified l id update result l') : ∃ status,
    l'.registry.cluster? id = (l.registry.cluster? id).map ({ · with status }) := by
  cases h with
  | unregistered hunknown => exact ⟨.active, by rw [hunknown, Option.map_none]⟩
  | @skipped cluster hcluster _ => exact ⟨cluster.status, by rw [hcluster, Option.map_some]⟩
  | @delivered cluster _ _ hcluster _ _ _ =>
    exact ⟨cluster.status, hcluster.trans (by rw [hcluster, Option.map_some])⟩
  | failed hcluster =>
    refine ⟨.failed, ?_⟩
    rw [hcluster, Option.map_some]
    exact cluster?_marked ..

/-- Besides its clusters the registry stays as it is. -/
theorem clusters_only (h : Notified l id update result l') :
    { l'.registry with clusters := l.registry.clusters } = l.registry := by
  cases h <;> rfl

/-- The cluster is marked if a callback to it was made and has failed, and else its record stays as it
is. -/
theorem cluster?_cases (h : Notified l id update result l') :
    (FailsBack l l' id update ∧ ∃ cluster,
      l'.registry.cluster? id = some cluster ∧ cluster.status = .failed) ∨
    (¬ FailsBack l l' id update ∧ l'.registry.cluster? id = l.registry.cluster? id) := by
  cases h with
  | unregistered hunknown =>
    refine .inr ⟨?_, rfl⟩
    rintro ⟨cluster, _, _, hcluster, -⟩
    cases hunknown.symm.trans hcluster
  | skipped hcluster hfailed =>
    refine .inr ⟨?_, rfl⟩
    rintro ⟨other, _, _, hother, hactive, -⟩
    obtain rfl := Option.some.inj (hcluster.symm.trans hother)
    cases hfailed.symm.trans hactive
  | delivered hcluster hactive hcalls hended =>
    refine .inr ⟨?_, rfl⟩
    rintro ⟨other, attempts, ended, hother, -, hsent, hcalls', hfails⟩
    obtain rfl := Option.some.inj (hcluster.symm.trans hother)
    obtain rfl := List.append_cancel_left hsent
    exact hended (hcalls.ends.unique hcalls'.ends ▸ hfails)
  | failed hcluster hactive hcalls hended =>
    exact .inl ⟨⟨_, _, _, hcluster, hactive, rfl, hcalls, hended⟩, _, cluster?_marked .., rfl⟩

/-- A cluster that is not marked is called back; otherwise nothing is sent. -/
theorem sent_cases (h : Notified l id update result l') :
    (∃ cluster attempts ended, l.registry.cluster? id = some cluster ∧ cluster.status = .active ∧
      l'.sent = l.sent ++ attempts ∧ CallsBack l cluster update attempts ended) ∨
    ((∀ cluster, l.registry.cluster? id = some cluster → cluster.status = .failed) ∧
      l'.sent = l.sent) := by
  cases h with
  | unregistered hunknown =>
    refine .inr ⟨fun cluster hcluster => ?_, rfl⟩
    cases hunknown.symm.trans hcluster
  | skipped hcluster hfailed =>
    refine .inr ⟨fun other hother => ?_, rfl⟩
    obtain rfl := Option.some.inj (hcluster.symm.trans hother)
    exact hfailed
  | delivered hcluster hactive hcalls => exact .inl ⟨_, _, _, hcluster, hactive, rfl, hcalls⟩
  | failed hcluster hactive hcalls => exact .inl ⟨_, _, _, hcluster, hactive, rfl, hcalls⟩

end Notified

end Http

/-! ## Runs -/

/-- What happens to the clusters of the root. -/
inductive ClusterCall where
  | register (registration : ClusterRegistration)
  | notify (id : String) (update : JobUpdate)

/-- The call registers the cluster; a registration that is not complete is refused. -/
def ClusterCall.Registers (id : String) : ClusterCall → Prop
  | register registration => registration.id = id ∧ id ≠ "" ∧ registration.address ≠ ""
  | notify _ _ => False

namespace Http

/-- The request is sent for a notification, to a cluster that is not marked at that time. -/
def Exchange.Tries (x : Exchange) (l : Line) (call : ClusterCall) : Prop :=
  ∃ id update cluster, call = .notify id update ∧ x.registry = l.registry ∧
    x.registry.cluster? id = some cluster ∧ cluster.status = .active ∧ x.Tells cluster update

namespace Wire

variable {W : Wire} {s l : Line} {id : String} {call : ClusterCall}

/-- The line after a call. -/
def perform (W : Wire) : ClusterCall → Line → Line
  | .register registration => (W.root.registerCluster registration).after
  | .notify id update => (W.root.notify id (.update update)).after

/-- The line after a run of calls, of which the last one stands first. -/
def run (W : Wire) (s : Line) : List ClusterCall → Line
  | [] => s
  | call :: earlier => W.perform call (W.run s earlier)

/-- The call makes a callback to the cluster, which fails. -/
def CallFails (W : Wire) (l : Line) (id : String) (call : ClusterCall) : Prop :=
  ∃ update, call = .notify id update ∧ FailsBack l (W.perform call l) id update

/-- A callback to the cluster has failed, and it was not registered since. -/
def HasFailed (W : Wire) (s : Line) (id : String) (calls : List ClusterCall) : Prop :=
  ∃ later call earlier, calls = later ++ call :: earlier ∧ (∀ c ∈ later, ¬ c.Registers id) ∧
    W.CallFails (W.run s earlier) id call

theorem hasFailed_cons {earlier : List ClusterCall} : W.HasFailed s id (call :: earlier) ↔
    W.CallFails (W.run s earlier) id call ∨ ¬ call.Registers id ∧ W.HasFailed s id earlier := by
  constructor
  · rintro ⟨_ | ⟨first, later⟩, failing, before, hsplit, hlater, hfails⟩
    · obtain ⟨rfl, rfl⟩ := List.cons.inj hsplit
      exact .inl hfails
    · obtain ⟨rfl, rfl⟩ := List.cons.inj hsplit
      obtain ⟨hfirst, hlater⟩ := List.forall_mem_cons.1 hlater
      exact .inr ⟨hfirst, later, failing, before, rfl, hlater, hfails⟩
  · rintro (hfails | ⟨hcall, later, failing, before, rfl, hlater, hfails⟩)
    · exact ⟨[], call, earlier, rfl, nofun, hfails⟩
    · exact ⟨call :: later, failing, before, rfl, List.forall_mem_cons.2 ⟨hcall, hlater⟩, hfails⟩

/-- A registration that is complete is stored. -/
theorem perform_register (W : Wire) (l : Line) {registration : ClusterRegistration}
    (hid : registration.id ≠ "") (haddress : registration.address ≠ "") :
    W.perform (.register registration) l = ⟨l.registry.putCluster
      ⟨registration.id, registration.address, registration.port, .active⟩, l.sent⟩ := by
  have hcomplete : (registration.id.isEmpty || registration.address.isEmpty) = false := by
    simp [hid, haddress]
  have hroot : (!W.root.isRoot) = false := rfl
  simp only [perform, Action.after, Tier.registerCluster, hroot, hcomplete, Bool.false_eq_true,
    if_false]
  rfl

/-- A registration that is not complete is refused. -/
theorem perform_register_refused (W : Wire) (l : Line) {registration : ClusterRegistration}
    (h : registration.id = "" ∨ registration.address = "") :
    W.perform (.register registration) l = l := by
  have hlacks : (registration.id.isEmpty || registration.address.isEmpty) = true := by
    simpa [String.isEmpty_iff] using h
  have hroot : (!W.root.isRoot) = false := rfl
  simp only [perform, Action.after, Tier.registerCluster, hroot, hlacks, Bool.false_eq_true,
    if_false, if_true]
  rfl

theorem perform_notified (W : Wire) (l : Line) (id : String) (update : JobUpdate) :
    ∃ result, Notified l id update result (W.perform (.notify id update) l) :=
  ⟨_, W.notify_notified l id update⟩

/-- **One call.** A registration clears the mark of its cluster, a failing callback sets it, and no
other call changes the record. -/
theorem cluster?_perform (W : Wire) (l : Line) (id : String) (call : ClusterCall) :
    (call.Registers id ∧ ¬ W.CallFails l id call ∧ ∃ cluster,
      (W.perform call l).registry.cluster? id = some cluster ∧ cluster.status = .active) ∨
    (¬ call.Registers id ∧ W.CallFails l id call ∧ ∃ cluster,
      (W.perform call l).registry.cluster? id = some cluster ∧ cluster.status = .failed) ∨
    (¬ call.Registers id ∧ ¬ W.CallFails l id call ∧
      (W.perform call l).registry.cluster? id = l.registry.cluster? id) := by
  cases call with
  | register registration =>
    have hfine : ¬ W.CallFails l id (.register registration) := by
      rintro ⟨_, hcall, -⟩
      cases hcall
    by_cases hlacks : registration.id = "" ∨ registration.address = ""
    · refine .inr (.inr ⟨?_, hfine, by rw [perform_register_refused W l hlacks]⟩)
      rintro ⟨rfl, hid, haddress⟩
      exact hlacks.elim hid haddress
    obtain ⟨hid, haddress⟩ := not_or.1 hlacks
    rw [perform_register W l hid haddress]
    by_cases heq : registration.id = id
    · subst heq
      exact .inl ⟨⟨rfl, hid, haddress⟩, hfine, _, Table.get?_insert_self .., rfl⟩
    · exact .inr (.inr ⟨fun h => heq h.1, hfine, Table.get?_insert_of_ne _ (Ne.symm heq) _⟩)
  | notify told update =>
    obtain ⟨result, h⟩ := W.perform_notified l told update
    have hfails : W.CallFails l id (.notify told update) ↔
        told = id ∧ FailsBack l (W.perform (.notify told update) l) told update := by
      constructor
      · rintro ⟨update', hcall, hfails⟩
        obtain ⟨rfl, rfl⟩ := ClusterCall.notify.inj hcall
        exact ⟨rfl, hfails⟩
      · rintro ⟨rfl, hfails⟩
        exact ⟨update, rfl, hfails⟩
    rw [hfails]
    by_cases heq : told = id
    · subst heq
      rcases h.cluster?_cases with ⟨hback, hmarked⟩ | ⟨hback, hsame⟩
      · exact .inr (.inl ⟨False.elim, ⟨rfl, hback⟩, hmarked⟩)
      · exact .inr (.inr ⟨False.elim, fun h => hback h.2, hsame⟩)
    · exact .inr (.inr ⟨False.elim, fun h => heq h.1, h.cluster?_of_ne (Ne.symm heq)⟩)

/-- **Marks.** A cluster is marked if a callback to it has failed since it was registered last. One that
was not registered in the run keeps the mark that it had. -/
theorem status_run (W : Wire) (s : Line) {calls : List ClusterCall} {cluster : Cluster}
    (hcluster : (W.run s calls).registry.cluster? id = some cluster) :
    cluster.status = .failed ↔ W.HasFailed s id calls ∨
      (∀ call ∈ calls, ¬ call.Registers id) ∧
        ∃ old, s.registry.cluster? id = some old ∧ old.status = .failed := by
  induction calls generalizing cluster with
  | nil =>
    have hnone : ¬ W.HasFailed s id [] := by
      rintro ⟨later, call, earlier, hsplit, -⟩
      simp at hsplit
    constructor
    · exact fun hfailed => .inr ⟨nofun, cluster, hcluster, hfailed⟩
    · rintro (hfailed | ⟨-, old, hold, hfailed⟩)
      · exact absurd hfailed hnone
      · obtain rfl := Option.some.inj (hcluster.symm.trans hold)
        exact hfailed
  | cons call earlier ih =>
    rw [hasFailed_cons, List.forall_mem_cons]
    rcases W.cluster?_perform (W.run s earlier) id call with
      ⟨hregisters, hfine, _, hnow, hactive⟩ | ⟨hother, hfails, _, hnow, hfailed⟩ |
      ⟨hother, hfine, hsame⟩
    · obtain rfl := Option.some.inj (hcluster.symm.trans hnow)
      simp [hregisters, hfine, hactive]
    · obtain rfl := Option.some.inj (hcluster.symm.trans hnow)
      simp [hfails, hfailed]
    · have hbefore := ih (hsame.symm.trans hcluster)
      simpa [hother, hfine] using hbefore

/-- What a call sends are attempts to call a cluster back that is not marked. -/
theorem sent_perform (W : Wire) (l : Line) (call : ClusterCall) :
    ∃ attempts, (W.perform call l).sent = l.sent ++ attempts ∧
      ∀ x ∈ attempts, x.Tries l call := by
  cases call with
  | register registration =>
    refine ⟨[], ?_, nofun⟩
    rw [List.append_nil]
    by_cases hlacks : registration.id = "" ∨ registration.address = ""
    · rw [perform_register_refused W l hlacks]
    · obtain ⟨hid, haddress⟩ := not_or.1 hlacks
      rw [perform_register W l hid haddress]
  | notify id update =>
    obtain ⟨result, h⟩ := W.perform_notified l id update
    rcases h.sent_cases with ⟨cluster, attempts, ended, hcluster, hactive, hsent, hcalls⟩ | ⟨-, hsent⟩
    · refine ⟨attempts, hsent, fun x hx => ?_⟩
      obtain ⟨hregistry, htells⟩ := hcalls.tells x hx
      exact ⟨id, update, cluster, rfl, hregistry, hregistry ▸ hcluster, hactive, htells⟩
    · exact ⟨[], hsent.trans (List.append_nil _).symm, nofun⟩

/-- **Requests.** All that a run sends are attempts to call clusters back that are not marked. -/
theorem sent_run (W : Wire) (s : Line) (calls : List ClusterCall) :
    ∃ sent, (W.run s calls).sent = s.sent ++ sent ∧ ∀ x ∈ sent, ∃ later call earlier,
      calls = later ++ call :: earlier ∧ x.Tries (W.run s earlier) call := by
  induction calls with
  | nil => exact ⟨[], (List.append_nil _).symm, nofun⟩
  | cons call earlier ih =>
    obtain ⟨sent, hsent, hbefore⟩ := ih
    obtain ⟨attempts, hattempts, htries⟩ := W.sent_perform (W.run s earlier) call
    refine ⟨sent ++ attempts, ?_, fun x hx => ?_⟩
    · rw [run, hattempts, hsent, List.append_assoc]
    · rcases List.mem_append.1 hx with hx | hx
      · obtain ⟨later, before, rest, rfl, hx⟩ := hbefore x hx
        exact ⟨call :: later, before, rest, rfl, hx⟩
      · exact ⟨[], call, earlier, rfl, htries x hx⟩

/-- How the root keeps track of the clusters whose callbacks fail. -/
structure TracksFailures (W : Wire) (s : Line) : Prop where
  /-- A cluster that is new or registers in the run is marked exactly if a callback to it has failed
  since it was registered last. -/
  failed_iff : ∀ calls id cluster,
    s.registry.cluster? id = none ∨ (∃ call ∈ calls, call.Registers id) →
    (W.run s calls).registry.cluster? id = some cluster →
    (cluster.status = .failed ↔ W.HasFailed s id calls)
  /-- The mark that a cluster had before the run counts until it registers again. -/
  failed_iff_before : ∀ calls id cluster, (W.run s calls).registry.cluster? id = some cluster →
    (cluster.status = .failed ↔ W.HasFailed s id calls ∨
      (∀ call ∈ calls, ¬ call.Registers id) ∧
        ∃ old, s.registry.cluster? id = some old ∧ old.status = .failed)
  /-- No request is sent to a marked cluster. -/
  spares : ∀ calls, ∃ sent, (W.run s calls).sent = s.sent ++ sent ∧ ∀ x ∈ sent,
    ∃ later call earlier, calls = later ++ call :: earlier ∧ x.Tries (W.run s earlier) call
  /-- A cluster that is told of a change is called back, unless it is marked or unknown. -/
  calls_back : ∀ l id update cluster, l.registry.cluster? id = some cluster →
    cluster.status = .active → ∃ attempts ended,
      (W.perform (.notify id update) l).sent = l.sent ++ attempts ∧
      CallsBack l cluster update attempts ended
  /-- A notification changes the record of no other cluster. -/
  others : ∀ l id update other, other ≠ id →
    (W.perform (.notify id update) l).registry.cluster? other = l.registry.cluster? other
  /-- It changes at most the status of the cluster that is told. -/
  status_only : ∀ l id update, ∃ status, (W.perform (.notify id update) l).registry.cluster? id =
    (l.registry.cluster? id).map ({ · with status })
  /-- It changes nothing but clusters. -/
  clusters_only : ∀ l id update,
    { (W.perform (.notify id update) l).registry with clusters := l.registry.clusters } = l.registry

/-- **Failing clusters.** Whatever comes of the requests, a cluster is marked if a callback to it has
failed since it was registered last, a marked cluster is not called back, and a notification changes
nothing but the mark of the cluster that is told. -/
theorem tracks_failures (W : Wire) (s : Line) : W.TracksFailures s where
  failed_iff calls id cluster hknown hcluster := by
    refine (W.status_run s hcluster).trans (or_iff_left ?_)
    rintro ⟨hnever, old, hold, -⟩
    rcases hknown with hnew | ⟨call, hcall, hregisters⟩
    · cases hnew.symm.trans hold
    · exact hnever call hcall hregisters
  failed_iff_before _ _ _ := W.status_run s
  spares := W.sent_run s
  calls_back l id update cluster hcluster hactive := by
    obtain ⟨result, h⟩ := W.perform_notified l id update
    rcases h.sent_cases with ⟨other, attempts, ended, hother, -, hcalled⟩ | ⟨hskipped, -⟩
    · obtain rfl := Option.some.inj (hcluster.symm.trans hother)
      exact ⟨attempts, ended, hcalled⟩
    · cases hactive.symm.trans (hskipped cluster hcluster)
  others l id update _ hne := by
    obtain ⟨result, h⟩ := W.perform_notified l id update
    exact h.cluster?_of_ne hne
  status_only l id update := by
    obtain ⟨result, h⟩ := W.perform_notified l id update
    exact h.exists_status
  clusters_only l id update := by
    obtain ⟨result, h⟩ := W.perform_notified l id update
    exact h.clusters_only

end Wire

end Http

end Overlay
