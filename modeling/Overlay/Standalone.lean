import Overlay.Bus
import Overlay.Tier.Interest

/-!
# A tier on its own

A single tier between a scripted parent and recorded parties. The parent knows some jobs, has some
subnets to give and fails the calls it is told to fail. Messages to the parties below are recorded,
except for parties that cannot be reached. What the tier asks its parent and what it tells its
parties can be read off the state.
-/

namespace Overlay

/-- The name of a call to the parent. -/
def ParentCall.name : ParentCall → String
  | fetchJob _ => "fetch_job"
  | reportDeployment _ => "report_deploy_status"
  | requestSubnets => "request_subnet"
  | releaseSubnets _ => "release_subnet"
  | removeInterest _ => "remove_interest"
  | register _ => "register_cluster"

/-- What a parent knows and which calls fail. -/
structure ParentScript where
  jobs : List Job
  subnets : List Addresses
  /-- The names of the calls that fail; a star stands for all. -/
  failing : List String

/-- A message that reached a party. -/
structure Delivery where
  recipient : String
  message : ChildMessage

/-- The state of a tier on its own. -/
structure Standalone where
  registry : Registry
  script : ParentScript
  /-- Parties that cannot be reached. -/
  unreachable : List String
  /-- The calls to the parent, in order. -/
  calls : List ParentCall
  /-- The messages that reached their party, in order. -/
  delivered : List Delivery

namespace Standalone

/-- An empty registry between a parent and parties. -/
def start (script : ParentScript) (unreachable : List String) : Standalone :=
  ⟨∅, script, unreachable, [], []⟩

/-- The registry. -/
def site : Part Standalone Registry where
  get := registry
  set r s := { s with registry := r }

/-- The state without the records of calls and messages. -/
def clear (s : Standalone) : Standalone :=
  { s with calls := [], delivered := [] }

/-- What the scripted parent answers. -/
def scripted : (call : ParentCall) → ParentScript →
    Except EscalationFault call.Answer × ParentScript
  | .fetchJob selector, script =>
    (.ok (script.jobs.find? fun job =>
      match selector with
      | .name name => job.name == name
      | .address address => job.hasAddress address), script)
  | .requestSubnets, script =>
    match script.subnets with
    | subnets :: rest => (.ok subnets, { script with subnets := rest })
    | [] => (.error (.unreachable "no subnet left"), script)
  | .reportDeployment _, script => (.ok (), script)
  | .releaseSubnets _, script => (.ok (), script)
  | .removeInterest _, script => (.ok (), script)
  | .register _, script => (.ok (), script)

/-- The scripted parent. Every call is recorded, also one that fails. -/
def parent : Parent Standalone := fun call s =>
  let s := { s with calls := s.calls ++ [call] }
  if s.script.failing.contains "*" || s.script.failing.contains call.name then
    (.error (.unreachable "connection refused"), s)
  else
    let (answer, script) := scripted call s.script
    (answer, { s with script })

/-- Records messages, unless their party cannot be reached. -/
def deliver : Notifier Standalone := fun recipient message s =>
  if s.unreachable.contains recipient then (.error (.unreachable recipient), s)
  else (.ok (), { s with delivered := s.delivered ++ [⟨recipient, message⟩] })

/-- Records every message, as a bus does that reaches everybody. -/
def broadcast : Notifier Standalone := fun recipient message s =>
  (.ok (), { s with delivered := s.delivered ++ [⟨recipient, message⟩] })

/-- A root tier on its own. -/
def root (notify : Notifier Standalone) : Tier Standalone :=
  ⟨.root, site, notify⟩

/-- A cluster tier on its own. -/
def cluster (id : String) (notify : Notifier Standalone) : Tier Standalone :=
  ⟨.cluster id parent, site, notify⟩

end Standalone

end Overlay
