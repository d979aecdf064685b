import Overlay.Address.Socket
import Overlay.Retry
import Overlay.Toml.Quoted
import Overlay.Toml.Text

/-!
# The configuration of a tier

Where a tier listens, where it keeps its data, who it is as a cluster and how it reaches its parent.
Every setting has a default and unknown ones do not matter; a setting of the wrong kind makes the
file unreadable. A cluster needs an identifier and the address of its parent.
-/

namespace Overlay

/-- Who a cluster is, and where its parent calls it back. -/
structure ClusterSettings where
  id : Option String
  advertiseAddress : Option String
  advertisePort : Option UInt16

/-- How a tier reaches its parent, and how often it tries to reach other tiers. -/
structure ParentSettings where
  url : Option String
  retry : RetryPolicy

/-- The settings of a tier. -/
structure Config where
  listen : SocketAddress
  dataDir : String
  cluster : ClusterSettings
  parent : ParentSettings

/-- What a cluster cannot do without. -/
structure ClusterIdentity where
  clusterId : String
  parentUrl : String
  advertiseAddress : String
  advertisePort : UInt16

/-- What a cluster lacks. -/
inductive IdentityFault where
  | clusterId
  | parentUrl
  deriving DecidableEq

/-- The wording of what a cluster lacks. -/
def IdentityFault.message : IdentityFault → String
  | clusterId => "cluster mode needs cluster.id"
  | parentUrl => "cluster mode needs parent.url"

namespace Config

/-- The settings without a file. -/
def standard : Config where
  listen := ⟨.ofValue .v4 0, 0, 10100⟩
  dataDir := "/var/lib/tiernet"
  cluster := ⟨none, none, none⟩
  parent := ⟨none, .standard⟩

/-! ## Reading -/

/-- A text. -/
def text? : Toml → Option String
  | .string s => some s
  | _ => none

/-- A natural number below a bound. -/
def natural? (bound : Nat) : Toml → Option Nat
  | .integer n => if 0 ≤ n ∧ n < bound then some n.toNat else none
  | _ => none

/-- A number of any kind as a double. -/
def double? : Toml → Option Float
  | .integer n => some (Float.ofInt n)
  | .float x => some x
  | _ => none

/-- A setting, or its default if it is missing. -/
def setting {α : Type} (found : Option Toml) (read : Toml → Option α) (value : α) : Option α :=
  match found with
  | some v => read v
  | none => some value

/-- An optional setting. -/
def optional {α : Type} (found : Option Toml) (read : Toml → Option α) : Option (Option α) :=
  match found with
  | some v => (read v).map some
  | none => some none

/-- The settings of a cluster, from what is found under a name and its place in a list. -/
def clusterOf (find : String → Nat → Option Toml) : Option ClusterSettings := do
  return ⟨← optional (find "id" 0) text?, ← optional (find "advertise_address" 1) text?,
    ← optional (find "advertise_port" 2) fun v => (natural? UInt16.size v).map UInt16.ofNat⟩

/-- The settings of a cluster: a table, or a list in the order of the settings. A date has none. -/
def cluster? : Toml → Option ClusterSettings
  | .table _ ms => clusterOf fun name _ => Toml.find? ms name
  | .array items => clusterOf fun _ place => items[place]?
  | .tables items => clusterOf fun _ place => items[place]?.map (.table .header)
  | .datetime => clusterOf fun _ _ => none
  | _ => none

/-- The settings for retries among others. -/
def retryOf (ms : Toml.Members) : Option RetryPolicy := do
  let d := RetryPolicy.standard
  let find := Toml.find? ms
  let word (name : String) (value : UInt64) : Option UInt64 :=
    setting (find name) (fun v => (natural? UInt64.size v).map UInt64.ofNat) value
  return {
    maxAttempts := ← setting (find "max_attempts")
      (fun v => (natural? UInt32.size v).map UInt32.ofNat) d.maxAttempts
    initialBackoff := ← word "initial_backoff_ms" d.initialBackoff
    maxBackoff := ← word "max_backoff_ms" d.maxBackoff
    multiplier := ← setting (find "multiplier") double? d.multiplier
    timeout := ← word "timeout_ms" d.timeout }

/-- The settings for the parent: a table. A date has none. -/
def parent? (v : Toml) : Option ParentSettings := do
  let ms ← match v with
    | .table _ ms => some ms
    | .datetime => some []
    | _ => none
  return ⟨← optional (Toml.find? ms "url") text?, ← retryOf ms⟩

/-- The settings of a document. -/
def ofMembers? (ms : Toml.Members) : Option Config := do
  let find := Toml.find? ms
  return {
    listen := ← setting (find "listen") (fun v => (text? v).bind SocketAddress.ofText?)
      standard.listen
    dataDir := ← setting (find "data_dir") text? standard.dataDir
    cluster := ← setting (find "cluster") cluster? standard.cluster
    parent := ← setting (find "parent") parent? standard.parent }

/-- The settings of a file. -/
def ofText? (text : String) : Option Config := do
  ofMembers? (← Toml.read? text)

/-! ## Writing -/

/-- A line of a file. -/
def line (name value : String) : String :=
  name ++ " = " ++ value ++ "\n"

/-- A line for an optional setting. -/
def line? {α : Type} (name : String) (text : α → String) : Option α → String
  | some a => line name (text a)
  | none => ""

/-- The file of the settings. -/
def toToml (c : Config) : String :=
  line "listen" (Toml.quoted c.listen.text) ++ line "data_dir" (Toml.quoted c.dataDir) ++
    "\n[cluster]\n" ++
    line? "id" Toml.quoted c.cluster.id ++
    line? "advertise_address" Toml.quoted c.cluster.advertiseAddress ++
    line? "advertise_port" toString c.cluster.advertisePort ++
    "\n[parent]\n" ++
    line? "url" Toml.quoted c.parent.url ++
    line "max_attempts" (toString c.parent.retry.maxAttempts) ++
    line "initial_backoff_ms" (toString c.parent.retry.initialBackoff) ++
    line "max_backoff_ms" (toString c.parent.retry.maxBackoff) ++
    line "multiplier" (Toml.floatText c.parent.retry.multiplier) ++
    line "timeout_ms" (toString c.parent.retry.timeout)

/-! ## What follows from the settings -/

/-- The file of the registry, in the data directory. -/
def registryPath (c : Config) : String :=
  if c.dataDir.isEmpty || c.dataDir.endsWith "/" then c.dataDir ++ "tiernet.redb"
  else c.dataDir ++ "/tiernet.redb"

/-- A text that says something. -/
def given (s : Option String) : Option String :=
  s.filter fun s => !s.isEmpty

/-- What a cluster is known by. Its parent calls it back where it listens, unless it says otherwise.
-/
def identity (c : Config) : Except IdentityFault ClusterIdentity :=
  match given c.cluster.id, given c.parent.url with
  | none, _ => .error .clusterId
  | some _, none => .error .parentUrl
  | some clusterId, some parentUrl =>
    .ok ⟨clusterId, parentUrl, c.cluster.advertiseAddress.getD c.listen.address.text,
      c.cluster.advertisePort.getD c.listen.port⟩

end Config

end Overlay
