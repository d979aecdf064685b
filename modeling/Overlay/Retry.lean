import Overlay.Action
import Overlay.Json.Form

/-!
# Retries

A call across tiers is tried again when the other side could not be reached or answered with the
status of a gateway that could not go on. Between two attempts the delay grows by a factor, up to a
limit. The last attempt counts, whatever it gives.
-/

namespace Overlay

open Json

/-- How often a call is tried, and how long one waits in between, in milliseconds. -/
structure RetryPolicy where
  maxAttempts : UInt32
  initialBackoff : UInt64
  maxBackoff : UInt64
  multiplier : Float
  /-- How long one attempt may take. -/
  timeout : UInt64

/-- Why an attempt gave no response. -/
inductive TransportFault where
  /-- Nobody answered, or not in time. -/
  | unreachable (url : String)
  /-- The request could not be built. -/
  | unsendable
  deriving DecidableEq

namespace TransportFault

/-- The wording of a fault. -/
def message : TransportFault → String
  | unreachable url => s!"error sending request for url ({url})"
  | unsendable => "builder error"

end TransportFault

namespace RetryPolicy

/-- The policy without settings. -/
def standard : RetryPolicy :=
  ⟨5, 500, 8000, 2.0, 2000⟩

/-- The members of a policy. -/
def record : Record RetryPolicy RetryPolicy :=
  (Record.start RetryPolicy.mk)
    |>.field (.defaulted "max_attempts" .uint32 standard.maxAttempts) (·.maxAttempts)
    |>.field (.defaulted "initial_backoff_ms" .uint64 standard.initialBackoff) (·.initialBackoff)
    |>.field (.defaulted "max_backoff_ms" .uint64 standard.maxBackoff) (·.maxBackoff)
    |>.field (.defaulted "multiplier" .double standard.multiplier) (·.multiplier)
    |>.field (.defaulted "timeout_ms" .uint64 standard.timeout) (·.timeout)

/-- The form of a policy. -/
def form : Form RetryPolicy :=
  record.form

/-! ## Delays -/

/-- A power by repeated squaring, with at most `fuel` squares. -/
def powerNat : Nat → Float → Nat → Float → Float
  | 0, _, _, acc => acc
  | fuel + 1, x, n, acc =>
    let acc := if n % 2 = 1 then acc * x else acc
    if n / 2 = 0 then acc else powerNat fuel (x * x) (n / 2) acc

/-- A power with a whole exponent; a negative one is the reciprocal of the power. -/
def power (x : Float) (n : Int) : Float :=
  let p := powerNat 64 x n.natAbs 1.0
  if n < 0 then 1.0 / p else p

/-- The smaller of two numbers; one that is no number does not count. -/
def smaller (x y : Float) : Float :=
  if x.isNaN then y else if y.isNaN then x else if x < y then x else y

/-- The delay after an attempt, counted from zero as a number of 32 bits with sign. -/
def backoff (p : RetryPolicy) (attempt : UInt32) : UInt64 :=
  let delay := p.initialBackoff.toFloat * power p.multiplier attempt.toInt32.toInt
  (smaller delay p.maxBackoff.toFloat).toUInt64

/-! ## Attempts -/

/-- Whether a response with this status is worth another attempt. -/
def isRetryable (status : Nat) : Bool :=
  status == 502 || status == 503 || status == 504

/-- The number of attempts, at least one. -/
def attempts (p : RetryPolicy) : Nat :=
  max p.maxAttempts.toNat 1

variable {σ ρ : Type}

/-- Whether the outcome of an attempt is worth another one. -/
def isPassing (status : ρ → Nat) : Except TransportFault ρ → Bool
  | .ok response => isRetryable (status response)
  | .error (.unreachable _) => true
  | .error .unsendable => false

/-- Makes an attempt, and as many more as are left while they are worth it. -/
def sendLeft (status : ρ → Nat) (try_ : Action σ TransportFault ρ) :
    Nat → Action σ TransportFault ρ
  | 0 => try_
  | left + 1 => do
    let outcome ← try_.attempt
    if isPassing status outcome then sendLeft status try_ left else .ofExcept outcome

/-- Tries a call as often as the policy allows. -/
def send (p : RetryPolicy) (status : ρ → Nat) (try_ : Action σ TransportFault ρ) :
    Action σ TransportFault ρ :=
  sendLeft status try_ (p.attempts - 1)

end RetryPolicy

end Overlay
