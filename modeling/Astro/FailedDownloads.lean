import Astro.PhoneHomeOutcomes
import Astro.RangedResponses

/-!
# Downloads that fail

`do_GET` moves a job to `INSTALLING` as soon as the path contains `/installer-launch.sh`,
before it looks for a file. The job has then advanced whatever the answer is: a launcher that
is missing, a range behind its end, or another file altogether.
-/

namespace Astro.FailedDownloads

open PythonText TelemetryHandler ServerHandlers FileServing HttpMethods ResponseCount
  RangedResponses PhoneHomeOutcomes MethodBodies Statement

def Advances (m m' : Machine) (key : Key) : Prop :=
  m.stage? key ≠ some .installing ∧ m'.stage? key = some .installing

section Responses
variable {disk : Storage} {readLimit : ℕ} {range : Option Str} {path job : Str} {code : ℕ}
  {content part : List UInt8} {m : Machine}

end Responses

section Get
variable {world : World} {env : Environment} {r : Request} {m : Machine} (hget : r.method = .get)
include hget

end Get

end Astro.FailedDownloads
