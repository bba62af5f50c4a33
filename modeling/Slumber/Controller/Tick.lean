import Slumber.Config.Basic
import Slumber.Spec.Definition
import Slumber.Status.History
import Slumber.Transition.Engine

/-!
# One look at a resource

A tick looks at a resource at one instant and decides what to do. A pause comes first; a schedule
that cannot be read makes the status failed; too soon after the last action nothing is done. Else
the transitions of the rules are run and what they did goes into the history: into the last entry,
if the action is still the one of the last look, or into a new one. The next look is due when the
schedule changes, or after the interval for looking again.
-/

namespace Slumber

/-- A resource as it was observed. -/
structure Hibernator where
  namespaceName : String
  name : String
  resourceVersion : Option String := none
  isDeleting : Bool := false
  spec : Spec := {}
  status : Option Status := none
deriving DecidableEq, Repr

/-- The key under which failures of a resource are counted. -/
def Hibernator.key (h : Hibernator) : String :=
  h.namespaceName ++ "/" ++ h.name

/-- What came of a look. -/
inductive TickOutcome where
  | transitioned | idle | paused | debounced | scheduleError
deriving DecidableEq, Repr

/-- The word for an outcome. -/
def TickOutcome.text : TickOutcome → String
  | .transitioned => "transitioned"
  | .idle => "idle"
  | .paused => "paused"
  | .debounced => "debounced"
  | .scheduleError => "schedule_error"

/-- The decision of a tick: the status to store, if there is one, the delay until the next look, if
one is due without a change of the resource, and the reports of the transitions that were run. -/
structure Tick where
  outcome : TickOutcome
  status : Option Status := none
  requeueAfter : Option Duration := none
  reports : List Report := []
deriving DecidableEq, Repr

/-- What the pause until an instant means now: how long it lasts, if that is longer than the floor,
or a note about a text that is no instant. -/
def pauseAt [ZoneDatabase] (s : Spec) (floor : Duration) (now : Instant) :
    Except ScheduleFault (Option Duration) :=
  match s.pauseUntil with
  | none => .ok none
  | some t => do
    let resumes ← t.instant
    return (resumes.since? now).filter floor.lt

/-- Whether objects are to be acted upon, by the settings that force it or by the schedule. -/
def Spec.isActive (s : Spec) (gap : Gap) : Bool :=
  if s.forceActive then true else if s.forceInactive then false else gap.isInside

/-- Whether the last action was less than the floor ago. -/
def isTooSoon (h : History) (floor : Duration) (now : Instant) : Bool :=
  match h.latest? with
  | some r => now.elapsedSeconds r.time < floor.seconds
  | none => false

/-- The history with a report, unless that acted upon nothing. `resync` says that the action is the
one of the last look. -/
def History.entering (h : History) (now : Instant) (resync : Bool) (r : Report) : History :=
  if r.impacted.isEmpty then h
  else
    let fresh := h.add now r.action r.impacted r.excluded
    if resync then (h.mergeIntoLatest? now r.action r.impacted r.excluded).getD fresh else fresh

/-- The delay after a schedule that cannot be read. -/
def scheduleRetry (s : Spec) (floor : Duration) : Option Duration :=
  let interval := s.resyncInterval.toInt
  if 0 < interval then some (requeueDelay interval interval floor) else none

section

variable {σ : Type} [ResourceClient σ]

/-- Runs the transitions of a spec and enters what they did into the status. -/
def actAt (s : Spec) (previous : Status) (history : History) (gap : Gap) (notes : List String)
    (requeueAfter : Duration) (now : Instant) : Run σ Tick := do
  let isActive := s.isActive gap
  let primary := Transition.resolve s.action isActive s gap.range
  let resync := primary.map Transition.action == previous.action
  let reports ← execute now s isActive gap.range history
  let failures := reports.foldl (fun n (r : Report) => n + r.failures) 0
  let notes :=
    if 0 < failures then notes ++ [toString failures ++ " object(s) failed, see history"] else notes
  let history := reports.foldl (fun h r => h.entering now resync r) history
  return {
    outcome := if reports.all (·.impacted.isEmpty) then .idle else .transitioned
    status := some {
      history := history.entries
      state := .succeeded
      message := "; ".intercalate notes
      isHibernating := primary.any Transition.isHibernating
      action := primary.map Transition.action <|> previous.action }
    requeueAfter := some requeueAfter
    reports }

/-- What is done behind the pauses. -/
def tickUnpaused [ZoneDatabase] (h : Hibernator) (floor : Duration) (notes : List String)
    (now : Instant) : Run σ Tick :=
  let s := h.spec
  let previous := h.status.getD {}
  match s.schedule.gapAt now with
  | .error fault =>
    let notes := notes ++ ["invalid schedule: " ++ fault.message]
    pure {
      outcome := .scheduleError
      status := some { previous with state := .failed, message := "; ".intercalate notes }
      requeueAfter := scheduleRetry s floor }
  | .ok gap =>
    let requeueAfter := requeueDelay gap.seconds s.resyncInterval.toInt floor
    let history := History.ofEntries previous.history s.historyLimit
    if isTooSoon history floor now then
      pure { outcome := .debounced, requeueAfter := some requeueAfter }
    else actAt s previous history gap notes requeueAfter now

/-- Looks at a resource, where `floor` is the shortest delay until the next look. -/
def tick [ZoneDatabase] (h : Hibernator) (floor : Duration) (now : Instant) : Run σ Tick :=
  let behindPause (notes : List String) : Run σ Tick :=
    if h.spec.pause then pure { outcome := .paused } else tickUnpaused h floor notes now
  match pauseAt h.spec floor now with
  | .ok (some remaining) => pure { outcome := .paused, requeueAfter := some remaining }
  | .ok none => behindPause []
  | .error fault => behindPause ["ignoring pauseUntil: " ++ fault.message]

/-- Looks at a resource under some settings. -/
def Config.tick [ZoneDatabase] (config : Config) (h : Hibernator) (now : Instant) : Run σ Tick := do
  let floor ← config.requeueFloor
  Slumber.tick h floor now

end

end Slumber
