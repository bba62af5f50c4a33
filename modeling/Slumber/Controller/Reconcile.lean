import Slumber.Backoff
import Slumber.Controller.Tick
import Slumber.Metrics.Basic

/-!
# Keeping resources reconciled

A `Controller` looks at resources, stores the statuses that changed, counts what it did, and delays
the next attempt after a failure. `Controller.reconcile` handles one resource; only storing the
status can fail, and then `Controller.handleError` gives the delay. A success forgets the failures
of the resource.
-/

namespace Slumber

/-- A controller: its settings, the failures so far, and the metrics. -/
structure Controller where
  config : Config
  backoff : BackoffTracker
  metrics : Metrics := {}

/-- Why a status could not be stored: the server refused it, or something else is the matter. -/
inductive StatusCause where
  | refused (code : Nat) (reason : String)
  | other (text : String)
deriving DecidableEq, Repr

/-- The wording of each cause. -/
def StatusCause.text : StatusCause → String
  | .refused code reason => toString code ++ " " ++ reason
  | .other text => text

/-- A status that could not be stored, and why. -/
structure StatusFault where
  name : String
  cause : StatusCause
deriving DecidableEq, Repr

/-- The wording of a failure to store a status. -/
def StatusFault.message (f : StatusFault) : String :=
  "Status update failed for " ++ f.name ++ ": " ++ f.cause.text

/-- How statuses are stored. -/
abbrev StatusWriter (σ : Type) := Hibernator → Status → StateM σ (Except StatusFault Unit)

/-- A success: the status that was stored, if it had changed, and the delay until the next look. -/
structure Reconciled where
  written : Option Status := none
  requeueAfter : Option Duration := none
deriving DecidableEq, Repr

namespace Controller

/-- A controller at its start. -/
def ofConfig (config : Config) : Controller :=
  { config, backoff := { least := config.backoffMinMinutes, greatest := config.backoffMaxMinutes } }

/-- Marks the controller as started. -/
def setReady (c : Controller) : Controller :=
  { c with metrics := c.metrics.setReady }

/-- The controller that has counted the reports of a tick. -/
def counting (c : Controller) (reports : List Report) : Controller :=
  { c with metrics := reports.foldl Metrics.recordReport c.metrics }

/-- The controller behind a success. -/
def succeeded (c : Controller) (h : Hibernator) (t : Tick) : Controller :=
  let metrics :=
    match t.status with
    | some s => c.metrics.setHibernating h.namespaceName h.name s.isHibernating
    | none => c.metrics
  { c with metrics := metrics.recordReconcile t.outcome.text, backoff := c.backoff.reset h.key }

section

variable {σ : Type} [ResourceClient σ] [ZoneDatabase]

/-- Looks at a resource and counts the reports. -/
def tick (c : Controller) (h : Hibernator) (now : Instant) : Run σ (Tick × Controller) := do
  let t ← c.config.tick h now
  return (t, c.counting t.reports)

/-- Looks at a resource, stores its status if that changed, and counts the outcome. A resource that
is being deleted is only forgotten. -/
def reconcile (c : Controller) (write : StatusWriter σ) (h : Hibernator) (now : Instant) :
    Run σ (Except StatusFault Reconciled × Controller) := do
  if h.isDeleting then
    return (.ok {}, { c with metrics := c.metrics.forget h.namespaceName h.name })
  let (t, c) ← c.tick h now
  let changed := t.status.filter fun s => h.status ≠ some s
  let stored ←
    match changed with
    | some s => Run.lift (write h s)
    | none => pure (.ok ())
  match stored with
  | .error fault => return (.error fault, c)
  | .ok () => return (.ok ⟨changed, t.requeueAfter⟩, c.succeeded h t)

end

/-- Counts a failure of a resource; gives the delay until the next attempt, unless that
overflows. -/
def handleError (c : Controller) (h : Hibernator) : Except Overflow (Duration × Controller) := do
  let ((seconds, _), backoff) ← c.backoff.recordError h.key
  return (⟨seconds.toNat, 0⟩, { c with backoff, metrics := c.metrics.recordReconcile "error" })

end Controller

end Slumber
