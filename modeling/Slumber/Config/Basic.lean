import Slumber.Config.SocketAddress
import Slumber.Decimal.Whole
import Slumber.FiniteMap
import Slumber.Overflow
import Slumber.Text.Blank
import Slumber.Text.Quoted
import Slumber.Time.Instant

/-!
# Settings

The settings of the controller come from named values of its environment. A blank value counts as
none, and every setting has a usual value. `Config.ofEnvironment` reads them all and refuses what is
no address or number, a least delay of zero, and a greatest delay below the least one.
-/

namespace Slumber

open Slumber.Text Slumber.Decimal

/-- The settings of the controller. -/
structure Config where
  namespaceName : Option String := none
  minResyncSeconds : UInt64 := 60
  metricsAddress : SocketAddress := ⟨.v4 [0, 0, 0, 0], 8080⟩
  backoffMinMinutes : UInt64 := 1
  backoffMaxMinutes : UInt64 := 10
deriving DecidableEq, Repr

/-- Why settings are refused. -/
inductive ConfigFault where
  | invalidAddress
  | invalidNumber (key text : String) (fault : WholeError)
  | zeroBackoff
  | backoffOrder (greatest least : UInt64)
deriving DecidableEq, Repr

/-- The wording of each fault. -/
def ConfigFault.message : ConfigFault → String
  | .invalidAddress => "METRICS_ADDR: invalid socket address syntax"
  | .invalidNumber key text fault => key ++ "=" ++ quoted text ++ ": " ++ fault.message
  | .zeroBackoff => "ERROR_BACKOFF_MIN_MINUTES must be at least 1"
  | .backoffOrder greatest least =>
    "ERROR_BACKOFF_MAX_MINUTES (" ++ toString greatest.toNat
      ++ ") is below ERROR_BACKOFF_MIN_MINUTES (" ++ toString least.toNat ++ ")"

namespace Config

/-- A value of the environment without surrounding blanks, unless nothing is left of it. -/
def valueOf (environment : String → Option String) (key : String) : Option String :=
  ((environment key).map trim).filter (· ≠ "")

/-- A number of the environment. -/
def numberOf (environment : String → Option String) (key : String) (usual : UInt64) :
    Except ConfigFault UInt64 :=
  match valueOf environment key with
  | none => .ok usual
  | some text =>
    match readUnsigned maxUnsigned64 text.toList with
    | .ok n => .ok (UInt64.ofNat n)
    | .error fault => .error (.invalidNumber key text fault)

/-- An address of the environment. -/
def addressOf (environment : String → Option String) (key : String) (usual : SocketAddress) :
    Except ConfigFault SocketAddress :=
  match valueOf environment key with
  | none => .ok usual
  | some text =>
    match SocketAddress.read? text with
    | some a => .ok a
    | none => .error .invalidAddress

/-- The settings that an environment gives. -/
def ofEnvironment (environment : String → Option String) : Except ConfigFault Config := do
  let usual : Config := {}
  let metricsAddress ← addressOf environment "METRICS_ADDR" usual.metricsAddress
  let minResyncSeconds ←
    numberOf environment "MIN_RESYNC_INTERVAL_SECONDS" usual.minResyncSeconds
  let backoffMinMinutes ← numberOf environment "ERROR_BACKOFF_MIN_MINUTES" usual.backoffMinMinutes
  let backoffMaxMinutes ← numberOf environment "ERROR_BACKOFF_MAX_MINUTES" usual.backoffMaxMinutes
  if backoffMinMinutes = 0 then .error .zeroBackoff
  else if backoffMaxMinutes < backoffMinMinutes then
    .error (.backoffOrder backoffMaxMinutes backoffMinMinutes)
  else
    return {
      namespaceName := valueOf environment "WATCH_NAMESPACE"
      minResyncSeconds
      metricsAddress
      backoffMinMinutes
      backoffMaxMinutes }

/-- The shortest delay between two looks at a spec, which is also the shortest time between two
actions. -/
def requeueFloor (c : Config) : Except Overflow Duration := do
  let seconds ← word64 (c.minResyncSeconds.toNat + 1)
  return ⟨seconds.toNat, 0⟩

end Config

end Slumber
