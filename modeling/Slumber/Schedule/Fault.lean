import Slumber.Text.Quoted

/-!
# What can be wrong with a schedule

The four kinds of text in a schedule that may fail to be read, each with the text as it was written.
-/

namespace Slumber

open Slumber.Text

/-- A text of a schedule that cannot be read. -/
inductive ScheduleFault where
  | unknownZone (name : String)
  | invalidTimeOfDay (text : String)
  | unknownWeekday (text : String)
  | invalidDateTime (text : String)
deriving DecidableEq, Repr

/-- The wording of each fault. -/
def ScheduleFault.message : ScheduleFault → String
  | .unknownZone name => "invalid time zone " ++ quoted (name ++ ": failed to parse timezone")
  | .invalidTimeOfDay text => "invalid time of day " ++ quoted text ++ ", expected H[:MM[:SS]]"
  | .unknownWeekday text => "unknown weekday: " ++ quoted text
  | .invalidDateTime text =>
    "invalid date time " ++ quoted text ++ ", expected RFC 3339 or YYYY-MM-DD HH:MM[:SS]"

end Slumber
