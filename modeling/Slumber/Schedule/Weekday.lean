import Slumber.Text.Letters
import Slumber.Text.Blank

/-!
# Days of the week

`Weekday` numbers the days from Sunday. `Weekday.ofText?` reads a day from its English name or one
of the usual short forms, in any case of the letters and with blanks around it.
-/

namespace Slumber

/-- A day of the week. -/
inductive Weekday where
  | sunday | monday | tuesday | wednesday | thursday | friday | saturday
deriving DecidableEq, Repr

namespace Weekday

/-- The number of a day in the week, where Sunday is 0. -/
def ordinal : Weekday → Nat
  | .sunday => 0
  | .monday => 1
  | .tuesday => 2
  | .wednesday => 3
  | .thursday => 4
  | .friday => 5
  | .saturday => 6

/-- The short name of a day. -/
def shortName : Weekday → String
  | .sunday => "Sun"
  | .monday => "Mon"
  | .tuesday => "Tue"
  | .wednesday => "Wed"
  | .thursday => "Thu"
  | .friday => "Fri"
  | .saturday => "Sat"

/-- The day that a word names. -/
def ofText? (s : String) : Option Weekday :=
  match Text.toAsciiLower (Text.trim s) with
  | "sun" | "sunday" => some .sunday
  | "mon" | "monday" => some .monday
  | "tue" | "tues" | "tuesday" => some .tuesday
  | "wed" | "wednesday" => some .wednesday
  | "thu" | "thur" | "thurs" | "thursday" => some .thursday
  | "fri" | "friday" => some .friday
  | "sat" | "saturday" => some .saturday
  | _ => none

theorem ordinal_lt (d : Weekday) : d.ordinal < 7 := by
  cases d <;> decide

end Weekday

end Slumber
