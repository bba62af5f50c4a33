import Slumber.Json.Record

/-!
# Actions

What is done with the selected objects: put them to sleep, wake them up, delete them, or scale them.
-/

namespace Slumber

/-- What is done with objects. -/
inductive Action where
  | hibernate | unhibernate | delete | scale
deriving DecidableEq, Repr

namespace Action

/-- The word for an action. -/
def text : Action → String
  | .hibernate => "hibernate"
  | .unhibernate => "unhibernate"
  | .delete => "delete"
  | .scale => "scale"

/-- All words that are read as an action. -/
def words : List (String × Action) :=
  [("hibernate", .hibernate), ("sleep", .hibernate), ("unhibernate", .unhibernate),
   ("delete", .delete), ("scale", .scale)]

/-- An action as a document. -/
def toJson (a : Action) : Json :=
  .str a.text

/-- Reads an action. -/
def ofJson? : Json → Option Action :=
  Json.word? words

theorem ofJson?_toJson (a : Action) : ofJson? a.toJson = some a := by
  cases a <;> decide

end Action

end Slumber
