import Slumber.Metrics.Basic

/-!
# The text form of the metrics

Every series that has a value is written as a line of its name, its labels and the value, behind a
line of help and one for its type. Names come in alphabetical order, labels by their names, and the
lines of one name by the values of the labels.
-/

namespace Slumber

/-- What is written about a series: its name, help, type, and the names of its labels. -/
structure MetricFamily where
  name : String
  help : String
  type : String
  labels : List String

namespace MetricFamily

/-- The value of a label between quotes. -/
def quotedLabel (s : String) : String :=
  let escape (c : Char) : List Char :=
    if c = '\\' then ['\\', '\\'] else if c = '"' then ['\\', '"']
    else if c = '\n' then ['\\', 'n'] else [c]
  "\"" ++ String.ofList (s.toList.flatMap escape) ++ "\""

/-- One line: the name, the labels between braces, and the value. -/
def line (f : MetricFamily) (values : List String) (n : Nat) : String :=
  let labels := (f.labels.zip values).map fun (k, v) => k ++ "=" ++ quotedLabel v
  f.name ++ "\x7b" ++ ",".intercalate labels ++ "\x7d " ++ toString n ++ "\n"

/-- All lines of a series; none if it has no values. -/
def write (f : MetricFamily) (s : Series) : String :=
  if s.isEmpty then ""
  else
    "# HELP " ++ f.name ++ " " ++ f.help ++ "\n# TYPE " ++ f.name ++ " " ++ f.type ++ "\n"
      ++ String.join (s.map fun (values, n) => f.line values n)

end MetricFamily

/-- The objects left alone. -/
def excludedFamily : MetricFamily :=
  ⟨"hibernator_excluded_objects_total", "Objects left untouched by action", "counter", ["action"]⟩

/-- The resources that keep objects asleep. -/
def hibernatingFamily : MetricFamily :=
  ⟨"hibernator_hibernating", "Whether a Hibernator currently keeps its objects asleep", "gauge",
    ["name", "namespace"]⟩

/-- The objects acted upon. -/
def impactedFamily : MetricFamily :=
  ⟨"hibernator_impacted_objects_total", "Objects acted upon by action and status", "counter",
    ["action", "status"]⟩

/-- The looks at specs. -/
def reconcilesFamily : MetricFamily :=
  ⟨"hibernator_reconciles_total", "Reconciles by outcome", "counter", ["outcome"]⟩

/-- The text form of all metrics. -/
def Metrics.text (m : Metrics) : String :=
  excludedFamily.write m.excluded ++ hibernatingFamily.write m.hibernating
    ++ impactedFamily.write m.impacted ++ reconcilesFamily.write m.reconciles

end Slumber
