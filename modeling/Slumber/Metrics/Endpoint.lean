import Slumber.Metrics.Exposition
import Slumber.Text.Words

/-!
# Answers to web requests

Three paths are served: the text form of the metrics, whether the controller lives, and whether it
has started. They are there to be read: any other method is refused, and a request for the head
alone is answered without a body.
-/

namespace Slumber

/-- An answer to a web request. -/
structure WebAnswer where
  code : Nat
  contentType : Option String := none
  body : String := ""
deriving DecidableEq, Repr

/-- The type of plain text. -/
def plainText : String := "text/plain; charset=utf-8"

/-- The type of the text form of metrics. -/
def metricsText : String := "text/plain; version=0.0.4; charset=utf-8"

/-- The answer to a request to read a path, if the path is served. -/
def Metrics.page? (m : Metrics) (path : String) : Option WebAnswer :=
  match path with
  | "/metrics" => some ⟨200, some metricsText, m.text⟩
  | "/healthz" => some ⟨200, some plainText, "ok"⟩
  | "/readyz" =>
    if m.ready then some ⟨200, some plainText, "ready"⟩
    else some ⟨503, some plainText, "starting"⟩
  | _ => none

/-- The path of an address without its query. -/
def pathOf (address : String) : String :=
  match Text.cutAt '?' address.toList with
  | some (path, _) => String.ofList path
  | none => address

/-- The answer to a request. -/
def Metrics.answer (m : Metrics) (method address : String) : WebAnswer :=
  match m.page? (pathOf address) with
  | none => { code := 404 }
  | some page =>
    if method = "GET" then page
    else if method = "HEAD" then { page with body := "" }
    else { code := 405 }

end Slumber
