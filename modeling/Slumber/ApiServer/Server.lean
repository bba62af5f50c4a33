import Slumber.ApiServer.Discovery
import Slumber.ApiServer.Request
import Slumber.ApiServer.Response
import Slumber.Json.Printer

/-!
# A scripted server

A `Server` serves groups of resources and answers requests by a list of routes: the first route with
the method and the path of a request gives the answer, and without one there is nothing to be found.
It keeps a record of what it was asked.
-/

namespace Slumber

/-- The answer to the requests of one method and path. -/
structure Route where
  method : String
  path : String
  response : Response
deriving DecidableEq, Repr

/-- What a server was asked: what it serves, or something else. -/
inductive Query where
  | discovery
  | request (r : Request)
deriving DecidableEq

/-- A server: what it serves, how it answers, and what it was asked so far. -/
structure Server where
  groups : List ServedGroup := []
  routes : List Route := []
  asked : List Query := []
deriving DecidableEq

namespace Server

/-- The document of the answer to a request that no route takes. -/
def notFoundDocument : Json :=
  .object [("apiVersion", .str "v1"), ("code", .int 404), ("kind", .str "Status"),
    ("message", .str "not found"), ("reason", .str "NotFound"), ("status", .str "Failure")]

/-- The answer to a request. -/
def answer (s : Server) (r : Request) : Response :=
  let takes (route : Route) : Bool :=
    route.method == r.method.text && route.path == r.target.path
  match s.routes.find? takes with
  | some route => route.response
  | none => { code := 404, text := notFoundDocument.render }

/-- Asks what is served. -/
def discover : StateM Server (Option Discovery) :=
  fun s => (Discovery.ofGroups? s.groups, { s with asked := s.asked ++ [Query.discovery] })

/-- Sends a request. -/
def send (r : Request) : StateM Server Response :=
  fun s => (s.answer r, { s with asked := s.asked ++ [Query.request r] })

end Server

end Slumber
