import Slumber.Json.Basic
import Slumber.Resource.Kind
import Slumber.Text.FormEncoded
import Slumber.Text.Words

/-!
# Requests to a server

A request has a method, a target and perhaps a document. The target is written as one text:
`Target.read?` separates the path from the query behind a question mark and refuses a text with a
character that has no place in it. `ResourceType.path` is the path of the objects of a type.
-/

namespace Slumber

open Slumber.Text

/-- What a request does to what its path leads to. -/
inductive Method where
  | get | patch | delete
deriving DecidableEq, Repr

/-- The word for a method. -/
def Method.text : Method → String
  | .get => "GET"
  | .patch => "PATCH"
  | .delete => "DELETE"

/-- What a request is about: a path and the terms of a query. -/
structure Target where
  path : String
  query : List String
deriving DecidableEq, Repr

namespace Target

/-- Whether `c` may stand in a path. -/
def isPathChar (c : Char) : Bool :=
  ' ' < c && c ∉ ['#', '<', '>', '?', '\x60']

/-- Whether `c` may stand in a query. -/
def isQueryChar (c : Char) : Bool :=
  ' ' < c && c ∉ ['"', '#', '<', '>']

/-- The greatest length of a target in bytes. -/
def greatestLength : Nat := 65534

/-- The terms of a query, without empty ones. -/
def terms (query : List Char) : List String :=
  ((splitOn '&' query).filter fun t => !t.isEmpty).map String.ofList

/-- Reads a target. What follows a number sign does not count. -/
def read? (s : String) : Option Target :=
  let path := s.toList.takeWhile fun c => c ≠ '?' ∧ c ≠ '#'
  let query :=
    match s.toList.drop path.length with
    | '?' :: rest => rest.takeWhile (· ≠ '#')
    | _ => []
  if s.utf8ByteSize ≤ greatestLength ∧ path.all isPathChar ∧ query.all isQueryChar then
    some ⟨String.ofList path, terms query⟩
  else none

end Target

/-- A document that is sent along, and the notation it is in. -/
structure Content where
  mediaType : String
  document : Json
deriving DecidableEq

/-- A request to a server. -/
structure Request where
  method : Method
  target : Target
  content : Option Content := none
deriving DecidableEq

/-- The path of a version of a group. -/
def ObjectKind.interfacePath (k : ObjectKind) : String :=
  (if k.group = "" then "/api/" else "/apis/") ++ k.apiVersion ++ "/"

/-- The path of the objects of a type: those in a namespace, or all of them if the namespace is
empty or the type knows none. -/
def ResourceType.path (t : ResourceType) (namespaceName : String) : String :=
  let place :=
    if t.namespaced ∧ namespaceName ≠ "" then "namespaces/" ++ namespaceName ++ "/" else ""
  t.kind.interfacePath ++ place ++ t.plural

end Slumber
