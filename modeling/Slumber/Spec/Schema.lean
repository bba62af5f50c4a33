import Slumber.Json.Record

/-!
# Schemas of documents

A `Schema` says which documents are valid: the type of the document, its format, the words allowed,
the schemas of its parts, and what is assumed for a part that is left out. Schemas are built from
`Schema.text`, `Schema.list`, `Schema.record` and the like, and refined by `described`, `assuming`
and `orNull`. `Schema.toJson` writes one as it stands in a resource definition.
-/

namespace Slumber

/-- A schema, as the fields that describe it. -/
structure Schema where
  fields : FiniteMap String Json

namespace Schema

/-- A schema as a document. -/
def toJson (s : Schema) : Json :=
  .obj s.fields

/-- The schema with one more field. -/
def adding (s : Schema) (key : String) (value : Json) : Schema :=
  ⟨s.fields.insert key value⟩

/-- Any document of a type. -/
def ofType (type : String) : Schema :=
  ⟨[("type", .str type)]⟩

/-- A text. -/
def text : Schema := ofType "string"

/-- A truth value. -/
def truth : Schema := ofType "boolean"

/-- A whole number of 32 signed bits. -/
def word32 : Schema := (ofType "integer").adding "format" (.str "int32")

/-- A whole number of 64 signed bits. -/
def word64 : Schema := (ofType "integer").adding "format" (.str "int64")

/-- A point in time. -/
def instant : Schema := text.adding "format" (.str "date-time")

/-- One of some words. -/
def word (words : List String) : Schema := text.adding "enum" (Json.texts words)

/-- A list of documents of one schema. -/
def list (items : Schema) : Schema := (ofType "array").adding "items" items.toJson

/-- An object whose fields all have one schema. -/
def mapOf (values : Schema) : Schema :=
  (ofType "object").adding "additionalProperties" values.toJson

/-- A record with named parts, of which some have to be there. -/
def record (parts : List (String × Schema)) (required : List String := []) : Schema :=
  let s := (ofType "object").adding "properties" (.object (parts.map fun (k, p) => (k, p.toJson)))
  if required.isEmpty then s else s.adding "required" (Json.texts required)

/-- The schema with a description. -/
def described (s : Schema) (description : String) : Schema :=
  s.adding "description" (.str description)

/-- The schema with the value that is assumed if the document is left out. -/
def assuming (s : Schema) (value : Json) : Schema :=
  s.adding "default" value

/-- The schema that takes `null` as well. -/
def orNull (s : Schema) : Schema :=
  let s := s.adding "nullable" (.bool true)
  match s.fields.find? "enum" with
  | some (.arr words) => s.adding "enum" (.arr (words ++ [.null]))
  | _ => s

end Schema

end Slumber
