import Mathlib.Logic.Relation
import Slumber.Expression.Evaluator
import Slumber.Proofs.Json.Edits

/-!
# What an expression reads

An expression reads of a document what the paths in it find, and nothing else: the paths of its
placeholders, or those of its clauses if it has none. A path that is apart from the pointer of an
edit finds the same before and after the edit, also where it spreads over an array.

* `paths` — the paths of an expression;
* `matchesAt_congr` — documents on which they find the same are the same to the expression;
* `Json.Edited` — a document and what some edits make of it;
* `matchesAt_eq_of_edited` — an expression does not see edits apart from its paths.
-/

namespace Slumber

open Text Expression

/-! ### The paths of an expression -/

namespace Expression

/-- The clauses of a comparison. -/
def clauses (expression : String) : List (List Char) :=
  (splitOnText ['|', '|'] expression.toList).flatMap (splitOnText ['&', '&'])

/-- The paths that an expression reads. A clause that cannot be read has none. -/
def paths (expression : String) : List String :=
  if hasPlaceholder expression then
    (replacePlaceholders expression.toList.length [] expression.toList).2
  else (clauses expression).filterMap fun text => (Clause.ofText text).toOption.map (·.path)

/-- The paths find the same in both documents. -/
def FindSame (paths : List String) (a b : Json) : Prop :=
  ∀ path ∈ paths, b.resolve? path = a.resolve? path

variable {a b : Json}

theorem Clause.holds_congr {c : Clause} (h : b.resolve? c.path = a.resolve? c.path) :
    c.holds b = c.holds a := by
  unfold Clause.holds
  rw [h]

theorem allHold_congr {texts : List (List Char)} (h : ∀ text ∈ texts, ∀ c,
      Clause.ofText text = .ok c → b.resolve? c.path = a.resolve? c.path) :
    Comparison.allHold b texts = Comparison.allHold a texts := by
  induction texts with
  | nil => rfl
  | cons text texts ih =>
      obtain ⟨hhead, htail⟩ := List.forall_mem_cons.1 h
      unfold Comparison.allHold
      rw [ih htail]
      cases hclause : Clause.ofText text with
      | error fault => rfl
      | ok c => simp only [Clause.holds_congr (hhead c hclause)]

theorem anyHolds_congr {texts : List (List Char)} (h : ∀ alternative ∈ texts,
      ∀ text ∈ splitOnText ['&', '&'] alternative, ∀ c,
      Clause.ofText text = .ok c → b.resolve? c.path = a.resolve? c.path) :
    Comparison.anyHolds b texts = Comparison.anyHolds a texts := by
  induction texts with
  | nil => rfl
  | cons text texts ih =>
      obtain ⟨hhead, htail⟩ := List.forall_mem_cons.1 h
      unfold Comparison.anyHolds
      rw [ih htail, allHold_congr hhead]

/-- The values of names are what their paths find. -/
theorem Bindings.values_congr {names : Bindings} (h : FindSame names a b) :
    names.values b = names.values a := by
  unfold Bindings.values
  refine congrArg FiniteMap.ofList (List.map_congr_left fun (path, i) hp => ?_)
  dsimp only
  rw [h path (List.fst_mem_of_mem_zipIdx hp)]

/-- **What an expression reads.**  If its paths find the same in two documents, then it is decided
alike on both. -/
theorem evaluateAt_congr {expression : String} (h : FindSame (paths expression) a b)
    (now : Instant) : evaluateAt expression b now = evaluateAt expression a now := by
  unfold paths at h
  unfold evaluateAt
  by_cases hplaceholder : hasPlaceholder expression = true
  · rw [if_pos hplaceholder] at h
    have hbind : bindPlaceholders expression b = bindPlaceholders expression a := by
      unfold bindPlaceholders
      dsimp only
      rw [Bindings.values_congr h]
    rw [if_pos hplaceholder, if_pos hplaceholder, hbind]
  · rw [if_neg hplaceholder] at h
    have hsame : Comparison.evaluate b expression = Comparison.evaluate a expression := by
      refine anyHolds_congr fun alternative halternative text htext c hc => ?_
      refine h c.path (List.mem_filterMap.2 ⟨text, ?_, by rw [hc]; rfl⟩)
      exact List.mem_flatMap.2 ⟨alternative, halternative, htext⟩
    rw [if_neg hplaceholder, if_neg hplaceholder, hsame]

theorem matchesAt_congr {expression : String} (h : FindSame (paths expression) a b)
    (now : Instant) : matchesAt expression b now = matchesAt expression a now := by
  unfold matchesAt
  rw [evaluateAt_congr h now]

end Expression

/-! ### Paths apart from edits -/

namespace Json

open Pointer

/-- A path that is apart from the pointer of an edit finds the same afterwards. Where it spreads
over an array it has left the objects that lead to the pointer. -/
theorem EditedAt.walk?_eq {p : Pointer} {a b : Json} (h : EditedAt p a b) {segments : List String}
    (hapart : Apart p segments) : walk? segments b = walk? segments a := by
  induction h generalizing segments with
  | root a b => exact absurd hapart (not_apart_nil _)
  | field others =>
      cases segments with
      | nil => exact absurd hapart.symm (not_apart_nil _)
      | cons t segments =>
          have hst := (apart_cons_iff.1 hapart).resolve_right (not_apart_nil segments)
          simp only [walk?, step?, others t (Ne.symm hst)]
  | @inner s p fields fields' x y others hx hy _ ih =>
      cases segments with
      | nil => exact absurd hapart.symm (not_apart_nil _)
      | cons t segments =>
          by_cases hst : s = t
          · subst hst
            have hrest := ih ((apart_cons_iff.1 hapart).resolve_left (by simp))
            simp only [walk?, step?, hx, hy, hrest]
          · simp only [walk?, step?, others t (Ne.symm hst)]

/-- Edits at some pointers, one after the other, make `b` of `a`. -/
def Edited (changed : List Pointer) : Json → Json → Prop :=
  Relation.ReflTransGen fun a b => ∃ p ∈ changed, EditedAt p a b

namespace Edited

variable {changed : List Pointer} {a b : Json}

theorem agreeOff (h : Edited changed a b) : AgreeOff changed a b := by
  induction h with
  | refl => exact .refl _ _
  | tail _ hstep ih =>
      obtain ⟨p, hp, hedit⟩ := hstep
      exact ih.trans (hedit.agreeOff.mono fun q hq =>
        ⟨p, hp, by rw [List.mem_singleton.1 hq]⟩)

theorem resolve?_eq (h : Edited changed a b) {path : String}
    (hapart : ∀ p ∈ changed, Apart p (segments path)) : b.resolve? path = a.resolve? path := by
  have hwalk : walk? (segments path) b = walk? (segments path) a := by
    induction h with
    | refl => rfl
    | tail _ hstep ih =>
        obtain ⟨p, hp, hedit⟩ := hstep
        rw [hedit.walk?_eq (hapart p hp), ih]
  unfold resolve?
  rw [hwalk]

end Edited

end Json

namespace Expression

/-- The expression reads only paths that are apart from some pointers. -/
def ReadsApart (changed : List Pointer) (expression : String) : Prop :=
  ∀ path ∈ paths expression, ∀ p ∈ changed, Pointer.Apart p (segments path)

instance (changed : List Pointer) (expression : String) :
    Decidable (ReadsApart changed expression) :=
  inferInstanceAs (Decidable (∀ path ∈ _, ∀ p ∈ _, _))

/-- An expression does not see edits apart from its paths. -/
theorem ReadsApart.matchesAt_eq {changed : List Pointer} {expression : String}
    (h : ReadsApart changed expression) {a b : Json} (hedited : a.Edited changed b)
    (now : Instant) : matchesAt expression b now = matchesAt expression a now :=
  matchesAt_congr (fun path hpath => hedited.resolve?_eq (h path hpath)) now

end Expression

end Slumber
