import Slumber.Expression.Evaluator

/-!
# Malformed clauses of comparisons

A comparison is decided from left to right, each clause is read only when its turn comes, and what
stands behind the decision is not read at all. So a clause that cannot be read ends the comparison
with an error only if the decision gets to it: an alternative that is met before hides it, and so
does a clause before it, in its own alternative, that fails.

* `Until` — one property holds of the items of a list until another does;
* `Clause.Decides` — a clause can be read and is true, or false, of a document;
* `FailsAmong`, `MetAmong` — a clause that fails, an alternative that is met;
* `evaluate_eq_true_iff` — when a comparison is true;
* `malformed_unmatched_iff` — when a comparison with a malformed clause does not match.
-/

namespace Slumber.Expression

open Slumber.Text

/-! ### Decisions from left to right -/

section

variable {α : Type} {p q : α → Prop} {x : α} {xs ys : List α}

/-- Some item has `q`, and all items before it have `p`. -/
def Until (p q : α → Prop) (xs : List α) : Prop :=
  ∃ front x back, xs = front ++ x :: back ∧ (∀ y ∈ front, p y) ∧ q x

theorem not_until_nil : ¬ Until p q [] := by
  rintro ⟨front, x, back, hsplit, -⟩
  exact absurd hsplit (by simp)

theorem until_cons : Until p q (x :: xs) ↔ q x ∨ p x ∧ Until p q xs := by
  constructor
  · rintro ⟨front, y, back, hsplit, hfront, hy⟩
    cases front with
    | nil =>
        obtain ⟨rfl, rfl⟩ := List.cons.inj hsplit
        exact .inl hy
    | cons first front =>
        obtain ⟨rfl, rfl⟩ := List.cons.inj hsplit
        obtain ⟨hfirst, hfront⟩ := List.forall_mem_cons.1 hfront
        exact .inr ⟨hfirst, front, y, back, rfl, hfront, hy⟩
  · rintro (h | ⟨h, front, y, back, rfl, hfront, hy⟩)
    · exact ⟨[], x, xs, rfl, List.forall_mem_nil _, h⟩
    · exact ⟨x :: front, y, back, rfl, List.forall_mem_cons.2 ⟨h, hfront⟩, hy⟩

theorem until_append :
    Until p q (xs ++ ys) ↔ Until p q xs ∨ (∀ x ∈ xs, p x) ∧ Until p q ys := by
  induction xs with
  | nil => simp [not_until_nil]
  | cons x xs ih =>
      rw [List.cons_append, until_cons, until_cons, ih, List.forall_mem_cons, and_or_left,
        ← or_assoc, and_assoc]

end

/-! ### Clauses and alternatives -/

/-- The alternatives of a comparison. -/
def alternativesOf (expression : String) : List (List Char) :=
  splitOnText ['|', '|'] expression.toList

/-- The clauses of an alternative. -/
def clausesOf (alternative : List Char) : List (List Char) :=
  splitOnText ['&', '&'] alternative

/-- The text is no clause. -/
def Clause.IsMalformed (text : List Char) : Prop :=
  ∃ fault, Clause.ofText text = .error fault

section

variable (document : Json)

/-- The text is a clause, and `b` says whether it holds of the document. -/
def Clause.Decides (b : Bool) (text : List Char) : Prop :=
  ∃ c, Clause.ofText text = .ok c ∧ c.holds document = .ok b

/-- Some clause fails, and all before it hold. -/
def FailsAmong (clauses : List (List Char)) : Prop :=
  Until (Clause.Decides document true) (Clause.Decides document false) clauses

/-- All clauses of some alternative hold, and a clause of each alternative before it fails. -/
def MetAmong (alternatives : List (List Char)) : Prop :=
  Until (fun a => FailsAmong document (clausesOf a))
    (fun a => ∀ text ∈ clausesOf a, Clause.Decides document true text) alternatives

end

section

variable {document : Json}

theorem Clause.IsMalformed.not_decides {text : List Char} (h : IsMalformed text) (b : Bool) :
    ¬ Decides document b text := by
  obtain ⟨fault, hfault⟩ := h
  rintro ⟨c, hc, -⟩
  rw [hfault] at hc
  cases hc

theorem allHold_eq_true_iff {clauses : List (List Char)} :
    Comparison.allHold document clauses = .ok true
      ↔ ∀ text ∈ clauses, Clause.Decides document true text := by
  induction clauses with
  | nil => exact ⟨fun _ => List.forall_mem_nil _, fun _ => rfl⟩
  | cons text rest ih =>
      rw [List.forall_mem_cons, ← ih]
      simp only [Comparison.allHold, Clause.Decides]
      cases Clause.ofText text with
      | error fault => simp
      | ok c =>
          cases hc : c.holds document with
          | error fault => simp [hc]
          | ok b => cases b <;> simp [hc]

theorem allHold_eq_false_iff {clauses : List (List Char)} :
    Comparison.allHold document clauses = .ok false ↔ FailsAmong document clauses := by
  induction clauses with
  | nil => exact ⟨fun h => (by cases h), fun h => absurd h not_until_nil⟩
  | cons text rest ih =>
      rw [FailsAmong, until_cons, ← FailsAmong, ← ih]
      simp only [Comparison.allHold, Clause.Decides]
      cases Clause.ofText text with
      | error fault => simp
      | ok c =>
          cases hc : c.holds document with
          | error fault => simp [hc]
          | ok b => cases b <;> simp [hc]

theorem anyHolds_eq_true_iff {alternatives : List (List Char)} :
    Comparison.anyHolds document alternatives = .ok true ↔ MetAmong document alternatives := by
  induction alternatives with
  | nil => exact ⟨fun h => (by cases h), fun h => absurd h not_until_nil⟩
  | cons alternative rest ih =>
      rw [MetAmong, until_cons, ← MetAmong, ← ih, ← allHold_eq_true_iff, ← allHold_eq_false_iff]
      simp only [Comparison.anyHolds, clausesOf]
      cases Comparison.allHold document (splitOnText ['&', '&'] alternative) with
      | error fault => simp
      | ok b => cases b <;> simp

/-- A comparison is true when an alternative of it is met; what stands behind that one is not
read. -/
theorem evaluate_eq_true_iff {expression : String} :
    Comparison.evaluate document expression = .ok true
      ↔ MetAmong document (alternativesOf expression) :=
  anyHolds_eq_true_iff

/-! ### What hides a malformed clause -/

/-- Clauses behind a malformed one are not read. -/
theorem failsAmong_malformed_iff {front back : List (List Char)} {text : List Char}
    (htext : Clause.IsMalformed text) :
    FailsAmong document (front ++ text :: back) ↔ FailsAmong document front := by
  simp [FailsAmong, until_append, until_cons, htext.not_decides]

/-- An alternative is met before the one of the malformed clause, or behind it after that one failed
by a clause before the malformed one. -/
theorem metAmong_malformed_iff {before after : List (List Char)} {alternative : List Char}
    {front back : List (List Char)} {text : List Char}
    (hclauses : clausesOf alternative = front ++ text :: back) (htext : Clause.IsMalformed text) :
    MetAmong document (before ++ alternative :: after) ↔ MetAmong document before
      ∨ (∀ a ∈ before, FailsAmong document (clausesOf a)) ∧ FailsAmong document front
          ∧ MetAmong document after := by
  have hnot : ¬ ∀ t ∈ clausesOf alternative, Clause.Decides document true t := fun h =>
    htext.not_decides true (h text (by simp [hclauses]))
  rw [MetAmong, until_append, until_cons, hclauses, failsAmong_malformed_iff htext, ← hclauses,
    or_iff_right hnot]
  rfl

/-- A comparison that is not true does not match, whether it is false or has an error. -/
theorem matchesAt_of_comparison {expression : String} (hplain : hasPlaceholder expression = false)
    (now : Instant) : matchesAt expression document now = .ok false
      ↔ Comparison.evaluate document expression ≠ .ok true := by
  unfold matchesAt evaluateAt
  rw [hplain]
  cases Comparison.evaluate document expression with
  | error e => simp
  | ok b => cases b <;> simp

/-- **A malformed clause matches nothing, unless it is hidden.**  A comparison with a malformed
clause is not true, and so does not match, on just those documents where the clause is not hidden:
by an alternative before its own that is met, or by a clause before it in its own alternative that
fails, and then an alternative behind that is met. -/
theorem malformed_unmatched_iff {expression : String} (hplain : hasPlaceholder expression = false)
    {before after : List (List Char)} {alternative : List Char}
    (halternatives : alternativesOf expression = before ++ alternative :: after)
    {front back : List (List Char)} {text : List Char}
    (hclauses : clausesOf alternative = front ++ text :: back) (htext : Clause.IsMalformed text)
    (document : Json) (now : Instant) :
    (Comparison.evaluate document expression ≠ .ok true
        ∧ matchesAt expression document now = .ok false)
      ↔ ¬ (MetAmong document before
          ∨ (∀ a ∈ before, FailsAmong document (clausesOf a)) ∧ FailsAmong document front
              ∧ MetAmong document after) := by
  rw [matchesAt_of_comparison hplain, and_self, ne_eq, evaluate_eq_true_iff, halternatives,
    metAmong_malformed_iff hclauses htext]

end

/-! ### A malformed clause that is read, and one that is hidden -/

/-- A document with a name. -/
def namedDocument (name : String) : Json :=
  .obj [("metadata", .obj [("name", .str name)])]

theorem isMalformed_paused : Clause.IsMalformed " spec!.paused".toList :=
  ⟨.strayNegation "spec!.paused", by with_unfolding_all rfl⟩

/-- The decision gets to the malformed clause behind a clause that holds, and not to the alternative
behind it. -/
theorem malformed_unmatched_behind :
    Comparison.evaluate (namedDocument "web") "metadata.name==web&& spec!.paused||metadata.name"
        ≠ .ok true
      ∧ matchesAt "metadata.name==web&& spec!.paused||metadata.name" (namedDocument "web")
          ⟨1704067200, 0⟩ = .ok false := by
  have hplain : hasPlaceholder "metadata.name==web&& spec!.paused||metadata.name" = false := by
    decide +kernel
  have halternatives : alternativesOf "metadata.name==web&& spec!.paused||metadata.name"
      = [] ++ "metadata.name==web&& spec!.paused".toList :: ["metadata.name".toList] := by
    decide +kernel
  have hclauses : clausesOf "metadata.name==web&& spec!.paused".toList
      = ["metadata.name==web".toList] ++ " spec!.paused".toList :: [] := by
    decide +kernel
  have hholds : Comparison.allHold (namedDocument "web") ["metadata.name==web".toList]
      = .ok true := by
    with_unfolding_all rfl
  refine (malformed_unmatched_iff hplain halternatives hclauses isMalformed_paused _ _).2 ?_
  rintro (h | ⟨-, h, -⟩)
  · exact not_until_nil h
  · rw [← allHold_eq_false_iff, hholds] at h
    cases h

/-- An alternative that is met hides a malformed clause behind it. -/
theorem malformed_hidden : ¬ ∀ expression document now, hasPlaceholder expression = false →
    (∃ alternative ∈ alternativesOf expression, ∃ text ∈ clausesOf alternative,
      Clause.IsMalformed text) →
    Comparison.evaluate document expression ≠ .ok true
      ∧ matchesAt expression document now = .ok false := by
  intro hnever
  have hunmatched := hnever "metadata.name==web|| spec!.paused" (namedDocument "web")
    ⟨1704067200, 0⟩ (by decide +kernel)
    ⟨" spec!.paused".toList, by decide +kernel, " spec!.paused".toList, by decide +kernel,
      isMalformed_paused⟩
  exact hunmatched.1 (by with_unfolding_all rfl)

end Slumber.Expression
