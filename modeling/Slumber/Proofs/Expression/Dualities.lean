import Slumber.Proofs.Expression.Overflow

/-!
# Dualities of the functions on collections

No element passes a test just if it is not so that any does; all pass it just if none passes the
test turned around; and as many pass it as are kept by it. The functions go over their items in
different ways: some collect the answers of the test and search them, one counts as it goes, one
keeps as it goes. But each of them stops at the first item on which the test fails, or gives no
boolean, so that the two sides of a duality also fail together and in the same way.

* `CollectionFunction.apply_none`, `apply_all`, `apply_count` — the dualities on lists of items;
* `collection_dualities` — the dualities of expressions.
-/

namespace Slumber.Expression

/-! ### Tests on lists of items -/

/-- Counting and keeping go over the items in step: as many are counted as are kept. -/
theorem countMatches_length (test : Value → Outcome Bool) (kept items : List Value) :
    countMatches test kept.length items = (keepMatches test kept items).map List.length := by
  induction items generalizing kept with
  | nil => rfl
  | cons item items ih =>
      rw [countMatches, keepMatches]
      cases test item with
      | error e => rfl
      | ok b =>
          cases b with
          | false => exact ih kept
          | true =>
              have hkept := ih (kept ++ [item])
              rwa [List.length_append] at hkept

/-- A change of every result leaves the failures as they are. -/
theorem forAll_map {α β γ : Type} (f : α → Outcome β) (g : β → γ) (xs : List α) :
    forAll (fun x => (f x).map g) xs = (forAll f xs).map (List.map g) := by
  induction xs with
  | nil => rfl
  | cons x xs ih =>
      rw [forAll_cons, forAll_cons, ih]
      cases f x with
      | error e => rfl
      | ok y => cases forAll f xs <;> rfl

theorem contains_true_map_not (bs : List Bool) :
    (bs.map (!·)).contains true = bs.contains false := by
  induction bs with
  | nil => rfl
  | cons b bs ih =>
      rw [List.map_cons, List.contains_cons, List.contains_cons, ih]
      cases b <;> rfl

/-- The answer of a closure on one item, which has to be a boolean. -/
def answer (body : Value → Outcome Value) (item : Value) : Outcome Bool :=
  body item >>= Value.asBool

/-- Turning around asks for a boolean, as a test does, so that only the answers change. -/
theorem answer_not (body : Value → Outcome Value) (item : Value) :
    answer (fun x => body x >>= (Value.applyUnary .not ·)) item = (answer body item).map (!·) := by
  unfold answer
  dsimp only
  cases body item with
  | error e => rfl
  | ok v => cases v <;> rfl

namespace CollectionFunction

variable (body : Value → Outcome Value) (items : List Value)

/-- None passes a test just if it is not so that any does. -/
theorem apply_none :
    apply .none body items = apply .any body items >>= (Value.applyUnary .not ·) := by
  show (forAll (answer body) items).map (fun bs => .bool (!bs.contains true))
    = (forAll (answer body) items).map (fun bs => .bool (bs.contains true))
        >>= (Value.applyUnary .not ·)
  cases forAll (answer body) items <;> rfl

/-- All pass a test just if none passes the test turned around. -/
theorem apply_all :
    apply .all body items
      = apply .none (fun item => body item >>= (Value.applyUnary .not ·)) items := by
  calc apply .all body items
      = (forAll (answer body) items).map fun bs => .bool (!bs.contains false) := rfl
    _ = ((forAll (answer body) items).map (List.map (!·))).map
          fun bs => .bool (!bs.contains true) := by
        rw [Outcome.except_map_map]
        simp only [Function.comp_def, contains_true_map_not]
    _ = (forAll (fun item => (answer body item).map (!·)) items).map
          fun bs => .bool (!bs.contains true) := by
        rw [forAll_map]
    _ = apply .none (fun item => body item >>= (Value.applyUnary .not ·)) items := by
        simp only [← answer_not]
        rfl

/-- As many pass a test as are kept by it. -/
theorem apply_count :
    apply .count body items = apply .filter body items >>= Value.length := by
  calc apply .count body items
      = (countMatches (answer body) 0 items).map fun n => .number (Float.ofNat n) := rfl
    _ = ((keepMatches (answer body) [] items).map List.length).map
          fun n => .number (Float.ofNat n) := by
        rw [← countMatches_length]
        rfl
    _ = (keepMatches (answer body) [] items).map .array >>= Value.length := by
        cases keepMatches (answer body) [] items <;> rfl
    _ = apply .filter body items >>= Value.length := rfl

end CollectionFunction

/-! ### Expressions -/

namespace Tree

variable {scope : Scope} {current : Option Value}

/-- A function on collections is applied to the items of its collection. -/
theorem evalIn_collection {name : String} {f : CollectionFunction}
    (known : CollectionFunction.ofName? name = some f) (collection body : Tree) :
    (call name [collection, .closure body]).evalIn scope current
      = collection.evalIn scope current >>= fun v => v.asArray >>= fun items =>
          f.apply (fun item => body.evalIn scope (some item)) items := by
  conv => lhs; unfold evalIn
  simp only [known]

theorem evalIn_not (operand : Tree) :
    (unary .not operand).evalIn scope current
      = operand.evalIn scope current >>= (Value.applyUnary .not ·) := by
  conv => lhs; unfold evalIn

/-- The length of an expression is that of its value. -/
theorem evalIn_len (operand : Tree) :
    (call "len" [operand]).evalIn scope current
      = operand.evalIn scope current >>= Value.length := by
  have hplain : CollectionFunction.ofName? "len" = none := rfl
  conv => lhs; unfold evalIn
  simp only [hplain, evalAllIn_eq_forAll]
  cases hv : operand.evalIn scope current <;> simp only [forAll, hv] <;> rfl

end Tree

/-- **The functions on collections are dual to each other, failures included.**  For every
expression for a collection and every body of a closure, with any values of names, any clock and
inside of any closure or of none: `none` ends as `not any` does, `all` as `none` with the body
turned around, and `count` as the length of what `filter` keeps. -/
theorem collection_dualities (collection body : Tree) (scope : Scope) (current : Option Value) :
    (Tree.call "none" [collection, .closure body]).evalIn scope current
        = (Tree.unary .not (.call "any" [collection, .closure body])).evalIn scope current
      ∧ (Tree.call "all" [collection, .closure body]).evalIn scope current
        = (Tree.call "none" [collection, .closure (.unary .not body)]).evalIn scope current
      ∧ (Tree.call "count" [collection, .closure body]).evalIn scope current
        = (Tree.call "len" [.call "filter" [collection, .closure body]]).evalIn scope current := by
  refine ⟨?none, ?all, ?count⟩
  case none =>
    rw [Tree.evalIn_collection (f := .none) rfl, Tree.evalIn_not,
      Tree.evalIn_collection (f := .any) rfl]
    simp only [bind_assoc, CollectionFunction.apply_none]
  case all =>
    rw [Tree.evalIn_collection (f := .all) rfl, Tree.evalIn_collection (f := .none) rfl]
    simp only [CollectionFunction.apply_all, Tree.evalIn_not]
  case count =>
    rw [Tree.evalIn_collection (f := .count) rfl, Tree.evalIn_len,
      Tree.evalIn_collection (f := .filter) rfl]
    simp only [bind_assoc, CollectionFunction.apply_count]

/-- The first item on which a test gives no boolean decides, though an item before it passes. -/
example : (Tree.call "none" [.array [.literal (.bool true), .literal (.string "up")],
    .closure .current]).eval ⟨[], ⟨0, 0⟩⟩ = fail (.expected .bool .string) := by
  rfl

end Slumber.Expression
