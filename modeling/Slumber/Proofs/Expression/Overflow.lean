import Slumber.Expression.Evaluator

/-!
# When an evaluation has no outcome

An expression gives a boolean or one of the errors of expressions, on every document and at every
instant, with one exception: the evaluation may get to an addition of a period that fits 64 bits as
a number of seconds, but is longer than any length of time. What the evaluation gets to is described
by a relation on syntax trees that follows the order of evaluation.

* `Tree.Applies` — the evaluation gets to the application of a function to values;
* `Tree.Applies.evalIn_eq_error` — a failure of that application is the failure of the evaluation;
* `Tree.exists_applies` — the evaluation overflows only by such an application;
* `Instant.shift_eq_overflow_iff` — which periods overflow;
* `evaluateAt_ends_iff` — the main theorem.
-/

namespace Slumber

open Slumber.Text Slumber.Decimal

/-! ### Periods -/

/-- The sum of the groups of a period fits 64 bits, with its sign. -/
theorem Period.sumGroups?_le {total n : Nat} {digits cs : List Char} (htotal : total ≤ maxSigned64)
    (h : sumGroups? total digits cs = some n) : n ≤ maxSigned64 := by
  induction cs generalizing total digits with
  | nil =>
      unfold sumGroups? at h
      split at h
      · rw [← Option.some.inj h]
        exact htotal
      · cases h
  | cons c cs ih =>
      unfold sumGroups? at h
      split at h
      · exact ih htotal h
      · obtain ⟨unit, -, h⟩ := Option.bind_eq_some_iff.1 h
        obtain ⟨amount, -, h⟩ := Option.bind_eq_some_iff.1 h
        dsimp only at h
        split at h
        · rename_i hfits
          exact ih hfits.2 h
        · cases h

/-- The seconds of a period fit 64 bits, also with the other sign. -/
theorem Period.natAbs_seconds?_le {period : String} {n : Int} (h : seconds? period = some n) :
    n.natAbs ≤ maxSigned64 := by
  have hzero : 0 ≤ maxSigned64 := Nat.zero_le _
  unfold seconds? at h
  split at h
  · cases h
  · split at h
    · cases h
    · obtain ⟨k, hk, rfl⟩ := Option.map_eq_some_iff.1 h
      obtain ⟨m, hm, hcast⟩ := Option.bind_eq_some_iff.1 hk
      rw [← Option.some.inj hcast, Int.natAbs_neg]
      exact sumGroups?_le hzero hm
  · obtain ⟨m, hm, rfl⟩ := Option.map_eq_some_iff.1 h
    exact sumGroups?_le hzero hm

/-- A period that fits 64 bits as a number of seconds, but not as one of milliseconds. -/
def Period.IsOverlong (period : String) : Prop :=
  ∃ n, seconds? period = some n ∧ longest < n.natAbs ∧ n.natAbs ≤ maxSigned64

/-- Shifting an instant overflows for just these periods. -/
theorem Instant.shift_eq_overflow_iff {t : Instant} {period : String} :
    t.shift period = .error .overflow ↔ Period.IsOverlong period := by
  unfold shift Period.IsOverlong
  cases hn : Period.seconds? period with
  | none => simp
  | some n =>
      have hfits := Period.natAbs_seconds?_le hn
      dsimp only
      by_cases hlong : n < -Period.longest ∨ Period.longest < n
      · rw [if_pos hlong]
        exact ⟨fun _ => ⟨n, rfl, by omega, hfits⟩, fun _ => rfl⟩
      · rw [if_neg hlong]
        refine ⟨fun h => ?_, fun ⟨m, hm, hlong', _⟩ => ?_⟩
        · split at h <;> cases h
        · rw [Option.some.injEq] at hm
          subst hm
          omega

namespace Expression

/-! ### Outcomes of operations -/

section

variable {α β : Type}

/-- A sequence fails when one of its parts does. -/
theorem Outcome.bind_eq_error {x : Outcome α} {f : α → Outcome β} {e : Failure} :
    (x >>= f) = .error e ↔ x = .error e ∨ ∃ a, x = .ok a ∧ f a = .error e := by
  cases x with
  | error e' => simp [bind, Except.bind]
  | ok a => simp [bind, Except.bind]

theorem Outcome.except_map_eq_error {x : Outcome α} {f : α → β} {e : Failure} :
    Except.map f x = .error e ↔ x = .error e := by
  cases x <;> simp [Except.map]

theorem Outcome.except_map_map {γ : Type} {x : Outcome α} {f : α → β} {g : β → γ} :
    Except.map g (Except.map f x) = Except.map (g ∘ f) x := by
  cases x <;> rfl

@[simp] theorem Outcome.map_eq_error {x : Outcome α} {f : α → β} {e : Failure} :
    (f <$> x) = .error e ↔ x = .error e :=
  except_map_eq_error

@[simp] theorem fail_ne_overflow (f : EvaluationFault) :
    (fail f : Outcome α) ≠ .error .overflow := by
  simp [fail]

@[simp] theorem pure_ne_error (a : α) (e : Failure) : (pure a : Outcome α) ≠ .error e := by
  simp [pure, Except.pure]

end

namespace Value

variable (v w : Value)

@[simp] theorem asBool_ne_overflow : v.asBool ≠ .error .overflow := by
  cases v <;> simp [asBool]

@[simp] theorem asString_ne_overflow : v.asString ≠ .error .overflow := by
  cases v <;> simp [asString]

@[simp] theorem asTime_ne_overflow : v.asTime ≠ .error .overflow := by
  cases v <;> simp [asTime]

@[simp] theorem asArray_ne_overflow : v.asArray ≠ .error .overflow := by
  cases v <;> simp [asArray]

@[simp] theorem member_ne_overflow (field : String) : v.member field ≠ .error .overflow := by
  cases v <;> simp [member]

@[simp] theorem index_ne_overflow : v.index w ≠ .error .overflow := by
  cases v <;> cases w <;> simp [index]

@[simp] theorem compare_ne_overflow : v.compare w ≠ .error .overflow := by
  unfold compare
  dsimp only
  split <;> simp

@[simp] theorem calculate_ne_overflow (op : Arithmetic) :
    v.calculate op w ≠ .error .overflow := by
  unfold calculate
  split
  · cases op <;> dsimp only <;> (try split) <;> simp
  · simp

@[simp] theorem isIn_ne_overflow : v.isIn w ≠ .error .overflow := by
  unfold isIn
  split <;> simp

@[simp] theorem matchPattern_ne_overflow : v.matchPattern w ≠ .error .overflow := by
  unfold matchPattern
  simp only [ne_eq, Outcome.bind_eq_error, asString_ne_overflow, false_or, not_exists, not_and]
  intro text _
  split <;> simp

/-- No operator overflows. -/
@[simp] theorem applyBinary_ne_overflow (op : BinaryOp) :
    v.applyBinary op w ≠ .error .overflow := by
  cases op <;> simp [applyBinary, Outcome.bind_eq_error]
  case add =>
    split <;> simp

@[simp] theorem applyUnary_ne_overflow (op : UnaryOp) : v.applyUnary op ≠ .error .overflow := by
  cases op with
  | not => simp [applyUnary]
  | negate => cases v <;> simp [applyUnary]

@[simp] theorem quantity_ne_overflow : v.quantity ≠ .error .overflow := by
  unfold quantity
  split
  · simp
  · simp only [ne_eq, Outcome.bind_eq_error, asString_ne_overflow, false_or, not_exists, not_and]
    intro text _
    split <;> simp

@[simp] theorem length_ne_overflow : v.length ≠ .error .overflow := by
  cases v <;> simp [length]

@[simp] theorem parseTime_ne_overflow : v.parseTime w ≠ .error .overflow := by
  unfold parseTime
  simp only [ne_eq, Outcome.bind_eq_error, asString_ne_overflow, false_or, not_exists, not_and]
  intro text _ layout _
  split <;> simp

theorem asBool_eq_ok {b : Bool} : v.asBool = .ok b ↔ v = .bool b := by
  cases v <;> simp [asBool, fail]

theorem asTime_eq_ok {t : Instant} : v.asTime = .ok t ↔ v = .time t := by
  cases v <;> simp [asTime, fail]

theorem asString_eq_ok {s : String} : v.asString = .ok s ↔ v = .string s := by
  cases v <;> simp [asString, fail]

/-- An instant shifted by a period that is too long. -/
theorem addTime_eq_overflow_iff :
    v.addTime w = .error .overflow ↔ ∃ t p, v = .time t ∧ w = .string p ∧ Period.IsOverlong p := by
  unfold addTime
  simp only [Outcome.bind_eq_error, asTime_ne_overflow, asString_ne_overflow, false_or,
    asTime_eq_ok, asString_eq_ok]
  constructor
  · rintro ⟨t, rfl, p, rfl, h⟩
    split at h
    · cases h
    · cases h
    · rename_i hshift
      exact ⟨t, p, rfl, rfl, Instant.shift_eq_overflow_iff.1 hshift⟩
  · rintro ⟨t, p, rfl, rfl, hlong⟩
    refine ⟨t, rfl, p, rfl, ?_⟩
    rw [Instant.shift_eq_overflow_iff.2 hlong]

end Value

/-- Of the functions only the one that shifts instants overflows. -/
theorem applyFunction_eq_overflow_iff {now : Instant} {name : String} {values : List Value} :
    applyFunction now name values = .error .overflow
      ↔ name = "AddTime" ∧ ∃ t p, values = [.time t, .string p] ∧ Period.IsOverlong p := by
  unfold applyFunction
  split <;> simp [Value.addTime_eq_overflow_iff, Outcome.bind_eq_error]
  case h_9 v w =>
    exact ⟨fun ⟨⟨t, ht⟩, p, hp, hlong⟩ => ⟨t, p, ⟨ht, hp⟩, hlong⟩,
      fun ⟨t, p, ⟨ht, hp⟩, hlong⟩ => ⟨⟨t, ht⟩, p, hp, hlong⟩⟩
  case h_10 harity =>
    exact fun t p hvalues => (harity _ _ hvalues).elim
  case h_15 =>
    rename_i hname _ _ _ _ _ _ _ _ _
    exact fun h => (hname h).elim

/-! ### Functions on lists -/

section

variable {α β : Type}

variable {f : α → Outcome β} {x : α} {xs : List α} {e : Failure}

theorem forAll_cons :
    forAll f (x :: xs) = (do return (← f x) :: (← forAll f xs)) := by
  conv => lhs; unfold forAll
  cases f x with
  | error e => rfl
  | ok y => cases forAll f xs <;> rfl

theorem forAll_cons_eq_error :
    forAll f (x :: xs) = .error e
      ↔ f x = .error e ∨ (∃ b, f x = .ok b) ∧ forAll f xs = .error e := by
  rw [forAll_cons]
  simp [Outcome.bind_eq_error]

/-- A function on all items fails at the first item at which it fails. -/
theorem forAll_eq_error_iff :
    forAll f xs = .error e ↔ ∃ front x back, xs = front ++ x :: back
      ∧ (∀ y ∈ front, ∃ b, f y = .ok b) ∧ f x = .error e := by
  constructor
  · intro h
    induction xs with
    | nil => cases h
    | cons x xs ih =>
        rcases forAll_cons_eq_error.1 h with hx | ⟨hx, hxs⟩
        · exact ⟨[], x, xs, rfl, by simp, hx⟩
        · obtain ⟨front, y, back, rfl, hfront, hy⟩ := ih hxs
          exact ⟨x :: front, y, back, rfl, List.forall_mem_cons.2 ⟨hx, hfront⟩, hy⟩
  · rintro ⟨front, x, back, rfl, hfront, hx⟩
    induction front with
    | nil => exact forAll_cons_eq_error.2 (.inl hx)
    | cons y front ih =>
        obtain ⟨hy, hfront⟩ := List.forall_mem_cons.1 hfront
        exact forAll_cons_eq_error.2 (.inr ⟨hy, ih hfront⟩)

end

section

variable (test : Value → Outcome Bool)

/-- Counting goes by the Booleans that the test gives, and fails where the test first fails. -/
theorem countMatches_eq_map (n : Nat) (items : List Value) :
    countMatches test n items = (forAll test items).map fun bs => n + bs.count true := by
  induction items generalizing n with
  | nil => rfl
  | cons item items ih =>
      rw [forAll_cons, countMatches]
      cases test item with
      | error e => rfl
      | ok b =>
          cases b <;> dsimp only <;> rw [ih] <;> cases forAll test items <;>
            simp [bind, Except.bind, Except.map, pure, Except.pure]
          omega

/-- And so does keeping. -/
theorem keepMatches_eq_map (kept items : List Value) :
    keepMatches test kept items = (forAll test items).map fun bs =>
      kept ++ (items.zip bs).filterMap fun (item, keep) => if keep then some item else none := by
  induction items generalizing kept with
  | nil => simp [keepMatches, forAll, Except.map]
  | cons item items ih =>
      rw [forAll_cons, keepMatches]
      cases test item with
      | error e => rfl
      | ok b =>
          cases b <;> dsimp only <;> rw [ih] <;> cases forAll test items <;>
            simp [bind, Except.bind, Except.map, pure, Except.pure]

end

/-- Arguments are evaluated from left to right. -/
theorem evalAllIn_eq_forAll (scope : Scope) (current : Option Value) (es : List Tree) :
    evalAllIn scope current es = forAll (Tree.evalIn scope current) es := by
  induction es with
  | nil =>
      unfold evalAllIn forAll
      rfl
  | cons e es ih =>
      rw [forAll_cons, ← ih]
      conv => lhs; unfold evalAllIn

/-- The outcome of a closure on one item is one that the function on collections can use. -/
def CollectionFunction.Takes (f : CollectionFunction) (outcome : Outcome Value) : Prop :=
  ∃ v, outcome = .ok v ∧ (f = .map ∨ ∃ b, v = .bool b)

/-- Every function on collections but one goes by the Booleans that its closure gives. -/
theorem CollectionFunction.apply_eq_map {f : CollectionFunction} (hf : f ≠ .map)
    (body : Value → Outcome Value) (items : List Value) :
    ∃ result, f.apply body items
      = Except.map result (forAll (fun item => body item >>= Value.asBool) items) := by
  cases f with
  | map => exact (hf rfl).elim
  | any | all | none => exact ⟨_, rfl⟩
  | one | count =>
      have hcount := countMatches_eq_map (fun item => body item >>= Value.asBool) 0 items
      exact ⟨_, (congrArg (Except.map _) hcount).trans Outcome.except_map_map⟩
  | filter =>
      have hkeep := keepMatches_eq_map (fun item => body item >>= Value.asBool) [] items
      exact ⟨_, (congrArg (Except.map _) hkeep).trans Outcome.except_map_map⟩

/-- A function on collections overflows at the first item at which its closure does. -/
theorem CollectionFunction.apply_eq_overflow_iff {f : CollectionFunction}
    {body : Value → Outcome Value} {items : List Value} :
    f.apply body items = .error .overflow ↔ ∃ front item back, items = front ++ item :: back
      ∧ (∀ x ∈ front, f.Takes (body x)) ∧ body item = .error .overflow := by
  by_cases hf : f = .map
  · subst hf
    show Except.map Value.array (forAll body items) = .error .overflow ↔ _
    rw [Outcome.except_map_eq_error, forAll_eq_error_iff]
    simp [Takes]
  · have htest : ∀ x, body x >>= Value.asBool = .error .overflow ↔ body x = .error .overflow := by
      intro x
      simp [Outcome.bind_eq_error]
    have htakes : ∀ x, (∃ b, body x >>= Value.asBool = .ok b) ↔ f.Takes (body x) := by
      intro x
      unfold Takes
      cases body x with
      | error e => simp [bind, Except.bind]
      | ok v => simp [bind, Except.bind, hf, Value.asBool_eq_ok]
    obtain ⟨result, happly⟩ := apply_eq_map hf body items
    rw [happly, Outcome.except_map_eq_error, forAll_eq_error_iff]
    simp only [htest, htakes]

/-! ### What an evaluation gets to -/

/-- The right operand is evaluated too, when the left one has the value. -/
def BinaryOp.NeedsRight : BinaryOp → Value → Prop
  | .and, v => v = .bool true
  | .or, v => v = .bool false
  | _, _ => True

namespace Tree

variable {scope : Scope} {current : Option Value}

/-- An evaluation that has no outcome. -/
def Overflows (scope : Scope) (current : Option Value) (tree : Tree) : Prop :=
  tree.evalIn scope current = .error .overflow

theorem overflows_member_iff {target : Tree} {field : String} :
    (Tree.member target field).Overflows scope current ↔ target.Overflows scope current := by
  simp [Overflows, evalIn, Outcome.bind_eq_error]

theorem overflows_index_iff {target position : Tree} :
    (Tree.index target position).Overflows scope current ↔ target.Overflows scope current
      ∨ (∃ v, target.evalIn scope current = .ok v) ∧ position.Overflows scope current := by
  simp [Overflows, evalIn, Outcome.bind_eq_error]

theorem overflows_unary_iff {op : UnaryOp} {operand : Tree} :
    (Tree.unary op operand).Overflows scope current ↔ operand.Overflows scope current := by
  simp [Overflows, evalIn, Outcome.bind_eq_error]

theorem overflows_binary_iff {op : BinaryOp} {left right : Tree} :
    (Tree.binary op left right).Overflows scope current ↔ left.Overflows scope current
      ∨ ∃ v, left.evalIn scope current = .ok v ∧ op.NeedsRight v
          ∧ right.Overflows scope current := by
  unfold Overflows
  conv => lhs; unfold evalIn
  rw [Outcome.bind_eq_error]
  cases op <;> simp [BinaryOp.NeedsRight, Outcome.bind_eq_error, Value.asBool_eq_ok]

/-- Some expressions overflow at the first one that does. -/
theorem overflows_all_iff {es : List Tree} :
    evalAllIn scope current es = .error .overflow ↔ ∃ front e back, es = front ++ e :: back
      ∧ (∀ e ∈ front, ∃ v, e.evalIn scope current = .ok v) ∧ e.Overflows scope current := by
  rw [evalAllIn_eq_forAll]
  exact forAll_eq_error_iff

theorem overflows_array_iff {items : List Tree} :
    (Tree.array items).Overflows scope current
      ↔ evalAllIn scope current items = .error .overflow := by
  simp [Overflows, evalIn]

theorem overflows_call_iff {name : String} {arguments : List Tree}
    (plain : CollectionFunction.ofName? name = none) :
    (Tree.call name arguments).Overflows scope current
      ↔ evalAllIn scope current arguments = .error .overflow
        ∨ ∃ values, evalAllIn scope current arguments = .ok values
            ∧ applyFunction scope.now name values = .error .overflow := by
  simp [Overflows, evalIn, plain, Outcome.bind_eq_error]

theorem overflows_collection_iff {name : String} {f : CollectionFunction} {collection body : Tree}
    (known : CollectionFunction.ofName? name = some f) :
    (Tree.call name [collection, .closure body]).Overflows scope current
      ↔ collection.Overflows scope current
        ∨ ∃ v items, collection.evalIn scope current = .ok v ∧ v.asArray = .ok items
            ∧ ∃ front item back, items = front ++ item :: back
              ∧ (∀ x ∈ front, f.Takes (body.evalIn scope (some x)))
              ∧ body.Overflows scope (some item) := by
  simp [Overflows, evalIn, known, Outcome.bind_eq_error, CollectionFunction.apply_eq_overflow_iff]

end Tree

/-- The evaluation of an expression gets to the application of a function to values: operands and
arguments come before what is applied to them, from left to right, and a closure comes once for each
item. `current` is the element that a closure is applied to. -/
inductive Tree.Applies (scope : Scope) (name : String) (values : List Value) :
    Option Value → Tree → Prop
  | member {current : Option Value} {target : Tree} {field : String}
      (h : target.Applies scope name values current) :
      (Tree.member target field).Applies scope name values current
  | indexed {current : Option Value} {target position : Tree}
      (h : target.Applies scope name values current) :
      (Tree.index target position).Applies scope name values current
  | position {current : Option Value} {target position : Tree} {v : Value}
      (before : target.evalIn scope current = .ok v)
      (h : position.Applies scope name values current) :
      (Tree.index target position).Applies scope name values current
  | operand {current : Option Value} {op : UnaryOp} {operand : Tree}
      (h : operand.Applies scope name values current) :
      (Tree.unary op operand).Applies scope name values current
  | left {current : Option Value} {op : BinaryOp} {left right : Tree}
      (h : left.Applies scope name values current) :
      (Tree.binary op left right).Applies scope name values current
  | right {current : Option Value} {op : BinaryOp} {left right : Tree} {v : Value}
      (before : left.evalIn scope current = .ok v) (needed : op.NeedsRight v)
      (h : right.Applies scope name values current) :
      (Tree.binary op left right).Applies scope name values current
  | argument {current : Option Value} {function : String} {front back : List Tree} {e : Tree}
      (plain : CollectionFunction.ofName? function = none)
      (before : ∀ e ∈ front, ∃ v, e.evalIn scope current = .ok v)
      (h : e.Applies scope name values current) :
      (Tree.call function (front ++ e :: back)).Applies scope name values current
  | call {current : Option Value} {arguments : List Tree}
      (plain : CollectionFunction.ofName? name = none)
      (before : evalAllIn scope current arguments = .ok values) :
      (Tree.call name arguments).Applies scope name values current
  | collection {current : Option Value} {function : String} {f : CollectionFunction}
      {collection body : Tree} (known : CollectionFunction.ofName? function = some f)
      (h : collection.Applies scope name values current) :
      (Tree.call function [collection, .closure body]).Applies scope name values current
  | body {current : Option Value} {function : String} {f : CollectionFunction}
      {collection body : Tree} {v item : Value} {front back : List Value}
      (known : CollectionFunction.ofName? function = some f)
      (before : collection.evalIn scope current = .ok v)
      (items : v.asArray = .ok (front ++ item :: back))
      (taken : ∀ x ∈ front, f.Takes (body.evalIn scope (some x)))
      (h : body.Applies scope name values (some item)) :
      (Tree.call function [collection, .closure body]).Applies scope name values current
  | item {current : Option Value} {front back : List Tree} {e : Tree}
      (before : ∀ e ∈ front, ∃ v, e.evalIn scope current = .ok v)
      (h : e.Applies scope name values current) :
      (Tree.array (front ++ e :: back)).Applies scope name values current

namespace Tree

variable {scope : Scope} {current : Option Value} {tree : Tree}

/-- An application that overflows overflows the evaluation that gets to it. -/
theorem Applies.overflows {name : String} {values : List Value}
    (h : tree.Applies scope name values current)
    (happly : applyFunction scope.now name values = .error .overflow) :
    tree.Overflows scope current := by
  induction h with
  | member h ih => exact overflows_member_iff.2 ih
  | indexed h ih => exact overflows_index_iff.2 (.inl ih)
  | position before h ih => exact overflows_index_iff.2 (.inr ⟨⟨_, before⟩, ih⟩)
  | operand h ih => exact overflows_unary_iff.2 ih
  | left h ih => exact overflows_binary_iff.2 (.inl ih)
  | right before needed h ih => exact overflows_binary_iff.2 (.inr ⟨_, before, needed, ih⟩)
  | @argument _ _ front back e plain before h ih =>
      exact (overflows_call_iff plain).2
        (.inl (overflows_all_iff.2 ⟨front, e, back, rfl, before, ih⟩))
  | call plain before => exact (overflows_call_iff plain).2 (.inr ⟨values, before, happly⟩)
  | collection known h ih => exact (overflows_collection_iff known).2 (.inl ih)
  | @body _ _ _ _ _ v item front back known before items taken h ih =>
      exact (overflows_collection_iff known).2
        (.inr ⟨v, _, before, items, front, item, back, rfl, taken, ih⟩)
  | @item _ front back e before h ih =>
      exact overflows_array_iff.2 (overflows_all_iff.2 ⟨front, e, back, rfl, before, ih⟩)

/-- The evaluation gets to an application that overflows. -/
def GetsToOverflow (scope : Scope) (current : Option Value) (tree : Tree) : Prop :=
  ∃ name values, tree.Applies scope name values current
    ∧ applyFunction scope.now name values = .error .overflow

/-- An evaluation overflows only by an application that it gets to. -/
theorem Overflows.getsToOverflow (h : tree.Overflows scope current) :
    tree.GetsToOverflow scope current := by
  revert h
  induction current, tree using Tree.evalIn.induct scope
    (motive_2 := fun current es => ∀ e ∈ es, e.Overflows scope current →
      e.GetsToOverflow scope current) with
  | case1 current v => exact fun h => by cases h
  | case2 current name v hfound => exact fun h => by simp [Overflows, evalIn, hfound] at h
  | case3 current name hnone => exact fun h => by simp [Overflows, evalIn, hnone] at h
  | case4 v => exact fun h => by cases h
  | case5 => exact fun h => by simp [Overflows, evalIn] at h
  | case6 current target field ih =>
      intro h
      obtain ⟨name, values, happlies, hover⟩ := ih (overflows_member_iff.1 h)
      exact ⟨name, values, .member happlies, hover⟩
  | case7 current target position ihTarget ihPosition =>
      intro h
      rcases overflows_index_iff.1 h with h | ⟨⟨v, hv⟩, h⟩
      · obtain ⟨name, values, happlies, hover⟩ := ihTarget h
        exact ⟨name, values, .indexed happlies, hover⟩
      · obtain ⟨name, values, happlies, hover⟩ := ihPosition h
        exact ⟨name, values, .position hv happlies, hover⟩
  | case8 current op operand ih =>
      intro h
      obtain ⟨name, values, happlies, hover⟩ := ih (overflows_unary_iff.1 h)
      exact ⟨name, values, .operand happlies, hover⟩
  | case9 current op left right ihLeft ihRight =>
      intro h
      rcases overflows_binary_iff.1 h with h | ⟨v, hv, hneeded, h⟩
      · obtain ⟨name, values, happlies, hover⟩ := ihLeft h
        exact ⟨name, values, .left happlies, hover⟩
      · obtain ⟨name, values, happlies, hover⟩ := ihRight h
        exact ⟨name, values, .right hv hneeded happlies, hover⟩
  | case10 current function f hknown collection body ihCollection ihBody =>
      intro h
      rcases (overflows_collection_iff hknown).1 h with
        h | ⟨v, _, hv, hitems, front, item, back, rfl, htaken, h⟩
      · obtain ⟨name, values, happlies, hover⟩ := ihCollection h
        exact ⟨name, values, .collection hknown happlies, hover⟩
      · obtain ⟨name, values, happlies, hover⟩ := ihBody item h
        exact ⟨name, values, .body hknown hv hitems htaken happlies, hover⟩
  | case11 current function arguments f hknown hother =>
      intro h
      simp [Overflows, evalIn, hknown] at h
  | case12 current function arguments hplain ih =>
      intro h
      rcases (overflows_call_iff hplain).1 h with h | ⟨values, hvalues, hover⟩
      · obtain ⟨front, e, back, rfl, hfront, he⟩ := overflows_all_iff.1 h
        obtain ⟨name, values, happlies, hover⟩ := ih e (by simp) he
        exact ⟨name, values, .argument hplain hfront happlies, hover⟩
      · exact ⟨function, values, .call hplain hvalues, hover⟩
  | case13 current body => exact fun h => by simp [Overflows, evalIn] at h
  | case14 current items ih =>
      intro h
      obtain ⟨front, e, back, rfl, hfront, he⟩ := overflows_all_iff.1 (overflows_array_iff.1 h)
      obtain ⟨name, values, happlies, hover⟩ := ih e (by simp) he
      exact ⟨name, values, .item hfront happlies, hover⟩
  | case15 current e he => cases he
  | case16 current e es ihHead ihTail e' he' h =>
      rcases List.mem_cons.1 he' with rfl | he'
      · exact ihHead h
      · exact ihTail e' he' h

/-- An evaluation overflows just by getting to an addition of an overlong period. -/
theorem overflows_iff : tree.Overflows scope current ↔ ∃ t p,
    tree.Applies scope "AddTime" [.time t, .string p] current ∧ Period.IsOverlong p := by
  constructor
  · intro h
    obtain ⟨name, values, happlies, hover⟩ := h.getsToOverflow
    obtain ⟨rfl, t, p, rfl, hlong⟩ := applyFunction_eq_overflow_iff.1 hover
    exact ⟨t, p, happlies, hlong⟩
  · rintro ⟨t, p, happlies, hlong⟩
    exact happlies.overflows (applyFunction_eq_overflow_iff.2 ⟨rfl, t, p, rfl, hlong⟩)

end Tree

/-! ### Expressions on documents -/

/-- Deciding an expression on a document gets to an addition of an overlong period. -/
def ShiftsTooFar (expression : String) (document : Json) (now : Instant) : Prop :=
  hasPlaceholder expression = true
    ∧ ∃ tree, Tree.parse (bindPlaceholders expression document).1 = .ok tree
      ∧ ∃ t p, tree.Applies ⟨(bindPlaceholders expression document).2, now⟩ "AddTime"
          [.time t, .string p] none ∧ Period.IsOverlong p

section

variable {expression : String} {document : Json} {now : Instant}

theorem evaluateAt_eq_overflow_iff :
    evaluateAt expression document now = .error .overflow
      ↔ ShiftsTooFar expression document now := by
  unfold evaluateAt ShiftsTooFar
  split
  · rename_i hplaceholder
    dsimp only
    generalize (bindPlaceholders expression document).2 = names
    cases hparse : Tree.parse (bindPlaceholders expression document).1 with
    | error fault => simp
    | ok tree =>
        have hover : tree.eval ⟨names, now⟩ = .error .overflow ↔ _ := Tree.overflows_iff
        simp only [hplaceholder, Except.ok.injEq, exists_eq_left', true_and, ← hover]
        -- A value that is no boolean is an outcome too.
        cases tree.eval ⟨names, now⟩ with
        | error e => simp
        | ok v => cases v <;> simp
  · rename_i hplaceholder
    cases Comparison.evaluate document expression <;> simp [hplaceholder]

/-- **Expressions are decided, or name what is wrong with them.**  On every document and at every
instant an expression gives a boolean, or an error of expressions, and then it does not match;
except that it overflows, by getting to an addition of an overlong period and in no other way. -/
theorem evaluateAt_ends_iff (expression : String) (document : Json) (now : Instant) :
    ((∃ b, evaluateAt expression document now = .ok b ∧ matchesAt expression document now = .ok b)
      ∨ ∃ e, evaluateAt expression document now = .error (.error e)
        ∧ matchesAt expression document now = .ok false)
    ↔ ¬ ShiftsTooFar expression document now := by
  rw [← evaluateAt_eq_overflow_iff]
  unfold matchesAt
  cases houtcome : evaluateAt expression document now with
  | ok b => simp
  | error failure => cases failure <;> simp

end

/-- Asks whether the end of the lifetime that an object has in its notes, from now on, is to
come. -/
def lifetimeExpression : String :=
  "AfterTime(AddTime(Now(), \x7b\x7bmetadata.annotations.ttl\x7d\x7d), Now())"

/-- A workload with a lifetime in its notes. -/
def workloadWithLifetime (ttl : String) : Json :=
  .obj [("apiVersion", .str "apps/v1"), ("kind", .str "Deployment"),
    ("metadata", .obj [("annotations", .obj [("ttl", .str ttl)]), ("name", .str "web"),
      ("namespace", .str "prod")]),
    ("spec", .obj [("replicas", .int 3)])]

/-- A lifetime of almost three hundred million years overflows, so that not every expression is
decided or names what is wrong with it. -/
theorem lifetime_overflows : ¬ ∀ expression document now,
    (∃ b, evaluateAt expression document now = .ok b)
      ∨ ∃ e, evaluateAt expression document now = .error (.error e) := by
  intro hends
  have hstopped : (matchesAt lifetimeExpression (workloadWithLifetime "106751991168d")
      ⟨1704067200, 0⟩).toOption.isSome = false := by decide +kernel
  unfold matchesAt at hstopped
  rcases hends lifetimeExpression (workloadWithLifetime "106751991168d") ⟨1704067200, 0⟩ with
    ⟨b, hb⟩ | ⟨e, he⟩
  · rw [hb] at hstopped
    cases hstopped
  · rw [he] at hstopped
    cases hstopped

end Expression

end Slumber
