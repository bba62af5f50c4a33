import Slumber.Decimal.Binary
import Slumber.Expression.Comparison
import Slumber.Expression.Quantity
import Slumber.Expression.Tree
import Slumber.Pattern.Reader
import Slumber.Time.Layout
import Slumber.Time.Period

/-!
# The meaning of expressions

`Tree.eval` gives the value of an expression under a `Scope`: the values of its names and the clock.
Operands are evaluated from left to right before an operator is applied, except that `&&` and `||`
leave out the right operand when the left one decides. Functions on collections test every element
before they answer, so the first element whose test fails decides the error, wherever it stands. A
missing collection counts as an empty one.
-/

namespace Slumber.Expression

open Slumber.Text

/-- What an expression is evaluated under. -/
structure Scope where
  names : FiniteMap String Value
  now : Instant

/-- The outcome of an evaluation. -/
abbrev Outcome (α : Type) := Except Failure α

/-- An evaluation that ends with an evaluation fault. -/
def fail {α : Type} (f : EvaluationFault) : Outcome α :=
  .error (.error (.evaluation f))

namespace Value

/-- The truth value of a boolean. -/
def asBool : Value → Outcome Bool
  | .bool b => .ok b
  | v => fail (.expected .bool v.kind)

/-- The text of a string. -/
def asString : Value → Outcome String
  | .string s => .ok s
  | v => fail (.expected .string v.kind)

/-- The instant of a time. -/
def asTime : Value → Outcome Instant
  | .time t => .ok t
  | v => fail (.expected .time v.kind)

/-- The items of an array; a missing array has none. -/
def asArray : Value → Outcome (List Value)
  | .array items => .ok items
  | .nil => .ok []
  | v => fail (.expected .array v.kind)

/-- The field of a map; a missing map has only missing fields. -/
def member (v : Value) (field : String) : Outcome Value :=
  match v with
  | .map fields => .ok ((FiniteMap.find? fields field).getD .nil)
  | .nil => .ok .nil
  | v => fail (.noField field v.kind)

/-- The element of an array or the field of a map. Positions are cut to whole numbers, and negative
ones count from the end. -/
def index (target position : Value) : Outcome Value :=
  match target, position with
  | .array items, .number x =>
    let i := x.toInt64.toInt
    let i := if i < 0 then items.length + i else i
    .ok (if i < 0 then .nil else (items[i.toNat]?).getD .nil)
  | .map fields, .string key => .ok ((FiniteMap.find? fields key).getD .nil)
  | .nil, _ => .ok .nil
  | t, p => fail (.cannotIndex t.kind p.kind)

/-- The order of two values, which only numbers, strings and times have. -/
def compare (a b : Value) : Outcome Ordering :=
  let ordering :=
    match a, b with
    | .number x, .number y => compareFloats x y
    | .string x, .string y => some (compareTexts x y)
    | .time x, .time y => some (if x.before y then .lt else if y.before x then .gt else .eq)
    | _, _ => none
  match ordering with
  | some o => .ok o
  | none => fail (.cannotCompare a.kind b.kind)

/-- Whether a text holds another one. -/
def containsText (s part : String) : Bool :=
  (cutAtText part.toList s.toList).isSome

/-- Two numbers combined. -/
def calculate (op : Arithmetic) (a b : Value) : Outcome Value :=
  match a, b with
  | .number x, .number y =>
    match op with
    | .add => .ok (.number (x + y))
    | .subtract => .ok (.number (x - y))
    | .multiply => .ok (.number (x * y))
    | .divide => if y == 0.0 then fail .divisionByZero else .ok (.number (x / y))
    | .modulo =>
      if y == 0.0 then fail .divisionByZero else .ok (.number (Decimal.remainder x y))
  | a, b => fail (.cannotApply op a.kind b.kind)

/-- Whether a value is an item of an array or a key of a map. -/
def isIn (a container : Value) : Outcome Value :=
  match container with
  | .array items => .ok (.bool (items.any fun item => item.same a))
  | .map fields => do
    let key ← a.asString
    return .bool (FiniteMap.contains fields key)
  | v => fail (.notAContainer v.kind)

/-- Whether a pattern matches a string. The pattern is read first. -/
def matchPattern (s pattern : Value) : Outcome Value := do
  let text ← pattern.asString
  match Pattern.read? text with
  | none => fail .invalidPattern
  | some p => do
    let s ← s.asString
    return .bool (p.occursIn s)

/-- Applies an operator to the values of both operands. -/
def applyBinary (op : BinaryOp) (a b : Value) : Outcome Value :=
  match op with
  | .or => do return .bool ((← a.asBool) || (← b.asBool))
  | .and => do return .bool ((← a.asBool) && (← b.asBool))
  | .equal => .ok (.bool (a.same b))
  | .notEqual => .ok (.bool (!a.same b))
  | .less => do return .bool (← compare a b).isLT
  | .lessOrEqual => do return .bool (← compare a b).isLE
  | .greater => do return .bool (← compare a b).isGT
  | .greaterOrEqual => do return .bool (← compare a b).isGE
  | .isIn => isIn a b
  | .contains => do
    let s ← a.asString
    let part ← b.asString
    return .bool (containsText s part)
  | .startsWith => do
    let s ← a.asString
    let part ← b.asString
    return .bool (part.toList.isPrefixOf s.toList)
  | .endsWith => do
    let s ← a.asString
    let part ← b.asString
    return .bool (part.toList.isSuffixOf s.toList)
  | .matches => matchPattern a b
  | .add =>
    match a, b with
    | .string x, .string y => .ok (.string (x ++ y))
    | a, b => calculate .add a b
  | .subtract => calculate .subtract a b
  | .multiply => calculate .multiply a b
  | .divide => calculate .divide a b
  | .modulo => calculate .modulo a b

/-- Applies an operator to the value of its operand. -/
def applyUnary (op : UnaryOp) (a : Value) : Outcome Value :=
  match op with
  | .not => do return .bool (!(← a.asBool))
  | .negate =>
    match a with
    | .number x => .ok (.number (-x))
    | v => fail (.cannotNegate v.kind)

/-- The number that a quantity stands for; a number stands for itself. -/
def quantity (v : Value) : Outcome Value :=
  match v with
  | .number x => .ok (.number x)
  | v => do
    let text ← v.asString
    match Quantity.read text with
    | .ok x => return .number x
    | .error e => .error (.error e)

/-- The length of an array, a map or a string. -/
def length (v : Value) : Outcome Value :=
  match v with
  | .array items => .ok (.number (Float.ofNat items.length))
  | .map fields => .ok (.number (Float.ofNat fields.length))
  | .string s => .ok (.number (Float.ofNat s.length))
  | v => fail (.noLength v.kind)

/-- The instant that a text gives by a layout. -/
def parseTime (value layout : Value) : Outcome Value := do
  let text ← value.asString
  let layout ← layout.asString
  match Time.Layout.readInstant? text layout with
  | some t => return .time t
  | none => .error (.error (.invalidTime (.noMatch text layout)))

/-- An instant shifted by a written period. -/
def addTime (time period : Value) : Outcome Value := do
  let t ← time.asTime
  let p ← period.asString
  match t.shift p with
  | .ok u => return .time u
  | .error .invalid => .error (.error (.invalidTime (.invalidPeriod p)))
  | .error .overflow => .error .overflow

end Value

/-- Applies a function to the values of its arguments. -/
def applyFunction (now : Instant) (name : String) (values : List Value) : Outcome Value :=
  match name, values with
  | "Now", [] => .ok (.time now)
  | "Now", vs => fail (.arity name 0 vs.length)
  | "CpuToNumber", [v] | "MemoryToNumber", [v] => v.quantity
  | "CpuToNumber", vs | "MemoryToNumber", vs => fail (.arity name 1 vs.length)
  | "ParseTime", [v, w] => v.parseTime w
  | "ParseTime", vs => fail (.arity name 2 vs.length)
  | "AddTime", [v, w] => v.addTime w
  | "AddTime", vs => fail (.arity name 2 vs.length)
  | "AfterTime", [v, w] => do
    let t ← v.asTime
    let u ← w.asTime
    return .bool (u.before t)
  | "AfterTime", vs => fail (.arity name 2 vs.length)
  | "len", [v] => v.length
  | "len", vs => fail (.arity name 1 vs.length)
  | name, _ => .error (.error (.unknownFunction name))

/-- The functions that take a collection and a closure. -/
inductive CollectionFunction where
  | any | all | none | one | filter | map | count
deriving DecidableEq, Repr

/-- The function on collections of a name. -/
def CollectionFunction.ofName? : String → Option CollectionFunction
  | "any" => some .any
  | "all" => some .all
  | "none" => some .none
  | "one" => some .one
  | "filter" => some .filter
  | "map" => some .map
  | "count" => some .count
  | _ => Option.none

/-- The results of a function on all items, or the first failure. -/
def forAll {α β : Type} (f : α → Outcome β) : List α → Outcome (List β)
  | [] => .ok []
  | x :: xs =>
    match f x with
    | .error e => .error e
    | .ok y =>
      match forAll f xs with
      | .error e => .error e
      | .ok ys => .ok (y :: ys)

/-- How many items pass a test, counted on from `n`, or the first failure. -/
def countMatches (test : Value → Outcome Bool) (n : Nat) : List Value → Outcome Nat
  | [] => .ok n
  | item :: items =>
    match test item with
    | .error e => .error e
    | .ok true => countMatches test (n + 1) items
    | .ok false => countMatches test n items

/-- The items that pass a test behind those that were kept before, or the first failure. -/
def keepMatches (test : Value → Outcome Bool) (kept : List Value) :
    List Value → Outcome (List Value)
  | [] => .ok kept
  | item :: items =>
    match test item with
    | .error e => .error e
    | .ok true => keepMatches test (kept ++ [item]) items
    | .ok false => keepMatches test kept items

/-- Applies a function on collections, where `body` evaluates the closure on one item. -/
def CollectionFunction.apply (f : CollectionFunction) (body : Value → Outcome Value)
    (items : List Value) : Outcome Value :=
  let test (item : Value) : Outcome Bool := do (← body item).asBool
  match f with
  | .any => (forAll test items).map fun bs => .bool (bs.contains true)
  | .all => (forAll test items).map fun bs => .bool (!bs.contains false)
  | .none => (forAll test items).map fun bs => .bool (!bs.contains true)
  | .one => (countMatches test 0 items).map fun n => .bool (n == 1)
  | .count => (countMatches test 0 items).map fun n => .number (Float.ofNat n)
  | .filter => (keepMatches test [] items).map .array
  | .map => (forAll body items).map .array

mutual

/-- The value of an expression; `current` is the element that a closure is applied to. -/
def Tree.evalIn (scope : Scope) (current : Option Value) : Tree → Outcome Value
  | .literal v => .ok v
  | .variable name =>
    match scope.names.find? name with
    | some v => .ok v
    | none => fail (.unknownName name)
  | .current =>
    match current with
    | some v => .ok v
    | none => fail .currentOutside
  | .member target field => do
    let v ← target.evalIn scope current
    v.member field
  | .index target position => do
    let v ← target.evalIn scope current
    let p ← position.evalIn scope current
    v.index p
  | .unary op operand => do
    let v ← operand.evalIn scope current
    v.applyUnary op
  | .binary op left right => do
    let v ← left.evalIn scope current
    match op with
    | .and =>
      if ← v.asBool then
        let w ← right.evalIn scope current
        return .bool (← w.asBool)
      else return .bool false
    | .or =>
      if ← v.asBool then return .bool true
      else
        let w ← right.evalIn scope current
        return .bool (← w.asBool)
    | op =>
      let w ← right.evalIn scope current
      v.applyBinary op w
  | .call name arguments =>
    match CollectionFunction.ofName? name with
    | some f =>
      match arguments with
      | [collection, .closure body] => do
        let v ← collection.evalIn scope current
        let items ← v.asArray
        f.apply (fun item => body.evalIn scope (some item)) items
      | _ => fail (.notACollectionCall name)
    | none => do
      let values ← evalAllIn scope current arguments
      applyFunction scope.now name values
  | .closure _ => fail .strayClosure
  | .array items => do
    let values ← evalAllIn scope current items
    return .array values

/-- The values of expressions from left to right, or the first failure. -/
def evalAllIn (scope : Scope) (current : Option Value) : List Tree → Outcome (List Value)
  | [] => .ok []
  | e :: es => do
    let v ← e.evalIn scope current
    let vs ← evalAllIn scope current es
    return v :: vs

end

/-- The value of an expression outside of all closures. -/
def Tree.eval (scope : Scope) (e : Tree) : Outcome Value :=
  e.evalIn scope none

end Slumber.Expression
