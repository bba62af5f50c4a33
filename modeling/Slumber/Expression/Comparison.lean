import Slumber.Decimal.Reading
import Slumber.Expression.Fault
import Slumber.Expression.Path
import Slumber.Json.Printer
import Slumber.Text.Words

/-!
# Comparing fields with literals

The simplest field expressions are clauses such as `spec.replicas>=2`, `!metadata.deletionTimestamp`
or a bare `spec.paused`, combined by `&&` and `||`, where `&&` binds tighter. `Clause.ofText` splits
one clause, `Clause.holds` decides it on a document, and `Comparison.evaluate` decides the whole
expression, from left to right and only as far as needed. A number in the document is compared as a
number, anything else by its text.
-/

namespace Slumber.Expression

open Slumber.Text Slumber.Decimal

/-- What a clause asks of its field. -/
inductive ClauseOp where
  | equal | notEqual | absent | present | greaterOrEqual | lessOrEqual | greater | less
deriving DecidableEq, Repr

/-- A field with what is asked of it. -/
structure Clause where
  op : ClauseOp
  path : String
  literal : String
deriving DecidableEq, Repr

namespace ClauseOp

/-- The operators as they are written. The first one that occurs anywhere in a clause is the
operator of the clause. -/
def table : List (String × ClauseOp) :=
  [("==", .equal), ("!=", .notEqual), ("!", .absent), (">=", .greaterOrEqual),
   ("<=", .lessOrEqual), ("=>", .greaterOrEqual), ("=<", .lessOrEqual), (">", .greater),
   ("<", .less)]

/-- Whether two values in this order satisfy the operator. -/
def accepts (op : ClauseOp) (o : Ordering) : Bool :=
  match op with
  | .equal => o.isEq
  | .notEqual => o.isNe
  | .greaterOrEqual => o.isGE
  | .lessOrEqual => o.isLE
  | .greater => o.isGT
  | .less => o.isLT
  | .absent | .present => false

end ClauseOp

/-- The inside of a text in quotes of one kind. -/
def insideQuotes? (quote : Char) : List Char → Option (List Char)
  | c :: cs =>
    if c = quote ∧ cs.getLast? = some quote then some cs.dropLast else none
  | [] => none

/-- A literal without its quotes, if it has any. -/
def unquote (cs : List Char) : List Char :=
  match insideQuotes? '\'' cs with
  | some inner => inner
  | none => (insideQuotes? '"' cs).getD cs

/-- Splits a clause into field, operator and literal. -/
def Clause.ofText (text : List Char) : Except ParseFault Clause :=
  let clause := trimChars text
  if clause.isEmpty then .error .emptyComparison
  else
    let found : Option (ClauseOp × List Char × List Char) :=
      ClauseOp.table.findSome? fun (token, op) =>
        (cutAtText token.toList clause).map fun parts => (op, parts)
    match found with
    | none => .ok ⟨.present, String.ofList clause, ""⟩
    | some (.absent, _) =>
      match clause with
      | '!' :: path =>
        if (trimChars path).isEmpty ∨ '!' ∈ path then
          .error (.strayNegation (String.ofList clause))
        else .ok ⟨.absent, String.ofList (trimChars path), ""⟩
      | _ => .error (.strayNegation (String.ofList clause))
    | some (op, path, literal) =>
      if (trimChars path).isEmpty then .error (.missingPath (String.ofList clause))
      else
        .ok ⟨op, String.ofList (trimChars path), String.ofList (unquote (trimChars literal))⟩

/-- The order of two numbers, if they have one. -/
def compareFloats (x y : Float) : Option Ordering :=
  if x < y then some .lt else if y < x then some .gt else if x == y then some .eq else none

/-- The order of two texts by their code points. -/
def compareTexts (a b : String) : Ordering :=
  if a < b then .lt else if b < a then .gt else .eq

/-- The text of a value that is compared as a text. -/
def comparedText : Json → String
  | .str s => s
  | j => j.render

/-- Whether a clause holds of a document. A missing field satisfies only the clause that asks for
its absence. -/
def Clause.holds (document : Json) (c : Clause) : Except EvaluationFault Bool :=
  let found := document.resolve? c.path
  match c.op, found with
  | .present, found => .ok found.isSome
  | .absent, found => .ok found.isNone
  | _, none => .ok false
  | op, some value =>
    match value.float? with
    | some x =>
      match readFloat? c.literal.toList with
      | some y => .ok ((compareFloats x y).map op.accepts |>.getD false)
      | none => .error (.notNumeric c.path c.literal)
    | none => .ok (op.accepts (compareTexts (comparedText value) c.literal))

namespace Comparison

/-- Whether all clauses hold, read and decided from left to right up to the first that fails. -/
def allHold (document : Json) : List (List Char) → Except ExpressionError Bool
  | [] => .ok true
  | text :: rest =>
    match Clause.ofText text with
    | .error fault => .error (.parse fault)
    | .ok c =>
      match c.holds document with
      | .error fault => .error (.evaluation fault)
      | .ok true => allHold document rest
      | .ok false => .ok false

/-- Whether the clauses of some alternative all hold, up to the first that do. -/
def anyHolds (document : Json) : List (List Char) → Except ExpressionError Bool
  | [] => .ok false
  | text :: rest =>
    match allHold document (splitOnText ['&', '&'] text) with
    | .error e => .error e
    | .ok true => .ok true
    | .ok false => anyHolds document rest

/-- Decides a comparison on a document. -/
def evaluate (document : Json) (expression : String) : Except ExpressionError Bool :=
  anyHolds document (splitOnText ['|', '|'] expression.toList)

end Comparison

end Slumber.Expression
