import Slumber.Expression.Value

/-!
# Syntax trees of expressions

`Tree` is the form in which expressions are evaluated. A closure stands only where a function takes
one as an argument; inside it `#`, the current element, has a value.
-/

namespace Slumber.Expression

/-- Operators with one operand. -/
inductive UnaryOp where
  | not | negate
deriving DecidableEq, Repr

/-- Operators with two operands. -/
inductive BinaryOp where
  | or | and
  | equal | notEqual | less | lessOrEqual | greater | greaterOrEqual
  | isIn | contains | startsWith | endsWith | matches
  | add | subtract | multiply | divide | modulo
deriving DecidableEq, Repr

/-- An expression. -/
inductive Tree where
  | literal (v : Value)
  | variable (name : String)
  | current
  | member (target : Tree) (field : String)
  | index (target position : Tree)
  | unary (op : UnaryOp) (operand : Tree)
  | binary (op : BinaryOp) (left right : Tree)
  | call (function : String) (arguments : List Tree)
  | closure (body : Tree)
  | array (items : List Tree)
deriving Inhabited

end Slumber.Expression
