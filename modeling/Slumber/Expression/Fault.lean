import Slumber.Expression.Token
import Slumber.Expression.Value

/-!
# What can go wrong in an expression

Each way in which an expression fails to be read or evaluated is a constructor of its own, and
`ExpressionError.message` words them all. Beside these errors an evaluation can end without any
answer, when a period is too long for a length of time; `Failure.overflow` stands for that, and it
ends the run in which the expression was evaluated.
-/

namespace Slumber.Expression

open Slumber.Text

/-- Why a text is no expression. -/
inductive ParseFault where
  | emptyComparison
  | strayNegation (clause : String)
  | missingPath (clause : String)
  | invalidNumber (text : String)
  | unterminatedString
  | unexpectedCharacter (c : Char)
  | expectedMark (mark : Mark) (found : Option Token)
  | expectedName (found : Option Token)
  | unexpectedToken (found : Option Token)
  | trailingToken (found : Token)

/-- The operators that combine two numbers. -/
inductive Arithmetic where
  | add | subtract | multiply | divide | modulo
deriving DecidableEq, Repr

/-- The name of an arithmetic operator in messages. -/
def Arithmetic.text : Arithmetic → String
  | .add => "+"
  | .subtract => "Subtract"
  | .multiply => "Multiply"
  | .divide => "Divide"
  | .modulo => "Modulo"

/-- Why an expression has no value. -/
inductive EvaluationFault where
  | notNumeric (path literal : String)
  | unknownName (name : String)
  | currentOutside
  | noField (field : String) (found : Kind)
  | cannotNegate (found : Kind)
  | expected (wanted found : Kind)
  | strayClosure
  | arity (function : String) (wanted found : Nat)
  | noLength (found : Kind)
  | notACollectionCall (function : String)
  | cannotIndex (target index : Kind)
  | cannotCompare (left right : Kind)
  | notAContainer (found : Kind)
  | cannotApply (op : Arithmetic) (left right : Kind)
  | divisionByZero
  | invalidPattern

/-- Why a text is no time. -/
inductive TimeFault where
  | noMatch (value layout : String)
  | invalidPeriod (period : String)

/-- The errors of expressions. -/
inductive ExpressionError where
  | parse (fault : ParseFault)
  | evaluation (fault : EvaluationFault)
  | unknownFunction (name : String)
  | invalidQuantity (text : String)
  | invalidTime (fault : TimeFault)

/-- The wording of a fault of reading. -/
def ParseFault.message : ParseFault → String
  | .emptyComparison => "empty comparison"
  | .strayNegation clause => "unexpected '!' in " ++ quoted clause
  | .missingPath clause => "missing field path in " ++ quoted clause
  | .invalidNumber text => "invalid number " ++ quoted text
  | .unterminatedString => "unterminated string literal"
  | .unexpectedCharacter c => "unexpected character " ++ quotedChar c
  | .expectedMark m found => "expected " ++ quoted m.text ++ ", found " ++ Token.describe? found
  | .expectedName found => "expected identifier, found " ++ Token.describe? found
  | .unexpectedToken found => "unexpected token " ++ Token.describe? found
  | .trailingToken found => "unexpected trailing token " ++ found.describe

/-- The wording of a fault of evaluation. -/
def EvaluationFault.message : EvaluationFault → String
  | .notNumeric path literal => path ++ " is numeric but " ++ quoted literal ++ " is not"
  | .unknownName name => "unknown name " ++ quoted name
  | .currentOutside => "'#' used outside of a closure"
  | .noField field found => "cannot read field " ++ quoted field ++ " of " ++ found.text
  | .cannotNegate found => "cannot negate " ++ found.text
  | .expected wanted found => "expected " ++ wanted.text ++ ", found " ++ found.text
  | .strayClosure => "closures are only valid as arguments"
  | .arity function wanted found =>
    function ++ " expects " ++ toString wanted ++ " argument(s), got " ++ toString found
  | .noLength found => "len of " ++ found.text ++ " is undefined"
  | .notACollectionCall function =>
    function ++ " expects a collection and a \x7b closure \x7d"
  | .cannotIndex target index => "cannot index " ++ target.text ++ " with " ++ index.text
  | .cannotCompare left right => "cannot compare " ++ left.text ++ " with " ++ right.text
  | .notAContainer found => "'in' needs an array or map, found " ++ found.text
  | .cannotApply op left right =>
    "cannot apply " ++ op.text ++ " to " ++ left.text ++ " and " ++ right.text
  | .divisionByZero => "division by zero"
  | .invalidPattern => "invalid pattern"

/-- The wording of a fault of time. -/
def TimeFault.message : TimeFault → String
  | .noMatch value layout => quoted value ++ " does not match layout " ++ quoted layout
  | .invalidPeriod period => "invalid period " ++ quoted period

/-- The wording of an error. -/
def ExpressionError.message : ExpressionError → String
  | .parse f => "parse error: " ++ f.message
  | .evaluation f => "evaluation error: " ++ f.message
  | .unknownFunction name => "unknown function " ++ quoted name
  | .invalidQuantity text => "invalid quantity " ++ quoted text
  | .invalidTime f => "invalid time: " ++ f.message

/-- Why an evaluation gives no answer: an error of the expression, or a length of time that is
beyond all clocks and ends the run. -/
inductive Failure where
  | error (e : ExpressionError)
  | overflow

end Slumber.Expression
