import Slumber.Decimal.Shortest
import Slumber.Text.Quoted

/-!
# The tokens of expressions

An expression is made of numbers, strings, names and marks. `Mark.table` lists the marks in the
order in which they are tried, the longer ones first. Messages about a token show what kind it is
and its content: `Number(1.0)`, `Str("x")`, `Ident("x")`, `Punct("]")`.
-/

namespace Slumber.Expression

open Slumber.Text

/-- The punctuation of expressions. -/
inductive Mark where
  | and | or | equal | notEqual | lessOrEqual | greaterOrEqual
  | openParen | closeParen | openBracket | closeBracket | openBrace | closeBrace
  | comma | dot | hash | bang | less | greater | plus | minus | star | slash | percent
deriving DecidableEq, Repr

namespace Mark

/-- How a mark is written. -/
def text : Mark → String
  | .and => "&&"
  | .or => "||"
  | .equal => "=="
  | .notEqual => "!="
  | .lessOrEqual => "<="
  | .greaterOrEqual => ">="
  | .openParen => "("
  | .closeParen => ")"
  | .openBracket => "["
  | .closeBracket => "]"
  | .openBrace => "\x7b"
  | .closeBrace => "\x7d"
  | .comma => ","
  | .dot => "."
  | .hash => "#"
  | .bang => "!"
  | .less => "<"
  | .greater => ">"
  | .plus => "+"
  | .minus => "-"
  | .star => "*"
  | .slash => "/"
  | .percent => "%"

/-- All marks; one that is the beginning of another stands behind it. -/
def table : List Mark :=
  [.and, .or, .equal, .notEqual, .lessOrEqual, .greaterOrEqual, .openParen, .closeParen,
   .openBracket, .closeBracket, .openBrace, .closeBrace, .comma, .dot, .hash, .bang, .less,
   .greater, .plus, .minus, .star, .slash, .percent]

end Mark

/-- A token of an expression. -/
inductive Token where
  | number (x : Float)
  | string (s : String)
  | name (s : String)
  | mark (m : Mark)
deriving DecidableEq

namespace Token

/-- A token as messages show it. -/
def describe : Token → String
  | .number x => "Number(" ++ Decimal.floatText .message x ++ ")"
  | .string s => "Str(" ++ quoted s ++ ")"
  | .name s => "Ident(" ++ quoted s ++ ")"
  | .mark m => "Punct(" ++ quoted m.text ++ ")"

/-- A token, or the end of the expression, as messages show it. -/
def describe? : Option Token → String
  | some t => "Some(" ++ t.describe ++ ")"
  | none => "None"

end Token

end Slumber.Expression
