import Slumber.Expression.Lexer
import Slumber.Expression.Tree

/-!
# From tokens to syntax trees

Binary operators have five levels, from the loosest: `||`, `&&`, comparisons, `+ -`, `* / %`; all
associate to the left. Above them are the prefixes `!`, `not` and `-`, then members and indexes,
then single terms. `Level.operator?` says which token is an operator of which level, and
`Tree.parse` reads a whole text. Each reading function uses up at least one token, or hands all of
its tokens to a function of a tighter level; what it gives says so, and that is why reading ends.
-/

namespace Slumber.Expression

/-- The levels of binary operators. -/
inductive Level where
  | or | and | comparison | additive | multiplicative
deriving DecidableEq, Repr

namespace Level

/-- The next tighter level, if there is one. -/
def next? : Level → Option Level
  | .or => some .and
  | .and => some .comparison
  | .comparison => some .additive
  | .additive => some .multiplicative
  | .multiplicative => none

/-- The number of levels from this one on to the tightest. -/
def height : Level → Nat
  | .or => 5
  | .and => 4
  | .comparison => 3
  | .additive => 2
  | .multiplicative => 1

@[simp] theorem height_or : Level.or.height = 5 := rfl

theorem height_next? {level tighter : Level} (h : level.next? = some tighter) :
    level.height = tighter.height + 1 := by
  cases level <;> cases h <;> rfl

theorem height_bounds (level : Level) : 1 ≤ level.height ∧ level.height ≤ 5 := by
  cases level <;> decide

/-- The operator of a level that a token is. -/
def operator? : Level → Token → Option BinaryOp
  | .or, .mark .or | .or, .name "or" => some .or
  | .and, .mark .and | .and, .name "and" => some .and
  | .comparison, .mark .equal => some .equal
  | .comparison, .mark .notEqual => some .notEqual
  | .comparison, .mark .less => some .less
  | .comparison, .mark .lessOrEqual => some .lessOrEqual
  | .comparison, .mark .greater => some .greater
  | .comparison, .mark .greaterOrEqual => some .greaterOrEqual
  | .comparison, .name "in" => some .isIn
  | .comparison, .name "contains" => some .contains
  | .comparison, .name "startsWith" => some .startsWith
  | .comparison, .name "endsWith" => some .endsWith
  | .comparison, .name "matches" => some .matches
  | .additive, .mark .plus => some .add
  | .additive, .mark .minus => some .subtract
  | .multiplicative, .mark .star => some .multiply
  | .multiplicative, .mark .slash => some .divide
  | .multiplicative, .mark .percent => some .modulo
  | _, _ => none

end Level

/-- What was read, and the tokens behind it, of which there are fewer than `n`. -/
structure Reading (α : Type) (n : Nat) where
  value : α
  rest : List Token
  shorter : rest.length < n

namespace Reading

variable {α β : Type} {m n : Nat}

/-- The same reading of a list that is not shorter. -/
def of (r : Reading α m) (h : m ≤ n) : Reading α n :=
  ⟨r.value, r.rest, Nat.lt_of_lt_of_le r.shorter h⟩

@[simp] theorem of_value (r : Reading α m) (h : m ≤ n) : (r.of h).value = r.value := rfl

@[simp] theorem of_rest (r : Reading α m) (h : m ≤ n) : (r.of h).rest = r.rest := rfl

/-- What was read, changed by `f`. -/
def map (f : α → β) (r : Reading α n) : Reading β n :=
  ⟨f r.value, r.rest, r.shorter⟩

@[simp] theorem map_value (f : α → β) (r : Reading α n) : (r.map f).value = f r.value := rfl

@[simp] theorem map_rest (f : α → β) (r : Reading α n) : (r.map f).rest = r.rest := rfl

end Reading

/-- What a reading function gives on `n` tokens. -/
abbrev Parsed (α : Type) (n : Nat) := Except ParseFault (Reading α n)

/-- Passes the mark `m`. -/
def expectMark (m : Mark) (ts : List Token) : Parsed Unit ts.length :=
  match ts with
  | .mark n :: rest =>
    if n = m then .ok ⟨(), rest, Nat.lt_succ_self _⟩ else .error (.expectedMark m (some (.mark n)))
  | ts => .error (.expectedMark m ts.head?)

/-- Reads a name. -/
def parseName (ts : List Token) : Parsed String ts.length :=
  match ts with
  | .name s :: rest => .ok ⟨s, rest, Nat.lt_succ_self _⟩
  | ts => .error (.expectedName ts.head?)

mutual

/-- Reads an expression whose operators are of `level` or tighter. -/
def parseLevel (level : Level) (ts : List Token) : Parsed Tree ts.length := do
  let left ← parseOperand level ts
  have := left.shorter
  let whole ← parseTail level left.value left.rest
  return whole.of (by omega)
termination_by 15 * ts.length + (2 * level.height + 1)

/-- Reads an operand of an operator of `level`. -/
def parseOperand (level : Level) (ts : List Token) : Parsed Tree ts.length :=
  match hnext : level.next? with
  | some tighter =>
    have := Level.height_next? hnext
    parseLevel tighter ts
  | none =>
    have := level.height_bounds
    parseUnary ts
termination_by 15 * ts.length + 2 * level.height

/-- Goes on behind the left operand as long as operators of `level` follow. -/
def parseTail (level : Level) (left : Tree) (ts : List Token) : Parsed Tree (ts.length + 1) :=
  match ts with
  | [] => .ok ⟨left, [], Nat.lt_succ_self _⟩
  | t :: rest =>
    match level.operator? t with
    | none => .ok ⟨left, t :: rest, Nat.lt_succ_self _⟩
    | some op => do
      have := level.height_bounds
      let right ← parseOperand level rest
      have := right.shorter
      let whole ← parseTail level (.binary op left right.value) right.rest
      return whole.of (by rw [List.length_cons]; omega)
termination_by 15 * ts.length

/-- Reads a term with its prefixes. -/
def parseUnary (ts : List Token) : Parsed Tree ts.length :=
  match ts with
  | .mark .bang :: rest | .name "not" :: rest => do
    let operand ← parseUnary rest
    return (operand.map (.unary .not)).of (Nat.le_succ _)
  | .mark .minus :: rest => do
    let operand ← parseUnary rest
    return (operand.map (.unary .negate)).of (Nat.le_succ _)
  | ts => do
    let term ← parseTerm ts
    have := term.shorter
    let whole ← parsePostfix term.value term.rest
    return whole.of (by omega)
termination_by 15 * ts.length + 1

/-- Reads the members and indexes behind a term. -/
def parsePostfix (e : Tree) (ts : List Token) : Parsed Tree (ts.length + 1) :=
  match ts with
  | .mark .dot :: rest => do
    let field ← parseName rest
    have := field.shorter
    let whole ← parsePostfix (.member e field.value) field.rest
    return whole.of (by rw [List.length_cons]; omega)
  | .mark .openBracket :: rest => do
    let position ← parseLevel .or rest
    let close ← expectMark .closeBracket position.rest
    have := position.shorter
    have := close.shorter
    let whole ← parsePostfix (.index e position.value) close.rest
    return whole.of (by rw [List.length_cons]; omega)
  | ts => .ok ⟨e, ts, Nat.lt_succ_self _⟩
termination_by 15 * ts.length

/-- Reads a single term. -/
def parseTerm (ts : List Token) : Parsed Tree ts.length :=
  match ts with
  | .number x :: rest => .ok ⟨.literal (.number x), rest, Nat.lt_succ_self _⟩
  | .string s :: rest => .ok ⟨.literal (.string s), rest, Nat.lt_succ_self _⟩
  | .mark .openParen :: rest => do
    let inner ← parseLevel .or rest
    have := inner.shorter
    let close ← expectMark .closeParen inner.rest
    return (close.map fun _ => inner.value).of (by rw [List.length_cons]; omega)
  | .mark .openBracket :: rest => do
    let items ← parseList .closeBracket false rest
    return (items.map .array).of (Nat.le_succ _)
  | .mark .hash :: rest => .ok ⟨.current, rest, Nat.lt_succ_self _⟩
  | .mark .dot :: rest => do
    let field ← parseName rest
    return (field.map (.member .current)).of (Nat.le_succ _)
  | .name "true" :: rest => .ok ⟨.literal (.bool true), rest, Nat.lt_succ_self _⟩
  | .name "false" :: rest => .ok ⟨.literal (.bool false), rest, Nat.lt_succ_self _⟩
  | .name "nil" :: rest | .name "null" :: rest => .ok ⟨.literal .nil, rest, Nat.lt_succ_self _⟩
  | .name s :: .mark .openParen :: rest => do
    let items ← parseList .closeParen true rest
    return (items.map (.call s)).of (by simp only [List.length_cons]; omega)
  | .name s :: rest => .ok ⟨.variable s, rest, Nat.lt_succ_self _⟩
  | ts => .error (.unexpectedToken ts.head?)
termination_by 15 * ts.length

/-- Reads an expression or, where `closures` says so, a closure in braces. -/
def parseItem (closures : Bool) (ts : List Token) : Parsed Tree ts.length :=
  match closures, ts with
  | true, .mark .openBrace :: rest => do
    let body ← parseLevel .or rest
    have := body.shorter
    let close ← expectMark .closeBrace body.rest
    return (close.map fun _ => .closure body.value).of (by rw [List.length_cons]; omega)
  | _, ts => parseLevel .or ts
termination_by 15 * ts.length + 12

/-- Reads one or more items with commas between them and the mark `close` behind them. -/
def parseItems (close : Mark) (closures : Bool) (ts : List Token) :
    Parsed (List Tree) ts.length := do
  let item ← parseItem closures ts
  have := item.shorter
  match expectMark close item.rest with
  | .ok done => return (done.map fun _ => [item.value]).of (by omega)
  | .error _ =>
    let comma ← expectMark .comma item.rest
    have := comma.shorter
    let items ← parseItems close closures comma.rest
    return (items.map (item.value :: ·)).of (by omega)
termination_by 15 * ts.length + 13

/-- Reads any number of items with commas between them and the mark `close` behind them. -/
def parseList (close : Mark) (closures : Bool) (ts : List Token) :
    Parsed (List Tree) ts.length :=
  match expectMark close ts with
  | .ok done => return done.map fun _ => []
  | .error _ => parseItems close closures ts
termination_by 15 * ts.length + 14

end

/-- Reads a whole list of tokens. -/
def Tree.ofTokens (ts : List Token) : Except ParseFault Tree :=
  match parseLevel .or ts with
  | .error fault => .error fault
  | .ok ⟨e, [], _⟩ => .ok e
  | .ok ⟨_, t :: _, _⟩ => .error (.trailingToken t)

/-- Reads a text as an expression. -/
def Tree.parse (source : String) : Except ParseFault Tree :=
  match Token.scan source with
  | .error fault => .error fault
  | .ok ts => Tree.ofTokens ts

end Slumber.Expression
