import Slumber.Expression.Grammar

/-!
# The grammar of expressions

The grammar says which lists of tokens are expressions, and of which tree, without saying how they
are read. It is stratified: the operations of a level have operands of the next tighter level, and
the left operand may be an operation of the same level, so that all levels associate to the left.
Above the levels stand

    unary     = ("!" | "not") unary | "-" unary | postfixed
    postfixed = primary ("." name | "[" or "]")*
    primary   = number | string | "true" | "false" | "nil" | "null" | "(" or ")"
              | "[" (or ("," or)*)? "]" | "#" | "." name
              | function "(" (argument ("," argument)*)? ")" | variable
    argument  = or | "{" or "}"

where a function or a variable has any name but the four of the literals and `not`; the words of
operators are names too.

* `Level.operators` — how the operators of a level are written;
* `Rule`, `Derives` — the rules, and what they derive;
* `Derives.head` — what a rule derives begins with none of the tokens that are barred there;
* `Stops` — tokens that no operator tighter than a level is among, and no mark that goes on with a
  term.
-/

namespace Slumber.Expression

/-! ### Operators by level -/

/-- The operators of a level, as they are written. -/
def Level.operators : Level → List (Token × BinaryOp)
  | .or => [(.mark .or, .or), (.name "or", .or)]
  | .and => [(.mark .and, .and), (.name "and", .and)]
  | .comparison =>
    [(.mark .equal, .equal), (.mark .notEqual, .notEqual), (.mark .less, .less),
      (.mark .lessOrEqual, .lessOrEqual), (.mark .greater, .greater),
      (.mark .greaterOrEqual, .greaterOrEqual), (.name "in", .isIn),
      (.name "contains", .contains), (.name "startsWith", .startsWith),
      (.name "endsWith", .endsWith), (.name "matches", .matches)]
  | .additive => [(.mark .plus, .add), (.mark .minus, .subtract)]
  | .multiplicative =>
    [(.mark .star, .multiply), (.mark .slash, .divide), (.mark .percent, .modulo)]

theorem Level.operator?_eq_some_iff {level : Level} {t : Token} {op : BinaryOp} :
    level.operator? t = some op ↔ (t, op) ∈ level.operators := by
  constructor
  · intro h
    unfold operator? at h
    split at h <;> cases h <;> simp [operators]
  · intro h
    cases level <;> simp only [operators, List.mem_cons, List.not_mem_nil, or_false,
      Prod.mk.injEq] at h <;> rcases h with h | h <;> grind [operator?]

/-! ### Rules -/

/-- The rules of the grammar: the operations of a level, a term with its prefixes, a term with its
members and indexes, a single term, and an argument of a call. -/
inductive Rule where
  | level (level : Level)
  | unary
  | postfixed
  | primary
  | argument

/-- The rule for the operands of a level. -/
def Level.operand : Level → Rule
  | .or => .level .and
  | .and => .level .comparison
  | .comparison => .level .additive
  | .additive => .level .multiplicative
  | .multiplicative => .unary

theorem Level.operand_of_some {level tighter : Level} (h : level.next? = some tighter) :
    level.operand = .level tighter := by
  cases level <;> cases h <;> rfl

theorem Level.operand_of_none {level : Level} (h : level.next? = none) :
    level.operand = .unary := by
  cases level <;> cases h
  rfl

/-- Names that stand for a value of their own. -/
def literalNames : List (String × Value) :=
  [("true", .bool true), ("false", .bool false), ("nil", .nil), ("null", .nil)]

/-- Whether a variable or a function can have a name. -/
def IsName (s : String) : Prop :=
  s ∉ ["true", "false", "nil", "null", "not"]

/-- Parts with commas between them. -/
def separated (parts : List (List Token)) : List Token :=
  [Token.mark .comma].intercalate parts

theorem separated_singleton (part : List Token) : separated [part] = part :=
  List.append_nil part

theorem separated_cons (part : List Token) {parts : List (List Token)} (h : parts ≠ []) :
    separated (part :: parts) = part ++ .mark .comma :: separated parts := by
  cases parts with
  | nil => exact absurd rfl h
  | cons next parts => simp [separated, List.intercalate]

/-- A rule derives a list of tokens, as the form of a tree. -/
inductive Derives : Rule → List Token → Tree → Prop where
  | operand {level : Level} {ts : List Token} {e : Tree} :
      Derives level.operand ts e → Derives (.level level) ts e
  | operation {level : Level} {front back : List Token} {t : Token} {op : BinaryOp}
      {left right : Tree} :
      Derives (.level level) front left → (t, op) ∈ level.operators →
      Derives level.operand back right →
      Derives (.level level) (front ++ t :: back) (.binary op left right)
  | not {t : Token} {ts : List Token} {e : Tree} :
      t ∈ [.mark .bang, .name "not"] → Derives .unary ts e →
      Derives .unary (t :: ts) (.unary .not e)
  | negate {ts : List Token} {e : Tree} :
      Derives .unary ts e → Derives .unary (.mark .minus :: ts) (.unary .negate e)
  | postfixed {ts : List Token} {e : Tree} :
      Derives .postfixed ts e → Derives .unary ts e
  | primary {ts : List Token} {e : Tree} :
      Derives .primary ts e → Derives .postfixed ts e
  | member {ts : List Token} {e : Tree} {field : String} :
      Derives .postfixed ts e →
      Derives .postfixed (ts ++ [.mark .dot, .name field]) (.member e field)
  | index {front back : List Token} {e position : Tree} :
      Derives .postfixed front e → Derives (.level .or) back position →
      Derives .postfixed (front ++ .mark .openBracket :: (back ++ [.mark .closeBracket]))
        (.index e position)
  | number {x : Float} :
      Derives .primary [.number x] (.literal (.number x))
  | string {s : String} :
      Derives .primary [.string s] (.literal (.string s))
  | literal {s : String} {v : Value} :
      (s, v) ∈ literalNames → Derives .primary [.name s] (.literal v)
  | parens {ts : List Token} {e : Tree} :
      Derives (.level .or) ts e →
      Derives .primary (.mark .openParen :: (ts ++ [.mark .closeParen])) e
  | array {items : List (List Token × Tree)} :
      (∀ item ∈ items, Derives (.level .or) item.1 item.2) →
      Derives .primary
        (.mark .openBracket :: (separated (items.map Prod.fst) ++ [.mark .closeBracket]))
        (.array (items.map Prod.snd))
  | current :
      Derives .primary [.mark .hash] .current
  | currentMember {field : String} :
      Derives .primary [.mark .dot, .name field] (.member .current field)
  | call {s : String} {items : List (List Token × Tree)} :
      IsName s → (∀ item ∈ items, Derives .argument item.1 item.2) →
      Derives .primary
        (.name s :: .mark .openParen :: (separated (items.map Prod.fst) ++ [.mark .closeParen]))
        (.call s (items.map Prod.snd))
  | name {s : String} :
      IsName s → Derives .primary [.name s] (.variable s)
  | expression {ts : List Token} {e : Tree} :
      Derives (.level .or) ts e → Derives .argument ts e
  | closure {ts : List Token} {e : Tree} :
      Derives (.level .or) ts e →
      Derives .argument (.mark .openBrace :: (ts ++ [.mark .closeBrace])) (.closure e)

theorem Derives.loosen {level tighter : Level} {ts : List Token} {e : Tree}
    (hnext : level.next? = some tighter) (h : Derives (.level tighter) ts e) :
    Derives (.level level) ts e := by
  rw [← Level.operand_of_some hnext] at h
  exact .operand h

/-- A single term is an operand of every level. -/
theorem Derives.of_primary {ts : List Token} {e : Tree} (h : Derives .primary ts e)
    (level : Level) : Derives level.operand ts e := by
  have unary : Derives Level.multiplicative.operand ts e := .postfixed (.primary h)
  have multiplicative : Derives Level.additive.operand ts e := .operand unary
  have additive : Derives Level.comparison.operand ts e := .operand multiplicative
  have comparison : Derives Level.and.operand ts e := .operand additive
  cases level with
  | or => exact .operand comparison
  | and => exact comparison
  | comparison => exact additive
  | additive => exact multiplicative
  | multiplicative => exact unary

/-- Tokens with which nothing begins that a rule derives. -/
def Rule.barred : Rule → List Token
  | .level _ | .unary => [.mark .closeBracket, .mark .closeParen, .mark .openBrace]
  | .postfixed | .primary =>
    [.mark .closeBracket, .mark .closeParen, .mark .openBrace, .mark .bang, .name "not",
      .mark .minus]
  | .argument => [.mark .closeBracket, .mark .closeParen]

theorem Level.barred_operand (level : Level) : level.operand.barred = Rule.unary.barred := by
  cases level <;> rfl

theorem Derives.head {rule : Rule} {ts : List Token} {e : Tree} (h : Derives rule ts e) :
    ∃ t back, ts = t :: back ∧ t ∉ rule.barred := by
  induction h with
  | operand _ ih => rwa [Level.barred_operand] at ih
  | operation _ _ _ ihleft _ =>
      obtain ⟨t, back, rfl, ht⟩ := ihleft
      exact ⟨t, _, rfl, ht⟩
  | not ht _ _ => exact ⟨_, _, rfl, fun hbarred => by grind [Rule.barred]⟩
  | negate _ _ => exact ⟨_, _, rfl, by simp [Rule.barred]⟩
  | postfixed _ ih =>
      obtain ⟨t, back, rfl, ht⟩ := ih
      exact ⟨t, back, rfl, fun hbarred => ht (by grind [Rule.barred])⟩
  | primary _ ih => exact ih
  | member _ ih | index _ _ ih _ =>
      obtain ⟨t, back, rfl, ht⟩ := ih
      exact ⟨t, _, rfl, ht⟩
  | literal hv => exact ⟨_, _, rfl, by simp [literalNames] at hv; grind [Rule.barred]⟩
  | call hs _ _ | name hs => exact ⟨_, _, rfl, by simp_all [Rule.barred, IsName]⟩
  | expression _ ih =>
      obtain ⟨t, back, rfl, ht⟩ := ih
      exact ⟨t, back, rfl, fun hbarred => ht (by grind [Rule.barred])⟩
  | _ => exact ⟨_, _, rfl, by simp [Rule.barred]⟩

/-! ### What stands behind an operand -/

/-- The list does not begin with a mark that goes on with a term, nor with an operator of a level of
at most this height. -/
def Stops (height : Nat) (ts : List Token) : Prop :=
  ∀ t ∈ ts.head?, t ∉ [.mark .dot, .mark .openBracket, .mark .openParen]
    ∧ ∀ level : Level, level.height ≤ height → level.operator? t = none

theorem stops_nil {height : Nat} : Stops height [] := by
  simp [Stops]

theorem Stops.mono {lower height : Nat} {ts : List Token} (h : Stops height ts)
    (hle : lower ≤ height) : Stops lower ts :=
  fun t ht => ⟨(h t ht).1, fun level hlevel => (h t ht).2 level (Nat.le_trans hlevel hle)⟩

theorem Stops.ne_mark {height : Nat} {ts : List Token} (h : Stops height ts) {m : Mark}
    (hm : .mark m ∈ [.mark .dot, .mark .openBracket, Token.mark .openParen]) (back : List Token) :
    ts ≠ .mark m :: back := by
  rintro rfl
  exact (h _ rfl).1 hm

/-- An operator is no mark that goes on with a term, and none of a tighter level. -/
theorem Level.stops_operator {level : Level} {t : Token} {op : BinaryOp}
    (ht : (t, op) ∈ level.operators) {height : Nat} (hheight : height < level.height)
    (rest : List Token) : Stops height (t :: rest) := by
  have hmark : ∀ p ∈ level.operators, p.1 ∉ [.mark .dot, .mark .openBracket, .mark .openParen] := by
    cases level <;> decide
  have htighter (tighter : Level) : tighter.height < level.height →
      ∀ p ∈ level.operators, tighter.operator? p.1 = none := by
    cases level <;> cases tighter <;> decide
  intro u hu
  cases hu
  exact ⟨hmark _ ht, fun tighter h => htighter tighter (Nat.lt_of_le_of_lt h hheight) _ ht⟩

/-- A mark behind an item is no mark that goes on with a term, and no operator. -/
theorem stops_mark {m : Mark} (hm : m ∈ [.closeParen, .closeBracket, .closeBrace, .comma])
    (height : Nat) (rest : List Token) : Stops height (.mark m :: rest) := by
  have hmark : .mark m ∉ [.mark .dot, .mark .openBracket, Token.mark .openParen] := by
    revert hm
    cases m <;> decide
  have hlevel (level : Level) : level.operator? (.mark m) = none := by
    revert hm
    cases level <;> cases m <;> decide
  intro t ht
  cases ht
  exact ⟨hmark, fun level _ => hlevel level⟩

end Slumber.Expression
