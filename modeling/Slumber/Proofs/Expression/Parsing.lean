import Slumber.Proofs.Expression.Reading

/-!
# Reading and the grammar

The reading functions read what the grammar derives, and nothing else. One direction goes along the
calls of the reading functions, the other along the derivation: what is derived is read up to tokens
that do not go on with it, and a level whose operators do go on reads on there.

* `Yields`, `Extends` — a rule derives what was read;
* `parseLevel_yields` — what is read is derived;
* `IsReadBy`, `Derives.isReadBy` — what is derived is read;
* `parse_ok_iff_derives` — a text is read as what the grammar derives, and as nothing else.
-/

namespace Slumber.Expression

/-! ### What is read is derived -/

/-- A rule derives what stands before `rest`. -/
def Yields (rule : Rule) (ts : List Token) (e : Tree) (rest : List Token) : Prop :=
  ∃ front, ts = front ++ rest ∧ Derives rule front e

/-- What stands before `rest` goes on with a left part, as a rule derives it. -/
def Extends (rule : Rule) (left : Tree) (ts : List Token) (e : Tree) (rest : List Token) : Prop :=
  ∃ back, ts = back ++ rest ∧ ∀ front, Derives rule front left → Derives rule (front ++ back) e

/-- The rule for an item of a list in which closures may stand or not. -/
def itemRule (closures : Bool) : Rule :=
  if closures then .argument else .level .or

/-- Items stand before `rest`, with commas between them and the mark `close` behind them. -/
def YieldsItems (close : Mark) (closures : Bool) (ts : List Token) (items : List Tree)
    (rest : List Token) : Prop :=
  ∃ parts : List (List Token × Tree),
    ts = separated (parts.map Prod.fst) ++ .mark close :: rest ∧ items = parts.map Prod.snd
      ∧ ∀ part ∈ parts, Derives (itemRule closures) part.1 part.2

section

variable {rule rule' : Rule} {level : Level} {ts mid rest : List Token} {e e' left : Tree}

theorem Yields.imp (h : Yields rule ts e rest)
    (himp : ∀ front, Derives rule front e → Derives rule' front e') : Yields rule' ts e' rest := by
  obtain ⟨front, hfront, he⟩ := h
  exact ⟨front, hfront, himp front he⟩

theorem Yields.extend (h : Yields rule ts left mid) (hmid : Extends rule left mid e rest) :
    Yields rule ts e rest := by
  obtain ⟨front, rfl, hleft⟩ := h
  obtain ⟨back, rfl, hextends⟩ := hmid
  exact ⟨front ++ back, (List.append_assoc ..).symm, hextends front hleft⟩

theorem Extends.refl : Extends rule e ts e ts :=
  ⟨[], by simp, fun front h => by simpa using h⟩

theorem Extends.trans (h : Extends rule left ts e' mid) (hmid : Extends rule e' mid e rest) :
    Extends rule left ts e rest := by
  obtain ⟨back, rfl, hleft⟩ := h
  obtain ⟨back', rfl, hextends⟩ := hmid
  refine ⟨back ++ back', (List.append_assoc ..).symm, fun front hfront => ?_⟩
  rw [← List.append_assoc]
  exact hextends _ (hleft front hfront)

/-- An operator and its right operand go on with the left one. -/
theorem Extends.operation {t : Token} {op : BinaryOp} {right : Tree}
    (ht : level.operator? t = some op) (h : Yields level.operand ts right rest) :
    Extends (.level level) left (t :: ts) (.binary op left right) rest := by
  obtain ⟨back, rfl, hright⟩ := h
  exact ⟨t :: back, List.cons_append .., fun front hfront =>
    .operation hfront (Level.operator?_eq_some_iff.1 ht) hright⟩

theorem Extends.member {field : String} :
    Extends .postfixed e (.mark .dot :: .name field :: rest) (.member e field) rest :=
  ⟨[.mark .dot, .name field], rfl, fun _ hfront => .member hfront⟩

theorem Extends.index {position : Tree}
    (h : Yields (.level .or) ts position (.mark .closeBracket :: rest)) :
    Extends .postfixed e (.mark .openBracket :: ts) (.index e position) rest := by
  obtain ⟨back, rfl, hposition⟩ := h
  exact ⟨.mark .openBracket :: (back ++ [.mark .closeBracket]), by simp, fun _ hfront =>
    .index hfront hposition⟩

/-- A rule for what stands behind a token. -/
theorem Yields.cons {first : Token} (h : Yields rule ts e rest)
    (himp : ∀ front, Derives rule front e → Derives rule' (first :: front) e') :
    Yields rule' (first :: ts) e' rest := by
  obtain ⟨front, rfl, he⟩ := h
  exact ⟨first :: front, rfl, himp front he⟩

/-- A rule for what stands between two marks. -/
theorem Yields.enclosed {first : Token} {close : Mark}
    (h : Yields rule ts e (.mark close :: rest))
    (himp : ∀ front, Derives rule front e →
      Derives rule' (first :: (front ++ [.mark close])) e') :
    Yields rule' (first :: ts) e' rest := by
  obtain ⟨front, rfl, he⟩ := h
  exact ⟨first :: (front ++ [.mark close]), by simp, himp front he⟩

end

theorem YieldsItems.singleton {close : Mark} {closures : Bool} {ts rest : List Token} {e : Tree}
    (h : Yields (itemRule closures) ts e (.mark close :: rest)) :
    YieldsItems close closures ts [e] rest := by
  obtain ⟨front, rfl, he⟩ := h
  exact ⟨[(front, e)], by simp [separated_singleton], rfl, by simpa using he⟩

theorem YieldsItems.cons {close : Mark} {closures : Bool} {ts mid rest : List Token} {e : Tree}
    {items : List Tree} (h : Yields (itemRule closures) ts e (.mark .comma :: mid))
    (hmid : YieldsItems close closures mid items rest) (hitems : items ≠ []) :
    YieldsItems close closures ts (e :: items) rest := by
  obtain ⟨front, rfl, he⟩ := h
  obtain ⟨parts, rfl, rfl, hparts⟩ := hmid
  refine ⟨(front, e) :: parts, ?_, rfl, List.forall_mem_cons.2 ⟨he, hparts⟩⟩
  rw [List.map_cons, separated_cons front (by simpa using hitems), List.append_assoc,
    List.cons_append]

/-- A token that is a term of its own. -/
theorem yields_token {n : Nat} {t : Token} {ts rest : List Token} {a e : Tree}
    (ha : Derives .primary [t] a) {hts : ts.length < n} (h : Reads (.ok ⟨a, ts, hts⟩) e rest) :
    Yields .primary (t :: ts) e rest := by
  obtain ⟨rfl, rfl⟩ := reads_ok.1 h
  exact ⟨[t], rfl, ha⟩

theorem yields_literal {s : String} {ts rest : List Token} {e : Tree}
    (hs : s ∈ literalNames.map Prod.fst) (h : Reads (parseTerm (.name s :: ts)) e rest) :
    Yields .primary (.name s :: ts) e rest := by
  obtain ⟨⟨s, v⟩, hv, rfl⟩ := List.mem_map.1 hs
  obtain ⟨rfl, rfl⟩ := (reads_parseTerm_literal hv).1 h
  exact ⟨[_], rfl, .literal hv⟩

/-- What is read is derived. -/
theorem parseLevel_yields : ∀ (level : Level) (ts : List Token) (e : Tree) (rest : List Token),
    Reads (parseLevel level ts) e rest → Yields (.level level) ts e rest := by
  -- Along the calls of the reading functions, with one statement for each of them. A term is never
  -- read where the name `not` stands, since a prefix is read before.
  refine parseLevel.induct
    (fun level ts => ∀ e rest, Reads (parseLevel level ts) e rest → Yields (.level level) ts e rest)
    (fun level left ts => ∀ e rest,
      Reads (parseTail level left ts) e rest → Extends (.level level) left ts e rest)
    (fun level ts => ∀ e rest,
      Reads (parseOperand level ts) e rest → Yields level.operand ts e rest)
    (fun ts => ∀ e rest, Reads (parseUnary ts) e rest → Yields .unary ts e rest)
    (fun left ts => ∀ e rest,
      Reads (parsePostfix left ts) e rest → Extends .postfixed left ts e rest)
    (fun ts => ∀ e rest, (∀ back, ts ≠ .name "not" :: back) →
      Reads (parseTerm ts) e rest → Yields .primary ts e rest)
    (fun close closures ts => close ≠ .comma → ∀ items rest,
      Reads (parseList close closures ts) items rest → YieldsItems close closures ts items rest)
    (fun close closures ts => close ≠ .comma → ∀ items rest,
      Reads (parseItems close closures ts) items rest →
        items ≠ [] ∧ YieldsItems close closures ts items rest)
    (fun closures ts => ∀ e rest,
      Reads (parseItem closures ts) e rest → Yields (itemRule closures) ts e rest)
    ?level ?tailEnd ?tailNone ?tailOperator ?operandTighter ?operandUnary ?unaryBang ?unaryNot
    ?unaryMinus ?unaryTerm ?postfixDot ?postfixBracket ?postfixEnd ?number ?string ?parens ?array
    ?current ?currentMember ?true ?false ?nil ?null ?call ?name ?noTerm ?listEnd ?listItems ?items
    ?closure ?expression
  case level =>
    intro level ts ihoperand ihtail e rest h
    obtain ⟨left, mid, hleft, htail⟩ := reads_parseLevel.1 h
    exact ((ihoperand left mid hleft).imp fun _ => .operand).extend
      (ihtail ⟨left, mid, hleft.shorter⟩ e rest htail)
  case tailEnd =>
    intro level left e rest h
    obtain ⟨rfl, rfl⟩ := (reads_parseTail_of_none (by simp)).1 h
    exact .refl
  case tailNone =>
    intro level left t ts ht e rest h
    obtain ⟨rfl, rfl⟩ := (reads_parseTail_of_none (by simpa using ht)).1 h
    exact .refl
  case tailOperator =>
    intro level left t ts op hop _ ihoperand ihtail e rest h
    obtain ⟨right, mid, hright, htail⟩ := (reads_parseTail_of_some hop).1 h
    exact (Extends.operation hop (ihoperand right mid hright)).trans
      (ihtail ⟨right, mid, hright.shorter⟩ e rest htail)
  case operandTighter =>
    intro level ts tighter hnext _ ih e rest h
    rw [parseOperand_of_some hnext] at h
    rw [Level.operand_of_some hnext]
    exact ih e rest h
  case operandUnary =>
    intro level ts hnext _ ih e rest h
    rw [parseOperand_of_none hnext] at h
    rw [Level.operand_of_none hnext]
    exact ih e rest h
  case unaryBang =>
    intro ts ih e rest h
    obtain ⟨a, ha, rfl⟩ := (reads_parseUnary_not (by simp)).1 h
    exact (ih a rest ha).cons fun _ => .not (by simp)
  case unaryNot =>
    intro ts ih e rest h
    obtain ⟨a, ha, rfl⟩ := (reads_parseUnary_not (by simp)).1 h
    exact (ih a rest ha).cons fun _ => .not (by simp)
  case unaryMinus =>
    intro ts ih e rest h
    obtain ⟨a, ha, rfl⟩ := reads_parseUnary_negate.1 h
    exact (ih a rest ha).cons fun _ => .negate
  case unaryTerm =>
    intro ts hbang hnot hminus ihterm ihtail e rest h
    obtain ⟨a, mid, ha, hmid⟩ := (reads_parseUnary_postfixed hbang hnot hminus).1 h
    have hterm := (ihterm a mid hnot ha).imp fun _ => .primary
    exact (hterm.extend (ihtail ⟨a, mid, ha.shorter⟩ e rest hmid)).imp fun _ => .postfixed
  case postfixDot =>
    intro left ts ih e rest h
    obtain ⟨field, mid, rfl, hmid⟩ := reads_parsePostfix_dot.1 h
    exact Extends.member.trans (ih ⟨field, mid, Nat.lt_succ_self _⟩ e rest hmid)
  case postfixBracket =>
    intro left ts ihposition ihtail e rest h
    obtain ⟨position, mid, hposition, hmid⟩ := reads_parsePostfix_openBracket.1 h
    exact (Extends.index (ihposition position _ hposition)).trans
      (ihtail ⟨position, _, hposition.shorter⟩ ⟨(), mid, Nat.lt_succ_self _⟩ e rest hmid)
  case postfixEnd =>
    intro left ts hdot hbracket e rest h
    obtain ⟨rfl, rfl⟩ := (reads_parsePostfix_stops hdot hbracket).1 h
    exact .refl
  case number =>
    intro x ts e rest _ h
    rw [parseTerm] at h
    exact yields_token .number h
  case string =>
    intro s ts e rest _ h
    rw [parseTerm] at h
    exact yields_token .string h
  case parens =>
    intro ts ih e rest _ h
    exact (ih e _ (reads_parseTerm_parens.1 h)).enclosed fun _ => .parens
  case array =>
    intro ts ih e rest _ h
    obtain ⟨items, hitems, rfl⟩ := reads_parseTerm_array.1 h
    obtain ⟨parts, rfl, rfl, hparts⟩ := ih (by decide) items rest hitems
    exact ⟨_, by simp, .array hparts⟩
  case current =>
    intro ts e rest _ h
    rw [parseTerm] at h
    exact yields_token .current h
  case currentMember =>
    intro ts e rest _ h
    obtain ⟨field, rfl, rfl⟩ := reads_parseTerm_currentMember.1 h
    exact ⟨[_, _], rfl, .currentMember⟩
  case true | false | nil | null =>
    intro ts e rest _ h
    exact yields_literal (by decide) h
  case call =>
    intro s ts htrue hfalse hnil hnull ih e rest hnot h
    have hs : IsName s := by simp_all [IsName]
    obtain ⟨items, hitems, rfl⟩ := (reads_parseTerm_call hs).1 h
    obtain ⟨parts, rfl, rfl, hparts⟩ := ih (by decide) items rest hitems
    exact ⟨_, by simp, .call hs hparts⟩
  case name =>
    intro s ts htrue hfalse hnil hnull hparen e rest hnot h
    have hs : IsName s := by simp_all [IsName]
    obtain ⟨rfl, rfl⟩ := (reads_parseTerm_name hs hparen).1 h
    exact ⟨[_], rfl, .name hs⟩
  case noTerm =>
    intro ts _ _ _ _ _ _ _ _ _ _ _ _ e rest _ h
    simp only [parseTerm] at h
    exact absurd h not_reads_error
  case listEnd =>
    intro close closures ts done hdone hclose items rest h
    obtain ⟨rfl, rfl⟩ | ⟨hne, -⟩ := reads_parseList.1 h
    · exact ⟨[], rfl, rfl, by simp⟩
    · exact absurd (reads_expectMark.1 ⟨done.shorter, hdone⟩) (hne _)
  case listItems =>
    intro close closures ts fault hfault ih hclose items rest h
    obtain ⟨rfl, rfl⟩ | ⟨-, hitems⟩ := reads_parseList.1 h
    · exact ⟨[], rfl, rfl, by simp⟩
    · exact (ih hclose items rest hitems).2
  case items =>
    intro close closures ts ihitem ihitems hclose items rest h
    obtain ⟨item, mid, hitem, hmid⟩ := (reads_parseItems hclose).1 h
    have hyields := ihitem item mid hitem
    rcases hmid with ⟨rfl, rfl⟩ | ⟨back, others, rfl, hothers, rfl⟩
    · exact ⟨List.cons_ne_nil _ _, .singleton hyields⟩
    · obtain ⟨hnonempty, hback⟩ := ihitems ⟨item, _, hitem.shorter⟩ ⟨(), back, Nat.lt_succ_self _⟩
        hclose others rest hothers
      exact ⟨List.cons_ne_nil _ _, .cons hyields hback hnonempty⟩
  case closure =>
    intro ts ih e rest h
    obtain ⟨body, hbody, rfl⟩ := reads_parseItem_closure.1 h
    exact (ih body _ hbody).enclosed fun _ => .closure
  case expression =>
    intro closures ts hbrace ih e rest h
    rw [parseItem_expression fun hclosures back => hbrace back hclosures] at h
    cases closures with
    | false => exact ih e rest h
    | true => exact (ih e rest h).imp fun _ => .expression

/-! ### What is derived is read -/

/-- What a rule derives is read, up to what does not go on with it. Where operators or marks may go
on, so does the reading. -/
def IsReadBy : Rule → List Token → Tree → Prop
  | .level level, ts, e => ∀ rest e' rest', Stops (level.height - 1) rest →
      Reads (parseTail level e rest) e' rest' → Reads (parseLevel level (ts ++ rest)) e' rest'
  | .unary, ts, e => ∀ rest, Stops 0 rest → Reads (parseUnary (ts ++ rest)) e rest
  | .postfixed, ts, e => ∀ rest e' rest', (∀ back, rest ≠ .mark .openParen :: back) →
      Reads (parsePostfix e rest) e' rest' → Reads (parseUnary (ts ++ rest)) e' rest'
  | .primary, ts, e => ∀ rest, (∀ back, rest ≠ .mark .openParen :: back) →
      Reads (parseTerm (ts ++ rest)) e rest
  | .argument, ts, e => ∀ rest, Stops Level.or.height rest →
      Reads (parseItem true (ts ++ rest)) e rest

section

variable {level : Level} {ts rest : List Token} {e : Tree}

/-- Where no operator goes on, the reading ends. -/
theorem IsReadBy.whole (h : IsReadBy (.level level) ts e) (hrest : Stops level.height rest) :
    Reads (parseLevel level (ts ++ rest)) e rest :=
  h rest e rest (hrest.mono (Nat.sub_le ..)) ((reads_parseTail_of_none fun t ht =>
    (hrest t ht).2 level (Nat.le_refl _)).2 ⟨rfl, rfl⟩)

theorem IsReadBy.operand (h : IsReadBy level.operand ts e) (hrest : Stops (level.height - 1) rest) :
    Reads (parseOperand level (ts ++ rest)) e rest := by
  cases hnext : level.next? with
  | none =>
      rw [Level.operand_of_none hnext] at h
      rw [parseOperand_of_none hnext]
      exact h rest (hrest.mono (Nat.zero_le _))
  | some tighter =>
      rw [Level.operand_of_some hnext] at h
      rw [parseOperand_of_some hnext]
      rw [Level.height_next? hnext] at hrest
      exact IsReadBy.whole h hrest

theorem IsReadBy.item {closures : Bool} (h : IsReadBy (itemRule closures) ts e)
    (hrest : Stops Level.or.height rest) :
    Reads (parseItem closures (ts ++ rest)) e rest := by
  cases closures with
  | true => exact h rest hrest
  | false =>
      rw [parseItem_expression (by simp)]
      exact IsReadBy.whole h hrest

/-- No item begins with a mark that ends a list. -/
theorem closers_barred (closures : Bool) {close : Mark}
    (hclose : close ∈ [.closeParen, .closeBracket]) :
    .mark close ∈ (itemRule closures).barred := by
  revert hclose
  cases closures <;> cases close <;> decide

/-- Items that are read one by one are read as a list. -/
theorem reads_items {close : Mark} {closures : Bool} (hclose : close ∈ [.closeParen, .closeBracket])
    {parts : List (List Token × Tree)} (hparts : parts ≠ [])
    (hread : ∀ part ∈ parts, ∀ rest, Stops Level.or.height rest →
      Reads (parseItem closures (part.1 ++ rest)) part.2 rest) :
    Reads (parseItems close closures (separated (parts.map Prod.fst) ++ .mark close :: rest))
      (parts.map Prod.snd) rest := by
  have hcomma : close ≠ .comma := by
    rintro rfl
    exact absurd hclose (by decide)
  induction parts with
  | nil => exact absurd rfl hparts
  | cons part parts ih =>
      obtain ⟨hpart, hothers⟩ := List.forall_mem_cons.1 hread
      by_cases hempty : parts = []
      · subst hempty
        rw [List.map_singleton, separated_singleton]
        have hstops : Stops Level.or.height (.mark close :: rest) := stops_mark (by grind) _ rest
        exact (reads_parseItems hcomma).2 ⟨part.2, _, hpart _ hstops, .inl ⟨rfl, rfl⟩⟩
      · rw [List.map_cons, separated_cons _ (by simpa using hempty), List.append_assoc,
          List.cons_append]
        exact (reads_parseItems hcomma).2 ⟨part.2, _, hpart _ (stops_mark (by decide) _ _),
          .inr ⟨_, _, rfl, ih hempty hothers, rfl⟩⟩

/-- A derived list is read; its first item does not begin with the mark that ends the list. -/
theorem reads_list {close : Mark} {closures : Bool} (hclose : close ∈ [.closeParen, .closeBracket])
    {parts : List (List Token × Tree)}
    (hderives : ∀ part ∈ parts, Derives (itemRule closures) part.1 part.2)
    (hread : ∀ part ∈ parts, IsReadBy (itemRule closures) part.1 part.2) :
    Reads (parseList close closures (separated (parts.map Prod.fst) ++ .mark close :: rest))
      (parts.map Prod.snd) rest := by
  cases parts with
  | nil => exact reads_parseList.2 (.inl ⟨rfl, rfl⟩)
  | cons part parts =>
      refine reads_parseList.2 (.inr ⟨?_, reads_items hclose (List.cons_ne_nil _ _)
        fun part hpart rest hrest => (hread part hpart).item hrest⟩)
      intro back hback
      obtain ⟨t, front, hfront, ht⟩ := (hderives part (List.mem_cons_self ..)).head
      have hhead : t = .mark close := by
        cases parts <;> simp_all [separated_singleton, separated_cons]
      subst hhead
      exact ht (closers_barred closures hclose)

end

/-- What is derived is read. -/
theorem Derives.isReadBy {rule : Rule} {ts : List Token} {e : Tree} (h : Derives rule ts e) :
    IsReadBy rule ts e := by
  induction h with
  | operand _ ih =>
      intro rest e' rest' hrest htail
      exact reads_parseLevel.2 ⟨_, rest, ih.operand hrest, htail⟩
  | operation _ ht _ ihleft ihright =>
      intro rest e' rest' hrest htail
      rw [List.append_assoc, List.cons_append]
      -- The reading of the left operand stops before the operator, and goes on there.
      have hstops := Level.stops_operator ht (Nat.sub_lt (Level.height_bounds _).1 Nat.one_pos)
      exact ihleft _ e' rest' (hstops _) ((reads_parseTail_of_some
        (Level.operator?_eq_some_iff.2 ht)).2 ⟨_, rest, ihright.operand hrest, htail⟩)
  | not ht _ ih =>
      intro rest hrest
      exact (reads_parseUnary_not ht).2 ⟨_, ih rest hrest, rfl⟩
  | negate _ ih =>
      intro rest hrest
      exact reads_parseUnary_negate.2 ⟨_, ih rest hrest, rfl⟩
  | postfixed _ ih =>
      intro rest hrest
      have hdot : ∀ back, rest ≠ .mark .dot :: back := hrest.ne_mark (by decide)
      have hbracket : ∀ back, rest ≠ .mark .openBracket :: back := hrest.ne_mark (by decide)
      exact ih rest _ rest (hrest.ne_mark (by decide))
        ((reads_parsePostfix_stops hdot hbracket).2 ⟨rfl, rfl⟩)
  | primary h ih =>
      intro rest e' rest' hparen htail
      obtain ⟨t, back, rfl, ht⟩ := h.head
      refine (reads_parseUnary_postfixed ?_ ?_ ?_).2 ⟨_, rest, ih rest hparen, htail⟩
      all_goals
        rintro front ⟨⟩
        exact ht (by decide)
  | member _ ih =>
      intro rest e' rest' _ htail
      rw [List.append_assoc]
      exact ih _ e' rest' (by simp) (reads_parsePostfix_dot.2 ⟨_, rest, rfl, htail⟩)
  | index _ _ ih ihposition =>
      intro rest e' rest' _ htail
      rw [List.append_assoc, List.cons_append, List.append_assoc, List.singleton_append]
      exact ih _ e' rest' (by simp) (reads_parsePostfix_openBracket.2
        ⟨_, rest, ihposition.whole (stops_mark (by decide) _ _), htail⟩)
  | number =>
      intro rest _
      rw [List.singleton_append, parseTerm]
      exact reads_ok.2 ⟨rfl, rfl⟩
  | string =>
      intro rest _
      rw [List.singleton_append, parseTerm]
      exact reads_ok.2 ⟨rfl, rfl⟩
  | literal hv =>
      intro rest _
      exact (reads_parseTerm_literal hv).2 ⟨rfl, rfl⟩
  | parens _ ih =>
      intro rest _
      rw [List.cons_append, List.append_assoc, List.singleton_append]
      exact reads_parseTerm_parens.2 (ih.whole (stops_mark (by decide) _ _))
  | array hitems ih =>
      intro rest _
      rw [List.cons_append, List.append_assoc, List.singleton_append]
      exact reads_parseTerm_array.2 ⟨_, reads_list (by decide) hitems ih, rfl⟩
  | current =>
      intro rest _
      rw [List.singleton_append, parseTerm]
      exact reads_ok.2 ⟨rfl, rfl⟩
  | currentMember =>
      intro rest _
      exact reads_parseTerm_currentMember.2 ⟨_, rfl, rfl⟩
  | call hs hitems ih =>
      intro rest _
      rw [List.cons_append, List.cons_append, List.append_assoc, List.singleton_append]
      exact (reads_parseTerm_call hs).2 ⟨_, reads_list (by decide) hitems ih, rfl⟩
  | name hs =>
      intro rest hparen
      exact (reads_parseTerm_name hs hparen).2 ⟨rfl, rfl⟩
  | expression h ih =>
      intro rest hrest
      obtain ⟨t, back, rfl, ht⟩ := h.head
      rw [parseItem_expression]
      · exact ih.whole hrest
      · rintro _ front ⟨⟩
        exact ht (by decide)
  | closure _ ih =>
      intro rest _
      rw [List.cons_append, List.append_assoc, List.singleton_append]
      exact reads_parseItem_closure.2 ⟨_, ih.whole (stops_mark (by decide) _ _), rfl⟩

/-! ### Reading and the grammar -/

section

variable {level : Level} {ts : List Token} {e e' : Tree}

theorem derives_iff_reads :
    Derives (.level level) ts e ↔ Reads (parseLevel level ts) e [] := by
  constructor
  · intro h
    have hreads := IsReadBy.whole h.isReadBy stops_nil
    rwa [List.append_nil] at hreads
  · intro h
    obtain ⟨front, rfl, he⟩ := parseLevel_yields level ts e [] h
    rwa [List.append_nil]

theorem Derives.unique (h : Derives (.level level) ts e) (h' : Derives (.level level) ts e') :
    e = e' := by
  obtain ⟨_, he⟩ := derives_iff_reads.1 h
  obtain ⟨_, he'⟩ := derives_iff_reads.1 h'
  rw [he] at he'
  cases he'
  rfl

theorem ofTokens_eq_ok_iff : Tree.ofTokens ts = .ok e ↔ Derives (.level .or) ts e := by
  rw [derives_iff_reads]
  unfold Tree.ofTokens
  cases hread : parseLevel .or ts with
  | error fault => simp [not_reads_error]
  | ok r =>
      obtain ⟨value, rest, hrest⟩ := r
      cases rest <;> simp [reads_ok]

/-- A third operand goes behind the operation of the first two. -/
theorem derives_associates {front middle back : List Token} {t u : Token} {op op' : BinaryOp}
    {a b c : Tree} (ha : Derives level.operand front a) (ht : (t, op) ∈ level.operators)
    (hb : Derives level.operand middle b) (hu : (u, op') ∈ level.operators)
    (hc : Derives level.operand back c) :
    Derives (.level level) (front ++ t :: middle ++ u :: back) e
      ↔ e = .binary op' (.binary op a b) c := by
  have hleft := Derives.operation (.operation (.operand ha) ht hb) hu hc
  exact ⟨fun h => h.unique hleft, fun h => h ▸ hleft⟩

end

/-- **Reading accepts just what the grammar derives.**  A text whose tokens are `ts` is read as `e`
if and only if the grammar derives all of `ts` as `e`.  Nothing is derived as two different trees,
all operators of a level associate to the left, and reading ends on every list of tokens: with the
tree that the grammar derives, or with a fault where it derives none. -/
theorem parse_ok_iff_derives :
    (∀ source ts, Token.scan source = .ok ts →
      ∀ e, Tree.parse source = .ok e ↔ Derives (.level .or) ts e)
    ∧ (∀ level ts e e', Derives (.level level) ts e → Derives (.level level) ts e' → e = e')
    ∧ (∀ (level : Level) front middle back t u op op' a b c, Derives level.operand front a →
        (t, op) ∈ level.operators → Derives level.operand middle b →
        (u, op') ∈ level.operators → Derives level.operand back c →
        ∀ e, Derives (.level level) (front ++ t :: middle ++ u :: back) e
          ↔ e = .binary op' (.binary op a b) c)
    ∧ ∀ ts, (∃ e, Tree.ofTokens ts = .ok e ∧ Derives (.level .or) ts e)
        ∨ ∃ fault, Tree.ofTokens ts = .error fault ∧ ∀ e, ¬ Derives (.level .or) ts e := by
  refine ⟨?_, fun _ _ _ _ => Derives.unique,
    fun _ _ _ _ _ _ _ _ _ _ _ ha ht hb hu hc _ => derives_associates ha ht hb hu hc, ?_⟩
  · intro source ts hscan e
    rw [Tree.parse, hscan]
    exact ofTokens_eq_ok_iff
  · intro ts
    cases hts : Tree.ofTokens ts with
    | ok e => exact .inl ⟨e, rfl, ofTokens_eq_ok_iff.1 hts⟩
    | error fault =>
        refine .inr ⟨fault, rfl, fun e he => ?_⟩
        rw [ofTokens_eq_ok_iff.2 he] at hts
        cases hts

/-- The tokens of `a - b - or(c) or d`. -/
def keywordTokens : List Token :=
  [.name "a", .mark .minus, .name "b", .mark .minus, .name "or", .mark .openParen, .name "c",
    .mark .closeParen, .name "or", .name "d"]

/-- The difference on the left of `keywordTokens`. -/
def keywordDifference : Tree :=
  .binary .subtract (.binary .subtract (.variable "a") (.variable "b")) (.call "or" [.variable "c"])

/-- A word is the name of a function where a term stands, and an operator behind it. -/
theorem parse_ok_iff_derives_keywords :
    Token.scan "a - b - or(c) or d" = .ok keywordTokens
    ∧ Tree.parse "a - b - or(c) or d" = .ok (.binary .or keywordDifference (.variable "d"))
    ∧ (∀ e, Derives (.level .or) keywordTokens e →
        e = .binary .or keywordDifference (.variable "d"))
    ∧ ∀ e, Derives (.level .additive) (keywordTokens.take 8) e ↔ e = keywordDifference := by
  obtain ⟨hparse, hunique, hassociates, -⟩ := parse_ok_iff_derives
  have hname (s : String) (hs : s ∉ ["true", "false", "nil", "null", "not"]) (level : Level) :
      Derives level.operand [.name s] (.variable s) :=
    Derives.of_primary (.name hs) level
  have hargument : ∀ item ∈ [([Token.name "c"], Tree.variable "c")],
      Derives .argument item.1 item.2 := by
    simpa using .expression (.operand (hname "c" (by decide) .or))
  have hcall := Derives.of_primary (.call (by decide : "or" ∉ _) hargument) .additive
  have hdifference := hassociates .additive [.name "a"] [.name "b"] _ (.mark .minus) (.mark .minus)
    .subtract .subtract (.variable "a") (.variable "b") _ (hname "a" (by decide) _) (by decide)
    (hname "b" (by decide) _) (by decide) hcall
  have hleft : Derives (.level .or) (keywordTokens.take 8) keywordDifference :=
    .loosen rfl (.loosen rfl (.loosen rfl ((hdifference _).2 rfl)))
  have hwhole : Derives (.level .or) keywordTokens
      (.binary .or keywordDifference (.variable "d")) :=
    .operation hleft (by decide : (.name "or", .or) ∈ Level.or.operators)
      (hname "d" (by decide) .or)
  have hscan : Token.scan "a - b - or(c) or d" = .ok keywordTokens := by
    with_unfolding_all rfl
  exact ⟨hscan, (hparse _ _ hscan _).2 hwhole, fun e he => hunique _ _ _ _ he hwhole, hdifference⟩

end Slumber.Expression
