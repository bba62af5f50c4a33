import Slumber.Expression.Grammar
import Slumber.Proofs.Expression.Derivation

/-!
# What the reading functions read

Each reading function gives a value with the tokens behind it, or a fault. `Reads` says that it
gives a value, and there is a statement for each of them, in terms of what the functions that it
calls read; what is said of reading elsewhere is derived from these.

* `Reads` — what was read, and what is behind it;
* `reads_bind`, `reads_bind_mark` — one reading behind another;
* `reads_parseLevel`, `reads_parseTail_of_some`, … — what each function reads.
-/

namespace Slumber.Expression

/-- What was read is `v`, and `rest` is behind it. -/
def Reads {α : Type} {n : Nat} (outcome : Parsed α n) (v : α) (rest : List Token) : Prop :=
  ∃ h, outcome = .ok ⟨v, rest, h⟩

section

variable {α β : Type} {m n : Nat} {v : α} {w : β} {rest : List Token}

theorem Reads.shorter {outcome : Parsed α n} (h : Reads outcome v rest) : rest.length < n :=
  h.1

theorem reads_ok {a : α} {ts : List Token} {h : ts.length < n} :
    Reads (.ok ⟨a, ts, h⟩) v rest ↔ a = v ∧ ts = rest := by
  constructor
  · rintro ⟨_, ⟨⟩⟩
    exact ⟨rfl, rfl⟩
  · rintro ⟨rfl, rfl⟩
    exact ⟨h, rfl⟩

theorem not_reads_error {fault : ParseFault} : ¬ Reads (.error fault : Parsed α n) v rest := by
  rintro ⟨_, ⟨⟩⟩

theorem reads_bind {x : Parsed α m} {f : Reading α m → Parsed β n} {p : α → List Token → Prop}
    (hf : ∀ a mid h, Reads (f ⟨a, mid, h⟩) w rest ↔ p a mid) :
    Reads (x >>= f) w rest ↔ ∃ a mid, Reads x a mid ∧ p a mid := by
  cases x with
  | error fault =>
      refine iff_of_false not_reads_error ?_
      rintro ⟨a, mid, h, -⟩
      exact not_reads_error h
  | ok r =>
      constructor
      · exact fun h => ⟨r.value, r.rest, ⟨r.shorter, rfl⟩, (hf _ _ r.shorter).1 h⟩
      · rintro ⟨a, mid, ⟨h, ⟨⟩⟩, hp⟩
        exact (hf a mid h).2 hp

theorem reads_map {x : Parsed α m} {h : m ≤ n} {f : α → β} :
    Reads (do let r ← x; return (r.map f).of h) w rest ↔ ∃ a, Reads x a rest ∧ f a = w := by
  refine (reads_bind (p := fun a mid => f a = w ∧ mid = rest) fun a mid _ => reads_ok).trans
    ⟨?_, ?_⟩
  · rintro ⟨a, mid, hx, rfl, rfl⟩
    exact ⟨a, hx, rfl⟩
  · rintro ⟨a, hx, rfl⟩
    exact ⟨a, rest, hx, rfl, rfl⟩

theorem reads_return {x : Parsed α m} {h : m ≤ n} :
    Reads (do let r ← x; return r.of h) v rest ↔ Reads x v rest :=
  (reads_map (f := id)).trans ⟨by rintro ⟨a, hx, rfl⟩; exact hx, fun hx => ⟨v, hx, rfl⟩⟩

theorem reads_expectMark {m : Mark} {ts : List Token} {u : Unit} :
    Reads (expectMark m ts) u rest ↔ ts = .mark m :: rest := by
  unfold expectMark
  split
  · rename_i k ts
    by_cases hk : k = m
    · rw [if_pos hk, reads_ok, hk, List.cons.injEq]
      simp
    · rw [if_neg hk]
      refine iff_of_false not_reads_error ?_
      rintro ⟨⟩
      exact hk rfl
  · rename_i hts
    exact iff_of_false not_reads_error (hts m rest)

theorem reads_parseName {ts : List Token} {s : String} :
    Reads (parseName ts) s rest ↔ ts = .name s :: rest := by
  unfold parseName
  split
  · simp [reads_ok]
  · rename_i hts
    exact iff_of_false not_reads_error (hts s rest)

/-- A mark behind what is read is passed. -/
theorem reads_bind_mark {x : Parsed α m} {close : Mark}
    {f : (r : Reading α m) → Reading Unit r.rest.length → Parsed β n}
    {p : α → List Token → Prop}
    (hf : ∀ a mid h back h', Reads (f ⟨a, mid, h⟩ ⟨(), back, h'⟩) w rest ↔ p a back) :
    Reads (do let r ← x; let done ← expectMark close r.rest; f r done) w rest
      ↔ ∃ a back, Reads x a (.mark close :: back) ∧ p a back := by
  have hmark (a : α) (mid : List Token) (h : mid.length < m) :
      Reads (do let done ← expectMark close mid; f ⟨a, mid, h⟩ done) w rest
        ↔ ∃ _ : Unit, ∃ back, Reads (expectMark close mid) () back ∧ p a back :=
    reads_bind fun _ back h' => hf a mid h back h'
  simp only [reads_expectMark, exists_const] at hmark
  refine (reads_bind hmark).trans ⟨?_, ?_⟩
  · rintro ⟨a, mid, hx, back, rfl, hp⟩
    exact ⟨a, back, hx, hp⟩
  · rintro ⟨a, back, hx, hp⟩
    exact ⟨a, _, hx, back, rfl, hp⟩

/-- What stands before a mark is read with the mark. -/
theorem reads_before {x : Parsed α m} {close : Mark} {f : α → β}
    {h : ∀ r : Reading α m, r.rest.length ≤ n} :
    Reads (do
      let r ← x
      let done ← expectMark close r.rest
      return (done.map fun _ => f r.value).of (h r)) w rest
      ↔ ∃ a, Reads x a (.mark close :: rest) ∧ f a = w := by
  refine (reads_bind_mark (p := fun a back => f a = w ∧ back = rest)
    fun a mid _ back _ => reads_ok).trans ⟨?_, ?_⟩
  · rintro ⟨a, back, hx, rfl, rfl⟩
    exact ⟨a, hx, rfl⟩
  · rintro ⟨a, hx, rfl⟩
    exact ⟨a, rest, hx, rfl, rfl⟩

end

section

variable {level : Level} {e left : Tree} {ts rest : List Token} {t : Token}

theorem reads_parseLevel : Reads (parseLevel level ts) e rest ↔ ∃ left mid,
    Reads (parseOperand level ts) left mid ∧ Reads (parseTail level left mid) e rest := by
  rw [parseLevel]
  exact reads_bind fun left mid _ => reads_return

theorem parseOperand_of_some {tighter : Level} (h : level.next? = some tighter) :
    parseOperand level ts = parseLevel tighter ts := by
  cases level <;> cases h <;> rw [parseOperand] <;> rfl

theorem parseOperand_of_none (h : level.next? = none) : parseOperand level ts = parseUnary ts := by
  cases level <;> cases h
  rw [parseOperand]
  rfl

theorem reads_parseTail_of_none (h : ∀ t ∈ ts.head?, level.operator? t = none) :
    Reads (parseTail level left ts) e rest ↔ left = e ∧ ts = rest := by
  cases ts with
  | nil =>
      rw [parseTail]
      exact reads_ok
  | cons t ts =>
      rw [parseTail, h t rfl]
      exact reads_ok

theorem reads_parseTail_of_some {op : BinaryOp} (h : level.operator? t = some op) :
    Reads (parseTail level left (t :: ts)) e rest ↔ ∃ right mid,
      Reads (parseOperand level ts) right mid
        ∧ Reads (parseTail level (.binary op left right) mid) e rest := by
  rw [parseTail, h]
  exact reads_bind fun right mid _ => reads_return

theorem reads_parseUnary_not (h : t ∈ [.mark .bang, .name "not"]) :
    Reads (parseUnary (t :: ts)) e rest
      ↔ ∃ a, Reads (parseUnary ts) a rest ∧ .unary .not a = e := by
  simp only [List.mem_cons, List.not_mem_nil, or_false] at h
  rcases h with rfl | rfl <;> rw [parseUnary] <;> exact reads_map

theorem reads_parseUnary_negate : Reads (parseUnary (.mark .minus :: ts)) e rest
    ↔ ∃ a, Reads (parseUnary ts) a rest ∧ .unary .negate a = e := by
  rw [parseUnary]
  exact reads_map

theorem reads_parseUnary_postfixed (hbang : ∀ back, ts ≠ .mark .bang :: back)
    (hnot : ∀ back, ts ≠ .name "not" :: back) (hminus : ∀ back, ts ≠ .mark .minus :: back) :
    Reads (parseUnary ts) e rest
      ↔ ∃ a mid, Reads (parseTerm ts) a mid ∧ Reads (parsePostfix a mid) e rest := by
  rw [parseUnary.eq_4 ts hbang hnot hminus]
  exact reads_bind fun term mid _ => reads_return

theorem reads_parsePostfix_dot : Reads (parsePostfix left (.mark .dot :: ts)) e rest
    ↔ ∃ field mid, ts = .name field :: mid
      ∧ Reads (parsePostfix (.member left field) mid) e rest := by
  rw [parsePostfix]
  simp only [← reads_parseName]
  exact reads_bind fun field mid _ => reads_return

theorem reads_parsePostfix_openBracket :
    Reads (parsePostfix left (.mark .openBracket :: ts)) e rest
      ↔ ∃ position mid, Reads (parseLevel .or ts) position (.mark .closeBracket :: mid)
          ∧ Reads (parsePostfix (.index left position) mid) e rest := by
  rw [parsePostfix]
  exact reads_bind_mark fun position mid _ back _ => reads_return

theorem reads_parsePostfix_stops (hdot : ∀ back, ts ≠ .mark .dot :: back)
    (hbracket : ∀ back, ts ≠ .mark .openBracket :: back) :
    Reads (parsePostfix left ts) e rest ↔ left = e ∧ ts = rest := by
  rw [parsePostfix.eq_3 left ts hdot hbracket]
  exact reads_ok

theorem reads_parseTerm_parens : Reads (parseTerm (.mark .openParen :: ts)) e rest
    ↔ Reads (parseLevel .or ts) e (.mark .closeParen :: rest) := by
  rw [parseTerm]
  refine (reads_before (f := id)).trans ?_
  simp

theorem reads_parseTerm_array : Reads (parseTerm (.mark .openBracket :: ts)) e rest
    ↔ ∃ items, Reads (parseList .closeBracket false ts) items rest ∧ .array items = e := by
  rw [parseTerm]
  exact reads_map

theorem reads_parseTerm_currentMember : Reads (parseTerm (.mark .dot :: ts)) e rest
    ↔ ∃ field, ts = .name field :: rest ∧ .member .current field = e := by
  rw [parseTerm]
  simp only [← reads_parseName]
  exact reads_map

theorem reads_parseTerm_literal {s : String} {value : Value} (hs : (s, value) ∈ literalNames) :
    Reads (parseTerm (.name s :: ts)) e rest ↔ .literal value = e ∧ ts = rest := by
  simp only [literalNames, List.mem_cons, Prod.mk.injEq, List.not_mem_nil, or_false] at hs
  rcases hs with ⟨rfl, rfl⟩ | ⟨rfl, rfl⟩ | ⟨rfl, rfl⟩ | ⟨rfl, rfl⟩ <;> rw [parseTerm] <;>
    exact reads_ok

theorem reads_parseTerm_call {s : String} (hs : IsName s) :
    Reads (parseTerm (.name s :: .mark .openParen :: ts)) e rest
      ↔ ∃ items, Reads (parseList .closeParen true ts) items rest ∧ .call s items = e := by
  simp only [IsName, List.mem_cons, List.not_mem_nil, or_false, not_or] at hs
  rw [parseTerm]
  · exact reads_map
  · exact hs.1
  · exact hs.2.1
  · exact hs.2.2.1
  · exact hs.2.2.2.1

theorem reads_parseTerm_name {s : String} (hs : IsName s)
    (h : ∀ back, ts ≠ .mark .openParen :: back) :
    Reads (parseTerm (.name s :: ts)) e rest ↔ .variable s = e ∧ ts = rest := by
  simp only [IsName, List.mem_cons, List.not_mem_nil, or_false, not_or] at hs
  rw [parseTerm]
  · exact reads_ok
  · exact hs.1
  · exact hs.2.1
  · exact hs.2.2.1
  · exact hs.2.2.2.1
  · exact h

theorem reads_parseItem_closure :
    Reads (parseItem true (.mark .openBrace :: ts)) e rest
      ↔ ∃ body, Reads (parseLevel .or ts) body (.mark .closeBrace :: rest) ∧ .closure body = e := by
  rw [parseItem]
  exact reads_before

theorem parseItem_expression {closures : Bool}
    (h : closures = true → ∀ back, ts ≠ .mark .openBrace :: back) :
    parseItem closures ts = parseLevel .or ts := by
  rw [parseItem]
  exact fun back hclosures => h hclosures back

theorem expectMark_self (m : Mark) :
    expectMark m (.mark m :: ts) = .ok ⟨(), ts, Nat.lt_succ_self _⟩ :=
  if_pos rfl

theorem expectMark_ne {m : Mark} (h : ∀ back, ts ≠ .mark m :: back) :
    ∃ fault, expectMark m ts = .error fault := by
  cases hts : expectMark m ts with
  | error fault => exact ⟨fault, rfl⟩
  | ok r => exact absurd (reads_expectMark.1 ⟨r.shorter, hts⟩) (h r.rest)

theorem reads_parseItems {close : Mark} {closures : Bool} {items : List Tree}
    (hclose : close ≠ .comma) :
    Reads (parseItems close closures ts) items rest ↔ ∃ item mid,
      Reads (parseItem closures ts) item mid
        ∧ (mid = .mark close :: rest ∧ [item] = items
          ∨ ∃ back others, mid = .mark .comma :: back
            ∧ Reads (parseItems close closures back) others rest ∧ item :: others = items) := by
  rw [parseItems]
  refine reads_bind fun item mid _ => ?_
  by_cases hmid : ∃ back, mid = .mark close :: back
  · obtain ⟨back, rfl⟩ := hmid
    simp only [expectMark_self]
    refine Iff.trans reads_ok ?_
    simp [hclose, and_comm]
  · obtain ⟨fault, hfault⟩ := expectMark_ne fun back h => hmid ⟨back, h⟩
    have hnot : ¬ (mid = .mark close :: rest ∧ [item] = items) := fun h => hmid ⟨rest, h.1⟩
    simp only [hfault, hnot, false_or]
    refine Iff.trans (reads_bind (p := fun _ back => ∃ others,
      Reads (parseItems close closures back) others rest ∧ item :: others = items)
      fun _ back _ => reads_map) ?_
    simp only [reads_expectMark, exists_const, exists_and_left]

theorem reads_parseList {close : Mark} {closures : Bool} {items : List Tree} :
    Reads (parseList close closures ts) items rest ↔ ts = .mark close :: rest ∧ [] = items
      ∨ (∀ back, ts ≠ .mark close :: back) ∧ Reads (parseItems close closures ts) items rest := by
  rw [parseList]
  by_cases hts : ∃ back, ts = .mark close :: back
  · obtain ⟨back, rfl⟩ := hts
    rw [expectMark_self]
    refine Iff.trans reads_ok ?_
    simp [and_comm]
  · obtain ⟨fault, hfault⟩ := expectMark_ne fun back h => hts ⟨back, h⟩
    rw [hfault]
    simp only [not_exists] at hts
    simp [hts]

end

end Slumber.Expression
