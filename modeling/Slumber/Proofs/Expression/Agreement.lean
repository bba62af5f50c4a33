import Slumber.Proofs.Expression.Parsing
import Slumber.Proofs.Expression.Placeholders
import Slumber.Proofs.Expression.Scanning
import Slumber.Proofs.Text.Cutting

/-!
# Two ways to compare a field with a text

The comparison `path < 'text'` and the expression `{{path}} < 'text'` are read in different ways.
One is cut at its operator, which is found in the raw text; in the other the path becomes a name,
and what remains is scanned, parsed and evaluated. Where neither the path nor the text holds a
character that means something to one of the two, and the path finds a text, both give the same
answer: the relation between the two texts, ordered by their code points.

* `TextRelation` — the six relations, as they are written and what they say;
* `evaluateAt_comparison` — the answer of the comparison;
* `evaluateAt_expression` — the answer of the expression;
* `comparison_agrees_expression` — both are the relation between the texts.
-/

namespace Slumber.Expression

open Slumber.Text

/-! ### Relations between texts -/

/-- The relations that both a comparison and an expression can ask for. -/
inductive TextRelation where
  | equal | notEqual | less | lessOrEqual | greater | greaterOrEqual
deriving DecidableEq, Repr

/-- The code points of a text. -/
def codePoints (s : String) : List Nat :=
  s.toList.map Char.toNat

namespace TextRelation

/-- How a relation is written. -/
def mark : TextRelation → Mark
  | .equal => .equal
  | .notEqual => .notEqual
  | .less => .less
  | .lessOrEqual => .lessOrEqual
  | .greater => .greater
  | .greaterOrEqual => .greaterOrEqual

/-- What a relation says of two texts; they are ordered by their code points. -/
def Holds : TextRelation → String → String → Prop
  | .equal, a, b => a = b
  | .notEqual, a, b => a ≠ b
  | .less, a, b => codePoints a < codePoints b
  | .lessOrEqual, a, b => codePoints a < codePoints b ∨ a = b
  | .greater, a, b => codePoints b < codePoints a
  | .greaterOrEqual, a, b => codePoints b < codePoints a ∨ a = b

instance (r : TextRelation) (a b : String) : Decidable (r.Holds a b) :=
  match r with
  | .equal => inferInstanceAs (Decidable (a = b))
  | .notEqual => inferInstanceAs (Decidable (a ≠ b))
  | .less => inferInstanceAs (Decidable (codePoints a < codePoints b))
  | .lessOrEqual => inferInstanceAs (Decidable (codePoints a < codePoints b ∨ a = b))
  | .greater => inferInstanceAs (Decidable (codePoints b < codePoints a))
  | .greaterOrEqual => inferInstanceAs (Decidable (codePoints b < codePoints a ∨ a = b))

/-- The relation in a clause. -/
def clauseOp : TextRelation → ClauseOp
  | .equal => .equal
  | .notEqual => .notEqual
  | .less => .less
  | .lessOrEqual => .lessOrEqual
  | .greater => .greater
  | .greaterOrEqual => .greaterOrEqual

/-- The relation in a tree. -/
def binaryOp : TextRelation → BinaryOp
  | .equal => .equal
  | .notEqual => .notEqual
  | .less => .less
  | .lessOrEqual => .lessOrEqual
  | .greater => .greater
  | .greaterOrEqual => .greaterOrEqual

end TextRelation

theorem codePoints_lt_iff {a b : String} : codePoints a < codePoints b ↔ a < b := by
  have hmap {a b : String} (h : a < b) : codePoints a < codePoints b :=
    List.map_lt (fun _ _ hxy => hxy) (String.lt_iff.1 h)
  refine ⟨fun h => Decidable.byContradiction fun hnot => ?_, hmap⟩
  by_cases hgt : b < a
  · exact List.lt_asymm h (hmap hgt)
  · have heq : a = b := String.le_antisymm hgt hnot
    exact List.lt_irrefl _ (heq ▸ h)

/-- The order that `compareTexts` gives accepts the relation that holds. -/
theorem accepts_compareTexts (r : TextRelation) (a b : String) :
    r.clauseOp.accepts (compareTexts a b) = decide (r.Holds a b) := by
  unfold compareTexts
  by_cases hlt : a < b
  · have hgt : ¬ b < a := String.lt_asymm hlt
    have hne : a ≠ b := fun h => String.lt_irrefl a (h ▸ hlt)
    cases r <;> simp [TextRelation.clauseOp, ClauseOp.accepts, TextRelation.Holds,
      codePoints_lt_iff, hlt, hgt, hne]
  · by_cases hgt : b < a
    · have hne : a ≠ b := fun h => String.lt_irrefl a (h ▸ hgt)
      cases r <;> simp [TextRelation.clauseOp, ClauseOp.accepts, TextRelation.Holds,
        codePoints_lt_iff, hlt, hgt, hne]
    · obtain rfl : a = b := String.le_antisymm hgt hlt
      have hself : ¬ codePoints a < codePoints a := List.lt_irrefl _
      rw [if_neg hlt, if_neg hlt]
      cases r with
      | equal | notEqual | lessOrEqual | greaterOrEqual =>
          simp [TextRelation.clauseOp, ClauseOp.accepts, TextRelation.Holds]
      | less | greater => exact (decide_eq_false hself).symm

/-! ### A comparison -/

/-- Characters that are no part of a path or of a text in quotes. -/
def specials : List Char :=
  ['!', '=', '<', '>', '&', '|', '\x7b', '\x7d', '\'', '"']

/-- The characters of relations. -/
def relationMarks : List Char :=
  ['!', '=', '<', '>']

/-- The characters between clauses, and around placeholders. -/
def separators : List Char :=
  ['&', '|', '\x7b', '\x7d']

theorem relationMarks_subset : relationMarks ⊆ specials := by
  decide

theorem separators_subset : separators ⊆ specials := by
  decide

/-- None of these characters means something outside of paths and quotes. -/
def IsPlain (cs : List Char) : Prop :=
  ∀ c ∈ cs, c ∉ specials

instance (cs : List Char) : Decidable (IsPlain cs) :=
  List.decidableBAll (· ∉ specials) cs

theorem IsPlain.notMem {cs : List Char} (h : IsPlain cs) {c : Char} (hc : c ∈ specials) :
    c ∉ cs :=
  fun hmem => h c hmem hc

theorem unquote_quoted (cs : List Char) : unquote ('\'' :: (cs ++ ['\''])) = cs := by
  simp [unquote, insideQuotes?]

/-- The operator of a clause is the relation: no operator that is tried before it occurs. -/
theorem findSome?_relation (r : TextRelation) {front back : List Char}
    (hfront : IsPlain front) (hback : ∀ c ∈ back, c ∉ relationMarks)
    {find : String × ClauseOp → Option (ClauseOp × List Char × List Char)}
    (hfind : ∀ token op, find (token, op)
      = (cutAtText token.toList (front ++ (r.mark.text.toList ++ ' ' :: back))).map (op, ·)) :
    ClauseOp.table.findSome? find = some (r.clauseOp, front, ' ' :: back) := by
  have hcut (c : Char) (cs rest : List Char) (hc : c ∈ ['!', '=', '<', '>']) :
      cutAtText (c :: cs) (front ++ rest)
        = (cutAtText (c :: cs) rest).map fun p => (front ++ p.1, p.2) :=
    cutAtText_append (hfront.notMem (relationMarks_subset hc))
  have hnone (c : Char) (cs : List Char) (hc : c ∈ ['!', '=', '<', '>']) :
      cutAtText (c :: cs) back = none :=
    cutAtText_of_notMem fun h => hback _ h hc
  cases r <;> simp [ClauseOp.table, TextRelation.mark, Mark.text, TextRelation.clauseOp,
    hfind, hcut, hnone, cutAtText, dropToken?]

/-- What stands behind the field: a relation, and a text in quotes. -/
def relationChars (r : TextRelation) (literal : List Char) : List Char :=
  ' ' :: (r.mark.text.toList ++ ' ' :: '\'' :: (literal ++ ['\'']))

theorem notMem_relationChars (r : TextRelation) {literal : List Char}
    (hliteral : IsPlain literal) {c : Char} (hc : c ∈ separators) :
    c ∉ relationChars r literal := by
  have hspecial : c ∉ literal := hliteral.notMem (separators_subset hc)
  simp only [separators, List.mem_cons, List.not_mem_nil, or_false] at hc
  rcases hc with rfl | rfl | rfl | rfl <;> cases r <;>
    simp [relationChars, TextRelation.mark, Mark.text, hspecial]

/-- A clause with a relation is split into its path, without blanks around it, and the inside of the
quotes. -/
theorem ofText_relation (r : TextRelation) {path literal : List Char}
    (hpath : IsPlain path) (hliteral : IsPlain literal)
    (hblank : trimChars path ≠ []) :
    Clause.ofText (path ++ relationChars r literal)
      = .ok ⟨r.clauseOp, String.ofList (trimChars path), String.ofList literal⟩ := by
  have hleft : trimLeft path ≠ [] := fun h => hblank (by simp [trimChars, h])
  have hquote : isBlank '\'' = false := by decide
  have hclause : trimChars (path ++ relationChars r literal)
      = (trimLeft path ++ [' ']) ++ (r.mark.text.toList ++ ' ' :: '\'' :: (literal ++ ['\''])) := by
    have hrelation : relationChars r literal
        = (' ' :: (r.mark.text.toList ++ ' ' :: '\'' :: literal)) ++ ['\''] := by
      simp [relationChars]
    rw [hrelation, trimChars_concat_of_not_blank hleft hquote]
    simp
  have hfront : IsPlain (trimLeft path ++ [' ']) := by
    intro c hc
    rcases List.mem_append.1 hc with hc | hc
    · exact hpath c ((List.dropWhile_sublist _).subset hc)
    · rw [List.mem_singleton.1 hc]
      decide
  have hback : ∀ c ∈ '\'' :: (literal ++ ['\'']), c ∉ relationMarks := by
    intro c hc
    simp only [List.mem_cons, List.mem_append, List.not_mem_nil, or_false] at hc
    rcases hc with rfl | hc | rfl
    · decide
    · exact fun h => hliteral c hc (relationMarks_subset h)
    · decide
  have hpathBack : trimChars (trimLeft path ++ [' ']) = trimChars path :=
    trimChars_trimLeft_concat hleft (by decide)
  have hliteralBack : unquote (trimChars (' ' :: '\'' :: (literal ++ ['\'']))) = literal := by
    have h : trimLeft (' ' :: '\'' :: (literal ++ ['\''])) = ('\'' :: literal) ++ ['\''] :=
      trimLeft_cons_of_not_blank hquote
    rw [trimChars, h, trimRight_concat_of_not_blank hquote]
    exact unquote_quoted literal
  simp only [Clause.ofText, hclause]
  rw [findSome?_relation r hfront hback]
  · cases r <;> simp [TextRelation.clauseOp, hpathBack, hblank, hliteralBack]
  · exact fun _ _ => rfl

/-- A path finds the same with and without blanks around it. -/
theorem resolve?_trimChars (document : Json) (path : String) :
    document.resolve? (String.ofList (trimChars path.toList)) = document.resolve? path := by
  simp only [Json.resolve?, segments, String.toList_ofList, trimChars_trimChars]

section

variable {path literal s : String} {document : Json}

theorem trimChars_ne_nil_of_resolve? {j : Json} (h : document.resolve? path = some j) :
    trimChars path.toList ≠ [] := by
  intro hblank
  simp [Json.resolve?, hblank] at h

/-- A comparison with a text in quotes compares the text of the field. -/
theorem evaluateAt_comparison (r : TextRelation) (hpath : IsPlain path.toList)
    (hliteral : IsPlain literal.toList) (hs : document.resolve? path = some (.str s))
    (now : Instant) :
    evaluateAt (String.ofList (path.toList ++ relationChars r literal.toList)) document now
      = .ok (decide (r.Holds s literal)) := by
  have hnot (c : Char) (hc : c ∈ separators) :
      c ∉ path.toList ++ relationChars r literal.toList := by
    rw [List.mem_append, not_or]
    exact ⟨hpath.notMem (separators_subset hc), notMem_relationChars r hliteral hc⟩
  have hclause := ofText_relation r hpath hliteral (trimChars_ne_nil_of_resolve? hs)
  have hholds : Clause.holds document ⟨r.clauseOp, String.ofList (trimChars path.toList),
      String.ofList literal.toList⟩ = .ok (decide (r.Holds s literal)) := by
    rw [← accepts_compareTexts]
    unfold Clause.holds
    simp only [resolve?_trimChars, hs, String.ofList_toList]
    cases r <;> rfl
  have hplain : hasPlaceholder (String.ofList (path.toList ++ relationChars r literal.toList))
      = false := by
    rw [hasPlaceholder, String.toList_ofList, cutAtText_of_notMem (hnot '\x7b' (by decide))]
    rfl
  have hevaluate : Comparison.evaluate document
      (String.ofList (path.toList ++ relationChars r literal.toList))
      = .ok (decide (r.Holds s literal)) := by
    rw [Comparison.evaluate, String.toList_ofList, splitOnText_of_notMem (hnot '|' (by decide))]
    simp only [Comparison.anyHolds, splitOnText_of_notMem (hnot '&' (by decide)),
      Comparison.allHold, hclause, hholds]
    cases decide (r.Holds s literal) <;> rfl
  rw [evaluateAt, hplain, hevaluate]
  rfl

/-! ### An expression -/

/-- No placeholder begins in a text without braces. -/
theorem noneBegins_of_notMem {cs : List Char} (h : '\x7b' ∉ cs) : NoneBegins cs [] := by
  rintro back hback - ⟨path, rest, -, hbegins⟩
  rw [List.append_nil] at hbegins
  exact h (hback.subset (hbegins ▸ List.mem_cons_self))

/-- A path without special characters, and what stands behind it, are one placeholder with the text
behind it. -/
theorem cut_braced {path rest : List Char} (hpath : IsPlain path) (hrest : '\x7b' ∉ rest) :
    Cut (bracedChars path ++ rest) [⟨[], path⟩] rest := by
  have hbraceless : IsBraceless path := fun c hc =>
    ⟨fun h => hpath c hc (h ▸ by decide), fun h => hpath c hc (h ▸ by decide)⟩
  exact .next [] path hbraceless (noneBegins_nil _) (.last (noneBegins_of_notMem hrest))

theorem bindPlaceholders_braced (r : TextRelation) (hpath : IsPlain path.toList)
    (hliteral : IsPlain literal.toList) (hs : document.resolve? path = some (.str s)) :
    bindPlaceholders (String.ofList (bracedChars path.toList ++ relationChars r literal.toList))
      document
      = (String.ofList ("var0".toList ++ relationChars r literal.toList),
          [("var0", .string s)]) := by
  have hrest := notMem_relationChars r hliteral (by decide : '\x7b' ∈ separators)
  have hfound : document.resolve? (trim path) = some (.str s) := by
    rw [trim, resolve?_trimChars, hs]
  have hvalues : Bindings.values [trim path] document = [("var0", .string s)] := by
    simp only [Bindings.values, List.zipIdx_cons, List.zipIdx_nil, List.map_cons, List.map_nil,
      hfound]
    rfl
  have hreplaced := replacePlaceholders_eq (cut_braced hpath hrest) (Nat.le_refl _) []
  have hname : (Placeholder.mk [] path.toList).nameIn [trim path] = "var0" := by
    simp only [Placeholder.nameIn, Placeholder.key, String.ofList_toList, List.idxOf_cons_self]
    decide
  have hpaths : Bindings.extend [] [⟨[], path.toList⟩] = [trim path] := by
    simp [extend_nil, distinctKeys, Placeholder.key, List.eraseDups_cons]
  simp only [bindPlaceholders, String.toList_ofList, hreplaced, hpaths, hvalues]
  simp only [fill, List.flatMap_cons, List.flatMap_nil, hname, List.nil_append, List.append_nil]

/-! ### Its tokens, and its value -/

/-- Where there is neither a quote nor a backslash, nothing is escaped. -/
theorem flatMap_escape_of_notMem {q : Quote} {cs : List Char} (hquote : q.char ∉ cs)
    (hescape : '\\' ∉ cs) : cs.flatMap q.escape = cs := by
  have heach : ∀ c ∈ cs, q.escape c = [c] := fun c hc => if_neg fun h =>
    h.elim (fun h => hescape (h ▸ hc)) fun h => hquote (h ▸ hc)
  rw [List.flatMap_congr heach, List.flatMap_singleton']

/-- The name of the placeholder, the relation and the text, with a blank between them. -/
theorem scan_relation (r : TextRelation) {literal : List Char} (hliteral : IsPlain literal)
    (hescape : '\\' ∉ literal) :
    Token.scan (String.ofList ("var0".toList ++ relationChars r literal))
      = .ok [.name "var0", .mark r.mark, .string (String.ofList literal)] := by
  let lexemes : List (Blanks × Lexeme) :=
    [(.empty, .name var0), (.space, .mark r.mark),
      (.space, .string .single (String.ofList literal))]
  have hsep : ∀ p ∈ lexemes.tail, p.1.chars ≠ [] := by
    simp [lexemes, Blanks.space]
  have hplain : literal.flatMap Quote.single.escape = literal :=
    flatMap_escape_of_notMem (hliteral.notMem (by decide)) hescape
  have hwritten : written lexemes .empty = "var0".toList ++ relationChars r literal := by
    simp [lexemes, written, Blanks.empty, Blanks.space, Lexeme.chars, NameText.chars, var0,
      Quote.char, relationChars, hplain]
  rw [← hwritten]
  exact scan_written hsep .empty

/-- The tokens are read as what the grammar derives from them. -/
theorem ofTokens_relation (r : TextRelation) (field literal : String) (hfield : IsName field) :
    Tree.ofTokens [.name field, .mark r.mark, .string literal]
      = .ok (.binary r.binaryOp (.variable field) (.literal (.string literal))) := by
  have hoperator : (.mark r.mark, r.binaryOp) ∈ Level.comparison.operators := by
    cases r <;> decide
  have hleft : Derives Level.comparison.operand [.name field] (.variable field) :=
    Derives.of_primary (.name hfield) .comparison
  have hright : Derives Level.comparison.operand [.string literal] (.literal (.string literal)) :=
    Derives.of_primary .string .comparison
  exact ofTokens_eq_ok_iff.2 (.loosen rfl (.loosen rfl
    (.operation (.operand hleft) hoperator hright)))

theorem applyBinary_relation (r : TextRelation) (s literal : String) :
    Value.applyBinary r.binaryOp (.string s) (.string literal)
      = .ok (.bool (decide (r.Holds s literal))) := by
  cases r with
  | equal | notEqual =>
      by_cases h : s = literal <;>
        simp [TextRelation.binaryOp, TextRelation.Holds, Value.applyBinary, Value.same, h]
  | _ =>
      rw [← accepts_compareTexts]
      rfl

theorem eval_relation (r : TextRelation) {names : FiniteMap String Value} {field s : String}
    (hfield : names.find? field = some (.string s)) (literal : String) (now : Instant) :
    (Tree.binary r.binaryOp (.variable field) (.literal (.string literal))).eval ⟨names, now⟩
      = .ok (.bool (decide (r.Holds s literal))) := by
  rw [← applyBinary_relation]
  cases r <;> simp only [Tree.eval, Tree.evalIn, hfield] <;> rfl

/-- An expression that compares a placeholder with a text in quotes compares the text of its
field. -/
theorem evaluateAt_expression (r : TextRelation) (hpath : IsPlain path.toList)
    (hliteral : IsPlain literal.toList) (hescape : '\\' ∉ literal.toList)
    (hs : document.resolve? path = some (.str s)) (now : Instant) :
    evaluateAt (String.ofList (bracedChars path.toList ++ relationChars r literal.toList)) document
      now = .ok (decide (r.Holds s literal)) := by
  have hplaceholder : hasPlaceholder
      (String.ofList (bracedChars path.toList ++ relationChars r literal.toList)) = true := by
    simp [hasPlaceholder, bracedChars, cutAtText, dropToken?]
  have hparse : Tree.parse (String.ofList ("var0".toList ++ relationChars r literal.toList))
      = .ok (.binary r.binaryOp (.variable "var0") (.literal (.string literal))) := by
    rw [Tree.parse, scan_relation r hliteral hescape, String.ofList_toList]
    exact ofTokens_relation r "var0" literal (by decide : "var0" ∉ _)
  rw [evaluateAt, hplaceholder]
  simp only [if_true, bindPlaceholders_braced r hpath hliteral hs, hparse]
  rw [eval_relation r rfl]

/-- **A comparison and an expression agree on texts.**  Where a path finds a text in a document, the
comparison of that path with a text in quotes and the expression with that path as a placeholder
both end with a boolean, and it says whether the relation holds of the two texts. -/
theorem comparison_agrees_expression (hpath : IsPlain path.toList)
    (hliteral : IsPlain literal.toList) (hescape : '\\' ∉ literal.toList)
    (hs : document.resolve? path = some (.str s)) (r : TextRelation) (now : Instant) :
    evaluateAt (path ++ " " ++ r.mark.text ++ " '" ++ literal ++ "'") document now
        = .ok (decide (r.Holds s literal))
      ∧ evaluateAt ("\x7b\x7b" ++ path ++ "\x7d\x7d " ++ r.mark.text ++ " '" ++ literal ++ "'")
          document now = .ok (decide (r.Holds s literal)) := by
  have hcomparison : path ++ " " ++ r.mark.text ++ " '" ++ literal ++ "'"
      = String.ofList (path.toList ++ relationChars r literal.toList) :=
    String.toList_injective (by simp [relationChars])
  have hexpression : "\x7b\x7b" ++ path ++ "\x7d\x7d " ++ r.mark.text ++ " '" ++ literal ++ "'"
      = String.ofList (bracedChars path.toList ++ relationChars r literal.toList) :=
    String.toList_injective (by simp [relationChars, bracedChars])
  rw [hcomparison, hexpression]
  exact ⟨evaluateAt_comparison r hpath hliteral hs now,
    evaluateAt_expression r hpath hliteral hescape hs now⟩

end

/-- A document whose name begins with an accent. -/
def accentedDocument : Json :=
  .obj [("metadata", .obj [("name", .str "été")])]

/-- By its code point the accented letter is greater than all letters without an accent. -/
theorem comparison_agrees_expression_accented :
    IsPlain "metadata.name".toList ∧ IsPlain "zone".toList ∧ '\\' ∉ "zone".toList
      ∧ accentedDocument.resolve? "metadata.name" = some (.str "été")
      ∧ evaluateAt "metadata.name > 'zone'" accentedDocument ⟨1704067200, 0⟩ = .ok true
      ∧ evaluateAt "\x7b\x7bmetadata.name\x7d\x7d > 'zone'" accentedDocument ⟨1704067200, 0⟩
          = .ok true := by
  have hpath : IsPlain "metadata.name".toList := by decide
  have hliteral : IsPlain "zone".toList := by decide
  have hescape : '\\' ∉ "zone".toList := by decide
  have hs : accentedDocument.resolve? "metadata.name" = some (.str "été") := by
    with_unfolding_all rfl
  obtain ⟨hcomparison, hexpression⟩ :=
    comparison_agrees_expression hpath hliteral hescape hs .greater ⟨1704067200, 0⟩
  exact ⟨hpath, hliteral, hescape, hs, hcomparison, hexpression⟩

end Slumber.Expression
