import Slumber.Proofs.Expression.Numerals
import Slumber.Proofs.Text.Letters

/-!
# Tokens as they are written

Each kind of token has its texts. A number is written with digits; a name stands for itself; a
string stands between quotes, and a backslash takes the meaning from a quote or from another
backslash; a mark is written as its table has it. The end of a token is sure where white space or
nothing follows it: no name and no number goes on over a blank, and no longer mark ends in one.

* `NameText`, `Quote`, `Content` — the texts of names and strings;
* `spanString_eq_some_iff` — strings in front of a text;
* `EndsToken`, `spanMark?_append` — the end of a token, and marks before it;
* `Spells` — all texts that are read as a token;
* `Lexeme` — a token with the one text that is written for it.
-/

namespace Slumber.Expression

open Slumber.Text Slumber.Decimal

/-! ### Names -/

/-- A name: a letter, `_` or `$`, and then letters, numbers, `_` and `$` of any length. -/
structure NameText where
  first : Char
  rest : List Char
  starts : isAlphabetic first = true ∨ first = '_' ∨ first = '$'
  continues : ∀ c ∈ rest, isAlphanumeric c = true ∨ c = '_' ∨ c = '$'

def NameText.chars (n : NameText) : List Char :=
  n.first :: n.rest

theorem startsName_iff {c : Char} :
    startsName c = true ↔ isAlphabetic c = true ∨ c = '_' ∨ c = '$' := by
  simp [startsName, or_assoc]

theorem continuesName_iff {c : Char} :
    continuesName c = true ↔ isAlphanumeric c = true ∨ c = '_' ∨ c = '$' := by
  simp [continuesName, or_assoc]

theorem continuesName_of_startsName {c : Char} (h : startsName c = true) :
    continuesName c = true := by
  rw [startsName_iff] at h
  rw [continuesName_iff, isAlphanumeric, Bool.or_eq_true]
  exact h.imp_left .inl

/-- A name does not go on over a blank. -/
theorem continuesName_of_isBlank {c : Char} (h : isBlank c = true) : continuesName c = false := by
  have hne {d : Char} (hd : isBlank d = false) : c ≠ d := fun heq => by
    rw [heq, hd] at h
    cases h
  simp [continuesName, isAlphanumeric_of_isBlank h, hne (d := '_') (by decide),
    hne (d := '$') (by decide)]

theorem isAsciiDigit_of_startsName {c : Char} (h : startsName c = true) :
    isAsciiDigit c = false := by
  refine Bool.eq_false_iff.2 fun hdigit => ?_
  have hrange : '0' ≤ c ∧ c ≤ '9' := by simpa [isAsciiDigit] using hdigit
  have hlow : 48 ≤ c.toNat := hrange.1
  have hhigh : c.toNat ≤ 57 := hrange.2
  rcases startsName_iff.1 h with hletter | rfl | rfl
  · have habove {d : Char} (hd : 57 < d.toNat) : ¬ d ≤ c := fun hle => by
      have hdc : d.toNat ≤ c.toNat := hle
      omega
    rw [isAlphabetic, if_pos (by omega)] at hletter
    simp [isAsciiLetter, habove (d := 'a') (by decide), habove (d := 'A') (by decide)] at hletter
  · cases hdigit
  · cases hdigit

/-! ### Strings -/

/-- The quotes that a string can stand between. -/
inductive Quote where
  | single | double
deriving DecidableEq, Repr

namespace Quote

def char : Quote → Char
  | .single => '\''
  | .double => '"'

/-- A character of a string: a backslash stands in front of the quote and of a backslash. -/
def escape (q : Quote) (c : Char) : List Char :=
  if c = '\\' ∨ c = q.char then ['\\', c] else [c]

theorem char_ne (q : Quote) : q.char ≠ '\\' := by
  cases q <;> decide

end Quote

/-- The character that is meant by one behind a backslash. -/
def unescaped (c : Char) : Char :=
  if c = 'n' then '\n' else if c = 't' then '\t' else c

/-- What can stand between two quotes, and the characters that it writes. -/
inductive Content (quote : Char) : List Char → List Char → Prop
  | nil : Content quote [] []
  | plain {c : Char} {cs s : List Char} (escape : c ≠ '\\') (ends : c ≠ quote)
      (rest : Content quote cs s) : Content quote (c :: cs) (c :: s)
  | escaped (c : Char) {cs s : List Char} (rest : Content quote cs s) :
      Content quote ('\\' :: c :: cs) (unescaped c :: s)

theorem content_flatMap_escape (q : Quote) (s : List Char) :
    Content q.char (s.flatMap q.escape) s := by
  induction s with
  | nil => exact .nil
  | cons c s ih =>
      rw [List.flatMap_cons, Quote.escape]
      by_cases h : c = '\\' ∨ c = q.char
      · have hmeant : unescaped c = c := by
          rcases h with rfl | rfl
          · rfl
          · cases q <;> rfl
        have hstep : Content q.char ('\\' :: c :: s.flatMap q.escape) (unescaped c :: s) :=
          .escaped c ih
        rw [hmeant] at hstep
        rw [if_pos h]
        exact hstep
      · rw [if_neg h]
        exact .plain (fun heq => h (.inl heq)) (fun heq => h (.inr heq)) ih

theorem spanString_plain {quote c : Char} (hc : c ≠ '\\') (cs : List Char) :
    spanString quote (c :: cs) = if c = quote then some ([], cs)
      else (spanString quote cs).map fun (s, rest) => (c :: s, rest) := by
  rw [spanString]
  · exact fun h => absurd h hc
  · exact fun _ _ h => absurd h hc

/-- A string goes up to the first quote that no backslash stands in front of. -/
theorem spanString_eq_some_iff {quote : Char} (hquote : quote ≠ '\\') {cs s rest : List Char} :
    spanString quote cs = some (s, rest)
      ↔ ∃ content, cs = content ++ quote :: rest ∧ Content quote content s := by
  constructor
  · intro h
    fun_induction spanString quote cs generalizing s with
    | case1 | case2 => cases h
    | case3 c cs meant =>
        rename_i ih
        obtain ⟨⟨s, rest⟩, hspan, heq⟩ := Option.map_eq_some_iff.1 h
        cases heq
        obtain ⟨content, rfl, hcontent⟩ := ih hspan
        exact ⟨'\\' :: c :: content, rfl, .escaped c hcontent⟩
    | case4 cs =>
        cases h
        exact ⟨[], rfl, .nil⟩
    | case5 c cs hend hescaped hquote' ih =>
        obtain ⟨⟨s, rest⟩, hspan, heq⟩ := Option.map_eq_some_iff.1 h
        cases heq
        obtain ⟨content, rfl, hcontent⟩ := ih hspan
        have hescape : c ≠ '\\' := fun hc => by
          cases content <;> exact hescaped _ _ hc rfl
        exact ⟨c :: content, rfl, .plain hescape hquote' hcontent⟩
  · rintro ⟨content, rfl, hcontent⟩
    induction hcontent with
    | nil => rw [List.nil_append, spanString_plain hquote, if_pos rfl]
    | plain hescape hends _ ih =>
        rw [List.cons_append, spanString_plain hescape, if_neg hends, ih]
        rfl
    | escaped c _ ih =>
        rw [List.cons_append, List.cons_append, spanString, ih]
        rfl

/-! ### The end of a token -/

/-- White space, or the end of the text, stands in front. -/
def EndsToken (cs : List Char) : Prop :=
  ∀ c ∈ cs.head?, isBlank c = true

namespace EndsToken

variable {rest : List Char}

theorem ne_cons (h : EndsToken rest) {c : Char} (hc : isBlank c = false) (cs : List Char) :
    rest ≠ c :: cs := by
  rintro rfl
  rw [h c rfl] at hc
  cases hc

theorem endsDigits (h : EndsToken rest) : EndsDigits rest := by
  intro c hc
  refine Bool.eq_false_iff.2 fun hdigit => ?_
  have hblank := isBlank_of_isAsciiDigit hdigit
  rw [h c hc] at hblank
  cases hblank

/-- Digits and points end before an exponent, and before the end of the token. -/
theorem endsPoints (h : EndsToken rest) (x? : Option Exponent) :
    EndsPoints (exponentChars x? ++ rest) := by
  cases x? with
  | none => exact ⟨h.endsDigits, fun cs hcs => absurd hcs (h.ne_cons (by decide) cs)⟩
  | some x =>
      refine ⟨endsDigits_cons.2 ?_, fun cs hcs => ?_⟩
      · rcases x.letter_eq with he | he <;> rw [he] <;> decide
      · have hletter : x.letter = '.' := (List.cons.inj hcs).1
        rcases x.letter_eq with he | he <;> rw [he] at hletter <;> cases hletter

theorem spanExponent_eq (h : EndsToken rest) (x? : Option Exponent) :
    spanExponent (exponentChars x? ++ rest) = (exponentChars x?, rest) := by
  cases x? with
  | some x => exact spanExponent_append x h.endsDigits
  | none =>
      cases rest with
      | nil => rfl
      | cons c cs =>
          refine if_neg ?_
          rintro (rfl | rfl) <;> exact h.ne_cons (by decide) cs rfl

theorem span_name (h : EndsToken rest) (n : NameText) :
    (n.rest ++ rest).takeWhile continuesName = n.rest
      ∧ (n.rest ++ rest).dropWhile continuesName = rest := by
  have hin : ∀ c ∈ n.rest, continuesName c = true := fun c hc =>
    continuesName_iff.2 (n.continues c hc)
  rw [List.takeWhile_append_of_pos hin, List.dropWhile_append_of_pos hin]
  cases rest with
  | nil => simp
  | cons c cs =>
      have hc : continuesName c = false := continuesName_of_isBlank (h c rfl)
      simp [hc]

end EndsToken

/-! ### Marks -/

theorem Mark.mem_table (m : Mark) : m ∈ Mark.table := by
  cases m <;> decide

theorem dropToken?_append (tok rest : List Char) : dropToken? tok (tok ++ rest) = some rest := by
  induction tok with
  | nil => rfl
  | cons c tok ih => rw [List.cons_append, dropToken?, if_pos rfl, ih]

/-- No longer mark is taken over a blank. -/
theorem spanMark?_append (m : Mark) {rest : List Char} (hrest : EndsToken rest) :
    spanMark? (m.text.toList ++ rest) = some (m, rest) := by
  have hnot {c : Char} (hc : isBlank c = false) : dropToken? [c] rest = none := by
    cases rest with
    | nil => rfl
    | cons d ds =>
        refine if_neg ?_
        rintro rfl
        exact hrest.ne_cons hc ds rfl
  have hequal := hnot (c := '=') (by decide)
  cases m <;> simp [spanMark?, Mark.table, Mark.text, dropToken?, hequal]

theorem spanMark?_eq_some {cs rest : List Char} {m : Mark} (h : spanMark? cs = some (m, rest)) :
    cs = m.text.toList ++ rest := by
  obtain ⟨m', -, hm⟩ := List.exists_of_findSome?_eq_some h
  obtain ⟨rest', hrest, heq⟩ := Option.map_eq_some_iff.1 hm
  cases heq
  exact dropToken?_eq_some hrest

theorem spanMark?_eq_none {cs : List Char} (h : spanMark? cs = none) (m : Mark)
    (rest : List Char) : cs ≠ m.text.toList ++ rest := by
  rintro rfl
  have hm := List.findSome?_eq_none_iff.1 h m m.mem_table
  rw [dropToken?_append] at hm
  cases hm

/-! ### Tokens -/

/-- The texts that are read as a token. -/
inductive Spells : List Char → Token → Prop
  | number (n : Numeral) : Spells n.chars (.number n.value)
  | name (n : NameText) : Spells n.chars (.name (String.ofList n.chars))
  | string (q : Quote) {content s : List Char} (inside : Content q.char content s) :
      Spells (q.char :: (content ++ [q.char])) (.string (String.ofList s))
  | mark (m : Mark) : Spells m.text.toList (.mark m)

/-- A token with the text that is written for it. -/
inductive Lexeme where
  | number (n : Numeral)
  | name (n : NameText)
  | string (q : Quote) (s : String)
  | mark (m : Mark)

namespace Lexeme

def token : Lexeme → Token
  | .number n => .number n.value
  | .name n => .name (String.ofList n.chars)
  | .string _ s => .string s
  | .mark m => .mark m

def chars : Lexeme → List Char
  | .number n => n.chars
  | .name n => n.chars
  | .string q s => q.char :: (s.toList.flatMap q.escape ++ [q.char])
  | .mark m => m.text.toList

theorem spells (l : Lexeme) : Spells l.chars l.token := by
  cases l with
  | number n => exact .number n
  | name n => exact .name n
  | string q s => simpa [token, chars] using Spells.string q (content_flatMap_escape q s.toList)
  | mark m => exact .mark m

end Lexeme

end Slumber.Expression
