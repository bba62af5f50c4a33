import Slumber.Expression.Lexer
import Slumber.Proofs.Decimal.Digits

/-!
# Numbers as they are written

A number is written as digits, a fraction behind a point, and an exponent; the last two may be
missing. The scanner goes on over more than one point, and whether that is a number is asked only of
all that it took: it is one with one point at most, and its value is that of the digits, shifted by
the exponent and by the length of the fraction.

* `Numeral` — a number as it is written, and its value;
* `readFloat?_numeral`, `readFloat?_points` — what is a number, and what is none;
* `spanNumber_points`, `spanExponent_append` — what the scanner takes of a text;
* `exists_points`, `spanExponent_cases` — what there can be to take.
-/

namespace Slumber.Expression

open Slumber.Text Slumber.Decimal

/-! ### Digits -/

/-- One or more digits. -/
structure Digits where
  chars : List Char
  chars_ne_nil : chars ≠ []
  isAsciiDigit_of_mem : ∀ c ∈ chars, isAsciiDigit c = true

/-- No digit stands in front. -/
def EndsDigits (cs : List Char) : Prop :=
  ∀ c ∈ cs.head?, isAsciiDigit c = false

theorem endsDigits_nil : EndsDigits [] := fun _ h => nomatch h

theorem endsDigits_cons {c : Char} {cs : List Char} :
    EndsDigits (c :: cs) ↔ isAsciiDigit c = false := by
  simp [EndsDigits]

theorem endsDigits_dropWhile (cs : List Char) : EndsDigits (cs.dropWhile isAsciiDigit) := by
  intro c hc
  have hhead := List.head?_dropWhile_not isAsciiDigit cs
  rwa [Option.mem_def.1 hc] at hhead

namespace Digits

variable (d : Digits)

/-- A digit alone. -/
def single (c : Char) (hc : isAsciiDigit c = true) : Digits where
  chars := [c]
  chars_ne_nil := List.cons_ne_nil c []
  isAsciiDigit_of_mem := List.forall_mem_singleton.2 hc

theorem exists_cons : ∃ c cs, d.chars = c :: cs ∧ isAsciiDigit c = true := by
  cases h : d.chars with
  | nil => exact absurd h d.chars_ne_nil
  | cons c cs => exact ⟨c, cs, rfl, d.isAsciiDigit_of_mem c (by simp [h])⟩

theorem spanDigits_append {rest : List Char} (hrest : EndsDigits rest) :
    spanDigits (d.chars ++ rest) = (d.chars, rest) := by
  have hin := d.isAsciiDigit_of_mem
  rw [spanDigits, List.takeWhile_append_of_pos hin, List.dropWhile_append_of_pos hin]
  cases rest with
  | nil => simp
  | cons c cs => simp [endsDigits_cons.1 hrest]

/-- The digits of a text that begins with one, and the rest. -/
theorem exists_append {c : Char} (hc : isAsciiDigit c = true) (cs : List Char) :
    ∃ (d : Digits) (rest : List Char), c :: cs = d.chars ++ rest ∧ EndsDigits rest := by
  refine ⟨⟨c :: cs.takeWhile isAsciiDigit, List.cons_ne_nil _ _, fun x hx => ?_⟩,
    cs.dropWhile isAsciiDigit, ?_, endsDigits_dropWhile cs⟩
  · rcases List.mem_cons.1 hx with rfl | hx
    · exact hc
    · exact List.all_eq_true.1 List.all_takeWhile x hx
  · rw [List.cons_append, List.takeWhile_append_dropWhile]

end Digits

/-! ### Exponents -/

/-- A sign that can stand in front of the digits of an exponent. -/
inductive Sign where
  | plus | minus
deriving DecidableEq, Repr

def Sign.char : Sign → Char
  | .plus => '+'
  | .minus => '-'

/-- An exponent: its letter, its sign, and its digits. -/
structure Exponent where
  letter : Char
  sign : Option Sign
  digits : Digits
  letter_eq : letter = 'e' ∨ letter = 'E'

namespace Exponent

def chars (x : Exponent) : List Char :=
  x.letter :: ((x.sign.map Sign.char).toList ++ x.digits.chars)

def value (x : Exponent) : Int :=
  match x.sign with
  | some .minus => -digitsValue x.digits.chars
  | _ => digitsValue x.digits.chars

theorem readExponent?_chars (x : Exponent) :
    readExponent? ((x.sign.map Sign.char).toList ++ x.digits.chars) = some x.value := by
  obtain ⟨c, cs, hdigits, hc⟩ := x.digits.exists_cons
  have hall : x.digits.chars ≠ [] ∧ x.digits.chars.all isAsciiDigit :=
    ⟨x.digits.chars_ne_nil, List.all_eq_true.2 x.digits.isAsciiDigit_of_mem⟩
  unfold value
  rcases x.sign with _ | _ | _
  · -- Without a sign the first digit must not be taken for one.
    have hminus : c ≠ '-' := ne_of_isAsciiDigit hc (by decide)
    have hplus : c ≠ '+' := ne_of_isAsciiDigit hc (by decide)
    rw [hdigits] at hall
    simp [readExponent?, hdigits, hminus, hplus, hall]
  all_goals simp [readExponent?, Sign.char, hall]

end Exponent

/-- How an exponent is written, if there is one. -/
def exponentChars (x? : Option Exponent) : List Char :=
  (x?.map Exponent.chars).getD []

/-- The exponent, which is zero if none is written. -/
def exponentValue (x? : Option Exponent) : Int :=
  (x?.map Exponent.value).getD 0

/-! ### Numbers -/

/-- Digits, with more digits behind points. -/
def pointsChars (whole : Digits) (parts : List Digits) : List Char :=
  whole.chars ++ parts.flatMap fun d => '.' :: d.chars

/-- A number as it is written. -/
structure Numeral where
  whole : Digits
  fraction : Option Digits
  exponent : Option Exponent

namespace Numeral

def chars (n : Numeral) : List Char :=
  pointsChars n.whole n.fraction.toList ++ exponentChars n.exponent

/-- The digits behind the point. -/
def fractionChars (n : Numeral) : List Char :=
  (n.fraction.map Digits.chars).getD []

/-- The number that is written: that of all its digits, shifted by the exponent and back over the
fraction. -/
def value (n : Numeral) : Float :=
  nearestFloat (digitsValue (n.whole.chars ++ n.fractionChars))
    (exponentValue n.exponent - n.fractionChars.length)

theorem exists_cons (n : Numeral) : ∃ c cs, n.chars = c :: cs ∧ isAsciiDigit c = true := by
  obtain ⟨c, cs, hwhole, hc⟩ := n.whole.exists_cons
  exact ⟨c, _, by rw [chars, pointsChars, hwhole, List.cons_append, List.cons_append], hc⟩

end Numeral

theorem endsDigits_exponentChars (x? : Option Exponent) : EndsDigits (exponentChars x?) := by
  cases x? with
  | none => exact endsDigits_nil
  | some x =>
      refine endsDigits_cons.2 ?_
      rcases x.letter_eq with h | h <;> rw [h] <;> decide

/-- A text that begins with a digit is read without a sign, and is no word. -/
theorem readFloat?_of_digit {c : Char} (hc : isAsciiDigit c = true) (cs : List Char) :
    readFloat? (c :: cs) = readMagnitude? (c :: cs) := by
  have hminus : c ≠ '-' := ne_of_isAsciiDigit hc (by decide)
  have hplus : c ≠ '+' := ne_of_isAsciiDigit hc (by decide)
  have hlower : asciiLower c = c := by
    have hrange : '0' ≤ c ∧ c ≤ '9' := by simpa [isAsciiDigit] using hc
    have hupper : ¬ ('A' ≤ c ∧ c ≤ 'Z') := fun h =>
      absurd (Char.le_trans h.1 hrange.2) (by decide)
    rw [asciiLower, if_neg hupper]
  have hi : c ≠ 'i' := ne_of_isAsciiDigit hc (by decide)
  have hn : c ≠ 'n' := ne_of_isAsciiDigit hc (by decide)
  simp [readFloat?, hminus, hplus, hlower, hi, hn]

/-- What stands behind the digits of a number is read as its exponent. -/
def readTail? (m : Nat) (e : Int) : List Char → Option Float
  | [] => some (nearestFloat m e)
  | c :: cs =>
    if c = 'e' ∨ c = 'E' then (readExponent? cs).map fun x => nearestFloat m (e + x) else none

theorem readTail?_exponentChars (m : Nat) (e : Int) (x? : Option Exponent) :
    readTail? m e (exponentChars x?) = some (nearestFloat m (e + exponentValue x?)) := by
  cases x? with
  | none => simp [exponentChars, exponentValue, readTail?]
  | some x =>
      simp [exponentChars, exponentValue, Exponent.chars, readTail?, x.letter_eq,
        x.readExponent?_chars]

theorem readMagnitude?_whole (whole : Digits) {rest : List Char} (hrest : EndsDigits rest)
    (hpoint : ∀ cs, rest ≠ '.' :: cs) :
    readMagnitude? (whole.chars ++ rest) = readTail? (digitsValue whole.chars) 0 rest := by
  unfold readMagnitude?
  rw [whole.spanDigits_append hrest]
  dsimp only
  split
  · exact absurd rfl (hpoint _)
  · rw [if_neg fun h => whole.chars_ne_nil h.1, List.append_nil]
    cases rest <;> rfl

theorem readMagnitude?_fraction (whole d : Digits) {rest : List Char} (hrest : EndsDigits rest) :
    readMagnitude? (whole.chars ++ '.' :: (d.chars ++ rest))
      = readTail? (digitsValue (whole.chars ++ d.chars)) (-d.chars.length) rest := by
  unfold readMagnitude?
  rw [whole.spanDigits_append (endsDigits_cons.2 (by decide))]
  simp only [d.spanDigits_append hrest]
  rw [if_neg fun h => whole.chars_ne_nil h.1]
  cases rest <;> rfl

/-- An exponent does not begin with a point. -/
theorem exponentChars_ne (x? : Option Exponent) (cs : List Char) :
    exponentChars x? ≠ '.' :: cs := by
  cases x? with
  | none => exact List.cons_ne_nil _ _ ∘ Eq.symm
  | some x =>
      intro h
      obtain ⟨hletter, -⟩ := List.cons.inj h
      rcases x.letter_eq with he | he <;> rw [he] at hletter <;> exact absurd hletter (by decide)

theorem readMagnitude?_numeral (n : Numeral) : readMagnitude? n.chars = some n.value := by
  obtain ⟨whole, fraction, x?⟩ := n
  have hends := endsDigits_exponentChars x?
  cases fraction with
  | none =>
      have hread := readMagnitude?_whole whole hends (exponentChars_ne x?)
      rw [readTail?_exponentChars] at hread
      simpa [Numeral.chars, Numeral.value, Numeral.fractionChars, pointsChars] using hread
  | some d =>
      have hread := readMagnitude?_fraction whole d hends
      rw [readTail?_exponentChars, neg_add_eq_sub] at hread
      simpa [Numeral.chars, Numeral.value, Numeral.fractionChars, pointsChars] using hread

/-- **A number as it is written** is read as its value. -/
theorem readFloat?_numeral (n : Numeral) : readFloat? n.chars = some n.value := by
  obtain ⟨c, cs, hchars, hc⟩ := n.exists_cons
  rw [← readMagnitude?_numeral, hchars, readFloat?_of_digit hc]

/-- Digits with more than one point are no number. -/
theorem readFloat?_points (whole d e : Digits) (parts : List Digits) (x? : Option Exponent) :
    readFloat? (pointsChars whole (d :: e :: parts) ++ exponentChars x?) = none := by
  obtain ⟨c, cs, hwhole, hc⟩ := whole.exists_cons
  have hends : EndsDigits
      ('.' :: (e.chars ++ (parts.flatMap fun d => '.' :: d.chars) ++ exponentChars x?)) :=
    endsDigits_cons.2 (by decide)
  have hread := readMagnitude?_fraction whole d hends
  rw [hwhole, List.cons_append, ← readFloat?_of_digit hc] at hread
  simpa [pointsChars, hwhole, readTail?] using hread

/-! ### What the scanner takes -/

/-- No digit stands in front, nor a point with a digit behind it. -/
def EndsPoints (cs : List Char) : Prop :=
  EndsDigits cs ∧ ∀ rest, cs = '.' :: rest → EndsDigits rest

theorem spanNumber_of_endsPoints {cs : List Char} (h : EndsPoints cs) :
    spanNumber cs = ([], cs) := by
  cases cs with
  | nil => rfl
  | cons c cs =>
      have hnot : ¬ (isAsciiDigit c ∨ (c = '.' ∧ (cs.head?.map isAsciiDigit).getD false)) := by
        rintro (hdigit | ⟨rfl, hdigit⟩)
        · rw [endsDigits_cons.1 h.1] at hdigit
          cases hdigit
        · have hrest := h.2 cs rfl
          cases hcs : cs.head? with
          | none => simp [hcs] at hdigit
          | some d => simp [hcs, hrest d hcs] at hdigit
      rw [spanNumber, if_neg hnot]

/-- Digits are taken, and what is taken of the rest. -/
theorem spanNumber_digits {ds : List Char} (hds : ∀ c ∈ ds, isAsciiDigit c = true)
    (rest : List Char) :
    spanNumber (ds ++ rest) = (ds ++ (spanNumber rest).1, (spanNumber rest).2) := by
  induction ds with
  | nil => rfl
  | cons c ds ih =>
      obtain ⟨hc, hds⟩ := List.forall_mem_cons.1 hds
      rw [List.cons_append, spanNumber, if_pos (.inl hc), ih hds]
      rfl

theorem spanNumber_part (d : Digits) (rest : List Char) :
    spanNumber ('.' :: (d.chars ++ rest))
      = ('.' :: d.chars ++ (spanNumber rest).1, (spanNumber rest).2) := by
  obtain ⟨c, cs, hd, hc⟩ := d.exists_cons
  have hnext : ((d.chars ++ rest).head?.map isAsciiDigit).getD false = true := by simp [hd, hc]
  rw [spanNumber, if_pos (.inr ⟨rfl, hnext⟩), spanNumber_digits d.isAsciiDigit_of_mem]
  rfl

theorem spanNumber_points (whole : Digits) (parts : List Digits) {rest : List Char}
    (hrest : EndsPoints rest) :
    spanNumber (pointsChars whole parts ++ rest) = (pointsChars whole parts, rest) := by
  have hparts : spanNumber ((parts.flatMap fun d => '.' :: d.chars) ++ rest)
      = (parts.flatMap fun d => '.' :: d.chars, rest) := by
    induction parts with
    | nil => exact spanNumber_of_endsPoints hrest
    | cons d parts ih =>
        rw [List.flatMap_cons, List.append_assoc, List.cons_append, spanNumber_part, ih]
  rw [pointsChars, List.append_assoc, spanNumber_digits whole.isAsciiDigit_of_mem, hparts]

/-- A text that begins with a digit begins with digits and points that cannot be continued. -/
theorem exists_points {c : Char} (hc : isAsciiDigit c = true) (cs : List Char) :
    ∃ (whole : Digits) (parts : List Digits) (rest : List Char),
      c :: cs = pointsChars whole parts ++ rest ∧ EndsPoints rest := by
  induction hn : cs.length using Nat.strong_induction_on generalizing c cs with
  | _ n ih =>
      obtain ⟨whole, rest, hcs, hrest⟩ := Digits.exists_append hc cs
      by_cases hpoint : ∃ d ds, rest = '.' :: d :: ds ∧ isAsciiDigit d = true
      · -- The text goes on with a part, which begins with a digit and is shorter.
        obtain ⟨d, ds, rfl, hd⟩ := hpoint
        have hshorter : ds.length < n := by
          have hlength := congrArg List.length hcs
          simp only [List.length_cons, List.length_append] at hlength
          omega
        obtain ⟨part, parts, rest, hds, hends⟩ := ih _ hshorter hd ds rfl
        refine ⟨whole, part :: parts, rest, ?_, hends⟩
        rw [hcs, hds]
        simp [pointsChars]
      · refine ⟨whole, [], rest, by simpa [pointsChars] using hcs, hrest, fun cs hrest' => ?_⟩
        intro d hd
        refine Bool.eq_false_iff.2 fun hdigit => hpoint ?_
        obtain ⟨ds, rfl⟩ := List.head?_eq_some_iff.1 hd
        exact ⟨d, ds, hrest', hdigit⟩

/-- A sign is taken if there is one, and then digits; without digits nothing is taken. -/
theorem spanExponent_signed {letter : Char} (hletter : letter = 'e' ∨ letter = 'E')
    (sign : Option Sign) {ds : List Char} (hds : sign = none → ∀ s : Sign, ds.head? ≠ some s.char) :
    spanExponent (letter :: ((sign.map Sign.char).toList ++ ds))
      = if (spanDigits ds).1.isEmpty then ([], letter :: ((sign.map Sign.char).toList ++ ds))
        else (letter :: ((sign.map Sign.char).toList ++ (spanDigits ds).1), (spanDigits ds).2) := by
  rcases sign with _ | _ | _
  · cases ds with
    | nil => simp [spanExponent, hletter]
    | cons c ds =>
        have hplus : c ≠ '+' := fun h => hds rfl .plus (congrArg some h)
        have hminus : c ≠ '-' := fun h => hds rfl .minus (congrArg some h)
        simp [spanExponent, hletter, hplus, hminus]
  all_goals simp [spanExponent, hletter, Sign.char]

theorem spanExponent_append (x : Exponent) {rest : List Char} (hrest : EndsDigits rest) :
    spanExponent (x.chars ++ rest) = (x.chars, rest) := by
  obtain ⟨c, cs, hdigits, hc⟩ := x.digits.exists_cons
  have hsign : x.sign = none → ∀ s : Sign, (x.digits.chars ++ rest).head? ≠ some s.char := by
    intro _ s h
    rw [hdigits, List.cons_append, List.head?_cons] at h
    rw [Option.some.inj h] at hc
    cases s <;> cases hc
  have hne : ¬ x.digits.chars.isEmpty := by simp [hdigits]
  rw [Exponent.chars, List.cons_append, List.append_assoc,
    spanExponent_signed x.letter_eq x.sign hsign, x.digits.spanDigits_append hrest, if_neg hne]

/-- The sign that a text begins with, if it begins with one. -/
theorem exists_sign (cs : List Char) : ∃ (sign : Option Sign) (ds : List Char),
    cs = (sign.map Sign.char).toList ++ ds
      ∧ (sign = none → ∀ s : Sign, ds.head? ≠ some s.char) := by
  by_cases h : ∃ s : Sign, cs.head? = some s.char
  · obtain ⟨s, hs⟩ := h
    obtain ⟨ds, rfl⟩ := List.head?_eq_some_iff.1 hs
    exact ⟨some s, ds, rfl, fun hnone => nomatch hnone⟩
  · exact ⟨none, cs, rfl, fun _ s hs => h ⟨s, hs⟩⟩

/-- An exponent stands in front and is taken, or nothing is. -/
theorem spanExponent_cases (cs : List Char) : ∃ (x? : Option Exponent) (rest : List Char),
    cs = exponentChars x? ++ rest ∧ spanExponent cs = (exponentChars x?, rest) := by
  have hnothing (h : spanExponent cs = ([], cs)) : ∃ (x? : Option Exponent) (rest : List Char),
      cs = exponentChars x? ++ rest ∧ spanExponent cs = (exponentChars x?, rest) :=
    ⟨none, cs, rfl, h⟩
  cases cs with
  | nil => exact hnothing rfl
  | cons letter cs =>
      by_cases hletter : letter = 'e' ∨ letter = 'E'
      case neg => exact hnothing (if_neg hletter)
      obtain ⟨sign, ds, rfl, hds⟩ := exists_sign cs
      have hspan := spanExponent_signed hletter sign hds
      cases ds with
      | nil => exact hnothing hspan
      | cons c ds =>
          cases hc : isAsciiDigit c with
          | false => exact hnothing (by rw [hspan]; simp [spanDigits, hc])
          | true =>
              obtain ⟨digits, rest, hdigits, hrest⟩ := Digits.exists_append hc ds
              refine ⟨some ⟨letter, sign, digits, hletter⟩, rest, ?_, ?_⟩
              · simp [exponentChars, Exponent.chars, hdigits]
              · rw [hdigits]
                have htaken := spanExponent_append ⟨letter, sign, digits, hletter⟩ hrest
                simpa [exponentChars, Exponent.chars] using htaken

end Slumber.Expression
