import Slumber.Proofs.Expression.Lexemes

/-!
# Scanning undoes writing

Writing tokens down with white space between them loses nothing: the scanner finds them again. And
what it finds is all there is: every text is scanned to its end, or up to a place where no token can
be read, and only blanks between the tokens are passed over.

* `scanToken_of_spells` — a token is read from its texts;
* `Stuck`, `Found`, `found_scanToken` — nothing else is read as a token, and why none may be there;
* `written`, `scanTokens_written` — tokens that were written are read again;
* `Scans`, `scans_scanTokens` — what a scan does with any text;
* `scan_inverts_writing` — both.
-/

namespace Slumber.Expression

open Slumber.Text Slumber.Decimal

/-! ### One token -/

section

variable {c : Char} {cs : List Char}

theorem scanToken_of_digit (hc : isAsciiDigit c = true) {whole exponent behind rest : List Char}
    (hnumber : spanNumber (c :: cs) = (whole, behind))
    (hexponent : spanExponent behind = (exponent, rest)) :
    scanToken c cs = match readFloat? (whole ++ exponent) with
      | some x => .ok (.number x, rest)
      | none => .error (.invalidNumber (String.ofList (whole ++ exponent))) := by
  cases hread : readFloat? (whole ++ exponent) <;>
    simp only [scanToken, hc, if_true, hnumber, hexponent, hread]

theorem scanToken_of_startsName (hc : startsName c = true) :
    scanToken c cs = .ok (.name (String.ofList (c :: cs.takeWhile continuesName)),
      cs.dropWhile continuesName) := by
  rw [scanToken, isAsciiDigit_of_startsName hc, hc]
  rfl

theorem scanToken_of_quote (q : Quote) :
    scanToken q.char cs = match spanString q.char cs with
      | some (s, rest) => .ok (.string (String.ofList s), rest)
      | none => .error .unterminatedString := by
  cases q <;> rfl

theorem scanToken_of_other (hdigit : isAsciiDigit c = false) (hname : startsName c = false)
    (hquote : ∀ q : Quote, c ≠ q.char) :
    scanToken c cs = match spanMark? (c :: cs) with
      | some (m, rest) => .ok (.mark m, rest)
      | none => .error (.unexpectedCharacter c) := by
  have hneither : ¬ (c = '\'' ∨ c = '"') := fun h => h.elim (hquote .single) (hquote .double)
  rw [scanToken, hdigit, hname, if_neg hneither]
  rfl

end

/-- A token is read from each of its texts, if white space or nothing follows. -/
theorem scanToken_of_spells {cs rest : List Char} {t : Token} (h : Spells cs t)
    (hrest : EndsToken rest) : ∃ c ds, cs = c :: ds ∧ isBlank c = false
      ∧ scanToken c (ds ++ rest) = .ok (t, rest) := by
  cases h with
  | number n =>
      obtain ⟨c, ds, hchars, hc⟩ := n.exists_cons
      have hnumber := spanNumber_points n.whole n.fraction.toList (hrest.endsPoints n.exponent)
      rw [← List.append_assoc, ← Numeral.chars, hchars, List.cons_append] at hnumber
      refine ⟨c, ds, hchars, isBlank_of_isAsciiDigit hc, ?_⟩
      rw [scanToken_of_digit hc hnumber (hrest.spanExponent_eq n.exponent), ← Numeral.chars,
        readFloat?_numeral]
  | name n =>
      have hstarts : startsName n.first = true := startsName_iff.2 n.starts
      have hblank : isBlank n.first = false := Bool.eq_false_iff.2 fun hblank => by
        have hcontinues := continuesName_of_startsName hstarts
        rw [continuesName_of_isBlank hblank] at hcontinues
        cases hcontinues
      obtain ⟨htake, hdrop⟩ := hrest.span_name n
      refine ⟨n.first, n.rest, rfl, hblank, ?_⟩
      rw [scanToken_of_startsName hstarts, htake, hdrop, NameText.chars]
  | @string q content s hcontent =>
      have hspan : spanString q.char (content ++ q.char :: rest) = some (s, rest) :=
        (spanString_eq_some_iff q.char_ne).2 ⟨content, rfl, hcontent⟩
      refine ⟨q.char, content ++ [q.char], rfl, by cases q <;> decide, ?_⟩
      rw [scanToken_of_quote, List.append_assoc, List.singleton_append, hspan]
  | mark m =>
      obtain ⟨c, ds, hm, hblank, hdigit, hname, hquote⟩ : ∃ c ds, m.text.toList = c :: ds
          ∧ isBlank c = false ∧ isAsciiDigit c = false ∧ startsName c = false
          ∧ ∀ q : Quote, c ≠ q.char := by
        cases m <;> refine ⟨_, _, rfl, by decide, by decide, by decide, fun q => ?_⟩ <;>
          cases q <;> decide
      have hspan := spanMark?_append m hrest
      rw [hm, List.cons_append] at hspan
      exact ⟨c, ds, hm, hblank, by rw [scanToken_of_other hdigit hname hquote, hspan]⟩

/-- Why no token can be read where a text begins. -/
inductive Stuck : ParseFault → List Char → Prop
  /-- There are two points, or more, in the digits. -/
  | number (whole d e : Digits) (parts : List Digits) (exponent : Option Exponent)
      (rest : List Char) :
      Stuck (.invalidNumber
          (String.ofList (pointsChars whole (d :: e :: parts) ++ exponentChars exponent)))
        (pointsChars whole (d :: e :: parts) ++ exponentChars exponent ++ rest)
  /-- Nothing behind the quote ends the string. -/
  | string (q : Quote) {cs : List Char}
      (unended : ∀ content s rest, Content q.char content s → cs ≠ content ++ q.char :: rest) :
      Stuck .unterminatedString (q.char :: cs)
  /-- No token begins with the character. -/
  | character {c : Char} {cs : List Char} (visible : isBlank c = false)
      (digit : isAsciiDigit c = false)
      (name : ¬ (isAlphabetic c = true ∨ c = '_' ∨ c = '$')) (quote : ∀ q : Quote, c ≠ q.char)
      (mark : ∀ (m : Mark) rest, c :: cs ≠ m.text.toList ++ rest) :
      Stuck (.unexpectedCharacter c) (c :: cs)

/-- What the scanner can find at a text: a token that is read from one of its texts, with the rest
behind it, or a place where no token can be read. -/
inductive Found (cs : List Char) : Except ParseFault (Token × List Char) → Prop
  | token {front rest : List Char} {t : Token} (visible : front ≠ []) (taken : cs = front ++ rest)
      (spells : Spells front t) : Found cs (.ok (t, rest))
  | stuck {e : ParseFault} (why : Stuck e cs) : Found cs (.error e)

section

variable {c : Char}

/-- Digits are a number, if there is one point at most. -/
theorem found_number (hc : isAsciiDigit c = true) (cs : List Char) :
    Found (c :: cs) (scanToken c cs) := by
  obtain ⟨whole, parts, behind, hcs, hbehind⟩ := exists_points hc cs
  obtain ⟨x?, rest, rfl, hexponent⟩ := spanExponent_cases behind
  have hnumber := spanNumber_points whole parts hbehind
  rw [← hcs] at hnumber
  rw [scanToken_of_digit hc hnumber hexponent]
  rw [← List.append_assoc] at hcs
  obtain ⟨fraction, rfl⟩ | ⟨d, e, parts, rfl⟩ :
      (∃ fraction : Option Digits, parts = fraction.toList)
        ∨ ∃ d e others, parts = d :: e :: others := by
    rcases parts with _ | ⟨d, _ | ⟨e, parts⟩⟩
    exacts [.inl ⟨none, rfl⟩, .inl ⟨some d, rfl⟩, .inr ⟨d, e, parts, rfl⟩]
  · let n : Numeral := ⟨whole, fraction, x?⟩
    have hread : readFloat? (pointsChars whole fraction.toList ++ exponentChars x?)
        = some n.value := readFloat?_numeral n
    obtain ⟨d, ds, hn, -⟩ := n.exists_cons
    have hne : n.chars ≠ [] := by simp [hn]
    rw [hread]
    exact .token hne hcs (.number n)
  · rw [readFloat?_points, hcs]
    exact .stuck (.number whole d e parts x? rest)

theorem found_name (hc : startsName c = true) (cs : List Char) :
    Found (c :: cs) (scanToken c cs) := by
  rw [scanToken_of_startsName hc]
  have hin : ∀ x ∈ cs.takeWhile continuesName, isAlphanumeric x = true ∨ x = '_' ∨ x = '$' :=
    fun x hx => continuesName_iff.1 (List.all_eq_true.1 List.all_takeWhile x hx)
  have htaken : c :: cs
      = (c :: cs.takeWhile continuesName) ++ cs.dropWhile continuesName := by
    rw [List.cons_append, List.takeWhile_append_dropWhile]
  exact .token (List.cons_ne_nil _ _) htaken (.name ⟨c, _, startsName_iff.1 hc, hin⟩)

theorem found_string (q : Quote) (cs : List Char) :
    Found (q.char :: cs) (scanToken q.char cs) := by
  rw [scanToken_of_quote]
  cases hspan : spanString q.char cs with
  | some p =>
      obtain ⟨s, rest⟩ := p
      obtain ⟨content, rfl, hcontent⟩ := (spanString_eq_some_iff q.char_ne).1 hspan
      exact .token (List.cons_ne_nil _ _) (by simp) (.string q hcontent)
  | none =>
      refine .stuck (.string q fun content s rest hcontent hcs => ?_)
      rw [(spanString_eq_some_iff q.char_ne).2 ⟨content, hcs, hcontent⟩] at hspan
      cases hspan

theorem found_mark (hblank : isBlank c = false) (hdigit : isAsciiDigit c = false)
    (hname : startsName c = false) (hquote : ∀ q : Quote, c ≠ q.char) (cs : List Char) :
    Found (c :: cs) (scanToken c cs) := by
  rw [scanToken_of_other hdigit hname hquote]
  cases hspan : spanMark? (c :: cs) with
  | some p =>
      obtain ⟨m, rest⟩ := p
      have hne : m.text.toList ≠ [] := by cases m <;> decide
      exact .token hne (spanMark?_eq_some hspan) (.mark m)
  | none =>
      have hname' : ¬ (isAlphabetic c = true ∨ c = '_' ∨ c = '$') := fun h => by
        rw [startsName_iff.2 h] at hname
        cases hname
      exact .stuck (.character hblank hdigit hname' hquote (spanMark?_eq_none hspan))

/-- **Step.**  At a character that is not blank a token is read from one of its texts, or none can
be read. -/
theorem found_scanToken (hc : isBlank c = false) (cs : List Char) :
    Found (c :: cs) (scanToken c cs) := by
  cases hdigit : isAsciiDigit c with
  | true => exact found_number hdigit cs
  | false =>
      cases hname : startsName c with
      | true => exact found_name hname cs
      | false =>
          by_cases hquote : ∃ q : Quote, c = q.char
          · obtain ⟨q, rfl⟩ := hquote
            exact found_string q cs
          · exact found_mark hc hdigit hname (not_exists.1 hquote) cs

end

/-! ### All tokens -/

section

variable {c : Char} {cs rest : List Char}

theorem scanTokens_blank (hc : isBlank c = true) (fuel : Nat) (cs : List Char) :
    scanTokens (fuel + 1) (c :: cs) = scanTokens fuel cs := by
  rw [scanTokens, if_pos hc]

theorem scanTokens_token {t : Token} (hc : isBlank c = false)
    (htoken : scanToken c cs = .ok (t, rest)) (fuel : Nat) :
    scanTokens (fuel + 1) (c :: cs) = (scanTokens fuel rest).map (t :: ·) := by
  simp only [scanTokens, hc, htoken, Bool.false_eq_true, if_false]
  cases scanTokens fuel rest <;> rfl

theorem scanTokens_stuck {e : ParseFault} (hc : isBlank c = false)
    (htoken : scanToken c cs = .error e) (fuel : Nat) :
    scanTokens (fuel + 1) (c :: cs) = .error e := by
  simp only [scanTokens, hc, htoken, Bool.false_eq_true, if_false]

end

/-- White space of any length. -/
structure Blanks where
  chars : List Char
  isBlank_of_mem : ∀ c ∈ chars, isBlank c = true

namespace Blanks

def empty : Blanks := ⟨[], List.forall_mem_nil _⟩

def space : Blanks := ⟨[' '], List.forall_mem_singleton.2 rfl⟩

theorem scanTokens_append (b : Blanks) (fuel : Nat) (cs : List Char) :
    scanTokens (b.chars.length + fuel) (b.chars ++ cs) = scanTokens fuel cs := by
  obtain ⟨gap, hgap⟩ := b
  induction gap with
  | nil => rw [List.length_nil, Nat.zero_add, List.nil_append]
  | cons c gap ih =>
      obtain ⟨hc, hgap⟩ := List.forall_mem_cons.1 hgap
      rw [List.length_cons, List.cons_append, Nat.add_right_comm, scanTokens_blank hc]
      exact ih hgap

theorem endsToken_append (b : Blanks) {cs : List Char} (h : b.chars = [] → EndsToken cs) :
    EndsToken (b.chars ++ cs) := by
  obtain ⟨_ | ⟨c, gap⟩, hgap⟩ := b
  · exact h rfl
  · rintro d hd
    cases Option.some.inj hd
    exact hgap c List.mem_cons_self

end Blanks

/-- Tokens as they are written: each behind its white space, and some at the end. -/
def written (ls : List (Blanks × Lexeme)) (trail : Blanks) : List Char :=
  ls.flatMap (fun p => p.1.chars ++ p.2.chars) ++ trail.chars

theorem written_nil (trail : Blanks) : written [] trail = trail.chars := rfl

theorem written_cons (b : Blanks) (l : Lexeme) (ls : List (Blanks × Lexeme)) (trail : Blanks) :
    written ((b, l) :: ls) trail = b.chars ++ (l.chars ++ written ls trail) := by
  simp [written]

theorem endsToken_written {ls : List (Blanks × Lexeme)} (h : ∀ p ∈ ls, p.1.chars ≠ [])
    (trail : Blanks) : EndsToken (written ls trail) := by
  cases ls with
  | nil =>
      rw [written_nil, ← List.append_nil trail.chars]
      exact trail.endsToken_append fun _ _ hc => nomatch hc
  | cons p ls =>
      have hgap : p.1.chars ≠ [] := h p List.mem_cons_self
      rw [written_cons]
      exact p.1.endsToken_append fun hnil => absurd hnil hgap

/-- **Run.**  What was written is read again, within as many steps as it has characters. -/
theorem scanTokens_written {ls : List (Blanks × Lexeme)} (hsep : ∀ p ∈ ls.tail, p.1.chars ≠ [])
    (trail : Blanks) {fuel : Nat} (hfuel : (written ls trail).length ≤ fuel) :
    scanTokens fuel (written ls trail) = .ok (ls.map fun p => p.2.token) := by
  induction ls generalizing fuel with
  | nil =>
      obtain ⟨fuel, rfl⟩ := Nat.exists_eq_add_of_le hfuel
      have htrail := trail.scanTokens_append fuel []
      rw [List.append_nil] at htrail
      rw [written_nil, htrail]
      cases fuel <;> rfl
  | cons p ls ih =>
      obtain ⟨gap, l⟩ := p
      rw [List.tail_cons] at hsep
      obtain ⟨c, cs, hl, hc, htoken⟩ := scanToken_of_spells l.spells (endsToken_written hsep trail)
      rw [written_cons, hl, List.cons_append] at hfuel ⊢
      obtain ⟨fuel, rfl⟩ : ∃ k, fuel = gap.chars.length + (k + 1) := by
        refine ⟨fuel - gap.chars.length - 1, ?_⟩
        simp only [List.length_append, List.length_cons] at hfuel
        omega
      have hrest : (written ls trail).length ≤ fuel := by
        simp only [List.length_append, List.length_cons] at hfuel
        omega
      rw [gap.scanTokens_append, scanTokens_token hc htoken,
        ih (fun q hq => hsep q (List.mem_of_mem_tail hq)) hrest]
      rfl

theorem scan_written {ls : List (Blanks × Lexeme)} (hsep : ∀ p ∈ ls.tail, p.1.chars ≠ [])
    (trail : Blanks) :
    Token.scan (String.ofList (written ls trail)) = .ok (ls.map fun p => p.2.token) := by
  rw [Token.scan, String.toList_ofList, String.length_ofList]
  exact scanTokens_written hsep trail (Nat.le_refl _)

/-- How a text can be scanned: blanks are passed over, tokens are read from their texts, and the
scan ends behind the last character, or where no token can be read. -/
inductive Scans : List Char → Except ParseFault (List Token) → Prop
  | ended : Scans [] (.ok [])
  | stuck {cs : List Char} {e : ParseFault} (why : Stuck e cs) : Scans cs (.error e)
  | blank {c : Char} {cs : List Char} {r : Except ParseFault (List Token)}
      (blank : isBlank c = true) (rest : Scans cs r) : Scans (c :: cs) r
  | token {front cs : List Char} {t : Token} {r : Except ParseFault (List Token)}
      (spells : Spells front t) (rest : Scans cs r) : Scans (front ++ cs) (r.map (t :: ·))

/-- **Run.**  As many steps as there are characters are enough for a scan to end. -/
theorem scans_scanTokens {cs : List Char} {fuel : Nat} (hfuel : cs.length ≤ fuel) :
    Scans cs (scanTokens fuel cs) := by
  induction fuel generalizing cs with
  | zero =>
      obtain rfl := List.eq_nil_of_length_eq_zero (Nat.le_zero.1 hfuel)
      exact .ended
  | succ fuel ih =>
      cases cs with
      | nil => exact .ended
      | cons c cs =>
          have hcs : cs.length ≤ fuel := Nat.le_of_succ_le_succ hfuel
          cases hblank : isBlank c with
          | true =>
              rw [scanTokens_blank hblank]
              exact .blank hblank (ih hcs)
          | false =>
              have hfound := found_scanToken hblank cs
              generalize htoken : scanToken c cs = step at hfound
              cases hfound with
              | stuck why =>
                  rw [scanTokens_stuck hblank htoken]
                  exact .stuck why
              | @token front rest t visible taken spells =>
                  -- A token has a character at least, so the rest is shorter.
                  have hrest : rest.length ≤ fuel := by
                    have hlength := congrArg List.length taken
                    have hpos := List.length_pos_iff.2 visible
                    simp only [List.length_cons, List.length_append] at hlength
                    omega
                  rw [scanTokens_token hblank htoken, taken]
                  exact .token spells (ih hrest)

/-! The three ways to be stuck. -/

example : Token.scan "var0 @ 1" = .error (.unexpectedCharacter '@') := rfl

example : Token.scan "'open" = .error .unterminatedString := rfl

example : Token.scan "1.2.3e4x" = .error (.invalidNumber "1.2.3e4") := rfl

/-- **Scanning undoes writing.**  Tokens that are written down with white space between them are
read again as these tokens, a number as the value of its text. And every text is scanned to its end,
or up to where no token can be read, without a character that is passed over but for the blanks
between tokens. -/
theorem scan_inverts_writing :
    (∀ (ls : List (Blanks × Lexeme)) (trail : Blanks), (∀ p ∈ ls.tail, p.1.chars ≠ []) →
      Token.scan (String.ofList (written ls trail)) = .ok (ls.map fun p => p.2.token))
    ∧ ∀ source : String, Scans source.toList (Token.scan source) :=
  ⟨fun _ trail hsep => scan_written hsep trail,
    fun _ => scans_scanTokens (Nat.le_of_eq String.length_toList)⟩

/-- The name of the first placeholder. -/
def var0 : NameText where
  first := 'v'
  rest := ['a', 'r', '0']
  starts := .inl rfl
  continues := List.forall_mem_cons.2
    ⟨.inl rfl, List.forall_mem_cons.2 ⟨.inl rfl, List.forall_mem_singleton.2 (.inl rfl)⟩⟩

/-- The tokens of a comparison of a variable with a number and of a string with an escaped quote. -/
def sampleTokens : List (Blanks × Lexeme) :=
  [(.empty, .name var0),
   (.space, .mark .greaterOrEqual),
   (.space, .number ⟨.single '1' rfl, some (.single '5' rfl),
     some ⟨'e', none, .single '3' rfl, .inl rfl⟩⟩),
   (.space, .mark .and),
   (.space, .string .single "a'b")]

theorem scan_inverts_writing_sample :
    (∀ p ∈ sampleTokens.tail, p.1.chars ≠ [])
    ∧ Token.scan "var0 >= 1.5e3 && 'a\\'b'"
      = .ok [.name "var0", .mark .greaterOrEqual, .number (nearestFloat 15 2), .mark .and,
          .string "a'b"] := by
  have hsep : ∀ p ∈ sampleTokens.tail, p.1.chars ≠ [] := by decide
  exact ⟨hsep, scan_inverts_writing.1 sampleTokens .empty hsep⟩

end Slumber.Expression
