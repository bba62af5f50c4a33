import Slumber.Decimal.Reading
import Slumber.Proofs.Decimal.Whole

/-!
# The value of decimal digits

A list of digits stands for one number, its value. The readers of whole numbers take their digits
from left to right with the number so far in hand; they read just the lists of digits, as their
values, and the one with a limit refuses just the values above it.

* `digits?_eq_some_iff` — what the reader without a limit accepts;
* `readDigits_eq_ok_iff` — what the reader with a limit accepts;
* `digitsValue_padded` — numbers filled up with zeros.
-/

namespace Slumber.Decimal

open Slumber.Text

theorem isBlank_of_isAsciiDigit {c : Char} (h : isAsciiDigit c = true) : isBlank c = false := by
  have hrange : '0' ≤ c ∧ c ≤ '9' := by simpa [isAsciiDigit] using h
  have hlow : 48 ≤ c.toNat := hrange.1
  have hhigh : c.toNat ≤ 57 := hrange.2
  simp only [isBlank, Bool.or_eq_false_iff, Bool.and_eq_false_iff, decide_eq_false_iff_not,
    beq_eq_false_iff_ne]
  omega

theorem ne_of_isAsciiDigit {c d : Char} (hc : isAsciiDigit c = true) (hd : isAsciiDigit d = false) :
    c ≠ d := by
  intro h
  rw [h, hd] at hc
  cases hc

/-! ### The value -/

/-- One more digit at the end. -/
theorem digitsValue_concat (cs : List Char) (c : Char) :
    digitsValue (cs ++ [c]) = digitsValue cs * 10 + (c.toNat - 48) := by
  simp [digitsValue]

/-- A number that digits are appended to never falls below itself. -/
theorem le_foldl_digits (cs : List Char) (k : Nat) :
    k ≤ cs.foldl (fun n c => n * 10 + (c.toNat - 48)) k := by
  induction cs generalizing k with
  | nil => exact Nat.le_refl k
  | cons c cs ih =>
      have hstep : k ≤ k * 10 + (c.toNat - 48) := by omega
      exact Nat.le_trans hstep (ih _)

theorem digitValue?_eq {c : Char} (h : isAsciiDigit c = true) :
    digitValue? c = some (c.toNat - 48) :=
  if_pos h

theorem digitValue?_eq_none_iff {c : Char} :
    digitValue? c = none ↔ isAsciiDigit c = false := by
  simp [digitValue?]

/-! ### Digits without a limit -/

/-- Nothing is read once a character was no digit. -/
theorem foldl_digitValue?_none (cs : List Char) :
    cs.foldl (fun acc c => acc.bind fun n => (digitValue? c).bind fun d => some (n * 10 + d)) none
      = none := by
  induction cs with
  | nil => rfl
  | cons c cs ih => exact ih

/-- Reading goes on from the number so far. -/
theorem foldl_digitValue?_eq_some_iff (cs : List Char) (k n : Nat) :
    cs.foldl (fun acc c => acc.bind fun n => (digitValue? c).bind fun d => some (n * 10 + d))
        (some k) = some n
      ↔ (∀ c ∈ cs, isAsciiDigit c = true)
        ∧ cs.foldl (fun n c => n * 10 + (c.toNat - 48)) k = n := by
  induction cs generalizing k with
  | nil => simp
  | cons c cs ih =>
      simp only [List.foldl_cons, Option.bind_some, List.mem_cons, forall_eq_or_imp]
      cases hc : isAsciiDigit c with
      | false =>
          rw [digitValue?_eq_none_iff.2 hc, Option.bind_none, foldl_digitValue?_none]
          simp
      | true =>
          rw [digitValue?_eq hc, Option.bind_some, ih]
          simp

/-- At least one digit is needed, and nothing but digits is read. -/
theorem digits?_eq_some_iff {cs : List Char} {n : Nat} :
    digits? cs = some n
      ↔ cs ≠ [] ∧ (∀ c ∈ cs, isAsciiDigit c = true) ∧ digitsValue cs = n := by
  cases cs with
  | nil => simp [digits?]
  | cons c cs =>
      have hfold := foldl_digitValue?_eq_some_iff (c :: cs) 0 n
      simpa [digits?, digitsValue] using hfold

/-! ### Digits within a limit -/

/-- The number only grows, so no digit takes it above the limit unless the whole value is. -/
theorem readDigits_eq_ok_iff_from {limit k n : Nat} {cs : List Char} (hk : k ≤ limit) :
    readDigits limit k cs = .ok n
      ↔ (∀ c ∈ cs, isAsciiDigit c = true)
        ∧ cs.foldl (fun n c => n * 10 + (c.toNat - 48)) k = n ∧ n ≤ limit := by
  induction cs generalizing k with
  | nil =>
      simp only [readDigits, Except.ok.injEq, List.not_mem_nil, false_implies, implies_true,
        List.foldl_nil, true_and]
      exact ⟨fun h => ⟨h, h ▸ hk⟩, fun h => h.1⟩
  | cons c cs ih =>
      cases hc : isAsciiDigit c with
      | false =>
          have hread := digitValue?_eq_none_iff.2 hc
          simp [readDigits, hread, hc]
      | true =>
          have hread := digitValue?_eq hc
          simp only [readDigits, hread, List.mem_cons, forall_eq_or_imp, hc, true_and,
            List.foldl_cons]
          by_cases hfits : k * 10 + (c.toNat - 48) ≤ limit
          · rw [if_pos hfits]
            exact ih hfits
          · rw [if_neg hfits]
            have hgrows := le_foldl_digits cs (k * 10 + (c.toNat - 48))
            constructor
            · intro h
              cases h
            · intro h
              have hvalue := h.2.1
              have hle := h.2.2
              omega

/-- Just the lists of digits with a value up to the limit are read, the empty list as zero. -/
theorem readDigits_eq_ok_iff {limit n : Nat} {cs : List Char} :
    readDigits limit 0 cs = .ok n
      ↔ (∀ c ∈ cs, isAsciiDigit c = true) ∧ digitsValue cs = n ∧ n ≤ limit :=
  readDigits_eq_ok_iff_from (Nat.zero_le limit)

/-! ### Numbers filled up with zeros -/

theorem padded_toList (width n : Nat) :
    (padded width n).toList
      = List.replicate (width - (Nat.toDigits 10 n).length) '0' ++ Nat.toDigits 10 n := by
  simp [padded]

theorem isAsciiDigit_digitChar {d : Nat} (h : d < 10) : isAsciiDigit d.digitChar = true := by
  interval_cases d <;> decide

theorem isAsciiDigit_of_mem_padded {width n : Nat} {c : Char}
    (h : c ∈ (padded width n).toList) : isAsciiDigit c = true := by
  rw [padded_toList] at h
  rcases List.mem_append.1 h with h | h
  · rw [List.eq_of_mem_replicate h]
    decide
  · obtain ⟨d, hd, rfl⟩ := exists_digit_of_mem_toDigits h
    exact isAsciiDigit_digitChar hd

theorem digitsValue_toDigits (n : Nat) : digitsValue (Nat.toDigits 10 n) = n := by
  have hdigit : ∀ d < 10, d.digitChar.toNat - 48 = d := by decide
  induction n using Nat.strongRecOn with
  | ind n ih =>
      rw [Nat.toDigits_eq_if (by decide)]
      split
      · rename_i hlt
        simpa [digitsValue] using hdigit n hlt
      · have hrest := ih (n / 10) (by omega)
        rw [digitsValue_concat, hrest, hdigit _ (Nat.mod_lt n (by decide))]
        omega

/-- Zeros in front change nothing. -/
theorem digitsValue_replicate_append (k : Nat) (cs : List Char) :
    digitsValue (List.replicate k '0' ++ cs) = digitsValue cs := by
  induction k with
  | zero => rfl
  | succ k ih => exact ih

theorem digitsValue_padded (width n : Nat) : digitsValue (padded width n).toList = n := by
  rw [padded_toList, digitsValue_replicate_append, digitsValue_toDigits]

theorem length_padded {width n : Nat} (hwidth : 0 < width) (h : n < 10 ^ width) :
    (padded width n).toList.length = width := by
  have hlen := (Nat.length_toDigits_le_iff (by decide) hwidth).2 h
  rw [padded_toList, List.length_append, List.length_replicate]
  omega

/-- A number with a width begins with a digit. -/
theorem exists_digit_of_padded {width n : Nat} (hwidth : 0 < width) (h : n < 10 ^ width) :
    ∃ d ds, (padded width n).toList = d :: ds ∧ isAsciiDigit d = true := by
  cases hcs : (padded width n).toList with
  | nil =>
      have hlen := length_padded hwidth h
      rw [hcs, List.length_nil] at hlen
      omega
  | cons d ds =>
      have hd : d ∈ (padded width n).toList := by
        rw [hcs]
        exact List.mem_cons_self
      exact ⟨d, ds, rfl, isAsciiDigit_of_mem_padded hd⟩

end Slumber.Decimal
