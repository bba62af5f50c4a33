import Mathlib.Algebra.Order.BigOperators.Group.List
import Slumber.Proofs.Decimal.Digits
import Slumber.Proofs.Decimal.Whole
import Slumber.Proofs.Expression.Overflow
import Slumber.Proofs.Time.Days

/-!
# Shifting by a written period

A written period is an optional minus sign and one or more groups, each of them decimal digits and
the letter of a unit. The reader goes through a period character by character, with the sum so far
and the digits of the group that it is in; it accepts just the written periods whose amounts and
total fit 64 bits, and gives their sums. An instant moves by that sum and keeps its fraction, so a
period after another one moves it by both, and a period with a minus sign in front takes back what
the period did.

* `Period.sumGroups?_eq_some_iff` — what the reader accepts from any point on;
* `Period.seconds?_eq_some_iff` — the periods that are read, and as what;
* `Instant.shift_moves_by_written_period` — the main theorem.
-/

namespace Slumber

open Slumber.Text Slumber.Decimal

namespace Period

/-! ### Written periods -/

/-- A unit of time with a letter of its own. -/
inductive TimeUnit where
  | day
  | hour
  | minute
  | second
deriving DecidableEq, Repr

/-- The letter behind the amount. -/
def TimeUnit.letter : TimeUnit → Char
  | .day => 'd'
  | .hour => 'h'
  | .minute => 'm'
  | .second => 's'

/-- The length of one unit. -/
def TimeUnit.seconds : TimeUnit → Nat
  | .day => 86400
  | .hour => 3600
  | .minute => 60
  | .second => 1

/-- An amount of one unit, in writing. -/
structure Group where
  digits : List Char
  unit : TimeUnit
  digits_ne_nil : digits ≠ []
  isAsciiDigit_of_mem : ∀ c ∈ digits, isAsciiDigit c = true

namespace Group

variable (g : Group)

def text : List Char :=
  g.digits ++ [g.unit.letter]

def amount : Nat :=
  digitsValue g.digits

def seconds : Nat :=
  g.amount * g.unit.seconds

end Group

/-- A period in writing. -/
structure Written where
  isNegative : Bool
  groups : List Group
  groups_ne_nil : groups ≠ []

namespace Written

variable (w : Written)

def text : List Char :=
  (if w.isNegative then ['-'] else []) ++ w.groups.flatMap Group.text

/-- The length of the period, whatever its sign. -/
def total : Nat :=
  (w.groups.map Group.seconds).sum

def seconds : Int :=
  if w.isNegative then -w.total else w.total

theorem natAbs_seconds : w.seconds.natAbs = w.total := by
  unfold seconds
  split <;> simp

/-- Whether each amount and the total fit 64 bits with a sign. -/
def Fits : Prop :=
  (∀ g ∈ w.groups, g.amount ≤ maxSigned64) ∧ w.total ≤ maxSigned64

/-- No amount is above the total in seconds, since no unit is shorter than a second. -/
theorem amount_le_total {g : Group} (h : g ∈ w.groups) : g.amount ≤ w.total := by
  have hunit : 1 ≤ g.unit.seconds := by
    cases g.unit <;> decide
  have hsum : g.seconds ≤ w.total := List.single_le_sum (by simp) _ (List.mem_map_of_mem h)
  exact Nat.le_trans (Nat.le_mul_of_pos_right g.amount hunit) hsum

variable {w} in
theorem fits_of_total_le (h : w.total ≤ maxSigned64) : w.Fits :=
  ⟨fun _ hg => Nat.le_trans (w.amount_le_total hg) h, h⟩

/-- The period with the groups of another one behind its own. -/
def followedBy (x : Written) : Written :=
  ⟨w.isNegative, w.groups ++ x.groups, by simp [w.groups_ne_nil]⟩

/-- The period with a minus sign in front. -/
def opposite : Written :=
  ⟨true, w.groups, w.groups_ne_nil⟩

variable {w} {x : Written}

theorem text_followedBy (hx : x.isNegative = false) :
    (w.followedBy x).text = w.text ++ x.text := by
  have hplain : x.text = x.groups.flatMap Group.text := by
    rw [text, hx]
    rfl
  rw [hplain, text, text, List.append_assoc, ← List.flatMap_append]
  rfl

theorem seconds_followedBy (hw : w.isNegative = false) (hx : x.isNegative = false) :
    (w.followedBy x).seconds = w.seconds + x.seconds := by
  simp [followedBy, seconds, total, hw, hx]

theorem text_opposite (hw : w.isNegative = false) : w.opposite.text = '-' :: w.text := by
  simp [opposite, text, hw]

theorem seconds_opposite (hw : w.isNegative = false) : w.opposite.seconds = -w.seconds := by
  simp [opposite, seconds, total, hw]

end Written

/-! ### The characters of a period -/

@[simp] theorem TimeUnit.isAsciiDigit_letter (u : TimeUnit) : isAsciiDigit u.letter = false := by
  cases u <;> decide

theorem unitSeconds?_letter (u : TimeUnit) : unitSeconds? u.letter = some u.seconds := by
  cases u <;> rfl

/-- Only the four letters name a unit. -/
theorem exists_unit_of_unitSeconds? {c : Char} {n : Nat} (h : unitSeconds? c = some n) :
    ∃ u : TimeUnit, u.letter = c ∧ u.seconds = n := by
  unfold unitSeconds? at h
  split at h
  · exact ⟨.day, rfl, Option.some.inj h⟩
  · exact ⟨.hour, rfl, Option.some.inj h⟩
  · exact ⟨.minute, rfl, Option.some.inj h⟩
  · exact ⟨.second, rfl, Option.some.inj h⟩
  · cases h

/-- Groups begin with a digit. -/
theorem exists_digit_of_flatMap_text {groups : List Group} (h : groups ≠ []) :
    ∃ c cs, groups.flatMap Group.text = c :: cs ∧ isAsciiDigit c = true := by
  cases groups with
  | nil => exact absurd rfl h
  | cons g gs =>
      cases hdigits : g.digits with
      | nil => exact absurd hdigits g.digits_ne_nil
      | cons c cs =>
          have hdigit := g.isAsciiDigit_of_mem c (by simp [hdigits])
          refine ⟨c, cs ++ [g.unit.letter] ++ gs.flatMap Group.text, ?_, hdigit⟩
          rw [List.flatMap_cons, Group.text, hdigits, List.cons_append, List.cons_append]

/-- Groups are never digits alone: each ends in a letter. -/
theorem eq_nil_of_flatMap_text_digits {groups : List Group}
    (h : ∀ c ∈ groups.flatMap Group.text, isAsciiDigit c = true) : groups = [] := by
  cases groups with
  | nil => rfl
  | cons g gs =>
      have hletter := h g.unit.letter (by simp [Group.text])
      rw [TimeUnit.isAsciiDigit_letter] at hletter
      cases hletter

/-- The digits before the first letter are those of the first group. -/
theorem eq_of_digits_append_eq {ds cs s : List Char} {c : Char} {g : Group}
    (hds : ∀ d ∈ ds, isAsciiDigit d = true) (hc : isAsciiDigit c = false)
    (h : ds ++ c :: cs = g.text ++ s) : g.digits = ds ∧ g.unit.letter = c ∧ cs = s := by
  rw [Group.text, List.append_assoc, List.singleton_append] at h
  have hfront := congrArg (List.takeWhile isAsciiDigit) h
  have hletter := g.unit.isAsciiDigit_letter
  rw [List.takeWhile_append_of_pos hds, List.takeWhile_append_of_pos g.isAsciiDigit_of_mem,
    List.takeWhile_cons_of_neg (by simp [hc]), List.takeWhile_cons_of_neg (by simp [hletter]),
    List.append_nil, List.append_nil] at hfront
  rw [hfront] at h
  have hrest := List.cons.inj (List.append_cancel_left h)
  exact ⟨hfront.symm, hrest.1.symm, hrest.2⟩

/-- No blank stands in a written period. -/
theorem Written.isBlank_of_mem_text {w : Written} {c : Char} (h : c ∈ w.text) :
    isBlank c = false := by
  rcases List.mem_append.1 h with h | h
  · have hsign : c = '-' := by
      split at h
      · exact List.mem_singleton.1 h
      · cases h
    rw [hsign]
    decide
  · obtain ⟨g, -, hg⟩ := List.mem_flatMap.1 h
    rcases List.mem_append.1 hg with hdigit | hletter
    · exact isBlank_of_isAsciiDigit (g.isAsciiDigit_of_mem c hdigit)
    · rw [List.mem_singleton.1 hletter]
      cases g.unit <;> decide

theorem Written.trimChars_text (w : Written) : trimChars w.text = w.text :=
  trimChars_of_not_blank fun _ h => isBlank_of_mem_text h

/-! ### Reading the groups -/

/-- The reader has added up whole groups and holds the digits of the one it is in. What it accepts
from there on are the groups that those digits and the rest of the text are. -/
theorem sumGroups?_eq_some_iff {total n : Nat} {digits cs : List Char}
    (htotal : total ≤ maxSigned64) (hdigits : ∀ d ∈ digits, isAsciiDigit d = true) :
    sumGroups? total digits cs = some n
      ↔ ∃ groups : List Group, digits.reverse ++ cs = groups.flatMap Group.text
        ∧ (∀ g ∈ groups, g.amount ≤ maxSigned64)
        ∧ total + (groups.map Group.seconds).sum = n ∧ n ≤ maxSigned64 := by
  induction cs generalizing total digits with
  | nil =>
      rw [sumGroups?, List.append_nil]
      constructor
      · intro h
        split at h
        · rename_i hempty
          rw [List.isEmpty_iff.1 hempty]
          have hn := Option.some.inj h
          exact ⟨[], rfl, by simp, hn, hn ▸ htotal⟩
        · cases h
      · intro h
        obtain ⟨groups, htext, -, hsum, -⟩ := h
        have hnil : groups = [] := by
          apply eq_nil_of_flatMap_text_digits
          intro d hd
          rw [← htext, List.mem_reverse] at hd
          exact hdigits d hd
        subst hnil
        rw [List.reverse_eq_nil_iff.1 htext]
        exact congrArg some hsum
  | cons c cs ih =>
      cases hc : isAsciiDigit c with
      | true =>
          have hmore : ∀ d ∈ c :: digits, isAsciiDigit d = true := by
            simpa [hc] using hdigits
          have hread := ih htotal hmore
          rw [List.reverse_cons, List.append_assoc, List.singleton_append] at hread
          rw [sumGroups?, if_pos hc]
          exact hread
      | false =>
          have hreverse : ∀ d ∈ digits.reverse, isAsciiDigit d = true := by
            simpa using hdigits
          rw [sumGroups?, hc]
          constructor
          · intro h
            obtain ⟨unit, hunit, h⟩ := Option.bind_eq_some_iff.1 h
            obtain ⟨amount, hamount, h⟩ := Option.bind_eq_some_iff.1 h
            obtain ⟨u, rfl, rfl⟩ := exists_unit_of_unitSeconds? hunit
            obtain ⟨hne, -, rfl⟩ := digits?_eq_some_iff.1 hamount
            dsimp only at h
            split at h
            · rename_i hfits
              obtain ⟨gs, htext, hamounts, hsum, hn⟩ := (ih hfits.2 (by simp)).1 h
              let g : Group := ⟨digits.reverse, u, hne, hreverse⟩
              refine ⟨g :: gs, ?_, ?_, ?_, hn⟩
              · rw [List.flatMap_cons, ← htext]
                simp [g, Group.text]
              · simpa [g, Group.amount] using ⟨hfits.1, hamounts⟩
              · rw [List.map_cons, List.sum_cons, ← Nat.add_assoc]
                exact hsum
            · cases h
          · intro h
            obtain ⟨groups, htext, hamounts, hsum, hn⟩ := h
            cases groups with
            | nil => simp at htext
            | cons g gs =>
                obtain ⟨hg, hletter, hrest⟩ := eq_of_digits_append_eq hreverse hc htext
                have hunit := unitSeconds?_letter g.unit
                rw [hletter] at hunit
                have hamount : digits? digits.reverse = some g.amount := by
                  rw [← hg]
                  exact digits?_eq_some_iff.2 ⟨g.digits_ne_nil, g.isAsciiDigit_of_mem, rfl⟩
                have hfit : g.amount ≤ maxSigned64 := hamounts g (by simp)
                rw [List.map_cons, List.sum_cons, Group.seconds, ← Nat.add_assoc] at hsum
                have hpart : total + g.amount * g.unit.seconds ≤ maxSigned64 := by omega
                have hothers : ∀ g' ∈ gs, g'.amount ≤ maxSigned64 :=
                  fun g' hg' => hamounts g' (List.mem_cons_of_mem g hg')
                have hread : sumGroups? (total + g.amount * g.unit.seconds) [] cs = some n :=
                  (ih hpart (by simp)).2 ⟨gs, hrest, hothers, hsum, hn⟩
                simp [hunit, hamount, hfit, hpart, hread]

/-- The groups of a whole text. -/
theorem sumGroups?_zero_eq_some_iff {cs : List Char} {n : Nat} :
    sumGroups? 0 [] cs = some n
      ↔ ∃ groups : List Group, cs = groups.flatMap Group.text
        ∧ (∀ g ∈ groups, g.amount ≤ maxSigned64)
        ∧ (groups.map Group.seconds).sum = n ∧ n ≤ maxSigned64 := by
  have hnil : ∀ d ∈ ([] : List Char), isAsciiDigit d = true := by
    intro d hd
    cases hd
  rw [sumGroups?_eq_some_iff (Nat.zero_le maxSigned64) hnil, List.reverse_nil, List.nil_append]
  simp only [Nat.zero_add]

/-! ### Reading the period -/

/-- A period is read if it is a written one that fits, and then as its signed sum. -/
theorem seconds?_eq_some_iff {period : String} {n : Int} :
    seconds? period = some n
      ↔ ∃ w : Written, trimChars period.toList = w.text ∧ w.Fits ∧ w.seconds = n := by
  have hne : ∀ {cs : List Char} {groups : List Group}, cs ≠ [] →
      cs = groups.flatMap Group.text → groups ≠ [] := by
    intro cs groups hcs htext hnil
    exact hcs (by rw [htext, hnil]; rfl)
  constructor
  · intro h
    unfold seconds? at h
    split at h
    · cases h
    · rename_i cs hcs
      split at h
      · cases h
      · rename_i hempty
        obtain ⟨i, hi, rfl⟩ := Option.map_eq_some_iff.1 h
        obtain ⟨k, hk, hcast⟩ := Option.bind_eq_some_iff.1 hi
        obtain ⟨groups, htext, hamounts, hsum, hle⟩ := sumGroups?_zero_eq_some_iff.1 hk
        subst hsum
        have hgroups := hne (by simpa using hempty) htext
        refine ⟨⟨true, groups, hgroups⟩, ?_, ⟨hamounts, hle⟩, ?_⟩
        · rw [hcs, htext]
          rfl
        · rw [← Option.some.inj hcast]
          rfl
    · rename_i hcs _
      obtain ⟨k, hk, rfl⟩ := Option.map_eq_some_iff.1 h
      obtain ⟨groups, htext, hamounts, rfl, hle⟩ := sumGroups?_zero_eq_some_iff.1 hk
      exact ⟨⟨false, groups, hne hcs htext⟩, htext, ⟨hamounts, hle⟩, rfl⟩
  · intro h
    obtain ⟨⟨negative, groups, hgroups⟩, htext, hfits, rfl⟩ := h
    obtain ⟨c, cs, hfirst, hdigit⟩ := exists_digit_of_flatMap_text hgroups
    have hread := sumGroups?_zero_eq_some_iff.2 ⟨groups, hfirst.symm, hfits.1, rfl, hfits.2⟩
    unfold seconds?
    cases negative with
    | true =>
        have hsign : trimChars period.toList = '-' :: c :: cs := by
          rw [htext, ← hfirst]
          rfl
        rw [hsign]
        simp [hread, Written.seconds, Written.total]
    | false =>
        have hplain : trimChars period.toList = c :: cs := by
          rw [htext, ← hfirst]
          rfl
        have hminus : c ≠ '-' := ne_of_isAsciiDigit hdigit (by decide)
        rw [hplain]
        split
        · exact absurd ‹_› (by simp)
        · rename_i heq
          exact absurd (List.cons.inj heq).1 hminus
        · rw [hread]
          rfl

/-- A text writes one period only. -/
theorem total_eq_of_seconds? {period : String} {n : Int} {w : Written}
    (hn : seconds? period = some n) (hw : trimChars period.toList = w.text)
    (hle : w.total ≤ maxSigned64) : w.total = n.natAbs := by
  have hread := seconds?_eq_some_iff.2 ⟨w, hw, Written.fits_of_total_le hle, rfl⟩
  rw [hn] at hread
  rw [Option.some.inj hread, w.natAbs_seconds]

/-- A text that has no blanks at its ends and no sign in front. -/
def IsUnsigned (period : String) : Prop :=
  trimChars period.toList = period.toList ∧ period.toList.head? ≠ some '-'

theorem IsUnsigned.isNegative_eq_false {period : String} {w : Written} (h : IsUnsigned period)
    (hw : trimChars period.toList = w.text) : w.isNegative = false := by
  cases hsign : w.isNegative with
  | false => rfl
  | true =>
      refine absurd ?_ h.2
      rw [← h.1, hw, Written.text, hsign]
      rfl

end Period

/-! ### Moving an instant -/

namespace Instant

theorem addSeconds_eq {t : Instant} (h : t.isLeap = false) (n : Int) :
    t.addSeconds n = ⟨t.seconds + n, t.nanos⟩ := by
  simp [addSeconds, h]

/-- Outside a leap second, shifting adds the seconds of the period and nothing else. -/
theorem shift_eq_ok_iff {t u : Instant} {period : String} (hleap : t.isLeap = false) :
    t.shift period = .ok u
      ↔ ∃ n, Period.seconds? period = some n ∧ n.natAbs ≤ Period.longest
        ∧ u = ⟨t.seconds + n, t.nanos⟩ ∧ u.inRange = true := by
  unfold shift
  cases hn : Period.seconds? period with
  | none => simp
  | some n =>
      simp only [addSeconds?, addSeconds_eq hleap, Option.some.injEq]
      constructor
      · intro h
        split at h
        · cases h
        · by_cases hin : inRange ⟨t.seconds + n, t.nanos⟩ = true
          · rw [if_pos hin] at h
            have hu := (Except.ok.inj h).symm
            exact ⟨n, rfl, by omega, hu, hu ▸ hin⟩
          · rw [if_neg hin] at h
            cases h
      · intro h
        obtain ⟨m, rfl, hle, rfl, hin⟩ := h
        rw [if_neg (by omega), if_pos hin]

/-- Two instants in range are closer to each other than the longest period. -/
theorem natAbs_sub_le_longest {t u : Instant} (ht : t.inRange = true) (hu : u.inRange = true) :
    (u.seconds - t.seconds).natAbs ≤ Period.longest := by
  rw [inRange_iff] at ht hu
  simp only [Period.longest]
  omega

/-- Between instants in range every written period is short enough. -/
theorem shift_eq_ok_of_written {t u : Instant} {period : String} {w : Period.Written}
    (hleap : t.isLeap = false) (ht : t.inRange = true) (hu : u.inRange = true)
    (htext : trimChars period.toList = w.text) (hmoved : u = ⟨t.seconds + w.seconds, t.nanos⟩) :
    t.shift period = .ok u := by
  have hdiff : u.seconds - t.seconds = w.seconds := by
    rw [hmoved, Int.add_comm, Int.add_sub_cancel]
  have hclose := natAbs_sub_le_longest ht hu
  rw [hdiff] at hclose
  have htotal : w.total ≤ maxSigned64 := by
    have hsize := w.natAbs_seconds
    simp only [Period.longest] at hclose
    simp only [maxSigned64]
    omega
  have hread : Period.seconds? period = some w.seconds :=
    Period.seconds?_eq_some_iff.2 ⟨w, htext, Period.Written.fits_of_total_le htotal, rfl⟩
  exact (shift_eq_ok_iff hleap).2 ⟨w.seconds, hread, hclose, hmoved, hu⟩

/-- What a shift that succeeds was asked for. -/
theorem exists_written_of_shift {t u : Instant} {period : String} (hleap : t.isLeap = false)
    (h : t.shift period = .ok u) :
    ∃ w : Period.Written, trimChars period.toList = w.text ∧ w.Fits
      ∧ u = ⟨t.seconds + w.seconds, t.nanos⟩ ∧ u.inRange = true := by
  obtain ⟨n, hn, -, hu, hin⟩ := (shift_eq_ok_iff hleap).1 h
  obtain ⟨w, htext, hfits, rfl⟩ := Period.seconds?_eq_some_iff.1 hn
  exact ⟨w, htext, hfits, hu, hin⟩

/-- **A period moves an instant by what it says.**  Outside leap seconds, and unless the total
fits 64 bits and is longer than any length of time, a shift succeeds for just the written periods
whose amounts and total fit and that leave the instant in range; the seconds of the period are
then added and the fraction stays, and in every other case the period is invalid. So unsigned
periods one after the other in one text move as much as in two steps, and the period with a minus
sign leads back. -/
theorem shift_moves_by_written_period (t : Instant) (hleap : t.isLeap = false)
    (hin : t.inRange = true) :
    (∀ p : String,
      (∀ w : Period.Written, trimChars p.toList = w.text → w.total ≤ maxSigned64 →
        w.total ≤ Period.longest) →
      (∀ u, t.shift p = .ok u
        ↔ ∃ w : Period.Written, trimChars p.toList = w.text ∧ w.Fits
          ∧ u = ⟨t.seconds + w.seconds, t.nanos⟩ ∧ u.inRange = true)
      ∧ ((∀ u, t.shift p ≠ .ok u) → t.shift p = .error .invalid))
    ∧ (∀ p q u v, Period.IsUnsigned p → Period.IsUnsigned q → t.shift p = .ok u →
      u.shift q = .ok v → t.shift (p ++ q) = .ok v)
    ∧ ∀ p u, Period.IsUnsigned p → t.shift p = .ok u → u.shift ("-" ++ p) = .ok t := by
  have hmoved : ∀ n, isLeap ⟨t.seconds + n, t.nanos⟩ = false := fun _ => hleap
  refine ⟨?accepted, ?joined, ?back⟩
  case accepted =>
    intro p hbound
    constructor
    · intro u
      constructor
      · exact exists_written_of_shift hleap
      · intro h
        obtain ⟨w, htext, -, hu, huin⟩ := h
        exact shift_eq_ok_of_written hleap hin huin htext hu
    · intro hfails
      cases hshift : t.shift p with
      | ok u => exact absurd hshift (hfails u)
      | error fault =>
          cases fault with
          | invalid => rfl
          | overflow =>
              obtain ⟨n, hn, hlong, -⟩ := shift_eq_overflow_iff.1 hshift
              obtain ⟨w, htext, hfits, rfl⟩ := Period.seconds?_eq_some_iff.1 hn
              have hle := hbound w htext hfits.2
              rw [Period.Written.natAbs_seconds] at hlong
              omega
  case joined =>
    intro p q u v hp hq hpu hqv
    obtain ⟨w, hwtext, -, rfl, -⟩ := exists_written_of_shift hleap hpu
    obtain ⟨x, hxtext, -, rfl, hvin⟩ := exists_written_of_shift (hmoved w.seconds) hqv
    have hw := hp.isNegative_eq_false hwtext
    have hx := hq.isNegative_eq_false hxtext
    have htext : (p ++ q).toList = (w.followedBy x).text := by
      rw [String.toList_append, ← hp.1, ← hq.1, hwtext, hxtext, Period.Written.text_followedBy hx]
    apply shift_eq_ok_of_written hleap hin hvin (w := w.followedBy x)
    · rw [htext]
      exact (w.followedBy x).trimChars_text
    · rw [Period.Written.seconds_followedBy hw hx, Int.add_assoc]
  case back =>
    intro p u hp hpu
    obtain ⟨w, hwtext, -, rfl, huin⟩ := exists_written_of_shift hleap hpu
    have hw := hp.isNegative_eq_false hwtext
    have htext : ("-" ++ p).toList = w.opposite.text := by
      rw [String.toList_append, ← hp.1, hwtext, Period.Written.text_opposite hw]
      rfl
    apply shift_eq_ok_of_written (hmoved w.seconds) huin hin (w := w.opposite)
    · rw [htext]
      exact w.opposite.trimChars_text
    · rw [Period.Written.seconds_opposite hw, Int.add_neg_cancel_right]

/-- An hour and a half from the last second of 2016 on and back, two days more, and a period with
its sign in the wrong place. -/
theorem shift_moves_from_the_end_of_2016 :
    isLeap ⟨1483228799, 500000000⟩ = false ∧ inRange ⟨1483228799, 500000000⟩ = true
    ∧ (Period.IsUnsigned "1h30m" ∧ Period.IsUnsigned "2d")
    ∧ (∀ w : Period.Written, trimChars " 1h30m ".toList = w.text → w.total ≤ maxSigned64 →
        w.total ≤ Period.longest)
    ∧ (∀ w : Period.Written, trimChars "1h-30m".toList = w.text → w.total ≤ maxSigned64 →
        w.total ≤ Period.longest)
    ∧ shift ⟨1483228799, 500000000⟩ " 1h30m " = .ok ⟨1483234199, 500000000⟩
    ∧ shift ⟨1483228799, 500000000⟩ "1h-30m" = .error .invalid
    ∧ shift ⟨1483228799, 500000000⟩ ("1h30m" ++ "2d") = .ok ⟨1483406999, 500000000⟩
    ∧ shift ⟨1483234199, 500000000⟩ ("-" ++ "1h30m") = .ok ⟨1483228799, 500000000⟩ := by
  have hleap : isLeap ⟨1483228799, 500000000⟩ = false := by decide
  have hin : inRange ⟨1483228799, 500000000⟩ = true := by decide
  have hunsigned : Period.IsUnsigned "1h30m" ∧ Period.IsUnsigned "2d" :=
    ⟨⟨by decide, by decide⟩, ⟨by decide, by decide⟩⟩
  have hread : Period.seconds? " 1h30m " = some 5400 := by decide
  have hshort : ∀ w : Period.Written, trimChars " 1h30m ".toList = w.text →
      w.total ≤ maxSigned64 → w.total ≤ Period.longest := by
    intro w hw hle
    rw [Period.total_eq_of_seconds? hread hw hle]
    decide
  have hwrong : Period.seconds? "1h-30m" = none := by decide
  have hnone : ∀ w : Period.Written, trimChars "1h-30m".toList = w.text →
      w.total ≤ maxSigned64 → w.total ≤ Period.longest := by
    intro w hw hle
    have hfits := Period.seconds?_eq_some_iff.2 ⟨w, hw, Period.Written.fits_of_total_le hle, rfl⟩
    rw [hwrong] at hfits
    cases hfits
  obtain ⟨haccepted, hjoined, hback⟩ := shift_moves_by_written_period _ hleap hin
  obtain ⟨w, hw, hfits, hseconds⟩ := Period.seconds?_eq_some_iff.1 hread
  have hrefused : ∀ u, shift ⟨1483228799, 500000000⟩ "1h-30m" ≠ .ok u := by
    intro u hu
    obtain ⟨w, hw, hfits, -⟩ := ((haccepted _ hnone).1 u).1 hu
    have hread := Period.seconds?_eq_some_iff.2 ⟨w, hw, hfits, rfl⟩
    rw [hwrong] at hread
    cases hread
  exact ⟨hleap, hin, hunsigned, hshort, hnone,
    ((haccepted _ hshort).1 _).2 ⟨w, hw, hfits, by simp [hseconds], by decide⟩,
    (haccepted _ hnone).2 hrefused,
    hjoined _ _ ⟨1483234199, 500000000⟩ _ hunsigned.1 hunsigned.2 (by decide) (by decide),
    hback _ _ hunsigned.1 (by decide)⟩

end Instant

end Slumber
