import Slumber.Proofs.Decimal.Digits
import Slumber.Proofs.Text.Cutting
import Slumber.Proofs.Schedule.Boundaries

/-!
# Times of day in writing

A time of day is written as hours, or hours and minutes, or hours, minutes and seconds, with colons
between the fields. A field is meant to be one or two digits; what is read as a field is that, or a
plus sign and one digit. Nothing else is tolerated, and where no plus sign stands in the text the
times that are read are the ones that are meant.

* `readClockPart?_eq_some_iff` — what is read as a field;
* `readTimeOfDay?_eq_some_iff` — what is read as a time of day;
* `time_of_day_exact` — the main theorem;
* `signed_hour_read` — the plus sign is no part of the intended notation.
-/

namespace Slumber

open Slumber.Text Slumber.Decimal

/-! ### Fields -/

/-- One or two digits. -/
def IsClockField (cs : List Char) (n : Nat) : Prop :=
  1 ≤ cs.length ∧ cs.length ≤ 2 ∧ (∀ c ∈ cs, isAsciiDigit c = true) ∧ digitsValue cs = n

/-- A plus sign and one digit. -/
def IsSignedClockField (cs : List Char) (n : Nat) : Prop :=
  ∃ c, cs = ['+', c] ∧ isAsciiDigit c = true ∧ digitsValue [c] = n

/-- What is read as a field. -/
def IsReadClockField (cs : List Char) (n : Nat) : Prop :=
  IsClockField cs n ∨ IsSignedClockField cs n

theorem IsReadClockField.colon_not_mem {cs : List Char} {n : Nat} (h : IsReadClockField cs n) :
    ':' ∉ cs := by
  intro hmem
  rcases h with h | h
  · exact ne_of_isAsciiDigit (h.2.2.1 _ hmem) (by decide) rfl
  · obtain ⟨c, rfl, hc, -⟩ := h
    have hcolon : ':' = c := by simpa using hmem
    exact ne_of_isAsciiDigit hc (by decide) hcolon.symm

/-- Without a plus sign only digits are read. -/
theorem IsReadClockField.isClockField {cs : List Char} {n : Nat} (h : IsReadClockField cs n)
    (hplus : '+' ∉ cs) : IsClockField cs n := by
  rcases h with h | h
  · exact h
  · obtain ⟨c, rfl, -, -⟩ := h
    exact absurd (List.mem_cons_self ..) hplus

/-- A number is read from at least one digit, and a plus sign may stand in front. -/
theorem readUnsigned_eq_ok_iff {limit n : Nat} {cs : List Char} :
    readUnsigned limit cs = .ok n
      ↔ ∃ ds, (cs = ds ∨ cs = '+' :: ds) ∧ ds ≠ [] ∧ (∀ c ∈ ds, isAsciiDigit c = true)
        ∧ digitsValue ds = n ∧ n ≤ limit := by
  have hsign : isAsciiDigit '+' = false := by decide
  constructor
  · intro h
    unfold readUnsigned at h
    split at h
    · cases h
    · cases h
    · rename_i ds hds
      exact ⟨ds, .inr rfl, by simpa using hds, readDigits_eq_ok_iff.1 h⟩
    · rename_i hnil _ _
      exact ⟨cs, .inl rfl, hnil, readDigits_eq_ok_iff.1 h⟩
  · intro h
    obtain ⟨ds, hcs, hne, hread⟩ := h
    have hok := readDigits_eq_ok_iff.2 hread
    cases ds with
    | nil => exact absurd rfl hne
    | cons d ds =>
        have hd : d ≠ '+' := ne_of_isAsciiDigit (hread.1 d (by simp)) hsign
        rcases hcs with rfl | rfl
        · unfold readUnsigned
          split
          · exact absurd ‹_› (by simp)
          · rename_i heq
            exact absurd (List.cons.inj heq).1 hd
          · rename_i heq
            exact absurd (List.cons.inj heq).1 hd
          · exact hok
        · exact hok

theorem readClockPart?_eq_some_iff {limit n : Nat} {cs : List Char} (hlimit : limit ≤ 255) :
    readClockPart? limit cs = some n ↔ IsReadClockField cs n ∧ n ≤ limit := by
  constructor
  · intro h
    have hle := readClockPart?_le h
    unfold readClockPart? at h
    split at h
    · rename_i hlen
      split at h
      · rename_i m hm
        split at h
        · cases h
          obtain ⟨ds, hcs, hne, hdigits, hvalue, -⟩ := readUnsigned_eq_ok_iff.1 hm
          have hpos : 1 ≤ ds.length := List.length_pos_iff.2 hne
          refine ⟨?_, hle⟩
          rcases hcs with rfl | rfl
          · exact .inl ⟨hpos, hlen, hdigits, hvalue⟩
          · rw [List.length_cons] at hlen
            obtain ⟨c, rfl⟩ := List.length_eq_one_iff.1 (by omega : ds.length = 1)
            exact .inr ⟨c, rfl, hdigits c (by simp), hvalue⟩
        · cases h
      · cases h
    · cases h
  · intro h
    obtain ⟨hfield, hle⟩ := h
    have hlen : cs.length ≤ 2 := by
      rcases hfield with h | h
      · exact h.2.1
      · obtain ⟨c, rfl, -, -⟩ := h
        exact Nat.le_refl 2
    have hread : readUnsigned 255 cs = .ok n := by
      apply readUnsigned_eq_ok_iff.2
      rcases hfield with h | h
      · exact ⟨cs, .inl rfl, List.length_pos_iff.1 h.1, h.2.2.1, h.2.2.2, by omega⟩
      · obtain ⟨c, rfl, hc, hvalue⟩ := h
        exact ⟨[c], .inr rfl, by simp, by simpa using hc, hvalue, by omega⟩
    rw [readClockPart?, if_pos hlen, hread]
    exact if_pos hle

/-! ### The notation -/

/-- The times of day that a text writes in one of the three forms, where `field` says what the
fields look like and which numbers they write. -/
inductive WritesTimeOfDay (field : List Char → Nat → Prop) : List Char → Nat → Prop
  | hours {h : List Char} {a : Nat} : field h a → a ≤ 23 → WritesTimeOfDay field h (a * 3600)
  | minutes {h m : List Char} {a b : Nat} : field h a → a ≤ 23 → field m b → b ≤ 59 →
      WritesTimeOfDay field (h ++ ':' :: m) (a * 3600 + b * 60)
  | seconds {h m s : List Char} {a b c : Nat} : field h a → a ≤ 23 → field m b → b ≤ 59 →
      field s c → c ≤ 59 →
      WritesTimeOfDay field (h ++ ':' :: (m ++ ':' :: s)) (a * 3600 + b * 60 + c)

/-- Fields of another kind will do if they write the same numbers. -/
theorem WritesTimeOfDay.imp {field field' : List Char → Nat → Prop} {text : List Char} {n : Nat}
    (h : WritesTimeOfDay field text n)
    (hfields : ∀ cs k, (∀ x ∈ cs, x ∈ text) → field cs k → field' cs k) :
    WritesTimeOfDay field' text n := by
  cases h with
  | hours hh ha => exact .hours (hfields _ _ (fun _ hx => hx) hh) ha
  | minutes hh ha hm hb =>
      have hh' := hfields _ _ (fun x hx => by simp [hx]) hh
      have hm' := hfields _ _ (fun x hx => by simp [hx]) hm
      exact .minutes hh' ha hm' hb
  | seconds hh ha hm hb hs hc =>
      have hh' := hfields _ _ (fun x hx => by simp [hx]) hh
      have hm' := hfields _ _ (fun x hx => by simp [hx]) hm
      have hs' := hfields _ _ (fun x hx => by simp [hx]) hs
      exact .seconds hh' ha hm' hb hs' hc

/-- The pieces between the colons are read as fields, and their number selects the form. -/
theorem readTimeOfDay?_eq_some_iff {s : String} {n : Nat} :
    readTimeOfDay? s = some n ↔ WritesTimeOfDay IsReadClockField (trimChars s.toList) n := by
  have hhour : ∀ {cs k}, readClockPart? 23 cs = some k ↔ IsReadClockField cs k ∧ k ≤ 23 :=
    readClockPart?_eq_some_iff (by decide)
  have hpart : ∀ {cs k}, readClockPart? 59 cs = some k ↔ IsReadClockField cs k ∧ k ≤ 59 :=
    readClockPart?_eq_some_iff (by decide)
  constructor
  · intro h
    have hjoin := joinWith_splitOn ':' (trimChars s.toList)
    unfold readTimeOfDay? at h
    simp only [Option.bind_eq_bind, Option.pure_def] at h
    split at h
    · rename_i hsplit
      obtain ⟨a, ha, hn⟩ := Option.bind_eq_some_iff.1 h
      rw [← Option.some.inj hn, ← hjoin, hsplit]
      exact .hours (hhour.1 ha).1 (hhour.1 ha).2
    · rename_i hsplit
      obtain ⟨a, ha, h⟩ := Option.bind_eq_some_iff.1 h
      obtain ⟨b, hb, hn⟩ := Option.bind_eq_some_iff.1 h
      rw [← Option.some.inj hn, ← hjoin, hsplit]
      simp only [joinWith, List.append_assoc, List.singleton_append]
      exact .minutes (hhour.1 ha).1 (hhour.1 ha).2 (hpart.1 hb).1 (hpart.1 hb).2
    · rename_i hsplit
      obtain ⟨a, ha, h⟩ := Option.bind_eq_some_iff.1 h
      obtain ⟨b, hb, h⟩ := Option.bind_eq_some_iff.1 h
      obtain ⟨c, hc, hn⟩ := Option.bind_eq_some_iff.1 h
      rw [← Option.some.inj hn, ← hjoin, hsplit]
      simp only [joinWith, List.append_assoc, List.singleton_append]
      exact .seconds (hhour.1 ha).1 (hhour.1 ha).2 (hpart.1 hb).1 (hpart.1 hb).2
        (hpart.1 hc).1 (hpart.1 hc).2
    · cases h
  · intro h
    unfold readTimeOfDay?
    generalize trimChars s.toList = text at h
    cases h with
    | hours hh ha =>
        rw [splitOn_of_not_mem hh.colon_not_mem]
        simp [hhour.2 ⟨hh, ha⟩]
    | minutes hh ha hm hb =>
        rw [splitOn_append_sep hh.colon_not_mem, splitOn_of_not_mem hm.colon_not_mem]
        simp [hhour.2 ⟨hh, ha⟩, hpart.2 ⟨hm, hb⟩]
    | seconds hh ha hm hb hs hc =>
        rw [splitOn_append_sep hh.colon_not_mem, splitOn_append_sep hm.colon_not_mem,
          splitOn_of_not_mem hs.colon_not_mem]
        simp [hhour.2 ⟨hh, ha⟩, hpart.2 ⟨hm, hb⟩, hpart.2 ⟨hs, hc⟩]

theorem mem_of_mem_trimChars {cs : List Char} {c : Char} (h : c ∈ trimChars cs) : c ∈ cs := by
  rw [trimChars, trimRight, List.mem_reverse] at h
  have hright := (List.dropWhile_sublist isBlank).subset h
  exact (List.dropWhile_sublist isBlank).subset (List.mem_reverse.1 hright)

/-- **Times of day are read as they are written.**  A text is read just as the number of seconds
that its fields write, where a field is one or two digits or a plus sign and a digit, and is
refused by its own name in every other case. A text without a plus sign is read just as
`H[:MM[:SS]]` with one or two digits in each field. -/
theorem time_of_day_exact (s : String) :
    (∀ n, readTimeOfDay s = .ok n
      ↔ WritesTimeOfDay IsReadClockField (trimChars s.toList) n)
    ∧ ((∀ n, readTimeOfDay s ≠ .ok n) → readTimeOfDay s = .error (.invalidTimeOfDay s))
    ∧ ('+' ∉ s.toList → ∀ n, readTimeOfDay s = .ok n
      ↔ WritesTimeOfDay IsClockField (trimChars s.toList) n) := by
  have hread : ∀ n, readTimeOfDay s = .ok n
      ↔ WritesTimeOfDay IsReadClockField (trimChars s.toList) n := by
    intro n
    rw [← readTimeOfDay?_eq_some_iff, readTimeOfDay]
    cases readTimeOfDay? s <;> simp
  refine ⟨hread, ?refused, ?plain⟩
  case refused =>
    intro hfails
    unfold readTimeOfDay at hfails ⊢
    cases h : readTimeOfDay? s with
    | none => rfl
    | some n =>
        rw [h] at hfails
        exact absurd rfl (hfails n)
  case plain =>
    intro hplus n
    rw [hread n]
    constructor
    · intro h
      apply h.imp
      intro cs k hcs hfield
      exact hfield.isClockField fun hmem => hplus (mem_of_mem_trimChars (hcs _ hmem))
    · intro h
      exact h.imp fun _ _ _ hfield => .inl hfield

/-- A text with blanks around it, and a field of three digits. -/
theorem time_of_day_exact_evening :
    '+' ∉ " 18:5 ".toList
    ∧ readTimeOfDay " 18:5 " = .ok 65100
    ∧ WritesTimeOfDay IsClockField (trimChars " 18:5 ".toList) 65100
    ∧ (∀ n, readTimeOfDay "018:05" ≠ .ok n)
    ∧ readTimeOfDay "018:05" = .error (.invalidTimeOfDay "018:05") := by
  have hplus : '+' ∉ " 18:5 ".toList := by decide
  have hread : readTimeOfDay " 18:5 " = .ok 65100 := rfl
  have hrefused : ∀ n, readTimeOfDay "018:05" ≠ .ok n := by
    intro n h
    have hnone : readTimeOfDay? "018:05" = none := by decide
    rw [readTimeOfDay, hnone] at h
    cases h
  exact ⟨hplus, hread, ((time_of_day_exact " 18:5 ").2.2 hplus 65100).1 hread, hrefused,
    (time_of_day_exact "018:05").2.1 hrefused⟩

/-- A plus sign and a digit are read as the hour, which the notation does not have. -/
theorem signed_hour_read :
    ¬ ∀ s n, readTimeOfDay s = .ok n ↔ WritesTimeOfDay IsClockField (trimChars s.toList) n := by
  intro h
  have hread : readTimeOfDay "+5" = .ok 18000 := rfl
  have hwritten := (h "+5" 18000).1 hread
  have htext : trimChars "+5".toList = ['+', '5'] := by decide
  rw [htext] at hwritten
  generalize hcs : ['+', '5'] = cs at hwritten
  generalize 18000 = n at hwritten
  cases hwritten with
  | hours hh _ =>
      have hdigit := hh.2.2.1 '+' (by simp [← hcs])
      exact absurd hdigit (by decide)
  | minutes _ _ _ _ =>
      have hcolon : ':' ∈ ['+', '5'] := by simp [hcs]
      exact absurd hcolon (by decide)
  | seconds _ _ _ _ _ _ =>
      have hcolon : ':' ∈ ['+', '5'] := by simp [hcs]
      exact absurd hcolon (by decide)

end Slumber
