import Slumber.Text.Blank
import Slumber.Text.Letters

/-!
# Blanks are no letters

The characters of a class are the code points of its ranges, and the ranges are read from a text.
So a class can be shown to miss some code points by going through its text once. White space is
missed in this way by the letters and by the numbers of all scripts, so no name goes on over a
blank.

* `CodePoints.exists_range` — what a class holds lies in one of its ranges;
* `CodePoints.not_contains_ofText` — a class misses the code points that its text avoids;
* `isAlphanumeric_of_isBlank` — a blank is neither a letter nor a number.
-/

namespace Slumber.Text

namespace CodePoints

/-! ### Looking a character up -/

/-- The search by halving finds nothing but ranges around the code point. -/
theorem exists_range_of_searchFrom {rs : Array (Nat × Nat)} {n fuel lo hi : Nat}
    (h : searchFrom rs n fuel lo hi = true) : ∃ r ∈ rs.toList, r.1 ≤ n ∧ n ≤ r.2 := by
  induction fuel generalizing lo hi with
  | zero => simp [searchFrom] at h
  | succ fuel ih =>
      unfold searchFrom at h
      split at h
      · dsimp only at h
        split at h
        · cases h
        · rename_i a b hr
          split at h
          · exact ih h
          · split at h
            · exact ih h
            · have hmem : (a, b) ∈ rs.toList := Array.mem_toList_iff.2 (Array.mem_of_getElem? hr)
              exact ⟨_, hmem, by omega, by omega⟩
      · cases h

theorem exists_range {p : CodePoints} {c : Char} (h : p.contains c = true) :
    ∃ r ∈ p.ranges.toList, r.1 ≤ c.toNat ∧ c.toNat ≤ r.2 :=
  exists_range_of_searchFrom h

/-! ### Reading the ranges -/

/-- What has been read of a text: the ranges before, the first code point of a range whose dash was
seen, the code point so far, and whether it has a digit. -/
abbrev Reading : Type :=
  List (Nat × Nat) × Option Nat × Nat × Bool

/-- One more character of the text. -/
def readNext : Reading → Char → Reading
  | (done, lo, n, any), c =>
    if c = ' ' ∨ c = '\n' then
      if any then ((lo.getD n, n) :: done, none, 0, false) else (done, none, 0, false)
    else if c = '-' then (done, some n, 0, false)
    else (done, lo, n * 16 + (hexDigit? c).getD 0, true)

theorem ranges_ofText (s : String) : (ofText s).ranges.toList
    = ((s.toList ++ [' ']).foldl readNext ([], none, 0, false)).1.reverse := rfl

/-- Whether no range that is still to be read holds one of these code points. -/
def avoids (ns : List Nat) : List Char → Option Nat → Nat → Bool → Bool
  | [], _, _, _ => true
  | c :: cs, lo, n, any =>
    if c = ' ' ∨ c = '\n' then
      if any then
        if ns.all fun k => decide (k < lo.getD n) || decide (n < k) then avoids ns cs none 0 false
        else false
      else avoids ns cs none 0 false
    else if c = '-' then avoids ns cs (some n) 0 false
    else avoids ns cs lo (n * 16 + (hexDigit? c).getD 0) true

/-- If the ranges before held none of the code points and those to be read avoid them, then none of
all the ranges holds one. -/
theorem not_mem_of_avoids {ns : List Nat} {cs : List Char} {done : List (Nat × Nat)}
    {lo : Option Nat} {n : Nat} {any : Bool} (h : avoids ns cs lo n any = true)
    (hdone : ∀ r ∈ done, ∀ k ∈ ns, ¬ (r.1 ≤ k ∧ k ≤ r.2)) :
    ∀ r ∈ (cs.foldl readNext (done, lo, n, any)).1, ∀ k ∈ ns, ¬ (r.1 ≤ k ∧ k ≤ r.2) := by
  induction cs generalizing done lo n any with
  | nil => exact hdone
  | cons c cs ih =>
      rw [List.foldl_cons]
      by_cases hspace : c = ' ' ∨ c = '\n'
      · cases any with
        | true =>
            simp only [avoids, if_pos hspace, if_true] at h
            split at h <;> rename_i hall
            · rw [readNext, if_pos hspace, if_pos rfl]
              refine ih h fun r hr k hk => ?_
              rcases List.mem_cons.1 hr with rfl | hr
              · have hout := List.all_eq_true.1 hall k hk
                simp only [Bool.or_eq_true, decide_eq_true_eq] at hout
                omega
              · exact hdone r hr k hk
            · cases h
        | false =>
            simp only [avoids, if_pos hspace, Bool.false_eq_true, if_false] at h
            rw [readNext, if_pos hspace, if_neg Bool.false_ne_true]
            exact ih h hdone
      · rw [avoids, if_neg hspace] at h
        rw [readNext, if_neg hspace]
        by_cases hdash : c = '-'
        · rw [if_pos hdash] at h ⊢
          exact ih h hdone
        · rw [if_neg hdash] at h ⊢
          exact ih h hdone

/-- A class holds none of the code points that its text avoids. -/
theorem not_contains_ofText {ns : List Nat} {s : String}
    (h : avoids ns (s.toList ++ [' ']) none 0 false = true) {c : Char} (hc : c.toNat ∈ ns) :
    (ofText s).contains c = false := by
  refine Bool.eq_false_iff.2 fun hcontains => ?_
  obtain ⟨r, hr, hrange⟩ := exists_range hcontains
  rw [ranges_ofText, List.mem_reverse] at hr
  exact not_mem_of_avoids h (fun _ hnil => absurd hnil List.not_mem_nil) r hr _ hc hrange

end CodePoints

/-! ### Blanks -/

/-- The code points above ASCII that are white space. -/
def wideBlanks : List Nat :=
  [0x85, 0xA0, 0x1680, 0x2000, 0x2001, 0x2002, 0x2003, 0x2004, 0x2005, 0x2006, 0x2007, 0x2008,
   0x2009, 0x200A, 0x2028, 0x2029, 0x202F, 0x205F, 0x3000]

theorem not_alphabeticTable {c : Char} (hc : c.toNat ∈ wideBlanks) :
    alphabeticTable.contains c = false := by
  refine CodePoints.not_contains_ofText ?_ hc
  rw [String.toList_ofList]
  decide +kernel

theorem not_numericTable {c : Char} (hc : c.toNat ∈ wideBlanks) :
    numericTable.contains c = false := by
  refine CodePoints.not_contains_ofText ?_ hc
  rw [String.toList_ofList]
  decide +kernel

/-- A blank is either one of those above ASCII, or among the control characters and the space. -/
theorem isBlank_cases {c : Char} (h : isBlank c = true) :
    (128 ≤ c.toNat ∧ c.toNat ∈ wideBlanks) ∨ c.toNat ≤ 32 := by
  simp only [isBlank, Bool.or_eq_true, Bool.and_eq_true, decide_eq_true_eq, beq_iff_eq] at h
  simp only [wideBlanks, List.mem_cons, List.not_mem_nil, or_false]
  omega

/-- **Blanks are no part of names.**  White space is neither a letter nor a number of any script. -/
theorem isAlphanumeric_of_isBlank {c : Char} (h : isBlank c = true) : isAlphanumeric c = false := by
  rw [isAlphanumeric, Bool.or_eq_false_iff]
  rcases isBlank_cases h with ⟨hwide, hmem⟩ | hlow
  · have hnot : ¬ c.toNat < 128 := Nat.not_lt.2 hwide
    rw [isAlphabetic, if_neg hnot, isNumeric, if_neg hnot]
    exact ⟨not_alphabeticTable hmem, not_numericTable hmem⟩
  · have hascii : c.toNat < 128 := by omega
    have hbelow {d : Char} (hd : 32 < d.toNat) : ¬ d ≤ c := fun hle => by
      have hdc : d.toNat ≤ c.toNat := hle
      omega
    rw [isAlphabetic, if_pos hascii, isNumeric, if_pos hascii]
    simp [isAsciiLetter, isAsciiDigit, hbelow (d := 'a') (by decide),
      hbelow (d := 'A') (by decide), hbelow (d := '0') (by decide)]

end Slumber.Text
